import BluetoothStack.Library.Cmac

namespace BluetoothStack
namespace Crypto

open Cmac

/-!
# AES-128 and AES-CMAC of the crypto toolbox

`aes_cmac.cc` keeps every block least significant byte first, the order in
which the stack stores keys and numbers.  `aes_128` reverses the key and the
block for AES-128 of `aes.cc` and reverses the result back.  `aes_cmac`
copies the message into a buffer of whole blocks, right-aligned, so that the
last block of the message, with the bytes before the message that `alloca`
hands out, is block 0.  `cmac_prepare_last_block` pads that block from the
top and folds in a subkey, and `cmac_aes_k_calculate` chains the blocks from
the highest index down.

AES itself (`aesEncrypt`) is a parameter: a key and a block, both most
significant byte first, to the encrypted block.  Under it, `aes_cmac` is
the CMAC of RFC 4493 of the reversed key and message, reversed
(`aesCmac_eq_cmac`), whatever the bytes before the message were.
-/

section Cipher

variable (aesEncrypt : List UInt8 → List UInt8 → List UInt8)

/-- `aes_128`: AES-128 of the byte-reversed key and message, reversed back. -/
def aes128 (key message : List UInt8) : List UInt8 := (aesEncrypt key.reverse message.reverse).reverse

end Cipher

/-- `xor_128`: `a` XOR `b`, stored into `a`. -/
def xor128 (a b : List UInt8) : List UInt8 := List.zipWith (· ^^^ ·) a b

/-- `padding` of the last block, which holds `length` message bytes at its
top: the byte below them becomes `0x80` and every byte below that zero. -/
def padding (dest : List UInt8) (length : Nat) : List UInt8 :=
  (List.range 16).map fun j => if j + length = 15 then 0x80 else if j + length < 15 then 0 else dest.getD j 0

/-- `leftshift_onebit`, from the least significant byte up, each byte taking
the bit shifted out of the one before. -/
def leftshiftOnebit : List UInt8 → UInt8 → List UInt8
  | [], _ => []
  | byte :: bytes, overflow =>
    ((byte <<< 1) ||| overflow) :: leftshiftOnebit bytes (if byte &&& 0x80 != 0 then 1 else 0)

/-- `const_Rb`, least significant byte first. -/
def constRb : List UInt8 := 0x87 :: List.replicate 15 0

/-- A subkey of `cmac_generate_subkey` from the one before: shifted left,
with `const_Rb` when the top bit of the top byte was set. -/
def nextSubkey (previous : List UInt8) : List UInt8 :=
  if previous.getD 15 0 &&& 0x80 != 0 then xor128 (leftshiftOnebit previous 0) constRb
  else leftshiftOnebit previous 0

/-- `cmac_prepare_last_block` on the buffer of the message of `len` bytes:
block 0 with `k1` when it is complete, padded with `k2` otherwise. -/
def cmacPrepareLastBlock (text : List UInt8) (len : Nat) (k1 k2 : List UInt8) : List UInt8 :=
  let block := text.take 16
  (if len % 16 = 0 ∧ len ≠ 0 then xor128 block k1 else xor128 (padding block (len % 16)) k2) ++ text.drop 16

/-- Block `i` of the buffer. -/
def textBlock (text : List UInt8) (i : Nat) : List UInt8 := (text.drop (16 * i)).take 16

section Cipher

variable (aesEncrypt : List UInt8 → List UInt8 → List UInt8)

/-- `cmac_generate_subkey`: `k1` from `aes_128(key, 0)`, `k2` from `k1`. -/
def cmacGenerateSubkey (key : List UInt8) : List UInt8 × List UInt8 :=
  let k1 := nextSubkey (aes128 aesEncrypt key (List.replicate 16 0))
  (k1, nextSubkey k1)

/-- `cmac_aes_k_calculate`: the `round` blocks from the highest index down,
each XORed with the output before and encrypted. -/
def cmacAesKCalculate (key text : List UInt8) (round : Nat) : List UInt8 :=
  (List.range round).foldl (fun x i => aes128 aesEncrypt key (xor128 (textBlock text (round - 1 - i)) x))
    (List.replicate 16 0)

/-- `aes_cmac` of the bytes `input`: `round` blocks, the message right-aligned
behind `diff` bytes of whatever the stack held (`stale`). -/
def aesCmac (key input : List UInt8) (stale : Nat → UInt8) : List UInt8 :=
  let n := if (input.length + 15) / 16 = 0 then 1 else (input.length + 15) / 16
  let diff := n * 16 - input.length
  let text := (List.range diff).map stale ++ input
  let len := if input.length > 0 then input.length else 0
  let subkeys := cmacGenerateSubkey aesEncrypt key
  cmacAesKCalculate aesEncrypt key (cmacPrepareLastBlock text len subkeys.1 subkeys.2) n

end Cipher

/-! ## The byte operations under reversal -/

@[simp]
theorem length_leftshiftOnebit (bytes : List UInt8) (overflow : UInt8) :
    (leftshiftOnebit bytes overflow).length = bytes.length := by
  induction bytes generalizing overflow with
  | nil => rfl
  | cons byte bytes ih => simp [leftshiftOnebit, ih]

theorem carry_eq_shiftRight (byte : UInt8) : (if byte &&& 0x80 != 0 then (1 : UInt8) else 0) = byte >>> 7 := by
  have all : ∀ n : Fin 256, (if UInt8.ofNat n &&& 0x80 != 0 then (1 : UInt8) else 0) = UInt8.ofNat n >>> 7 := by
    decide +kernel
  simpa using all ⟨byte.toNat, UInt8.toNat_lt byte⟩

theorem getElem_leftshiftOnebit (bytes : List UInt8) (overflow : UInt8) (i : Nat) (h : i < bytes.length) :
    getElem (leftshiftOnebit bytes overflow) i (by simpa using h) = (bytes[i] <<< 1) ||| (if i = 0 then overflow else bytes[i - 1] >>> 7) := by
  induction bytes generalizing overflow i with
  | nil => simp at h
  | cons byte bytes ih =>
    cases i with
    | zero => simp [leftshiftOnebit]
    | succ i =>
      simp only [leftshiftOnebit, List.getElem_cons_succ]
      rw [ih _ i (by simpa using h), carry_eq_shiftRight]
      cases i <;> simp

theorem leftshiftOnebit_zero (bytes : List UInt8) : leftshiftOnebit bytes 0 = (shiftLeft bytes.reverse).reverse := by
  apply List.ext_getElem (by simp)
  intro i inCode inSpec
  have inBytes : i < bytes.length := by simpa using inCode
  rw [getElem_leftshiftOnebit bytes 0 i inBytes, List.getElem_reverse, getElem_shiftLeft _ _ (by simp; omega)]
  simp only [List.getElem_reverse, List.length_reverse, length_shiftLeft]
  have back : bytes.length - 1 - (bytes.length - 1 - i) = i := by omega
  simp only [back]
  by_cases first : i = 0
  · subst first
    rw [dif_neg (by omega)]
    simp
  · have below : bytes.length - 1 - (bytes.length - 1 - i + 1) = i - 1 := by omega
    rw [if_neg first, dif_pos (by omega)]
    simp only [below]

@[simp]
theorem length_xor128 (a b : List UInt8) : (xor128 a b).length = min a.length b.length := by
  simp [xor128]

theorem xor128_reverse {a b : List UInt8} (same : a.length = b.length) :
    xor128 a.reverse b.reverse = (xorBlock a b).reverse :=
  (List.reverse_zipWith same).symm

theorem constRb_eq_reverse : constRb = Cmac.constRb.reverse := by decide

theorem getD_reverse_top {block : List UInt8} (sized : block.length = 16) : block.reverse.getD 15 0 = block.headD 0 := by
  cases block with
  | nil => simp at sized
  | cons top rest =>
    have below : rest.reverse.length = 15 := by simpa using sized
    simp [List.getD_eq_getElem?_getD, below]

theorem nextSubkey_reverse {previous : List UInt8} (sized : previous.length = 16) :
    nextSubkey previous.reverse = (Cmac.nextSubkey previous).reverse := by
  have shifted : leftshiftOnebit previous.reverse 0 = (shiftLeft previous).reverse := by
    rw [leftshiftOnebit_zero, List.reverse_reverse]
  unfold nextSubkey Cmac.nextSubkey Cmac.msb
  rw [getD_reverse_top sized, shifted]
  split_ifs
  · rw [constRb_eq_reverse, xor128_reverse (by simp [sized, Cmac.constRb])]
  · rfl

theorem padding_reverse {pre last : List UInt8} (whole : pre.length + last.length = 16) (short : last.length < 16) :
    padding (pre ++ last.reverse) last.length = (Cmac.padding last).reverse := by
  apply List.ext_getElem (by simp [padding, Cmac.length_padding short])
  intro j inCode inSpec
  have top : j < 16 := by simpa [padding] using inCode
  have index : (Cmac.padding last).length - 1 - j = 15 - j := by simp [Cmac.length_padding short]
  rw [List.getElem_reverse]
  simp only [index]
  simp only [padding, List.getElem_map, List.getElem_range, Cmac.padding, List.getElem_append, List.getD_eq_getElem?_getD]
  by_cases marker : j + last.length = 15
  · rw [if_pos marker, dif_pos (by simp; omega), dif_neg (by omega)]
    simp [show 15 - j - last.length = 0 by omega]
  · rw [if_neg marker]
    by_cases zeros : j + last.length < 15
    · rw [if_pos zeros, dif_neg (by simp; omega)]
      simp
    · have inLast : j - pre.length < last.length := by omega
      have back : last.length - 1 - (j - pre.length) = 15 - j := by omega
      rw [if_neg zeros, dif_pos (by simp; omega), dif_pos (by omega), List.getElem?_append_right (by omega),
        List.getElem?_reverse inLast, back, List.getElem?_eq_getElem (by omega), Option.getD_some]

/-! ## The buffer of aes_cmac -/

theorem window_reverse (bytes : List UInt8) (start : Nat) (fits : start + 16 ≤ bytes.length) :
    (bytes.reverse.drop (bytes.length - start - 16)).take 16 = ((bytes.drop start).take 16).reverse := by
  rw [List.drop_reverse, List.take_reverse, List.drop_take]
  simp only [List.length_take]
  have front : min (bytes.length - (bytes.length - start - 16)) bytes.length - 16 = start := by omega
  have count : bytes.length - (bytes.length - start - 16) - start = 16 := by omega
  rw [front, count]

theorem textBlock_overwrite_zero {block : List UInt8} (text : List UInt8) (sized : block.length = 16) :
    textBlock (block ++ text.drop 16) 0 = block := by
  simp [textBlock, sized]

theorem textBlock_overwrite_of_pos {block : List UInt8} (text : List UInt8) (sized : block.length = 16) {i : Nat}
    (pos : 0 < i) : textBlock (block ++ text.drop 16) i = textBlock text i := by
  have past : 16 * i = block.length + (16 * i - 16) := by omega
  unfold textBlock
  rw [past, List.drop_length_add_append, List.drop_drop]
  congr 2
  omega

theorem textBlock_prepared_of_pos {text : List UInt8} (len : Nat) {k1 k2 : List UInt8} (long : 16 ≤ text.length)
    (k1Sized : k1.length = 16) (k2Sized : k2.length = 16) {i : Nat} (pos : 0 < i) :
    textBlock (cmacPrepareLastBlock text len k1 k2) i = textBlock text i := by
  unfold cmacPrepareLastBlock
  apply textBlock_overwrite_of_pos _ _ pos
  split_ifs
  · simp only [length_xor128, List.length_take, k1Sized]
    omega
  · simp [padding, k2Sized]

-- block k ≥ 1 of the buffer is, reversed, block n - 1 - k of the reversed message
theorem textBlock_buffer {pre input : List UInt8} (fill : pre.length = blockCount input.length * 16 - input.length)
    {i : Nat} (inFront : i < blockCount input.length - 1) :
    textBlock (pre ++ input) (blockCount input.length - 1 - i) =
      (((input.reverse.take (16 * (blockCount input.length - 1))).drop (16 * i)).take 16).reverse := by
  obtain ⟨front, _, _⟩ := blockCount_bounds input.length
  have past : 16 * (blockCount input.length - 1 - i) = pre.length + (input.length - 16 * i - 16) := by omega
  have window := window_reverse input.reverse (16 * i) (by simp; omega)
  rw [List.reverse_reverse, List.length_reverse] at window
  rw [textBlock, past, List.drop_length_add_append, window, List.drop_take, List.take_take]
  congr 2
  omega

theorem take_buffer {pre input : List UInt8} (fill : pre.length = blockCount input.length * 16 - input.length) :
    (pre ++ input).take 16 = pre ++ (input.reverse.drop (16 * (blockCount input.length - 1))).reverse := by
  obtain ⟨front, whole, _⟩ := blockCount_bounds input.length
  have top := @List.take_reverse _ input.reverse (16 - pre.length)
  rw [List.reverse_reverse, List.length_reverse] at top
  have start : input.length - (16 - pre.length) = 16 * (blockCount input.length - 1) := by omega
  rw [List.take_append, List.take_of_length_le (by omega), top, start]

/-! ## Under a block cipher -/

section Cipher

variable {aesEncrypt : List UInt8 → List UInt8 → List UInt8}

theorem aes128_xor_reverse (key : List UInt8) {a b : List UInt8} (same : a.length = b.length) :
    aes128 aesEncrypt key (xor128 a.reverse b.reverse) = (aesEncrypt key.reverse (xorBlock a b)).reverse := by
  unfold aes128
  rw [xor128_reverse same, List.reverse_reverse]

-- AES maps every key and block to a block
variable (blockSized : ∀ key message, (aesEncrypt key message).length = 16)

include blockSized

theorem cmacGenerateSubkey_eq_reverse (key : List UInt8) :
    cmacGenerateSubkey aesEncrypt key =
      ((Cmac.subkeys aesEncrypt key.reverse).1.reverse, (Cmac.subkeys aesEncrypt key.reverse).2.reverse) := by
  have zeros : (List.replicate 16 (0 : UInt8)).reverse = Cmac.zeroBlock := List.reverse_replicate
  have sized := blockSized key.reverse Cmac.zeroBlock
  simp only [cmacGenerateSubkey, aes128, Cmac.subkeys, zeros, nextSubkey_reverse sized,
    nextSubkey_reverse (Cmac.length_nextSubkey sized)]

-- the CBC chain of cmac_aes_k_calculate over the blocks stored reversed
theorem foldl_chain_reverse {ι : Type} (key : List UInt8) (indices : List ι) {codeBlock specBlock : ι → List UInt8}
    (same : ∀ i ∈ indices, codeBlock i = (specBlock i).reverse) (sized : ∀ i ∈ indices, (specBlock i).length = 16)
    (x : List UInt8) (hx : x.length = 16) :
    indices.foldl (fun acc i => aes128 aesEncrypt key (xor128 (codeBlock i) acc)) x.reverse =
      (indices.foldl (fun acc i => aesEncrypt key.reverse (xorBlock acc (specBlock i))) x).reverse := by
  induction indices generalizing x with
  | nil => rfl
  | cons i rest ih =>
    have step : aes128 aesEncrypt key (xor128 (codeBlock i) x.reverse) =
        (aesEncrypt key.reverse (xorBlock x (specBlock i))).reverse := by
      rw [same i (by simp), aes128_xor_reverse key (by rw [sized i (by simp), hx]), Cmac.xorBlock_comm]
    simp only [List.foldl_cons, step]
    exact ih (fun j mem => same j (by simp [mem])) (fun j mem => sized j (by simp [mem])) _ (blockSized _ _)

-- block 0 after cmac_prepare_last_block is the last block of RFC 4493, reversed
theorem textBlock_prepared_zero (key : List UInt8) {pre input : List UInt8} (fill : pre.length = blockCount input.length * 16 - input.length) :
    textBlock (cmacPrepareLastBlock (pre ++ input) input.length (cmacGenerateSubkey aesEncrypt key).1
        (cmacGenerateSubkey aesEncrypt key).2) 0 =
      (if input.length ≠ 0 ∧ input.length % 16 = 0 then
          xorBlock (input.reverse.drop (16 * (blockCount input.length - 1))) (Cmac.subkeys aesEncrypt key.reverse).1
        else xorBlock (Cmac.padding (input.reverse.drop (16 * (blockCount input.length - 1))))
          (Cmac.subkeys aesEncrypt key.reverse).2).reverse := by
  obtain ⟨front, whole, lastHolds⟩ := blockCount_bounds input.length
  have counted := blockCount_pos input.length
  have k1Sized := Cmac.length_nextSubkey (blockSized key.reverse Cmac.zeroBlock)
  have k2Sized := Cmac.length_nextSubkey k1Sized
  have lastSized : (input.reverse.drop (16 * (blockCount input.length - 1))).length = input.length - 16 * (blockCount input.length - 1) := by simp
  rw [cmacGenerateSubkey_eq_reverse blockSized, cmacPrepareLastBlock]
  dsimp only
  rw [take_buffer fill]
  by_cases complete : input.length ≠ 0 ∧ input.length % 16 = 0
  · have empty : pre = [] := by
      apply List.eq_nil_of_length_eq_zero
      omega
    have same : (input.reverse.drop (16 * (blockCount input.length - 1))).length =
        (Cmac.subkeys aesEncrypt key.reverse).1.length := by
      rw [lastSized]
      simp only [Cmac.subkeys] at k1Sized ⊢
      omega
    rw [if_pos ⟨complete.2, complete.1⟩, if_pos complete, empty, List.nil_append, xor128_reverse same,
      textBlock_overwrite_zero _ (by simp [same, Cmac.subkeys, k1Sized])]
  · have remaining : input.length % 16 = (input.reverse.drop (16 * (blockCount input.length - 1))).length := by
      rw [lastSized]
      omega
    have short : (input.reverse.drop (16 * (blockCount input.length - 1))).length < 16 := by omega
    have padded := Cmac.length_padding short
    have fills : pre.length + (input.reverse.drop (16 * (blockCount input.length - 1))).length = 16 := by
      rw [lastSized, fill]
      omega
    have same : (Cmac.padding (input.reverse.drop (16 * (blockCount input.length - 1)))).length =
        (Cmac.subkeys aesEncrypt key.reverse).2.length := by
      rw [padded]
      simp only [Cmac.subkeys] at k2Sized ⊢
      omega
    rw [if_neg (fun h => complete ⟨h.2, h.1⟩), if_neg complete, remaining, padding_reverse fills short,
      xor128_reverse same,
      textBlock_overwrite_zero _ (by simp [padded, Cmac.subkeys, k2Sized])]

-- the blocks before the last, chained by cmac_aes_k_calculate from the top of the buffer down
theorem chain_prepared (key : List UInt8) {pre input : List UInt8} (fill : pre.length = blockCount input.length * 16 - input.length) :
    (List.range (blockCount input.length - 1)).foldl
        (fun x i => aes128 aesEncrypt key
          (xor128 (textBlock (cmacPrepareLastBlock (pre ++ input) input.length (cmacGenerateSubkey aesEncrypt key).1
            (cmacGenerateSubkey aesEncrypt key).2) (blockCount input.length - 1 - i)) x))
        (List.replicate 16 0) =
      ((Cmac.blocks (input.reverse.take (16 * (blockCount input.length - 1)))).foldl
        (fun x block => aesEncrypt key.reverse (xorBlock x block)) Cmac.zeroBlock).reverse := by
  obtain ⟨front, whole, _⟩ := blockCount_bounds input.length
  have counted := blockCount_pos input.length
  have k1Sized := Cmac.length_nextSubkey (blockSized key.reverse Cmac.zeroBlock)
  have k2Sized := Cmac.length_nextSubkey k1Sized
  have frontCount : (input.reverse.take (16 * (blockCount input.length - 1))).length / 16 = blockCount input.length - 1 := by
    simp only [List.length_take, List.length_reverse]
    omega
  have zeros : List.replicate 16 (0 : UInt8) = Cmac.zeroBlock.reverse := List.reverse_replicate.symm
  rw [Cmac.blocks, frontCount, List.foldl_map, zeros]
  refine foldl_chain_reverse blockSized key _ ?_ ?_ _ rfl
  · intro i inFront
    rw [List.mem_range] at inFront
    rw [textBlock_prepared_of_pos _ (by simp; omega) (by simp [cmacGenerateSubkey_eq_reverse blockSized, Cmac.subkeys, k1Sized])
      (by simp [cmacGenerateSubkey_eq_reverse blockSized, Cmac.subkeys, k2Sized]) (by omega), textBlock_buffer fill inFront]
  · intro i inFront
    rw [List.mem_range] at inFront
    simp only [List.length_take, List.length_drop, List.length_reverse]
    omega

theorem aesCmac_eq_cmac (key input : List UInt8) (stale : Nat → UInt8) :
    aesCmac aesEncrypt key input stale = (Cmac.cmac aesEncrypt key.reverse input.reverse).reverse := by
  have rounds : (if (input.length + 15) / 16 = 0 then 1 else (input.length + 15) / 16) = blockCount input.length := by
    unfold blockCount
    split_ifs <;> omega
  have len : (if input.length > 0 then input.length else 0) = input.length := by
    split_ifs <;> omega
  have fill : ((List.range (blockCount input.length * 16 - input.length)).map stale).length =
      blockCount input.length * 16 - input.length := by simp
  have counted := blockCount_pos input.length
  have split : List.range (blockCount input.length) =
      List.range (blockCount input.length - 1) ++ [blockCount input.length - 1] := by
    rw [← List.range_succ]
    congr
    omega
  unfold aesCmac cmacAesKCalculate Cmac.cmac
  simp only [rounds, len, List.length_reverse]
  rw [split, List.foldl_append, chain_prepared blockSized key fill, List.foldl_cons, List.foldl_nil, Nat.sub_self,
    textBlock_prepared_zero blockSized key fill]
  have k1Sized := Cmac.length_nextSubkey (blockSized key.reverse Cmac.zeroBlock)
  have lastSized := Cmac.length_lastBlock input.reverse k1Sized (Cmac.length_nextSubkey k1Sized)
  rw [List.length_reverse] at lastSized
  have chainSized := Cmac.length_foldl_encrypt blockSized key.reverse
    (Cmac.blocks (input.reverse.take (16 * (blockCount input.length - 1)))) (x := Cmac.zeroBlock) rfl
  exact aes128_xor_reverse key (lastSized.trans chainSized.symm)

end Cipher

/-- A cipher to evaluate the model with: the key XORed into the block. -/
def keyXorCipher (key block : List UInt8) : List UInt8 := (xorBlock key block ++ zeroBlock).take 16

theorem keyXorCipher_sized (key block : List UInt8) : (keyXorCipher key block).length = 16 := by
  simp [keyXorCipher, zeroBlock]

theorem aesCmac_eq_cmac_keyXor :
    (∀ key block, (keyXorCipher key block).length = 16) ∧
      aesCmac keyXorCipher (List.replicate 16 0x2b) [0x6b, 0xc1, 0xbe] (fun _ => 0xAA) =
        (Cmac.cmac keyXorCipher (List.replicate 16 0x2b).reverse [0x6b, 0xc1, 0xbe].reverse).reverse :=
  ⟨keyXorCipher_sized, aesCmac_eq_cmac keyXorCipher_sized _ _ _⟩

end Crypto
end BluetoothStack
