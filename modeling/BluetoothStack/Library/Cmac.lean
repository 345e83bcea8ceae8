import Mathlib.Data.List.Basic

namespace BluetoothStack
namespace Cmac

/-!
# AES-CMAC as RFC 4493 specifies it

The message authentication code of RFC 4493 over a block cipher of 128-bit
blocks, given as a function of a key and a block.  Blocks and messages are
byte lists, most significant byte first, as the RFC writes them.

The subkeys are the cipher's image of the zero block shifted left, with
`const_Rb` folded in when a one is shifted out (`subkeys`).  The message is
cut into 16-byte blocks; the last one is taken with `K1` when it is
complete, and padded with `10^i` and taken with `K2` otherwise, the empty
message included.  The blocks are chained through the cipher from the first
(`cmac`).
-/

/-- Bitwise exclusive-OR of two blocks. -/
def xorBlock (a b : List UInt8) : List UInt8 := List.zipWith (· ^^^ ·) a b

/-- The block shifted left by one bit: each byte takes the top bit of the
byte after it, and the last byte takes a zero. -/
def shiftLeft (block : List UInt8) : List UInt8 :=
  List.zipWith (fun (byte next : UInt8) => (byte <<< 1) ||| (next >>> 7)) block (block.tail ++ [0])

/-- The most significant bit of a block. -/
def msb (block : List UInt8) : Bool := block.headD 0 &&& 0x80 != 0

/-- `const_Zero`. -/
def zeroBlock : List UInt8 := List.replicate 16 0

/-- `const_Rb`. -/
def constRb : List UInt8 := List.replicate 15 0 ++ [0x87]

section Cipher

-- the block cipher: a key and a block to the encrypted block
variable (encrypt : List UInt8 → List UInt8 → List UInt8)

/-- One subkey from the one before it: `L << 1`, with `const_Rb` when the
most significant bit of `L` is set. -/
def nextSubkey (previous : List UInt8) : List UInt8 :=
  if msb previous then xorBlock (shiftLeft previous) constRb else shiftLeft previous

/-- Generate_Subkey: `K1` from `L = AES-128(K, const_Zero)`, `K2` from `K1`. -/
def subkeys (key : List UInt8) : List UInt8 × List UInt8 :=
  let k1 := nextSubkey (encrypt key zeroBlock)
  (k1, nextSubkey k1)

/-- padding(x): the bytes of an incomplete block, then one bit and zeros. -/
def padding (bytes : List UInt8) : List UInt8 := bytes ++ [0x80] ++ List.replicate (15 - bytes.length) 0

/-- The number of blocks: one for the empty message. -/
def blockCount (length : Nat) : Nat := if length = 0 then 1 else (length + 15) / 16

/-- The 16-byte blocks of a message whose length is a multiple of 16. -/
def blocks (message : List UInt8) : List (List UInt8) :=
  (List.range (message.length / 16)).map fun i => (message.drop (16 * i)).take 16

/-- AES-CMAC: the blocks before the last chained through the cipher, then
the last one, with `K1` when it is complete and padded with `K2`
otherwise. -/
def cmac (key message : List UInt8) : List UInt8 :=
  let n := blockCount message.length
  let complete := message.length ≠ 0 ∧ message.length % 16 = 0
  let last := message.drop (16 * (n - 1))
  let lastBlock :=
    if complete then xorBlock last (subkeys encrypt key).1 else xorBlock (padding last) (subkeys encrypt key).2
  let chained := (blocks (message.take (16 * (n - 1)))).foldl (fun x block => encrypt key (xorBlock x block)) zeroBlock
  encrypt key (xorBlock lastBlock chained)

end Cipher

/-! ## Sizes -/

@[simp]
theorem length_xorBlock (a b : List UInt8) : (xorBlock a b).length = min a.length b.length := by
  simp [xorBlock]

@[simp]
theorem length_shiftLeft (block : List UInt8) : (shiftLeft block).length = block.length := by
  cases block with
  | nil => rfl
  | cons byte rest => simp [shiftLeft]

theorem shiftLeft_eq_zipWith (block : List UInt8) :
    shiftLeft block =
      List.zipWith (fun (byte next : UInt8) => (byte <<< 1) ||| (next >>> 7)) block (block.tail ++ [0]) := rfl

-- byte k of the shifted block: its own bits moved up, and the top bit of byte k + 1
theorem getElem_shiftLeft (block : List UInt8) (k : Nat) (h : k < block.length) :
    getElem (shiftLeft block) k (by simpa using h) =
      (block[k] <<< 1) ||| ((if inside : k + 1 < block.length then block[k + 1] else 0) >>> 7) := by
  rw [List.getElem_of_eq (shiftLeft_eq_zipWith block), List.getElem_zipWith]
  congr 2
  split_ifs with inside
  · rw [List.getElem_append_left (by simp; omega)]
    simp
  · rw [List.getElem_append_right (by simp; omega)]
    simp

theorem length_nextSubkey {previous : List UInt8} (sized : previous.length = 16) :
    (nextSubkey previous).length = 16 := by
  unfold nextSubkey
  split_ifs <;> simp [sized, constRb]

theorem length_padding {bytes : List UInt8} (short : bytes.length < 16) : (padding bytes).length = 16 := by
  simp only [padding, List.length_append, List.length_singleton, List.length_replicate]
  omega

theorem blockCount_pos (length : Nat) : 0 < blockCount length := by
  unfold blockCount
  split_ifs <;> omega

-- every block but the last is complete, and the last holds at least one byte
-- unless the message is empty
theorem blockCount_bounds (length : Nat) :
    16 * (blockCount length - 1) ≤ length ∧ length ≤ 16 * blockCount length ∧
      (length ≠ 0 → 16 * (blockCount length - 1) < length) := by
  unfold blockCount
  split_ifs <;> omega

theorem xorBlock_comm (a b : List UInt8) : xorBlock a b = xorBlock b a := by
  unfold xorBlock
  rw [List.zipWith_comm]
  congr
  funext x y
  exact UInt8.xor_comm y x

-- the last block of cmac, complete or padded, is a whole block
theorem length_lastBlock (message : List UInt8) {k1 k2 : List UInt8} (k1Sized : k1.length = 16)
    (k2Sized : k2.length = 16) :
    (if message.length ≠ 0 ∧ message.length % 16 = 0 then xorBlock (message.drop (16 * (blockCount message.length - 1))) k1
      else xorBlock (padding (message.drop (16 * (blockCount message.length - 1)))) k2).length = 16 := by
  obtain ⟨front, whole, lastHolds⟩ := blockCount_bounds message.length
  split_ifs with complete
  · simp only [length_xorBlock, List.length_drop, k1Sized]
    omega
  · have short : (message.drop (16 * (blockCount message.length - 1))).length < 16 := by
      simp only [List.length_drop]
      omega
    simp [length_padding short, k2Sized]

theorem length_cmac {encrypt : List UInt8 → List UInt8 → List UInt8}
    (blockSized : ∀ key message, (encrypt key message).length = 16) (key message : List UInt8) :
    (cmac encrypt key message).length = 16 :=
  blockSized _ _

theorem length_foldl_encrypt {encrypt : List UInt8 → List UInt8 → List UInt8}
    (blockSized : ∀ key message, (encrypt key message).length = 16) (key : List UInt8) (blocks : List (List UInt8))
    {x : List UInt8} (sized : x.length = 16) :
    (blocks.foldl (fun x block => encrypt key (xorBlock x block)) x).length = 16 := by
  induction blocks generalizing x with
  | nil => exact sized
  | cons block blocks ih => exact ih (blockSized _ _)

end Cmac
end BluetoothStack
