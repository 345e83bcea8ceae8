import Mathlib.Tactic.Ring
import BluetoothStack.Crypto.AesCmac
import BluetoothStack.Library.ByteStream

namespace BluetoothStack
namespace Crypto

open ByteStream

/-!
# The key derivation functions of the crypto toolbox

The Core specification (Vol 3, Part H, 2.2) writes its functions most
significant octet first, over AES-128 and the CMAC of RFC 4493 (`Spec`).
`crypto_toolbox.cc` stores every value least significant octet first, so it
builds each message with the specification's fields in the reverse order,
each of them reversed, and calls `aes_cmac`.  Every function of the toolbox
is the reversal of its specification on the reversed inputs, with one
exception: `s1` copies `r1` into the low half of the plaintext, where the
specification puts `r2'`, so that it computes the specification's `s1` with
`r1` and `r2` exchanged (`s1_eq_spec`).  Its one caller, legacy pairing,
passes Mrand before Srand and so gets the specification's
`STK = s1(TK, Srand, Mrand)`.
-/

namespace Spec

section Functions

-- AES-128 of a key and a block, most significant octet first
variable (e : List UInt8 → List UInt8 → List UInt8)

/-- `f4(U, V, X, Z) = AES-CMAC_X(U || V || Z)`. -/
def f4 (u v x : List UInt8) (z : UInt8) : List UInt8 := Cmac.cmac e x (u ++ v ++ [z])

/-- `SALT` of `f5`. -/
def f5Salt : List UInt8 :=
  [0x6C, 0x88, 0x83, 0x91, 0xAA, 0xF5, 0xA5, 0x38, 0x60, 0x37, 0x0B, 0xDB, 0x5A, 0x60, 0x83, 0xBE]

/-- `keyID` of `f5`, "btle". -/
def btle : List UInt8 := [0x62, 0x74, 0x6C, 0x65]

/-- One key of `f5`: `AES-CMAC_T(Counter || keyID || N1 || N2 || A1 || A2 || Length)`
with `T = AES-CMAC_SALT(W)` and `Length = 256`. -/
def f5Key (w n1 n2 a1 a2 : List UInt8) (counter : UInt8) : List UInt8 :=
  Cmac.cmac e (Cmac.cmac e f5Salt w) ([counter] ++ btle ++ n1 ++ n2 ++ a1 ++ a2 ++ [0x01, 0x00])

/-- `f5(W, N1, N2, A1, A2)`: the MacKey (counter 0) and the LTK (counter 1). -/
def f5 (w n1 n2 a1 a2 : List UInt8) : List UInt8 × List UInt8 :=
  (f5Key e w n1 n2 a1 a2 0, f5Key e w n1 n2 a1 a2 1)

/-- `f6(W, N1, N2, R, IOcap, A1, A2) = AES-CMAC_W(N1 || N2 || R || IOcap || A1 || A2)`. -/
def f6 (w n1 n2 r ioCap a1 a2 : List UInt8) : List UInt8 := Cmac.cmac e w (n1 ++ n2 ++ r ++ ioCap ++ a1 ++ a2)

/-- `g2(U, V, X, Y) = AES-CMAC_X(U || V || Y) mod 2^32`, shown as its value mod `10^6`. -/
def g2 (u v x y : List UInt8) : Nat := beValue (Cmac.cmac e x (u ++ v ++ y)) % 2 ^ 32 % 1000000

/-- `h6(W, keyID) = AES-CMAC_W(keyID)`. -/
def h6 (w keyId : List UInt8) : List UInt8 := Cmac.cmac e w keyId

/-- `h7(SALT, W) = AES-CMAC_SALT(W)`. -/
def h7 (salt w : List UInt8) : List UInt8 := Cmac.cmac e salt w

/-- The key identifiers "tmp1", "tmp2", "lebr" and "brle". -/
def tmp1 : List UInt8 := [0x74, 0x6D, 0x70, 0x31]

def tmp2 : List UInt8 := [0x74, 0x6D, 0x70, 0x32]

def lebr : List UInt8 := [0x6C, 0x65, 0x62, 0x72]

def brle : List UInt8 := [0x62, 0x72, 0x6C, 0x65]

/-- The BR/EDR link key from an LE LTK: `ILK = h7(SALT, LTK)` with `SALT` the
value "tmp1" when CT2 is set, `ILK = h6(LTK, "tmp1")` otherwise, and then
`h6(ILK, "lebr")`. -/
def ltkToLinkKey (ltk : List UInt8) (ct2 : Bool) : List UInt8 :=
  h6 e (if ct2 then h7 e (List.replicate 12 0 ++ tmp1) ltk else h6 e ltk tmp1) lebr

/-- The LE LTK from a BR/EDR link key, with "tmp2" and "brle". -/
def linkKeyToLtk (linkKey : List UInt8) (ct2 : Bool) : List UInt8 :=
  h6 e (if ct2 then h7 e (List.replicate 12 0 ++ tmp2) linkKey else h6 e linkKey tmp2) brle

/-- `c1(k, r, preq, pres, iat, rat, ia, ra) = e(k, e(k, r XOR p1) XOR p2)` with
`p1 = pres || preq || rat' || iat'` and `p2 = padding || ia || ra`. -/
def c1 (k r preq pres : List UInt8) (iat rat : UInt8) (ia ra : List UInt8) : List UInt8 :=
  let p1 := pres ++ preq ++ [rat, iat]
  let p2 := List.replicate 4 0 ++ ia ++ ra
  e k (Cmac.xorBlock (e k (Cmac.xorBlock r p1)) p2)

/-- `s1(k, r1, r2) = e(k, r1' || r2')`, with `r1'` and `r2'` the least
significant 64 bits of `r1` and `r2`. -/
def s1 (k r1 r2 : List UInt8) : List UInt8 := e k (r1.drop 8 ++ r2.drop 8)

end Functions

-- the value mod 2^32 is the last four octets, which an LSB-first copy holds first
theorem beValue_mod_word {bytes : List UInt8} (long : 4 ≤ bytes.length) :
    beValue bytes % 2 ^ 32 =
      readU32le (bytes.reverse.getD 0 0) (bytes.reverse.getD 1 0) (bytes.reverse.getD 2 0) (bytes.reverse.getD 3 0) := by
  have sized : 4 ≤ bytes.reverse.length := by simpa using long
  rcases reversed : bytes.reverse with _ | ⟨b3, _ | ⟨b2, _ | ⟨b1, _ | ⟨b0, rest⟩⟩⟩⟩
  all_goals rw [reversed] at sized
  any_goals simp at sized
  have split : bytes = rest.reverse ++ [b0, b1, b2, b3] := by
    rw [← List.reverse_reverse bytes, reversed]
    simp
  have word : beValue [b0, b1, b2, b3] = readU32le b3 b2 b1 b0 := by
    simp only [beValue, List.foldl_cons, List.foldl_nil, readU32le, readU16le]
    omega
  have bound := UInt8.toNat_lt b0
  rw [split, beValue_append, word]
  simp only [List.getD_cons_zero, List.getD_cons_succ, List.length_cons, List.length_nil]
  simp only [readU32le, readU16le]
  have := UInt8.toNat_lt b1
  have := UInt8.toNat_lt b2
  have := UInt8.toNat_lt b3
  omega

end Spec

/-! ## The toolbox -/

section Toolbox

variable (aesEncrypt : List UInt8 → List UInt8 → List UInt8) (stale : Nat → UInt8)

/-- `h6`. -/
def h6 (w keyid : List UInt8) : List UInt8 := aesCmac aesEncrypt w keyid stale

/-- `h7`. -/
def h7 (salt w : List UInt8) : List UInt8 := aesCmac aesEncrypt salt w stale

/-- `f4`: `z`, then 32 bytes of `v` and 32 of `u`. -/
def f4 (u v x : List UInt8) (z : UInt8) : List UInt8 := aesCmac aesEncrypt x ([z] ++ v.take 32 ++ u.take 32) stale

/-- `calculate_mac_key_or_ltk`, the helper of `f5`. -/
def calculateMacKeyOrLtk (t : List UInt8) (counter : UInt8) (keyId n1 n2 a1 a2 length : List UInt8) : List UInt8 :=
  aesCmac aesEncrypt t (length.take 2 ++ a2.take 7 ++ a1.take 7 ++ n2 ++ n1 ++ keyId.take 4 ++ [counter]) stale

/-- The salt of `f5`. -/
def f5Salt : List UInt8 :=
  [0xBE, 0x83, 0x60, 0x5A, 0xDB, 0x0B, 0x37, 0x60, 0x38, 0xA5, 0xF5, 0xAA, 0x91, 0x83, 0x88, 0x6C]

/-- `f5`: `t` from the 32 bytes at `w`, then the MacKey with counter 0 and the LTK with counter 1. -/
def f5 (w n1 n2 a1 a2 : List UInt8) : List UInt8 × List UInt8 :=
  let t := aesCmac aesEncrypt f5Salt (w.take 32) stale
  let keyId : List UInt8 := [0x65, 0x6c, 0x74, 0x62]
  let length : List UInt8 := [0x00, 0x01]
  (calculateMacKeyOrLtk aesEncrypt stale t 0 keyId n1 n2 a1 a2 length,
    calculateMacKeyOrLtk aesEncrypt stale t 1 keyId n1 n2 a1 a2 length)

/-- `f6`. -/
def f6 (w n1 n2 r iocap a1 a2 : List UInt8) : List UInt8 :=
  aesCmac aesEncrypt w (a2.take 7 ++ a1.take 7 ++ iocap.take 3 ++ r ++ n2 ++ n1) stale

/-- `g2`: the first four bytes of the MAC read as a little-endian word, mod `10^6`. -/
def g2 (u v x y : List UInt8) : Nat :=
  let cmac := aesCmac aesEncrypt x (y ++ v.take 32 ++ u.take 32) stale
  readU32le (cmac.getD 0 0) (cmac.getD 1 0) (cmac.getD 2 0) (cmac.getD 3 0) % 1000000

/-- `ltk_to_link_key`. -/
def ltkToLinkKey (ltk : List UInt8) (useH7 : Bool) : List UInt8 :=
  let ilk :=
    if useH7 then h7 aesEncrypt stale [0x31, 0x70, 0x6D, 0x74, 0, 0, 0, 0, 0, 0, 0, 0, 0, 0, 0, 0] ltk
    else h6 aesEncrypt stale ltk [0x31, 0x70, 0x6D, 0x74]
  h6 aesEncrypt stale ilk [0x72, 0x62, 0x65, 0x6c]

/-- `link_key_to_ltk`. -/
def linkKeyToLtk (linkKey : List UInt8) (useH7 : Bool) : List UInt8 :=
  let iltk :=
    if useH7 then h7 aesEncrypt stale [0x32, 0x70, 0x6D, 0x74, 0, 0, 0, 0, 0, 0, 0, 0, 0, 0, 0, 0] linkKey
    else h6 aesEncrypt stale linkKey [0x32, 0x70, 0x6D, 0x74]
  h6 aesEncrypt stale iltk [0x65, 0x6c, 0x72, 0x62]

/-- `c1`: `p1 = iat, rat, preq, pres` XOR `r`, encrypted, XOR `p2 = ra, ia, 0000`, encrypted. -/
def c1 (k r preq pres : List UInt8) (iat : UInt8) (ia : List UInt8) (rat : UInt8) (ra : List UInt8) : List UInt8 :=
  let p1 := xor128 r ([iat, rat] ++ preq.take 7 ++ pres.take 7)
  let p1bis := aes128 aesEncrypt k p1
  let p2 := xor128 p1bis (ra.take 6 ++ ia.take 6 ++ List.replicate 4 0)
  aes128 aesEncrypt k p2

/-- `s1`: the low 8 bytes of `r1`, then the low 8 bytes of `r2`, encrypted. -/
def s1 (k r1 r2 : List UInt8) : List UInt8 := aes128 aesEncrypt k (r1.take 8 ++ r2.take 8)

end Toolbox

/-! ## The toolbox refines the specification -/

section Refinement

variable {aesEncrypt : List UInt8 → List UInt8 → List UInt8}

theorem aes128_reverse (key block : List UInt8) :
    aes128 aesEncrypt key block.reverse = (aesEncrypt key.reverse block).reverse := by
  rw [aes128, List.reverse_reverse]

-- the low half of the plaintext is r1' where the specification puts r2'
theorem s1_eq_spec (k : List UInt8) {r1 r2 : List UInt8} (r1Sized : r1.length = 16) (r2Sized : r2.length = 16) :
    s1 aesEncrypt k r1 r2 = (Spec.s1 aesEncrypt k.reverse r2.reverse r1.reverse).reverse := by
  have halves : r1.take 8 ++ r2.take 8 = (r2.reverse.drop 8 ++ r1.reverse.drop 8).reverse := by
    rw [List.reverse_append, List.drop_reverse, List.drop_reverse, List.reverse_reverse, List.reverse_reverse,
      r1Sized, r2Sized]
  rw [s1, halves, aes128_reverse, Spec.s1]

variable (stale : Nat → UInt8)

-- AES maps every key and block to a block
variable (blockSized : ∀ key message, (aesEncrypt key message).length = 16)

include blockSized

theorem h6_eq_spec (w keyid : List UInt8) :
    h6 aesEncrypt stale w keyid = (Spec.h6 aesEncrypt w.reverse keyid.reverse).reverse :=
  aesCmac_eq_cmac blockSized w keyid stale

theorem h7_eq_spec (salt w : List UInt8) :
    h7 aesEncrypt stale salt w = (Spec.h7 aesEncrypt salt.reverse w.reverse).reverse :=
  aesCmac_eq_cmac blockSized salt w stale

theorem f4_eq_spec {u v : List UInt8} (x : List UInt8) (z : UInt8) (uSized : u.length = 32) (vSized : v.length = 32) :
    f4 aesEncrypt stale u v x z = (Spec.f4 aesEncrypt u.reverse v.reverse x.reverse z).reverse := by
  rw [f4, List.take_of_length_le (by omega), List.take_of_length_le (by omega), aesCmac_eq_cmac blockSized, Spec.f4]
  simp

theorem calculateMacKeyOrLtk_eq_spec (t : List UInt8) (counter : UInt8) {keyId : List UInt8} (n1 n2 : List UInt8)
    {a1 a2 length : List UInt8} (keySized : keyId.length = 4) (a1Sized : a1.length = 7) (a2Sized : a2.length = 7)
    (lengthSized : length.length = 2) :
    calculateMacKeyOrLtk aesEncrypt stale t counter keyId n1 n2 a1 a2 length =
      (Cmac.cmac aesEncrypt t.reverse
        ([counter] ++ keyId.reverse ++ n1.reverse ++ n2.reverse ++ a1.reverse ++ a2.reverse ++ length.reverse)).reverse := by
  rw [calculateMacKeyOrLtk, List.take_of_length_le (by omega), List.take_of_length_le (by omega),
    List.take_of_length_le (by omega), List.take_of_length_le (by omega), aesCmac_eq_cmac blockSized]
  simp

theorem f5_eq_spec {w : List UInt8} (n1 n2 : List UInt8) {a1 a2 : List UInt8} (wSized : w.length = 32)
    (a1Sized : a1.length = 7) (a2Sized : a2.length = 7) :
    f5 aesEncrypt stale w n1 n2 a1 a2 =
      ((Spec.f5 aesEncrypt w.reverse n1.reverse n2.reverse a1.reverse a2.reverse).1.reverse,
        (Spec.f5 aesEncrypt w.reverse n1.reverse n2.reverse a1.reverse a2.reverse).2.reverse) := by
  have salt : f5Salt.reverse = Spec.f5Salt := by decide
  have keyId : ([0x65, 0x6c, 0x74, 0x62] : List UInt8).reverse = Spec.btle := by decide
  have t : aesCmac aesEncrypt f5Salt (w.take 32) stale = (Cmac.cmac aesEncrypt Spec.f5Salt w.reverse).reverse := by
    rw [List.take_of_length_le (by omega), aesCmac_eq_cmac blockSized, salt]
  have keySized : ([0x65, 0x6c, 0x74, 0x62] : List UInt8).length = 4 := rfl
  have lengthSized : ([0x00, 0x01] : List UInt8).length = 2 := rfl
  simp only [f5, Spec.f5, Spec.f5Key, t]
  rw [calculateMacKeyOrLtk_eq_spec stale blockSized _ 0 n1 n2 keySized a1Sized a2Sized lengthSized,
    calculateMacKeyOrLtk_eq_spec stale blockSized _ 1 n1 n2 keySized a1Sized a2Sized lengthSized, keyId]
  simp

theorem f6_eq_spec (w n1 n2 r : List UInt8) {iocap a1 a2 : List UInt8} (iocapSized : iocap.length = 3)
    (a1Sized : a1.length = 7) (a2Sized : a2.length = 7) :
    f6 aesEncrypt stale w n1 n2 r iocap a1 a2 =
      (Spec.f6 aesEncrypt w.reverse n1.reverse n2.reverse r.reverse iocap.reverse a1.reverse a2.reverse).reverse := by
  rw [f6, List.take_of_length_le (by omega), List.take_of_length_le (by omega), List.take_of_length_le (by omega),
    aesCmac_eq_cmac blockSized, Spec.f6]
  simp

theorem g2_eq_spec {u v : List UInt8} (x y : List UInt8) (uSized : u.length = 32) (vSized : v.length = 32) :
    g2 aesEncrypt stale u v x y = Spec.g2 aesEncrypt u.reverse v.reverse x.reverse y.reverse := by
  have message : (y ++ v ++ u).reverse = u.reverse ++ v.reverse ++ y.reverse := by simp
  have macSized := Cmac.length_cmac blockSized x.reverse (u.reverse ++ v.reverse ++ y.reverse)
  rw [g2, Spec.g2, List.take_of_length_le (by omega), List.take_of_length_le (by omega), aesCmac_eq_cmac blockSized,
    message, Spec.beValue_mod_word (by omega)]

theorem c1_eq_spec (k : List UInt8) {r preq pres : List UInt8} (iat : UInt8) {ia : List UInt8} (rat : UInt8)
    {ra : List UInt8} (rSized : r.length = 16) (preqSized : preq.length = 7) (presSized : pres.length = 7)
    (iaSized : ia.length = 6) (raSized : ra.length = 6) :
    c1 aesEncrypt k r preq pres iat ia rat ra =
      (Spec.c1 aesEncrypt k.reverse r.reverse preq.reverse pres.reverse iat rat ia.reverse ra.reverse).reverse := by
  -- both blocks, as the code lays them out, are the reversed blocks of the specification
  have p1 : xor128 r ([iat, rat] ++ preq.take 7 ++ pres.take 7) =
      xor128 r.reverse.reverse (pres.reverse ++ preq.reverse ++ [rat, iat]).reverse := by
    rw [List.take_of_length_le (by omega), List.take_of_length_le (by omega)]
    simp
  have p2 : ra.take 6 ++ ia.take 6 ++ List.replicate 4 0 = (List.replicate 4 0 ++ ia.reverse ++ ra.reverse).reverse := by
    rw [List.take_of_length_le (by omega), List.take_of_length_le (by omega)]
    simp
  have p1Sized : r.reverse.length = (pres.reverse ++ preq.reverse ++ [rat, iat]).length := by
    simp
    omega
  have p2Sized : (aesEncrypt k.reverse (Cmac.xorBlock r.reverse (pres.reverse ++ preq.reverse ++ [rat, iat]))).length =
      (List.replicate 4 0 ++ ia.reverse ++ ra.reverse).length := by
    rw [blockSized]
    simp
    omega
  simp only [c1, Spec.c1]
  rw [p1, aes128_xor_reverse k p1Sized, p2, aes128_xor_reverse k p2Sized]

theorem ltkToLinkKey_eq_spec (ltk : List UInt8) (useH7 : Bool) :
    ltkToLinkKey aesEncrypt stale ltk useH7 = (Spec.ltkToLinkKey aesEncrypt ltk.reverse useH7).reverse := by
  have salt : ([0x31, 0x70, 0x6D, 0x74, 0, 0, 0, 0, 0, 0, 0, 0, 0, 0, 0, 0] : List UInt8).reverse =
      List.replicate 12 0 ++ Spec.tmp1 := by decide
  have tmp1 : ([0x31, 0x70, 0x6D, 0x74] : List UInt8).reverse = Spec.tmp1 := by decide
  have lebr : ([0x72, 0x62, 0x65, 0x6c] : List UInt8).reverse = Spec.lebr := by decide
  cases useH7 with
  | true => simp only [ltkToLinkKey, Spec.ltkToLinkKey, h6_eq_spec stale blockSized, h7_eq_spec stale blockSized,
      List.reverse_reverse, salt, lebr, if_true]
  | false => simp only [ltkToLinkKey, Spec.ltkToLinkKey, h6_eq_spec stale blockSized, List.reverse_reverse, tmp1, lebr,
      Bool.false_eq_true, if_false]

theorem linkKeyToLtk_eq_spec (linkKey : List UInt8) (useH7 : Bool) :
    linkKeyToLtk aesEncrypt stale linkKey useH7 = (Spec.linkKeyToLtk aesEncrypt linkKey.reverse useH7).reverse := by
  have salt : ([0x32, 0x70, 0x6D, 0x74, 0, 0, 0, 0, 0, 0, 0, 0, 0, 0, 0, 0] : List UInt8).reverse =
      List.replicate 12 0 ++ Spec.tmp2 := by decide
  have tmp2 : ([0x32, 0x70, 0x6D, 0x74] : List UInt8).reverse = Spec.tmp2 := by decide
  have brle : ([0x65, 0x6c, 0x72, 0x62] : List UInt8).reverse = Spec.brle := by decide
  cases useH7 with
  | true => simp only [linkKeyToLtk, Spec.linkKeyToLtk, h6_eq_spec stale blockSized, h7_eq_spec stale blockSized,
      List.reverse_reverse, salt, brle, if_true]
  | false => simp only [linkKeyToLtk, Spec.linkKeyToLtk, h6_eq_spec stale blockSized, List.reverse_reverse, tmp2, brle,
      Bool.false_eq_true, if_false]

theorem toolbox_eq_spec :
    (∀ (u v x : List UInt8) (z : UInt8), u.length = 32 → v.length = 32 →
      f4 aesEncrypt stale u v x z = (Spec.f4 aesEncrypt u.reverse v.reverse x.reverse z).reverse) ∧
    (∀ w n1 n2 a1 a2 : List UInt8, w.length = 32 → a1.length = 7 → a2.length = 7 →
      f5 aesEncrypt stale w n1 n2 a1 a2 =
        ((Spec.f5 aesEncrypt w.reverse n1.reverse n2.reverse a1.reverse a2.reverse).1.reverse,
          (Spec.f5 aesEncrypt w.reverse n1.reverse n2.reverse a1.reverse a2.reverse).2.reverse)) ∧
    (∀ w n1 n2 r iocap a1 a2 : List UInt8, iocap.length = 3 → a1.length = 7 → a2.length = 7 →
      f6 aesEncrypt stale w n1 n2 r iocap a1 a2 =
        (Spec.f6 aesEncrypt w.reverse n1.reverse n2.reverse r.reverse iocap.reverse a1.reverse a2.reverse).reverse) ∧
    (∀ u v x y : List UInt8, u.length = 32 → v.length = 32 →
      g2 aesEncrypt stale u v x y = Spec.g2 aesEncrypt u.reverse v.reverse x.reverse y.reverse) ∧
    (∀ w keyid : List UInt8, h6 aesEncrypt stale w keyid = (Spec.h6 aesEncrypt w.reverse keyid.reverse).reverse) ∧
    (∀ salt w : List UInt8, h7 aesEncrypt stale salt w = (Spec.h7 aesEncrypt salt.reverse w.reverse).reverse) ∧
    (∀ (k r preq pres : List UInt8) (iat : UInt8) (ia : List UInt8) (rat : UInt8) (ra : List UInt8),
      r.length = 16 → preq.length = 7 → pres.length = 7 → ia.length = 6 → ra.length = 6 →
      c1 aesEncrypt k r preq pres iat ia rat ra =
        (Spec.c1 aesEncrypt k.reverse r.reverse preq.reverse pres.reverse iat rat ia.reverse ra.reverse).reverse) ∧
    (∀ k r1 r2 : List UInt8, r1.length = 16 → r2.length = 16 →
      s1 aesEncrypt k r1 r2 = (Spec.s1 aesEncrypt k.reverse r2.reverse r1.reverse).reverse) ∧
    (∀ (ltk : List UInt8) (useH7 : Bool),
      ltkToLinkKey aesEncrypt stale ltk useH7 = (Spec.ltkToLinkKey aesEncrypt ltk.reverse useH7).reverse) ∧
    (∀ (linkKey : List UInt8) (useH7 : Bool),
      linkKeyToLtk aesEncrypt stale linkKey useH7 = (Spec.linkKeyToLtk aesEncrypt linkKey.reverse useH7).reverse) :=
  ⟨fun _ _ x z uSized vSized => f4_eq_spec stale blockSized x z uSized vSized,
    fun _ n1 n2 _ _ wSized a1Sized a2Sized => f5_eq_spec stale blockSized n1 n2 wSized a1Sized a2Sized,
    fun w n1 n2 r _ _ _ iocapSized a1Sized a2Sized => f6_eq_spec stale blockSized w n1 n2 r iocapSized a1Sized a2Sized,
    fun _ _ x y uSized vSized => g2_eq_spec stale blockSized x y uSized vSized,
    h6_eq_spec stale blockSized,
    h7_eq_spec stale blockSized,
    fun k _ _ _ iat _ rat _ rSized preqSized presSized iaSized raSized =>
      c1_eq_spec blockSized k iat rat rSized preqSized presSized iaSized raSized,
    fun k _ _ r1Sized r2Sized => s1_eq_spec k r1Sized r2Sized,
    ltkToLinkKey_eq_spec stale blockSized,
    linkKeyToLtk_eq_spec stale blockSized⟩

end Refinement

theorem toolbox_eq_spec_s1_keyXor :
    (∀ key block, (keyXorCipher key block).length = 16) ∧
      s1 keyXorCipher (List.replicate 16 0x2b) (List.replicate 16 0x11) (List.replicate 16 0x22) =
        (Spec.s1 keyXorCipher (List.replicate 16 0x2b).reverse (List.replicate 16 0x22).reverse
          (List.replicate 16 0x11).reverse).reverse :=
  ⟨keyXorCipher_sized,
    (toolbox_eq_spec (fun _ => 0) keyXorCipher_sized).2.2.2.2.2.2.2.1 _ _ _ (by decide) (by decide)⟩

-- at the sample values of the specification, s1 of the toolbox agrees with the
-- specification only where AES-128 maps two different blocks to one
theorem s1_spec_sample_needs_collision (aesEncrypt : List UInt8 → List UInt8 → List UInt8) (k : List UInt8) :
    let r1 : List UInt8 :=
      [0x00, 0x0F, 0x0E, 0x0D, 0x0C, 0x0B, 0x0A, 0x09, 0x11, 0x22, 0x33, 0x44, 0x55, 0x66, 0x77, 0x88]
    let r2 : List UInt8 :=
      [0x01, 0x02, 0x03, 0x04, 0x05, 0x06, 0x07, 0x08, 0x99, 0xAA, 0xBB, 0xCC, 0xDD, 0xEE, 0xFF, 0x00]
    r2.drop 8 ++ r1.drop 8 ≠ r1.drop 8 ++ r2.drop 8 ∧
      (s1 aesEncrypt k.reverse r1.reverse r2.reverse = (Spec.s1 aesEncrypt k r1 r2).reverse ↔
        aesEncrypt k (r2.drop 8 ++ r1.drop 8) = aesEncrypt k (r1.drop 8 ++ r2.drop 8)) := by
  intro r1 r2
  refine ⟨by decide, ?_⟩
  rw [s1_eq_spec k.reverse (by rfl) (by rfl), List.reverse_reverse, List.reverse_reverse, List.reverse_reverse,
    List.reverse_inj]
  rfl

-- under the cipher that XORs the block with the key, and the zero key, the two blocks give two values
theorem s1_spec_sample_keyXor :
    s1 keyXorCipher Cmac.zeroBlock.reverse
        [0x00, 0x0F, 0x0E, 0x0D, 0x0C, 0x0B, 0x0A, 0x09, 0x11, 0x22, 0x33, 0x44, 0x55, 0x66, 0x77, 0x88].reverse
        [0x01, 0x02, 0x03, 0x04, 0x05, 0x06, 0x07, 0x08, 0x99, 0xAA, 0xBB, 0xCC, 0xDD, 0xEE, 0xFF, 0x00].reverse ≠
      (Spec.s1 keyXorCipher Cmac.zeroBlock
        [0x00, 0x0F, 0x0E, 0x0D, 0x0C, 0x0B, 0x0A, 0x09, 0x11, 0x22, 0x33, 0x44, 0x55, 0x66, 0x77, 0x88]
        [0x01, 0x02, 0x03, 0x04, 0x05, 0x06, 0x07, 0x08, 0x99, 0xAA, 0xBB, 0xCC, 0xDD, 0xEE, 0xFF, 0x00]).reverse := by
  -- the cipher keeps the two blocks apart
  have distinct : keyXorCipher Cmac.zeroBlock
      ([0x01, 0x02, 0x03, 0x04, 0x05, 0x06, 0x07, 0x08, 0x99, 0xAA, 0xBB, 0xCC, 0xDD, 0xEE, 0xFF, 0x00].drop 8 ++
        [0x00, 0x0F, 0x0E, 0x0D, 0x0C, 0x0B, 0x0A, 0x09, 0x11, 0x22, 0x33, 0x44, 0x55, 0x66, 0x77, 0x88].drop 8) ≠
      keyXorCipher Cmac.zeroBlock
        ([0x00, 0x0F, 0x0E, 0x0D, 0x0C, 0x0B, 0x0A, 0x09, 0x11, 0x22, 0x33, 0x44, 0x55, 0x66, 0x77, 0x88].drop 8 ++
          [0x01, 0x02, 0x03, 0x04, 0x05, 0x06, 0x07, 0x08, 0x99, 0xAA, 0xBB, 0xCC, 0xDD, 0xEE, 0xFF, 0x00].drop 8) := by
    decide
  exact fun agree => distinct (((s1_spec_sample_needs_collision keyXorCipher Cmac.zeroBlock).2).mp agree)

end Crypto
end BluetoothStack
