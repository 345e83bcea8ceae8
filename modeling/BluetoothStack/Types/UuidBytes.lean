import Mathlib.Data.List.OfFn
import BluetoothStack.Library.ByteStream

namespace BluetoothStack

open ByteStream

/-!
# The sixteen bytes of a UUID (types/bluetooth/uuid.cc, gd/hci/uuid.cc)

bluetooth::Uuid and hci::Uuid hold 16 bytes, most significant first.  A 16-
or 32-bit UUID is the base UUID with bytes 2 and 3, or 0 to 3, replaced, and
GetShortestRepresentationSize compares bytes 4..15 with the base UUID's and
bytes 0 and 1 with zero.  The byte-level functions are defined once and each
class's method applies them; the ATT and SDP code use the methods of
bluetooth::Uuid, and the text forms of both classes are in `Types.Uuid`.
-/

/-! ## The bytes of a UUID -/

def kNumBytes128 : Nat := 16

def kNumBytes32 : Nat := 4

def kNumBytes16 : Nat := 2

/-- 00000000-0000-1000-8000-00805f9b34fb -/
def kBase : Fin 16 → UInt8 := fun i =>
  [0x00, 0x00, 0x00, 0x00, 0x00, 0x00, 0x10, 0x00, 0x80, 0x00, 0x00, 0x80, 0x5f, 0x9b, 0x34, 0xfb].getD i.val 0

/-- memcmp of bytes 4..15 with the base UUID, then bytes 0 and 1. -/
def shortestRepresentationSize (uu : Fin 16 → UInt8) : Nat :=
  if (List.ofFn uu).drop kNumBytes32 ≠ (List.ofFn kBase).drop kNumBytes32 then kNumBytes128
  else if uu 0 = 0 ∧ uu 1 = 0 then kNumBytes16
  else kNumBytes32

def as16Bit (uu : Fin 16 → UInt8) : UInt16 :=
  ((uu 2).toUInt16 <<< 8) + (uu 3).toUInt16

def as32Bit (uu : Fin 16 → UInt8) : UInt32 :=
  ((uu 0).toUInt32 <<< 24) + ((uu 1).toUInt32 <<< 16) + ((uu 2).toUInt32 <<< 8) + (uu 3).toUInt32

def from16Bit (uuid16 : UInt16) : Fin 16 → UInt8 :=
  Function.update (Function.update kBase 2 ((0xFF00 &&& uuid16) >>> 8).toUInt8) 3 (0x00FF &&& uuid16).toUInt8

def from32Bit (uuid32 : UInt32) : Fin 16 → UInt8 :=
  Function.update (Function.update (Function.update (Function.update kBase
    0 ((0xFF000000 &&& uuid32) >>> 24).toUInt8)
    1 ((0x00FF0000 &&& uuid32) >>> 16).toUInt8)
    2 ((0x0000FF00 &&& uuid32) >>> 8).toUInt8)
    3 (0x000000FF &&& uuid32).toUInt8

/-! ## bluetooth::Uuid -/

@[ext]
structure Uuid where
  uu : Fin 16 → UInt8

namespace Uuid

instance : DecidableEq Uuid := fun a b =>
  decidable_of_iff (List.ofFn a.uu = List.ofFn b.uu) (Iff.trans List.ofFn_inj Uuid.ext_iff.symm)

/-- Uuid::kEmpty, From128BitBE of sixteen zero bytes. -/
def kEmpty : Uuid := ⟨fun _ => 0⟩

def getShortestRepresentationSize (u : Uuid) : Nat :=
  shortestRepresentationSize u.uu

def as16Bit (u : Uuid) : UInt16 :=
  BluetoothStack.as16Bit u.uu

def as32Bit (u : Uuid) : UInt32 :=
  BluetoothStack.as32Bit u.uu

def from16Bit (uuid16 : UInt16) : Uuid :=
  ⟨BluetoothStack.from16Bit uuid16⟩

def from32Bit (uuid32 : UInt32) : Uuid :=
  ⟨BluetoothStack.from32Bit uuid32⟩

/-- Uuid::Is16Bit. -/
def is16Bit (u : Uuid) : Bool :=
  u.getShortestRepresentationSize == kNumBytes16

/-- Uuid::From128BitLE of the sixteen bytes at p: std::reverse_copy into uu. -/
def from128BitLE (mem : Nat → UInt8) (p : Nat) : Uuid :=
  ⟨fun i => mem (p + 15 - i.val)⟩

/-- Uuid::To128BitLE: std::reverse_copy of uu. -/
def to128BitLE (u : Uuid) : List UInt8 :=
  (List.ofFn u.uu).reverse

/-- Uuid::To128BitBE: uu itself. -/
def to128BitBE (u : Uuid) : List UInt8 :=
  List.ofFn u.uu

/-- Uuid::IsEmpty: *this == kEmpty. -/
def isEmpty (u : Uuid) : Bool :=
  u == kEmpty

end Uuid

/-! ## hci::Uuid -/

namespace Hci

@[ext]
structure Uuid where
  uu : Fin 16 → UInt8

namespace Uuid

instance : DecidableEq Uuid := fun a b =>
  decidable_of_iff (List.ofFn a.uu = List.ofFn b.uu) (Iff.trans List.ofFn_inj Uuid.ext_iff.symm)

def getShortestRepresentationSize (u : Uuid) : Nat :=
  shortestRepresentationSize u.uu

def as16Bit (u : Uuid) : UInt16 :=
  BluetoothStack.as16Bit u.uu

def as32Bit (u : Uuid) : UInt32 :=
  BluetoothStack.as32Bit u.uu

def from16Bit (uuid16 : UInt16) : Uuid :=
  ⟨BluetoothStack.from16Bit uuid16⟩

def from32Bit (uuid32 : UInt32) : Uuid :=
  ⟨BluetoothStack.from32Bit uuid32⟩

end Uuid

end Hci

/-! ## From16Bit, From32Bit and the short forms -/

/-- (mask << k & n) >> k for the byte mask 0xFF keeps bits k .. k + 7 of n. -/
theorem and_mask_shiftRight (n k : Nat) : ((255 <<< k) &&& n) >>> k = n / 2 ^ k % 256 := by
  rw [Nat.shiftRight_and_distrib, Nat.shiftLeft_shiftRight, Nat.shiftRight_eq_div_pow, Nat.and_comm]
  exact Nat.and_two_pow_sub_one_eq_mod (n / 2 ^ k) 8

theorem and_mask (n : Nat) : 255 &&& n = n % 256 := by
  rw [Nat.and_comm]
  exact Nat.and_two_pow_sub_one_eq_mod n 8

/-- (uint8_t)((mask & v) >> s) for a mask that selects the byte at bit s. -/
theorem toUInt8_and_shiftRight16 (mask v shift : UInt16) (k : Nat) (masked : mask.toNat = 255 <<< k)
    (shifted : shift.toNat = k) (inWord : k < 16) :
    ((mask &&& v) >>> shift).toUInt8 = UInt8.ofNat (v.toNat / 2 ^ k) := by
  apply UInt8.toNat_inj.mp
  rw [UInt16.toNat_toUInt8, UInt16.toNat_shiftRight, UInt16.toNat_and, masked, shifted, Nat.mod_eq_of_lt inWord,
    and_mask_shiftRight, UInt8.toNat_ofNat']
  omega

theorem toUInt8_and_shiftRight32 (mask v shift : UInt32) (k : Nat) (masked : mask.toNat = 255 <<< k)
    (shifted : shift.toNat = k) (inWord : k < 32) :
    ((mask &&& v) >>> shift).toUInt8 = UInt8.ofNat (v.toNat / 2 ^ k) := by
  apply UInt8.toNat_inj.mp
  rw [UInt32.toNat_toUInt8, UInt32.toNat_shiftRight, UInt32.toNat_and, masked, shifted, Nat.mod_eq_of_lt inWord,
    and_mask_shiftRight, UInt8.toNat_ofNat']
  omega

theorem toUInt8_and16 (mask v : UInt16) (masked : mask.toNat = 255) : (mask &&& v).toUInt8 = UInt8.ofNat v.toNat := by
  apply UInt8.toNat_inj.mp
  rw [UInt16.toNat_toUInt8, UInt16.toNat_and, masked, and_mask, UInt8.toNat_ofNat']
  omega

theorem toUInt8_and32 (mask v : UInt32) (masked : mask.toNat = 255) : (mask &&& v).toUInt8 = UInt8.ofNat v.toNat := by
  apply UInt8.toNat_inj.mp
  rw [UInt32.toNat_toUInt8, UInt32.toNat_and, masked, and_mask, UInt8.toNat_ofNat']
  omega

theorem from16Bit_apply (uuid16 : UInt16) (i : Fin 16) :
    from16Bit uuid16 i =
      if i = 3 then UInt8.ofNat uuid16.toNat else if i = 2 then UInt8.ofNat (uuid16.toNat / 2 ^ 8) else kBase i := by
  rw [from16Bit, Function.update_apply, Function.update_apply, toUInt8_and16 _ _ (by decide),
    toUInt8_and_shiftRight16 _ _ _ 8 (by decide) (by decide) (by decide)]

theorem from32Bit_apply (uuid32 : UInt32) (i : Fin 16) :
    from32Bit uuid32 i =
      if i = 3 then UInt8.ofNat uuid32.toNat else if i = 2 then UInt8.ofNat (uuid32.toNat / 2 ^ 8)
      else if i = 1 then UInt8.ofNat (uuid32.toNat / 2 ^ 16) else if i = 0 then UInt8.ofNat (uuid32.toNat / 2 ^ 24)
      else kBase i := by
  rw [from32Bit, Function.update_apply, Function.update_apply, Function.update_apply, Function.update_apply,
    toUInt8_and32 _ _ (by decide), toUInt8_and_shiftRight32 _ _ _ 8 (by decide) (by decide) (by decide),
    toUInt8_and_shiftRight32 _ _ _ 16 (by decide) (by decide) (by decide),
    toUInt8_and_shiftRight32 _ _ _ 24 (by decide) (by decide) (by decide)]

theorem toNat_as16Bit (uu : Fin 16 → UInt8) : (as16Bit uu).toNat = 2 ^ 8 * (uu 2).toNat + (uu 3).toNat := by
  have high := (uu 2).toNat_lt
  have low := (uu 3).toNat_lt
  rw [as16Bit, UInt16.toNat_add, UInt16.toNat_shiftLeft, UInt8.toNat_toUInt16, UInt8.toNat_toUInt16,
    show (8 : UInt16).toNat % 16 = 8 from rfl, Nat.shiftLeft_eq]
  omega

theorem toNat_as32Bit (uu : Fin 16 → UInt8) :
    (as32Bit uu).toNat = 2 ^ 24 * (uu 0).toNat + 2 ^ 16 * (uu 1).toNat + 2 ^ 8 * (uu 2).toNat + (uu 3).toNat := by
  have byte0 := (uu 0).toNat_lt
  have byte1 := (uu 1).toNat_lt
  have byte2 := (uu 2).toNat_lt
  have byte3 := (uu 3).toNat_lt
  rw [as32Bit, UInt32.toNat_add, UInt32.toNat_add, UInt32.toNat_add, UInt32.toNat_shiftLeft, UInt32.toNat_shiftLeft,
    UInt32.toNat_shiftLeft, UInt8.toNat_toUInt32, UInt8.toNat_toUInt32, UInt8.toNat_toUInt32, UInt8.toNat_toUInt32,
    show (24 : UInt32).toNat % 32 = 24 from rfl, show (16 : UInt32).toNat % 32 = 16 from rfl,
    show (8 : UInt32).toNat % 32 = 8 from rfl, Nat.shiftLeft_eq, Nat.shiftLeft_eq, Nat.shiftLeft_eq]
  omega

/-- From16Bit(As16Bit()) keeps bytes 2 and 3 and puts back the base UUID's elsewhere. -/
theorem from16Bit_as16Bit (uu : Fin 16 → UInt8) :
    from16Bit (as16Bit uu) = fun i => if i = 2 ∨ i = 3 then uu i else kBase i := by
  have high := (uu 2).toNat_lt
  have low := (uu 3).toNat_lt
  funext i
  rw [from16Bit_apply, toNat_as16Bit]
  by_cases three : i = 3
  · rw [if_pos three, if_pos (Or.inr three), three]
    exact ofNat_eq_of_mod (by omega)
  by_cases two : i = 2
  · rw [if_neg three, if_pos two, if_pos (Or.inl two), two]
    exact ofNat_eq_of_mod (by omega)
  rw [if_neg three, if_neg two, if_neg (by rintro (h | h) <;> contradiction)]

theorem from32Bit_as32Bit (uu : Fin 16 → UInt8) :
    from32Bit (as32Bit uu) = fun i => if i.val < 4 then uu i else kBase i := by
  have byte0 := (uu 0).toNat_lt
  have byte1 := (uu 1).toNat_lt
  have byte2 := (uu 2).toNat_lt
  have byte3 := (uu 3).toNat_lt
  have at0 : UInt8.ofNat ((as32Bit uu).toNat / 16777216) = uu 0 := ofNat_eq_of_mod (by rw [toNat_as32Bit]; omega)
  have at1 : UInt8.ofNat ((as32Bit uu).toNat / 65536) = uu 1 := ofNat_eq_of_mod (by rw [toNat_as32Bit]; omega)
  have at2 : UInt8.ofNat ((as32Bit uu).toNat / 256) = uu 2 := ofNat_eq_of_mod (by rw [toNat_as32Bit]; omega)
  have at3 : UInt8.ofNat (as32Bit uu).toNat = uu 3 := ofNat_eq_of_mod (by rw [toNat_as32Bit]; omega)
  funext i
  rw [from32Bit_apply]
  rcases i with ⟨_ | _ | _ | _ | k, below⟩
  all_goals simp [Fin.ext_iff, at0, at1, at2, at3]

/-- Two lists of values agree from k on exactly when the functions do. -/
theorem drop_ofFn_eq_iff {α : Type} {n : Nat} (u v : Fin n → α) (k : Nat) :
    (List.ofFn u).drop k = (List.ofFn v).drop k ↔ ∀ i : Fin n, k ≤ i.val → u i = v i := by
  constructor
  · intro same i atLeast
    have entry := congrArg (fun l => l[i.val - k]?) same
    simpa [List.getElem?_drop, Nat.add_sub_cancel' atLeast, List.getElem?_ofFn] using entry
  · intro agree
    apply List.ext_getElem?
    intro j
    rw [List.getElem?_drop, List.getElem?_drop, List.getElem?_ofFn, List.getElem?_ofFn]
    split
    · next inside => rw [agree ⟨k + j, inside⟩ (Nat.le_add_right k j)]
    · rfl

/-- Bytes 4..15 are the base UUID's exactly when From32Bit(As32Bit()) gives the UUID back. -/
theorem drop_kBase_iff (uu : Fin 16 → UInt8) :
    (List.ofFn uu).drop kNumBytes32 = (List.ofFn kBase).drop kNumBytes32 ↔ from32Bit (as32Bit uu) = uu := by
  rw [drop_ofFn_eq_iff, from32Bit_as32Bit, funext_iff]
  apply forall_congr'
  intro i
  by_cases low : i.val < 4
  · rw [if_pos low]
    exact ⟨fun _ => rfl, fun _ atLeast => absurd atLeast (by rw [kNumBytes32]; omega)⟩
  · rw [if_neg low]
    exact ⟨fun agree => (agree (by rw [kNumBytes32]; omega)).symm, fun same _ => same.symm⟩

/-- From16Bit(As16Bit()) gives the UUID back exactly when From32Bit(As32Bit())
does and bytes 0 and 1 are zero, as in the base UUID. -/
theorem from16Bit_as16Bit_eq_iff (uu : Fin 16 → UInt8) :
    from16Bit (as16Bit uu) = uu ↔ from32Bit (as32Bit uu) = uu ∧ uu 0 = 0 ∧ uu 1 = 0 := by
  rw [from16Bit_as16Bit, from32Bit_as32Bit, funext_iff, funext_iff]
  constructor
  · intro fixed
    refine ⟨fun i => ?_, (fixed 0).symm, (fixed 1).symm⟩
    by_cases low : i.val < 4
    · rw [if_pos low]
    · have outside : ¬(i = 2 ∨ i = 3) := by
        rintro (rfl | rfl) <;> exact low (by decide)
      rw [if_neg low, ← fixed i, if_neg outside]
  · rintro ⟨fixed, zero0, zero1⟩ i
    by_cases middle : i = 2 ∨ i = 3
    · rw [if_pos middle]
    rw [if_neg middle]
    rcases i with ⟨_ | _ | _ | _ | k, below⟩
    · exact zero0.symm
    · exact zero1.symm
    · exact absurd (Or.inl rfl) middle
    · exact absurd (Or.inr rfl) middle
    · have outside : ¬ k + 4 < 4 := by omega
      rw [← fixed ⟨k + 4, below⟩, if_neg outside]

/-- GetShortestRepresentationSize in the three cases the short forms give. -/
theorem shortestRepresentationSize_cases (uu : Fin 16 → UInt8) :
    (from16Bit (as16Bit uu) = uu → shortestRepresentationSize uu = kNumBytes16) ∧
      (from16Bit (as16Bit uu) ≠ uu → from32Bit (as32Bit uu) = uu → shortestRepresentationSize uu = kNumBytes32) ∧
      (from32Bit (as32Bit uu) ≠ uu → shortestRepresentationSize uu = kNumBytes128) := by
  have suffix := drop_kBase_iff uu
  have short := from16Bit_as16Bit_eq_iff uu
  refine ⟨fun fixed16 => ?_, fun not16 fixed32 => ?_, fun not32 => ?_⟩
  · obtain ⟨fixed32, zeros⟩ := short.1 fixed16
    rw [shortestRepresentationSize, if_neg (not_not.2 (suffix.2 fixed32)), if_pos zeros]
  · have notZeros : ¬(uu 0 = 0 ∧ uu 1 = 0) := fun zeros => not16 (short.2 ⟨fixed32, zeros⟩)
    rw [shortestRepresentationSize, if_neg (not_not.2 (suffix.2 fixed32)), if_neg notZeros]
  · rw [shortestRepresentationSize, if_pos (fun same => not32 (suffix.1 same))]

/-- GetShortestRepresentationSize of the bytes: 2 when From16Bit(As16Bit())
gives them back, else 4 when From32Bit(As32Bit()) does, else 16. -/
theorem shortestRepresentationSize_eq (uu : Fin 16 → UInt8) :
    shortestRepresentationSize uu =
      if uu = from16Bit (as16Bit uu) then 2 else if uu = from32Bit (as32Bit uu) then 4 else 16 := by
  obtain ⟨is16, is32, is128⟩ := shortestRepresentationSize_cases uu
  split_ifs with fixed16 fixed32
  · exact is16 fixed16.symm
  · exact is32 (fun same => fixed16 same.symm) fixed32.symm
  · exact is128 fun same => fixed32 same.symm

namespace Uuid

/-- The three sizes GetShortestRepresentationSize returns. -/
theorem getShortestRepresentationSize_cases (u : Uuid) :
    u.getShortestRepresentationSize = 2 ∨ u.getShortestRepresentationSize = 4 ∨
      u.getShortestRepresentationSize = 16 := by
  unfold getShortestRepresentationSize shortestRepresentationSize
  split_ifs <;> simp [kNumBytes16, kNumBytes32, kNumBytes128]

theorem getShortestRepresentationSize_eq (u : Uuid) :
    u.getShortestRepresentationSize =
      if u = from16Bit u.as16Bit then 2 else if u = from32Bit u.as32Bit then 4 else 16 := by
  rw [getShortestRepresentationSize, shortestRepresentationSize_eq]
  simp only [from16Bit, as16Bit, from32Bit, as32Bit, Uuid.ext_iff]

end Uuid

namespace Hci.Uuid

theorem getShortestRepresentationSize_eq (u : Uuid) :
    u.getShortestRepresentationSize =
      if u = from16Bit u.as16Bit then 2 else if u = from32Bit u.as32Bit then 4 else 16 := by
  rw [getShortestRepresentationSize, shortestRepresentationSize_eq]
  simp only [from16Bit, as16Bit, from32Bit, as32Bit, Uuid.ext_iff]

end Hci.Uuid

end BluetoothStack
