import Mathlib.Data.Nat.Bitwise
import Mathlib.Data.List.Basic

namespace BluetoothStack
namespace BitString

/-!
# Bit strings, least significant bit first

The bits that a number contributes to a bit stream are its low bits in order of
weight.  A byte sequence is read as the bit string of its bytes one after the
other; that reading is injective, so a statement about the bits of an output
fixes the output.  The lemmas below cut a bit string at a width, drop the high
part of a number that a width does not reach, and glue two numbers placed side
by side into one.
-/

/-- The bits of weight 1, 2, ..., 2^(width - 1) of value. -/
def lowBits (value width : Nat) : List Bool :=
  (List.range width).map value.testBit

/-- The bits of a byte sequence, each byte least significant bit first. -/
def bitsOfBytes (bytes : List UInt8) : List Bool :=
  bytes.flatMap fun byte => lowBits byte.toNat 8

@[simp]
theorem length_lowBits (value width : Nat) : (lowBits value width).length = width := by
  simp [lowBits]

@[simp]
theorem lowBits_zero (value : Nat) : lowBits value 0 = [] := rfl

@[simp]
theorem bitsOfBytes_nil : bitsOfBytes [] = [] := rfl

@[simp]
theorem bitsOfBytes_append (xs ys : List UInt8) :
    bitsOfBytes (xs ++ ys) = bitsOfBytes xs ++ bitsOfBytes ys := by
  simp [bitsOfBytes]

@[simp]
theorem bitsOfBytes_cons (byte : UInt8) (bytes : List UInt8) :
    bitsOfBytes (byte :: bytes) = lowBits byte.toNat 8 ++ bitsOfBytes bytes := rfl

@[simp]
theorem length_bitsOfBytes (bytes : List UInt8) : (bitsOfBytes bytes).length = 8 * bytes.length := by
  induction bytes with
  | nil => rfl
  | cons byte bytes ih =>
    rw [bitsOfBytes_cons, List.length_append, ih, length_lowBits, List.length_cons]
    omega

/-- Cutting a width in two: the upper part is the low bits of the shifted value. -/
theorem lowBits_add (value i j : Nat) :
    lowBits value (i + j) = lowBits value i ++ lowBits (value / 2 ^ i) j := by
  simp only [lowBits, List.range_add, List.map_append, List.map_map]
  congr 1
  apply List.map_congr_left
  intro k _
  simp [Nat.testBit_div_two_pow, Nat.add_comm]

/-- The bits below a width do not see what lies above a wider power of two. -/
theorem lowBits_mod (value m width : Nat) (narrow : width ≤ m) :
    lowBits (value % 2 ^ m) width = lowBits value width := by
  apply List.map_congr_left
  intro k member
  have below : k < m := by
    rw [List.mem_range] at member
    omega
  simp [Nat.testBit_mod_two_pow, below]

/-- A number of width k with b placed above it reads as its own bits followed by
those of b. -/
theorem lowBits_add_mul (low high k n : Nat) (fits : low < 2 ^ k) :
    lowBits (low + 2 ^ k * high) (k + n) = lowBits low k ++ lowBits high n := by
  have lowPart : (low + 2 ^ k * high) % 2 ^ k = low := by
    rw [Nat.add_mul_mod_self_left, Nat.mod_eq_of_lt fits]
  have highPart : (low + 2 ^ k * high) / 2 ^ k = high := by
    rw [Nat.add_mul_div_left _ _ (Nat.two_pow_pos k), Nat.div_eq_of_lt fits, Nat.zero_add]
  rw [lowBits_add, highPart, ← lowBits_mod _ k k le_rfl, lowPart]

theorem eq_of_lowBits_eq {a b width : Nat} (narrowA : a < 2 ^ width) (narrowB : b < 2 ^ width)
    (same : lowBits a width = lowBits b width) : a = b := by
  apply Nat.eq_of_testBit_eq
  intro i
  by_cases inside : i < width
  · have entry := congrArg (fun bits => bits[i]?) same
    simpa [lowBits, inside] using entry
  · have wide : 2 ^ width ≤ 2 ^ i := Nat.pow_le_pow_right (by decide) (by omega)
    rw [Nat.testBit_lt_two_pow (by omega), Nat.testBit_lt_two_pow (by omega)]

/-- Reading bytes as bits loses nothing. -/
theorem bitsOfBytes_injective {xs ys : List UInt8} (same : bitsOfBytes xs = bitsOfBytes ys) :
    xs = ys := by
  induction xs generalizing ys with
  | nil =>
    have empty := congrArg List.length same
    simp only [bitsOfBytes_nil, List.length_nil, length_bitsOfBytes] at empty
    exact (List.eq_nil_of_length_eq_zero (by omega)).symm
  | cons x xs ih =>
    rcases ys with _ | ⟨y, ys⟩
    · have empty := congrArg List.length same
      simp at empty
    · rw [bitsOfBytes_cons, bitsOfBytes_cons] at same
      obtain ⟨firstByte, rest⟩ := List.append_inj same (by simp)
      have toNatSame : x.toNat = y.toNat :=
        eq_of_lowBits_eq (UInt8.toNat_lt x) (UInt8.toNat_lt y) firstByte
      rw [UInt8.toNat_inj.mp toNatSame, ih rest]

end BitString
end BluetoothStack
