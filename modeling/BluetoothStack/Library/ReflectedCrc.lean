import Mathlib.Logic.Function.Iterate
import Mathlib.Data.Nat.Bitwise

namespace ReflectedCrc

/-!
# Reflected CRC shift registers

A reflected CRC register takes the message least significant bit first: each
clock shifts the register right by one and, when the bit shifted out was set,
XORs in the bit-reversed polynomial.  A byte is XORed into the low end and
clocked in eight times.

Table-driven implementations replace the eight clocks by one lookup.  That
rests on three facts proved here for every polynomial: a clock is XOR-linear,
eight clocks of a value whose low byte is zero shift it right by a byte, and
the register splits into its high part XOR its low byte.  Together they give
`update_eq_table`: the bit-serial update is the high part of the register
XOR the table entry of its low byte XOR the message byte.
-/

/-- One clock of the register: shift right, and XOR the reflected polynomial in
when the bit shifted out was set. -/
def shift (poly x : Nat) : Nat :=
  if x % 2 = 1 then x >>> 1 ^^^ poly else x >>> 1

/-- Eight clocks: what a table entry holds for its index. -/
def shiftByte (poly x : Nat) : Nat :=
  (shift poly)^[8] x

/-- The bit-serial update by one byte. -/
def update (poly crc : Nat) (byte : UInt8) : Nat :=
  shiftByte poly (crc ^^^ byte.toNat)

/-- The bit-serial CRC of a byte string, from a start value. -/
def crc (poly init : Nat) (bytes : List UInt8) : Nat :=
  bytes.foldl (update poly) init

section Clock

variable (poly : Nat)

theorem xor_xor_xor_cancel (a b p : Nat) : a ^^^ p ^^^ (b ^^^ p) = a ^^^ b := by
  rw [Nat.xor_assoc, Nat.xor_comm b p, ← Nat.xor_assoc p p b, Nat.xor_self, Nat.zero_xor]

/-- A clock is XOR-linear. -/
theorem shift_xor (x y : Nat) : shift poly (x ^^^ y) = shift poly x ^^^ shift poly y := by
  unfold shift
  rw [Nat.shiftRight_xor_distrib]
  by_cases oddX : x % 2 = 1 <;> by_cases oddY : y % 2 = 1
  · have even : ¬ (x ^^^ y) % 2 = 1 := by rw [Nat.xor_mod_two_eq]; omega
    rw [if_neg even, if_pos oddX, if_pos oddY, xor_xor_xor_cancel]
  · have odd : (x ^^^ y) % 2 = 1 := by rw [Nat.xor_mod_two_eq]; omega
    rw [if_pos odd, if_pos oddX, if_neg oddY, Nat.xor_assoc, Nat.xor_assoc, Nat.xor_comm poly]
  · have odd : (x ^^^ y) % 2 = 1 := by rw [Nat.xor_mod_two_eq]; omega
    rw [if_pos odd, if_neg oddX, if_pos oddY, Nat.xor_assoc]
  · have even : ¬ (x ^^^ y) % 2 = 1 := by rw [Nat.xor_mod_two_eq]; omega
    rw [if_neg even, if_neg oddX, if_neg oddY]

theorem iterate_shift_xor (n : Nat) (x y : Nat) :
    (shift poly)^[n] (x ^^^ y) = (shift poly)^[n] x ^^^ (shift poly)^[n] y := by
  induction n generalizing x y with
  | zero => rfl
  | succ n ih => rw [Function.iterate_succ_apply, Function.iterate_succ_apply,
      Function.iterate_succ_apply, shift_xor, ih]

/-- An even value loses its low zero bit and takes no polynomial. -/
theorem shift_two_mul (m : Nat) : shift poly (2 * m) = m := by
  have even : ¬ (2 * m) % 2 = 1 := by omega
  rw [shift, if_neg even, Nat.shiftRight_eq_div_pow]
  omega

/-- k clocks of a value whose k low bits are zero shift it right by k. -/
theorem iterate_shift_two_pow_mul (k m : Nat) : (shift poly)^[k] (2 ^ k * m) = m := by
  induction k with
  | zero => simp
  | succ k ih =>
    rw [Function.iterate_succ_apply, Nat.pow_succ, Nat.mul_comm (2 ^ k) 2, Nat.mul_assoc,
      shift_two_mul, ih]

end Clock

/-- A value is its high part above bit 8 XOR its low byte. -/
theorem eq_high_xor_low (x : Nat) : x = 2 ^ 8 * (x >>> 8) ^^^ x % 2 ^ 8 := by
  apply Nat.eq_of_testBit_eq
  intro i
  rw [Nat.testBit_xor, Nat.testBit_two_pow_mul, Nat.testBit_mod_two_pow, Nat.testBit_shiftRight]
  by_cases low : i < 8
  · simp [low, Nat.not_le_of_lt low]
  · have high : 8 + (i - 8) = i := by omega
    simp [low, Nat.le_of_not_lt low, high]

/-- The table-driven update: the register's high byte XOR the eight clocks of its
low byte XOR the message byte. -/
theorem update_eq_table (poly crc : Nat) (byte : UInt8) :
    update poly crc byte = crc >>> 8 ^^^ shiftByte poly (crc % 256 ^^^ byte.toNat) := by
  have split : crc ^^^ byte.toNat = 2 ^ 8 * (crc >>> 8) ^^^ (crc % 2 ^ 8 ^^^ byte.toNat) := by
    conv => lhs; rw [eq_high_xor_low crc]
    rw [Nat.xor_assoc]
  rw [update, split, shiftByte, iterate_shift_xor, iterate_shift_two_pow_mul]
  rfl

section Width

variable {poly width : Nat}

theorem shift_lt (small : poly < 2 ^ width) {x : Nat} (fits : x < 2 ^ width) : shift poly x < 2 ^ width := by
  have shifted : x >>> 1 < 2 ^ width := Nat.lt_of_le_of_lt (Nat.shiftRight_le x 1) fits
  unfold shift
  split
  · exact Nat.xor_lt_two_pow shifted small
  · exact shifted

theorem shiftByte_lt (small : poly < 2 ^ width) {x : Nat} (fits : x < 2 ^ width) :
    shiftByte poly x < 2 ^ width := by
  unfold shiftByte
  induction 8 generalizing x with
  | zero => exact fits
  | succ n ih =>
    rw [Function.iterate_succ_apply]
    exact ih (shift_lt small fits)

/-- A register at least a byte wide stays within its width. -/
theorem update_lt (small : poly < 2 ^ width) (wide : 8 ≤ width) {crc : Nat} (fits : crc < 2 ^ width)
    (byte : UInt8) : update poly crc byte < 2 ^ width := by
  have byteFits : byte.toNat < 2 ^ width :=
    Nat.lt_of_lt_of_le byte.toNat_lt (Nat.pow_le_pow_right (by decide) wide)
  exact shiftByte_lt small (Nat.xor_lt_two_pow fits byteFits)

end Width

end ReflectedCrc
