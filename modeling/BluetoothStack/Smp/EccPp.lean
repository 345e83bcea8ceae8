import BluetoothStack.Smp.Multiprecision

namespace BluetoothStack
namespace Smp

open Words

/-!
# Validation of a P-256 point

ECC_ValidatePoint (p_256_ecc_pp.cc) checks a peer public key by computing
y^2 and x^3 - 3x + b with the modular operations of p_256_multprecision.cc
and comparing the two.  Those operations assume reduced operands, and the
validation never checks that x and y are below p.  The lemmas say what the
check compares, and the last theorem gives an unreduced x that it accepts.
-/

/-- Point: the three coordinate arrays of p_256_ecc_pp.h. -/
structure Point where
  x : List UInt32
  y : List UInt32
  z : List UInt32

/-- The right-hand side x^3 - 3x + b as ECC_ValidatePoint computes it. -/
def validateRhs (x : List UInt32) : List UInt32 :=
  let rhs := multiprecisionMersennsSquaMod x
  let three : List UInt32 := [3, 0, 0, 0, 0, 0, 0, 0]
  let rhs := multiprecisionSubMod rhs three
  let rhs := multiprecisionMersennsMultMod rhs x
  multiprecisionAddMod rhs curveP256B

/-- ECC_ValidatePoint. -/
def eccValidatePoint (pt : Point) : Bool :=
  let y2Mod := multiprecisionMersennsSquaMod pt.y
  let rhs := validateRhs pt.x
  multiprecisionCompare rhs y2Mod == 0

/-- The curve equation of P-256 over the integers modulo p256. -/
def OnCurveP256 (x y : Nat) : Prop :=
  ((y : Int) ^ 2) % p256 = ((x : Int) ^ 3 - 3 * x + value curveP256B) % p256

instance (x y : Nat) : Decidable (OnCurveP256 x y) :=
  inferInstanceAs (Decidable (_ = _))

/-- y0, the square root of b modulo p below p, least significant word first. -/
def y0 : List UInt32 :=
  [0x174f93f4, 0x28bf856a, 0x1dae8717, 0x541c2af3, 0x84a06bb6, 0x2433bd5d, 0x0e2f83d7, 0x66485c78]

/-- The point (p, y0), where y0^2 = b modulo p, is accepted: p is x = 0 written
unreduced, (0, y0) is on the curve, and the check does not ask for x < p. -/
theorem eccValidatePoint_unreduced :
    eccValidatePoint ⟨curveP256P, y0, multiprecisionInit⟩ = true ∧ ¬ value curveP256P < p256 ∧
      value y0 < p256 ∧ OnCurveP256 0 (value y0) ∧ OnCurveP256 (value curveP256P) (value y0) := by
  decide +kernel

end Smp
end BluetoothStack
