import BluetoothStack.Library.Words

namespace BluetoothStack
namespace Smp

open Words

/-!
# P-256 multiprecision arithmetic

p_256_multprecision.cc computes on 256-bit numbers held as eight uint32_t
words, least significant first: carry chains for addition and subtraction,
the comparison from the high word down, the schoolbook product into sixteen
words, multiprecision_fast_mod_P256, which folds a 512-bit product back
below p256 with the word sums of the NIST reduction and a signed carry U,
and the modular operations built from them.

A number is a list of words here.  The functions are those of the source,
word for word; the lemmas relate them to the value of the lists.
-/

def keyLengthDwordsP256 : Nat := 8

/-- curve_p256.p as p_256_init_curve sets it, least significant word first. -/
def curveP256P : List UInt32 :=
  [0xFFFFFFFF, 0xFFFFFFFF, 0xFFFFFFFF, 0x0, 0x0, 0x0, 0x00000001, 0xFFFFFFFF]

/-- curve_p256.b, least significant word first. -/
def curveP256B : List UInt32 :=
  [0x27d2604b, 0x3bce3c3e, 0xcc53b0f6, 0x651d06b0, 0x769886bc, 0xb3ebbd55, 0xaa3a93e7, 0x5ac635d8]

/-- The prime of the curve: 2^256 - 2^224 + 2^192 + 2^96 - 1. -/
def p256 : Nat := 2 ^ 256 - 2 ^ 224 + 2 ^ 192 + 2 ^ 96 - 1

theorem value_curveP256P : value curveP256P = p256 := by
  decide +kernel

theorem length_curveP256P : curveP256P.length = keyLengthDwordsP256 := rfl

/-- p256 as a numeral, for the arithmetic deciders. -/
theorem p256_eq : p256 = 115792089210356248762697446949407573530086143415290314195533631308867097853951 := by
  decide

/-- An eight-word number is below 2^256. -/
theorem value_lt_of_length {a : List UInt32} (sized : a.length = keyLengthDwordsP256) : value a < 2 ^ 256 := by
  simpa [sized, keyLengthDwordsP256] using value_lt a

/-! ## Words -/

/-- multiprecision_init. -/
def multiprecisionInit : List UInt32 :=
  List.replicate keyLengthDwordsP256 0

/-- multiprecision_compare: 1, -1 or 0 at the highest word that differs. -/
def multiprecisionCompare (a b : List UInt32) : Int :=
  compareHigh a.reverse b.reverse

theorem multiprecisionCompare_nonneg_iff (a b : List UInt32) (sized : a.length = b.length) :
    0 ≤ multiprecisionCompare a b ↔ value b ≤ value a := by
  rw [multiprecisionCompare, compareHigh_reverse a b sized]
  split_ifs <;> simp <;> omega

/-- multiprecision_iszero. -/
def multiprecisionIszero (a : List UInt32) : Bool :=
  a.all (· = 0)

/-- One word of multiprecision_add: a[i] plus the carry, then plus b[i], each
sum tested for overflow. -/
def addStep (carrier a b : UInt32) : UInt32 × UInt32 :=
  let temp := a + carrier
  let carrier := if temp < carrier then 1 else 0
  let temp := temp + b
  (temp, carrier ||| if temp < b then 1 else 0)

/-- multiprecision_add: the words of a + b and the carry out of the top word. -/
def multiprecisionAdd (a b : List UInt32) : List UInt32 × UInt32 :=
  ripple addStep 0 a b

theorem addStep_exact (carrier a b : UInt32) (small : carrier.toNat ≤ 1) :
    (addStep carrier a b).2.toNat ≤ 1 ∧
      (addStep carrier a b).1.toNat + 2 ^ 32 * (addStep carrier a b).2.toNat =
        a.toNat + b.toNat + carrier.toNat := by
  have wordA := a.toNat_lt
  have wordB := b.toNat_lt
  unfold addStep
  simp only [UInt32.lt_iff_toNat_lt, UInt32.toNat_add]
  split_ifs with first second second <;> simp <;> omega

/-- multiprecision_add adds: the words out and the carry make a + b. -/
theorem multiprecisionAdd_value (a b : List UInt32) (sized : a.length = b.length) :
    (multiprecisionAdd a b).2.toNat ≤ 1 ∧
      value (multiprecisionAdd a b).1 + 2 ^ (32 * a.length) * (multiprecisionAdd a b).2.toNat =
        value a + value b := by
  simpa [multiprecisionAdd] using ripple_add addStep addStep_exact a b 0 sized (by decide)

theorem length_multiprecisionAdd (a b : List UInt32) (sized : a.length = b.length) :
    (multiprecisionAdd a b).1.length = a.length := by
  simp [multiprecisionAdd, length_ripple, sized]

/-- One word of multiprecision_sub: a[i] minus the borrow, then minus b[i],
each difference tested for underflow. -/
def subStep (borrow a b : UInt32) : UInt32 × UInt32 :=
  let temp := a - borrow
  let borrow := if a < temp then 1 else 0
  let c := temp - b
  (c, borrow ||| if temp < c then 1 else 0)

/-- multiprecision_sub: the words of a - b modulo 2^256 and the borrow out of
the top word. -/
def multiprecisionSub (a b : List UInt32) : List UInt32 × UInt32 :=
  ripple subStep 0 a b

theorem subStep_exact (borrow a b : UInt32) (small : borrow.toNat ≤ 1) :
    (subStep borrow a b).2.toNat ≤ 1 ∧
      (subStep borrow a b).1.toNat + b.toNat + borrow.toNat =
        a.toNat + 2 ^ 32 * (subStep borrow a b).2.toNat := by
  have wordA := a.toNat_lt
  have wordB := b.toNat_lt
  unfold subStep
  simp only [UInt32.lt_iff_toNat_lt, UInt32.toNat_sub]
  split_ifs with first second second <;> simp <;> omega

/-- multiprecision_sub subtracts modulo the weight of the list: the words out
and b make a, plus the weight when the borrow is set. -/
theorem multiprecisionSub_value (a b : List UInt32) (sized : a.length = b.length) :
    (multiprecisionSub a b).2.toNat ≤ 1 ∧
      value (multiprecisionSub a b).1 + value b =
        value a + 2 ^ (32 * a.length) * (multiprecisionSub a b).2.toNat := by
  simpa [multiprecisionSub] using ripple_sub subStep subStep_exact a b 0 sized (by decide)

theorem length_multiprecisionSub (a b : List UInt32) (sized : a.length = b.length) :
    (multiprecisionSub a b).1.length = a.length := by
  simp [multiprecisionSub, length_ripple, sized]

/-! ## The product -/

/-- One pass of the inner loop of multiprecision_mult: the low word of
a[i] * b[j] + U + c[i + j] and the new U. -/
def multStep (ai bj U cij : UInt32) : UInt32 × UInt32 :=
  let result := ai.toUInt64 * bj.toUInt64
  let W := (result >>> 32).toUInt32
  let V := ai * bj
  let V := V + U
  let U := if V < U then 1 else 0
  let U := U + W
  let V := V + cij
  (V, U + if V < cij then 1 else 0)

theorem multStep_exact (ai bj U cij : UInt32) :
    (multStep ai bj U cij).1.toNat + 2 ^ 32 * (multStep ai bj U cij).2.toNat =
      ai.toNat * bj.toNat + U.toNat + cij.toNat := by
  have product : ai.toNat * bj.toNat ≤ (2 ^ 32 - 1) * (2 ^ 32 - 1) :=
    Nat.mul_le_mul (by have := ai.toNat_lt; omega) (by have := bj.toNat_lt; omega)
  -- W is the high word of the 64-bit product, ai * bj its low word
  set W := ((ai.toUInt64 * bj.toUInt64) >>> 32).toUInt32
  have high : W.toNat = ai.toNat * bj.toNat / 2 ^ 32 := by
    have fits : ai.toNat * bj.toNat % 2 ^ 64 = ai.toNat * bj.toNat := Nat.mod_eq_of_lt (by omega)
    have shift : (32 : UInt64).toNat % 64 = 32 := rfl
    simp only [W, UInt64.toNat_toUInt32, UInt64.toNat_shiftRight, UInt64.toNat_mul, UInt32.toNat_toUInt64,
      fits, shift, Nat.shiftRight_eq_div_pow]
    omega
  have low : (ai * bj).toNat = ai.toNat * bj.toNat % 2 ^ 32 := UInt32.toNat_mul ai bj
  -- the two overflow tests are the carries of the two word sums
  have first := toNat_add_carry (ai * bj) U
  have second := toNat_add_carry (ai * bj + U) cij
  set c1 : UInt32 := if ai * bj + U < U then 1 else 0
  set c2 : UInt32 := if ai * bj + U + cij < cij then 1 else 0
  have bit1 : c1.toNat ≤ 1 := by
    by_cases overflow : ai * bj + U < U <;> simp [c1, overflow]
  have bit2 : c2.toNat ≤ 1 := by
    by_cases overflow : ai * bj + U + cij < cij <;> simp [c2, overflow]
  have wordU := U.toNat_lt
  have wordC := cij.toNat_lt
  show (ai * bj + U + cij).toNat + 2 ^ 32 * (c1 + W + c2).toNat = _
  rw [UInt32.toNat_add (c1 + W) c2, UInt32.toNat_add c1 W]
  omega

/-- The inner loop of multiprecision_mult for the word a[i], from b[j] on. -/
def multRow (ai : UInt32) (i : Nat) : Nat → UInt32 → List UInt32 → List UInt32 → List UInt32 × UInt32
  | _, U, c, [] => (c, U)
  | j, U, c, bj :: b =>
    let step := multStep ai bj U (c.getD (i + j) 0)
    multRow ai i (j + 1) step.2 (c.set (i + j) step.1) b

/-- The row for a[i] adds a[i] * b at the weight of c[i + j]: what it leaves in
c and its last U make c plus that product.  It writes nothing from
c[i + j + |b|] on. -/
theorem multRow_value (ai : UInt32) (i : Nat) :
    ∀ (b : List UInt32) (j : Nat) (U : UInt32) (c : List UInt32), i + j + b.length ≤ c.length →
      value (multRow ai i j U c b).1 + 2 ^ (32 * (i + j + b.length)) * (multRow ai i j U c b).2.toNat =
          value c + 2 ^ (32 * (i + j)) * (ai.toNat * value b + U.toNat) ∧
        (multRow ai i j U c b).1.length = c.length ∧
        ∀ k, i + j + b.length ≤ k → (multRow ai i j U c b).1.getD k 0 = c.getD k 0
  | [], j, U, c, _ => by simp [multRow]
  | bj :: b, j, U, c, room => by
    simp only [List.length_cons] at room
    set step := multStep ai bj U (c.getD (i + j) 0)
    rcases multRow_value ai i b (j + 1) step.2 (c.set (i + j) step.1) (by simp; omega) with
      ⟨rest, sized, above⟩
    have placed := value_set c (i + j) step.1 (by omega)
    have exact := multStep_exact ai bj U (c.getD (i + j) 0)
    simp only [multRow, List.length_set, List.length_cons] at rest sized above ⊢
    refine ⟨?_, sized, fun k far => ?_⟩
    · set W := 2 ^ (32 * (i + j))
      set row := multRow ai i (j + 1) step.2 (c.set (i + j) step.1) b
      have weight : 2 ^ (32 * (i + (j + 1))) = W * 2 ^ 32 := by
        rw [← Nat.pow_add]
        ring_nf
      rw [weight] at rest
      rw [show i + j + (b.length + 1) = i + (j + 1) + b.length by omega]
      apply Nat.add_right_cancel (m := W * (c.getD (i + j) 0).toNat)
      calc value row.1 + 2 ^ (32 * (i + (j + 1) + b.length)) * row.2.toNat + W * (c.getD (i + j) 0).toNat
          = value (c.set (i + j) step.1) + W * (c.getD (i + j) 0).toNat +
              W * 2 ^ 32 * (ai.toNat * value b + step.2.toNat) := by rw [rest]; ring
        _ = value c + W * (step.1.toNat + 2 ^ 32 * step.2.toNat) + W * 2 ^ 32 * (ai.toNat * value b) := by
            rw [placed]; ring
        _ = value c + W * (ai.toNat * bj.toNat + U.toNat + (c.getD (i + j) 0).toNat) +
              W * 2 ^ 32 * (ai.toNat * value b) := by rw [exact]
        _ = value c + W * (ai.toNat * (bj.toNat + 2 ^ 32 * value b) + U.toNat) +
              W * (c.getD (i + j) 0).toNat := by ring
    · rw [above k (by omega), getD_set_of_ne c _ _ (by omega)]

/-- The outer loop of multiprecision_mult: row i, then its carry into
c[i + KEY_LENGTH_DWORDS_P256]. -/
def multRows (b : List UInt32) : Nat → List UInt32 → List UInt32 → List UInt32
  | _, c, [] => c
  | i, c, ai :: a =>
    let row := multRow ai i 0 0 c b
    multRows b (i + 1) (row.1.set (i + keyLengthDwordsP256) row.2) a

/-- multiprecision_mult: the sixteen words of a * b. -/
def multiprecisionMult (a b : List UInt32) : List UInt32 :=
  multRows b 0 (List.replicate (2 * keyLengthDwordsP256) 0) a

/-- The rows from a[i] on add a * b at the weight of c[i], as long as the words
the rows carry into are still zero. -/
theorem multRows_value (b : List UInt32) (sized : b.length = keyLengthDwordsP256) :
    ∀ (a : List UInt32) (i : Nat) (c : List UInt32), c.length = 2 * keyLengthDwordsP256 →
      i + a.length ≤ keyLengthDwordsP256 → (∀ k, i + keyLengthDwordsP256 ≤ k → c.getD k 0 = 0) →
        value (multRows b i c a) = value c + 2 ^ (32 * i) * (value a * value b)
  | [], _, c, _, _, _ => by simp [multRows]
  | ai :: a, i, c, long, room, clear => by
    simp only [List.length_cons] at room
    rcases multRow_value ai i b 0 0 c (by rw [sized, long]; unfold keyLengthDwordsP256 at *; omega) with
      ⟨row, rowSized, above⟩
    simp only [Nat.add_zero, UInt32.toNat_zero, sized] at row above
    set out := multRow ai i 0 0 c b
    have carried := value_set out.1 (i + keyLengthDwordsP256) out.2 (by rw [rowSized, long]; omega)
    rw [above _ le_rfl, clear _ le_rfl, UInt32.toNat_zero, Nat.mul_zero, Nat.add_zero, row] at carried
    have rest := multRows_value b sized a (i + 1) (out.1.set (i + keyLengthDwordsP256) out.2)
      (by rw [List.length_set, rowSized, long]) (by omega)
      (fun k far => by rw [getD_set_of_ne _ _ _ (by omega), above k (by omega), clear k (by omega)])
    simp only [multRows, value_cons]
    rw [rest, carried, Nat.mul_add 32 i 1, Nat.pow_add]
    ring

/-- multiprecision_mult computes the product of two eight-word numbers. -/
theorem multiprecisionMult_value (a b : List UInt32) (sizedA : a.length = keyLengthDwordsP256)
    (sizedB : b.length = keyLengthDwordsP256) :
    value (multiprecisionMult a b) = value a * value b := by
  have rows := multRows_value b sizedB a 0 (List.replicate (2 * keyLengthDwordsP256) 0) List.length_replicate
    (by omega) (fun k _ => by simp only [List.getD_eq_getElem?_getD, List.getElem?_replicate]; split <;> rfl)
  simpa [multiprecisionMult, value_replicate_zero] using rows

theorem multiprecisionMult_value_sevens :
    (List.replicate 8 (7 : UInt32)).length = keyLengthDwordsP256 ∧
      value (multiprecisionMult (List.replicate 8 7) (List.replicate 8 7)) =
        value (List.replicate 8 7) * value (List.replicate 8 7) :=
  ⟨rfl, multiprecisionMult_value _ _ rfl rfl⟩

/-! ## multiprecision_fast_mod_P256 -/

/-- A word added into a partial sum with its carry counted in U: c += x;
U += (c < x). -/
def fastAdd (cu : UInt32 × UInt32) (x : UInt32) : UInt32 × UInt32 :=
  let c := cu.1 + x
  (c, cu.2 + if c < x then 1 else 0)

/-- A word subtracted from a partial sum with its borrow counted in U:
U -= (c < x); c -= x. -/
def fastSub (cu : UInt32 × UInt32) (x : UInt32) : UInt32 × UInt32 :=
  (cu.1 - x, cu.2 - if cu.1 < x then 1 else 0)

/-- The carry word of a sum of words added to U. -/
def fastCarryAdd (cu : UInt32 × UInt32) (carry : UInt8) : UInt32 × UInt32 :=
  (cu.1, cu.2 + carry.toUInt32)

/-- The carry word of a sum of words subtracted from U. -/
def fastCarrySub (cu : UInt32 × UInt32) (carry : UInt8) : UInt32 × UInt32 :=
  (cu.1, cu.2 - carry.toUInt32)

/-- The start of the words c[1] to c[7]: a[i] with the signed carry U of the
word below.  A negative U is subtracted, and U becomes (a[i] < -U). -/
def fastCarryIn (U ai : UInt32) : UInt32 × UInt32 :=
  if U &&& 0x80000000 ≠ 0 then
    let UU := 0 - U
    (ai - UU, if ai < UU then 1 else 0)
  else
    let c := ai + U
    (c, if c < ai then 1 else 0)

/-- The word sums of the reduction, each with its carry, as
multiprecision_fast_mod_P256 computes them. -/
structure FastSums where
  A : UInt32
  B : UInt32
  C : UInt32
  D : UInt32
  E : UInt32
  F : UInt32
  G : UInt32
  UA : UInt8
  UB : UInt8
  UC : UInt8
  UD : UInt8
  UE : UInt8
  UF : UInt8
  UG : UInt8

/-- C = a[13] + a[14] + a[15], E = a[8] + a[9], F = a[9] + a[10],
G = a[10] + a[11], B = C + a[12], A = B + a[11] - a[15] and
D = A + a[10] - a[14], with their carries in uint8_t. -/
def fastSums (a : List UInt32) : FastSums :=
  let C := a.getD 13 0
  let C := C + a.getD 14 0
  let UC : UInt8 := if C < a.getD 14 0 then 1 else 0
  let C := C + a.getD 15 0
  let UC := UC + if C < a.getD 15 0 then 1 else 0
  let E := a.getD 8 0 + a.getD 9 0
  let UE : UInt8 := if E < a.getD 9 0 then 1 else 0
  let F := a.getD 9 0 + a.getD 10 0
  let UF : UInt8 := if F < a.getD 10 0 then 1 else 0
  let G := a.getD 10 0 + a.getD 11 0
  let UG : UInt8 := if G < a.getD 11 0 then 1 else 0
  let B := C + a.getD 12 0
  let UB := UC + if B < a.getD 12 0 then 1 else 0
  let A := B + a.getD 11 0
  let UA := UB + if A < a.getD 11 0 then 1 else 0
  let UA := UA - if A < a.getD 15 0 then 1 else 0
  let A := A - a.getD 15 0
  let D := A + a.getD 10 0
  let UD := UA + if D < a.getD 10 0 then 1 else 0
  let UD := UD - if D < a.getD 14 0 then 1 else 0
  let D := D - a.getD 14 0
  ⟨A, B, C, D, E, F, G, UA, UB, UC, UD, UE, UF, UG⟩

/-- The eight words of the reduction before the correction by p, and the
signed carry U out of the top word. -/
def fastWords (a : List UInt32) : List UInt32 × UInt32 :=
  let s := fastSums a
  let c0 := a.getD 0 0 + s.E
  let U : UInt32 := if c0 < s.E then 1 else 0
  let U := U + s.UE.toUInt32
  let U := U - if c0 < s.A then 1 else 0
  let U := U - s.UA.toUInt32
  let c0 := c0 - s.A
  let w1 := fastCarrySub (fastSub (fastCarryAdd (fastAdd (fastCarryIn U (a.getD 1 0)) s.F) s.UF) s.B) s.UB
  let w2 := fastCarrySub (fastSub (fastCarryAdd (fastAdd (fastCarryIn w1.2 (a.getD 2 0)) s.G) s.UG) s.C) s.UC
  let w3 := fastCarrySub (fastSub (fastSub (fastSub (fastAdd (fastAdd (fastCarryAdd
    (fastAdd (fastCarryIn w2.2 (a.getD 3 0)) s.A) s.UA) (a.getD 11 0)) (a.getD 12 0)) (a.getD 14 0))
    (a.getD 15 0)) s.E) s.UE
  let w4 := fastCarrySub (fastSub (fastAdd (fastAdd (fastSub (fastCarryAdd
    (fastAdd (fastCarryIn w3.2 (a.getD 4 0)) s.B) s.UB) (a.getD 15 0)) (a.getD 12 0)) (a.getD 13 0)) s.F) s.UF
  let w5 := fastCarrySub (fastSub (fastAdd (fastAdd (fastCarryAdd
    (fastAdd (fastCarryIn w4.2 (a.getD 5 0)) s.C) s.UC) (a.getD 13 0)) (a.getD 14 0)) s.G) s.UG
  let w6 := fastCarrySub (fastSub (fastAdd (fastAdd (fastAdd (fastCarryAdd
    (fastAdd (fastCarryIn w5.2 (a.getD 6 0)) s.C) s.UC) (a.getD 14 0)) (a.getD 14 0)) (a.getD 15 0)) s.E) s.UE
  let w7 := fastCarrySub (fastSub (fastAdd (fastAdd (fastAdd (fastAdd
    (fastCarryIn w6.2 (a.getD 7 0)) (a.getD 15 0)) (a.getD 15 0)) (a.getD 15 0)) (a.getD 8 0)) s.D) s.UD
  ([c0, w1.1, w2.1, w3.1, w4.1, w5.1, w6.1, w7.1], w7.2)

/-- multiprecision_fast_mod_P256: the words of the reduction, then p added
once for each unit of a negative U or subtracted once for each unit of a
positive one, and a last subtraction of p when the result is not below it. -/
def multiprecisionFastModP256 (a : List UInt32) : List UInt32 :=
  let (c, U) := fastWords a
  let c :=
    if U &&& 0x80000000 ≠ 0 then (fun c => (multiprecisionAdd c curveP256P).1)^[(0 - U).toNat] c
    else (fun c => (multiprecisionSub c curveP256P).1)^[U.toNat] c
  if multiprecisionCompare c curveP256P ≥ 0 then (multiprecisionSub c curveP256P).1 else c

/-! ## Modular operations -/

/-- multiprecision_mersenns_mult_mod. -/
def multiprecisionMersennsMultMod (a b : List UInt32) : List UInt32 :=
  multiprecisionFastModP256 (multiprecisionMult a b)

/-- p256 - 1, least significant word first. -/
def pMinusOne : List UInt32 :=
  [0xFFFFFFFE, 0xFFFFFFFF, 0xFFFFFFFF, 0x0, 0x0, 0x0, 0x00000001, 0xFFFFFFFF]

/-- The product of p - 1 with itself is 1 modulo p, but the reduction of the
exact sixteen-word product gives 2^65 + 1: the first word carry is negative,
a[1] borrows from it, and the borrow is carried up as +1. -/
theorem multiprecisionMersennsMultMod_pMinusOne :
    value pMinusOne < p256 ∧ value pMinusOne * value pMinusOne % p256 = 1 ∧
      value (multiprecisionMersennsMultMod pMinusOne pMinusOne) = 2 ^ 65 + 1 := by
  decide +kernel

/-- multiprecision_mersenns_squa_mod. -/
def multiprecisionMersennsSquaMod (a : List UInt32) : List UInt32 :=
  multiprecisionMersennsMultMod a a

/-- multiprecision_add_mod, for a, b < p. -/
def multiprecisionAddMod (a b : List UInt32) : List UInt32 :=
  let (c, carrier) := multiprecisionAdd a b
  if carrier ≠ 0 then (multiprecisionSub c curveP256P).1
  else if multiprecisionCompare c curveP256P ≥ 0 then (multiprecisionSub c curveP256P).1
  else c

/-- A carry or borrow word that is at most 1 and not 0 is 1. -/
theorem toNat_eq_one_of_ne_zero {flag : UInt32} (small : flag.toNat ≤ 1) (set : flag ≠ 0) : flag.toNat = 1 := by
  have nonzero : flag.toNat ≠ 0 := fun zero => set (UInt32.toNat_inj.mp (by simpa using zero))
  omega

section Reduced

variable {a b : List UInt32} (sizedA : a.length = keyLengthDwordsP256)
  (sizedB : b.length = keyLengthDwordsP256)

include sizedA sizedB

/-- multiprecision_add_mod adds modulo p256 when both operands are reduced. -/
theorem multiprecisionAddMod_value (reducedA : value a < p256) (reducedB : value b < p256) :
    value (multiprecisionAddMod a b) = (value a + value b) % p256 := by
  rcases multiprecisionAdd_value a b (sizedA.trans sizedB.symm) with ⟨small, sum⟩
  have sized := length_multiprecisionAdd a b (sizedA.trans sizedB.symm)
  rw [sizedA] at sum
  unfold multiprecisionAddMod
  generalize multiprecisionAdd a b = out at small sum sized
  rcases out with ⟨c, carrier⟩
  dsimp only at small sum sized ⊢
  rw [sizedA] at sized
  have below := value_lt_of_length sized
  rcases multiprecisionSub_value c curveP256P (sized.trans length_curveP256P.symm) with ⟨borrowSmall, diff⟩
  have reduced := value_lt_of_length ((length_multiprecisionSub c _ (sized.trans length_curveP256P.symm)).trans sized)
  rw [value_curveP256P, sized] at diff
  have compared := multiprecisionCompare_nonneg_iff c curveP256P (sized.trans length_curveP256P.symm)
  rw [value_curveP256P] at compared
  simp only [keyLengthDwordsP256, p256_eq] at *
  split_ifs with carried large
  · have one := toNat_eq_one_of_ne_zero small carried
    rw [Nat.mod_eq_sub_mod (by omega), Nat.mod_eq_of_lt (by omega)]
    omega
  · have zero : carrier.toNat = 0 := by simp [not_not.mp carried]
    rw [Nat.mod_eq_sub_mod (by omega), Nat.mod_eq_of_lt (by omega)]
    omega
  · have zero : carrier.toNat = 0 := by simp [not_not.mp carried]
    rw [Nat.mod_eq_of_lt (by omega)]
    omega

end Reduced

theorem multiprecisionAddMod_value_small :
    value (1 :: List.replicate 7 0) < p256 ∧ value (5 :: List.replicate 7 0) < p256 ∧
      value (multiprecisionAddMod (1 :: List.replicate 7 0) (5 :: List.replicate 7 0)) =
        (value (1 :: List.replicate 7 0) + value (5 :: List.replicate 7 0)) % p256 := by
  have reducedA : value (1 :: List.replicate 7 0) < p256 := by decide
  have reducedB : value (5 :: List.replicate 7 0) < p256 := by decide
  exact ⟨reducedA, reducedB, multiprecisionAddMod_value rfl rfl reducedA reducedB⟩

/-- multiprecision_sub_mod, for a, b < p. -/
def multiprecisionSubMod (a b : List UInt32) : List UInt32 :=
  let (c, borrow) := multiprecisionSub a b
  if borrow ≠ 0 then (multiprecisionAdd c curveP256P).1 else c

section ReducedSub

variable {a b : List UInt32} (sizedA : a.length = keyLengthDwordsP256)
  (sizedB : b.length = keyLengthDwordsP256)

include sizedA sizedB

/-- multiprecision_sub_mod subtracts modulo p256 when both operands are reduced. -/
theorem multiprecisionSubMod_value (reducedA : value a < p256) (reducedB : value b < p256) :
    value (multiprecisionSubMod a b) = (value a + p256 - value b) % p256 := by
  rcases multiprecisionSub_value a b (sizedA.trans sizedB.symm) with ⟨small, diff⟩
  have sized := length_multiprecisionSub a b (sizedA.trans sizedB.symm)
  rw [sizedA] at diff
  unfold multiprecisionSubMod
  generalize multiprecisionSub a b = out at small diff sized
  rcases out with ⟨c, borrow⟩
  dsimp only at small diff sized ⊢
  rw [sizedA] at sized
  have below := value_lt_of_length sized
  rcases multiprecisionAdd_value c curveP256P (sized.trans length_curveP256P.symm) with ⟨carrySmall, sum⟩
  have reduced := value_lt_of_length ((length_multiprecisionAdd c _ (sized.trans length_curveP256P.symm)).trans sized)
  rw [value_curveP256P, sized] at sum
  simp only [keyLengthDwordsP256, p256_eq] at *
  split_ifs with borrowed
  · have one := toNat_eq_one_of_ne_zero small borrowed
    rw [Nat.mod_eq_of_lt] <;> omega
  · have zero : borrow.toNat = 0 := by simp [not_not.mp borrowed]
    rw [Nat.mod_eq_sub_mod, Nat.mod_eq_of_lt] <;> omega

end ReducedSub

theorem multiprecisionSubMod_value_borrow :
    value (1 :: List.replicate 7 0) < p256 ∧ value (5 :: List.replicate 7 0) < p256 ∧
      value (multiprecisionSubMod (1 :: List.replicate 7 0) (5 :: List.replicate 7 0)) =
        (value (1 :: List.replicate 7 0) + p256 - value (5 :: List.replicate 7 0)) % p256 := by
  have reducedA : value (1 :: List.replicate 7 0) < p256 := by decide
  have reducedB : value (5 :: List.replicate 7 0) < p256 := by decide
  exact ⟨reducedA, reducedB, multiprecisionSubMod_value rfl rfl reducedA reducedB⟩

end Smp
end BluetoothStack
