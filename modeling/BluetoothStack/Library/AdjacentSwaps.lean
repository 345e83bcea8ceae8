import Mathlib.Data.List.Sort

namespace AdjacentSwaps

/-!
# Sorting by swaps of adjacent pairs

A sort that only ever exchanges two neighbours standing in the wrong order
keeps the multiset of its list, and each exchange removes exactly one
inversion: the pair it exchanges, while every other pair keeps its order.
The number of inversions is therefore the measure of any such sort, however
it chooses the next pair (`inversions_swapAt`), and it is at most the square
of the length (`inversions_le`).

`swapAt` exchanges the neighbours at positions `k` and `k + 1`; it is the
pair of element writes a C loop performs (`swapAt_eq_set`), and it leaves
every position past `k + 1` alone (`take_swapAt`, `drop_swapAt`).
-/

variable {α : Type*}

/-! ## Exchanges -/

/-- The list with its elements at positions `k` and `k + 1` exchanged. -/
def swapAt : Nat → List α → List α
  | 0, a :: b :: rest => b :: a :: rest
  | k + 1, x :: xs => x :: swapAt k xs
  | _, xs => xs

theorem swapAt_zero (a b : α) (rest : List α) : swapAt 0 (a :: b :: rest) = b :: a :: rest := rfl

theorem swapAt_succ (k : Nat) (x : α) (xs : List α) : swapAt (k + 1) (x :: xs) = x :: swapAt k xs := rfl

/-- An exchange keeps the elements. -/
theorem perm_swapAt : ∀ (k : Nat) (xs : List α), (swapAt k xs).Perm xs
  | 0, a :: b :: rest => List.Perm.swap a b rest
  | k + 1, x :: xs => (perm_swapAt k xs).cons x
  | 0, [] | 0, [_] | _ + 1, [] => List.Perm.refl _

theorem length_swapAt (k : Nat) (xs : List α) : (swapAt k xs).length = xs.length :=
  (perm_swapAt k xs).length_eq

/-- The two element writes of an exchange. -/
theorem swapAt_eq_set : ∀ (k : Nat) (xs : List α) (inside : k + 1 < xs.length),
    swapAt k xs = (xs.set k xs[k + 1]).set (k + 1) xs[k]
  | 0, a :: b :: rest, _ => rfl
  | k + 1, x :: xs, inside => by
    rw [swapAt_succ, swapAt_eq_set k xs (by simpa using inside)]
    rfl

/-- An exchange before position `m` commutes with cutting the list there. -/
theorem take_swapAt : ∀ (k : Nat) (xs : List α) {m : Nat}, k + 1 < m → k + 1 < xs.length →
    (swapAt k xs).take m = swapAt k (xs.take m)
  | 0, a :: b :: rest, m + 2, _, _ => rfl
  | k + 1, x :: xs, m + 1, before, inside => by
    rw [swapAt_succ, List.take_succ_cons, List.take_succ_cons, swapAt_succ,
      take_swapAt k xs (by omega) (by simpa using inside)]

/-- An exchange before position `m` leaves the list from `m` on alone. -/
theorem drop_swapAt : ∀ (k : Nat) (xs : List α) {m : Nat}, k + 1 < m → k + 1 < xs.length →
    (swapAt k xs).drop m = xs.drop m
  | 0, a :: b :: rest, m + 2, _, _ => rfl
  | k + 1, x :: xs, m + 1, before, inside => by
    rw [swapAt_succ, List.drop_succ_cons, List.drop_succ_cons,
      drop_swapAt k xs (by omega) (by simpa using inside)]

/-! ## Inversions -/

variable [LinearOrder α]

/-- The inversions of a list: for each element, the later elements below it. -/
def inversions : List α → Nat
  | [] => 0
  | x :: xs => xs.countP (· < x) + inversions xs

/-- Exchanging an inverted pair of neighbours removes exactly one inversion. -/
theorem inversions_swapAt : ∀ (k : Nat) (xs : List α) (inside : k + 1 < xs.length),
    xs[k + 1] < xs[k] → inversions (swapAt k xs) + 1 = inversions xs
  | 0, a :: b :: rest, _, inverted => by
    have below : ¬ a < b := not_lt_of_gt inverted
    simp only [List.getElem_cons_succ, List.getElem_cons_zero] at inverted
    simp only [swapAt_zero, inversions, List.countP_cons, inverted, below, decide_true, decide_false,
      if_true, Bool.false_eq_true, if_false]
    omega
  | k + 1, x :: xs, inside, inverted => by
    have inner := inversions_swapAt k xs (by simpa using inside) (by simpa using inverted)
    rw [swapAt_succ, inversions, inversions, (perm_swapAt k xs).countP_eq]
    omega

/-- A list has at most as many inversions as pairs of positions. -/
theorem inversions_le : ∀ xs : List α, inversions xs ≤ xs.length * xs.length
  | [] => le_refl 0
  | x :: xs => by
    have counted : xs.countP (· < x) ≤ xs.length := List.countP_le_length
    have rest := inversions_le xs
    rw [inversions, List.length_cons, Nat.succ_mul_succ]
    omega

/-- A list whose neighbours are in order is sorted. -/
theorem sortedLE_of_adjacent {xs : List α} (adjacent : ∀ j (inside : j + 1 < xs.length), xs[j] ≤ xs[j + 1]) :
    xs.SortedLE :=
  List.IsChain.sortedLE (List.isChain_iff_getElem.mpr adjacent)

end AdjacentSwaps
