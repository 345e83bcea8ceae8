import Mathlib.Order.MinMax

namespace StableQueue

/-!
# Priority-stable queues

A priority-stable queue holds items with priorities and hands out, each time,
the earliest of the items of greatest priority.  Its state here is the list of
the remaining items in the order they were pushed: a push appends, `front` is
the first item whose priority is the greatest one waiting, and `pop` removes
that item.

A `bucket` is the items of one priority, oldest first, and says what an
implementation must keep: a push appends to its own bucket only, and a pop
drops the head of the bucket of the greatest priority (`bucket_push_self`,
`bucket_eraseP_self`, `pop_of_greatest`).
-/

variable {α κ : Type*} [LinearOrder κ]

/-! ## The queue -/

/-- The greatest priority waiting. -/
def greatest (remaining : List (α × κ)) : Option κ :=
  (remaining.map Prod.snd).max?

/-- The earliest item among those of the greatest priority. -/
def front (remaining : List (α × κ)) : Option (α × κ) :=
  (greatest remaining).bind fun top => remaining.find? fun item => item.2 = top

/-- Remove the front item. -/
def pop (remaining : List (α × κ)) : List (α × κ) :=
  match greatest remaining with
  | none => remaining
  | some top => remaining.eraseP fun item => item.2 = top

/-- Add an item behind every item already there. -/
def push (item : α × κ) (remaining : List (α × κ)) : List (α × κ) :=
  remaining ++ [item]

/-- The items of priority `k`, oldest first. -/
def bucket (remaining : List (α × κ)) (k : κ) : List α :=
  (remaining.filter fun item => item.2 = k).map Prod.fst

/-! ## Greatest priorities -/

/-- The largest element of a list does not depend on its order. -/
theorem max?_eq_of_perm {xs ys : List κ} (perm : xs.Perm ys) : xs.max? = ys.max? := by
  apply Option.ext
  intro top
  rw [List.max?_eq_some_iff, List.max?_eq_some_iff]
  simp only [perm.mem_iff]

theorem greatest_eq_some_iff {remaining : List (α × κ)} {top : κ} :
    greatest remaining = some top ↔
      (∃ item ∈ remaining, item.2 = top) ∧ ∀ item ∈ remaining, item.2 ≤ top := by
  rw [greatest, List.max?_eq_some_iff, List.mem_map, List.forall_mem_map]

theorem greatest_eq_none_iff {remaining : List (α × κ)} : greatest remaining = none ↔ remaining = [] := by
  simp [greatest]

/-! ## Buckets -/

theorem bucket_push_self (item : α × κ) (remaining : List (α × κ)) :
    bucket (push item remaining) item.2 = bucket remaining item.2 ++ [item.1] := by
  simp [bucket, push]

theorem bucket_push_of_ne (item : α × κ) (remaining : List (α × κ)) {k : κ} (other : item.2 ≠ k) :
    bucket (push item remaining) k = bucket remaining k := by
  simp [bucket, push, other]

/-- Removing the first item of priority `k` drops the head of its bucket. -/
theorem bucket_eraseP_self (remaining : List (α × κ)) (k : κ) :
    bucket (remaining.eraseP fun item => item.2 = k) k = (bucket remaining k).tail := by
  induction remaining with
  | nil => rfl
  | cons first rest ih =>
    by_cases same : first.2 = k
    · rw [List.eraseP_cons_of_pos (by simpa using same)]
      simp [bucket, same]
    · have skipped : bucket (first :: rest) k = bucket rest k := by simp [bucket, same]
      rw [List.eraseP_cons_of_neg (by simpa using same), skipped, ← ih]
      simp [bucket, same]

/-- Removing an item of priority `k` leaves every other bucket alone. -/
theorem bucket_eraseP_of_ne (remaining : List (α × κ)) {j k : κ} (other : k ≠ j) :
    bucket (remaining.eraseP fun item => item.2 = k) j = bucket remaining j := by
  induction remaining with
  | nil => rfl
  | cons first rest ih =>
    by_cases same : first.2 = k
    · have skipped : first.2 ≠ j := same ▸ other
      rw [List.eraseP_cons_of_pos (by simpa using same)]
      simp [bucket, skipped]
    · rw [List.eraseP_cons_of_neg (by simpa using same)]
      simp only [bucket, List.filter_cons] at ih ⊢
      split <;> simp [ih]

theorem map_snd_eraseP (remaining : List (α × κ)) (k : κ) :
    (remaining.eraseP fun item => item.2 = k).map Prod.snd = (remaining.map Prod.snd).erase k := by
  induction remaining with
  | nil => rfl
  | cons first rest ih =>
    by_cases same : first.2 = k
    · rw [List.eraseP_cons_of_pos (by simpa using same)]
      simp [same]
    · rw [List.eraseP_cons_of_neg (by simpa using same)]
      simp [same, ih]

/-- The head of a bucket is the first item of its priority. -/
theorem head?_bucket (remaining : List (α × κ)) (k : κ) :
    (bucket remaining k).head? = (remaining.find? fun item => item.2 = k).map Prod.fst := by
  rw [bucket, List.head?_map, List.head?_filter]

/-! ## Popping -/

theorem pop_of_greatest {remaining : List (α × κ)} {top : κ} (found : greatest remaining = some top) :
    pop remaining = remaining.eraseP fun item => item.2 = top := by
  rw [pop, found]

theorem length_pop {remaining : List (α × κ)} (waiting : remaining ≠ []) :
    (pop remaining).length + 1 = remaining.length := by
  obtain ⟨top, found⟩ := Option.ne_none_iff_exists'.mp (mt greatest_eq_none_iff.mp waiting)
  obtain ⟨⟨item, member, atTop⟩, _⟩ := greatest_eq_some_iff.mp found
  rw [pop_of_greatest found, List.length_eraseP_of_mem member (by simpa using atTop)]
  have nonempty : 0 < remaining.length := List.length_pos_of_mem member
  omega

end StableQueue
