import Mathlib.Data.List.Infix

namespace ListSearch

/-!
# First occurrences of a pattern

`find text pattern pos` is the first index from `pos` at which `pattern`
occurs in `text`, the search of std::string::find.  It is characterised by
`find_eq_some_iff` and `find_eq_none_iff`; `find_bounds` is what a loop that
jumps past each match needs to terminate.

A split at the first occurrence of a separator undoes a join only when no
occurrence starts early, inside a piece and running on into the separator.
For a piece that does not contain the separator, that can only happen when
the separator has a border: a proper, non-empty suffix that is also a prefix,
as "a" is of "aa".  `not_prefix_of_unbordered` rules it out for separators
without one.
-/

variable {α : Type*}

/-- No non-empty proper suffix of the pattern is a prefix of it. -/
def Unbordered (pattern : List α) : Prop :=
  ∀ k < pattern.length, 0 < k → ¬ pattern.drop k <+: pattern

/-! ## Separators without borders -/

/-- A separator without a border that does not occur in a piece does not
start inside the piece, however the text goes on after the separator. -/
theorem not_prefix_of_unbordered {pattern piece : List α} (unbordered : Unbordered pattern)
    (free : ¬ pattern <:+: piece) {k : Nat} (inside : k < piece.length) (rest : List α) :
    ¬ pattern <+: piece.drop k ++ (pattern ++ rest) := by
  intro matched
  have taken := List.prefix_iff_eq_take.mp matched
  rw [List.take_append] at taken
  by_cases within : pattern.length ≤ (piece.drop k).length
  · -- the whole pattern lies in the piece
    have short : pattern.length - (piece.drop k).length = 0 := by omega
    rw [short, List.take_zero, List.append_nil] at taken
    have prefixOfTail : pattern <+: piece.drop k := List.prefix_iff_eq_take.mpr taken
    exact free (prefixOfTail.isInfix.trans (List.drop_suffix k piece).isInfix)
  · -- the pattern runs on into the separator: a border
    have whole : (piece.drop k).take pattern.length = piece.drop k := List.take_of_length_le (by omega)
    have own : (pattern ++ rest).take (pattern.length - (piece.drop k).length) =
        pattern.take (pattern.length - (piece.drop k).length) := List.take_append_of_le_length (by omega)
    rw [whole, own] at taken
    have border : pattern.drop (piece.drop k).length = pattern.take (pattern.length - (piece.drop k).length) := by
      conv_lhs => rw [taken]
      rw [List.drop_left]
    have positive : 0 < (piece.drop k).length := by
      rw [List.length_drop]
      omega
    exact unbordered (piece.drop k).length (by omega) positive (border ▸ List.take_prefix _ pattern)

/-! ## Searching -/

/-- A non-empty pattern that starts at `pos` ends within the text. -/
theorem length_le_of_prefix_drop {text pattern : List α} (nonempty : pattern ≠ []) {pos : Nat}
    (matched : pattern <+: text.drop pos) : pos + pattern.length ≤ text.length := by
  have fits := matched.length_le
  rw [List.length_drop] at fits
  by_cases inside : pos ≤ text.length
  · omega
  · have empty : text.drop pos = [] := List.drop_eq_nil_of_le (by omega)
    rw [empty, List.prefix_nil] at matched
    exact absurd matched nonempty

variable [DecidableEq α]

instance (pattern : List α) : Decidable (Unbordered pattern) :=
  inferInstanceAs (Decidable (∀ k < pattern.length, 0 < k → ¬ pattern.drop k <+: pattern))

/-- The first index from `pos` at which `pattern` occurs in `text`. -/
def find (text pattern : List α) (pos : Nat) : Option Nat :=
  if pos + pattern.length ≤ text.length then
    if pattern <+: text.drop pos then some pos else find text pattern (pos + 1)
  else none
termination_by text.length - pos
decreasing_by
  rename_i fits unmatched
  have nonempty : pattern ≠ [] := by
    rintro rfl
    exact unmatched (List.nil_prefix)
  have positive := List.length_pos_of_ne_nil nonempty
  omega

/-- A match at the first index from `pos` where there is one. -/
theorem find_eq_some_iff (text : List α) {pattern : List α} (nonempty : pattern ≠ []) (pos index : Nat) :
    find text pattern pos = some index ↔
      pos ≤ index ∧ pattern <+: text.drop index ∧ ∀ j, pos ≤ j → j < index → ¬ pattern <+: text.drop j := by
  fun_induction find text pattern pos with
  | case1 pos fits matched =>
    constructor
    · rintro ⟨⟩
      exact ⟨le_refl _, matched, fun j after before => absurd after (Nat.not_le_of_lt before)⟩
    · rintro ⟨after, matchedAt, earliest⟩
      by_cases same : pos = index
      · rw [same]
      · exact absurd matched (earliest pos (le_refl pos) (by omega))
  | case2 pos fits unmatched ih =>
    rw [ih]
    constructor
    · rintro ⟨after, matchedAt, earliest⟩
      refine ⟨by omega, matchedAt, fun j from_ before => ?_⟩
      by_cases same : j = pos
      · rw [same]
        exact unmatched
      · exact earliest j (by omega) before
    · rintro ⟨after, matchedAt, earliest⟩
      have moved : pos ≠ index := fun same => unmatched (same ▸ matchedAt)
      exact ⟨by omega, matchedAt, fun j from_ before => earliest j (by omega) before⟩
  | case3 pos short =>
    constructor
    · rintro ⟨⟩
    · rintro ⟨after, matchedAt, _⟩
      have fits := length_le_of_prefix_drop nonempty matchedAt
      omega

/-- No match from `pos` on. -/
theorem find_eq_none_iff (text : List α) {pattern : List α} (nonempty : pattern ≠ []) (pos : Nat) :
    find text pattern pos = none ↔ ∀ j, pos ≤ j → ¬ pattern <+: text.drop j := by
  fun_induction find text pattern pos with
  | case1 pos fits matched =>
    constructor
    · rintro ⟨⟩
    · intro never
      exact absurd matched (never pos (le_refl pos))
  | case2 pos fits unmatched ih =>
    rw [ih]
    constructor
    · intro never j from_
      by_cases same : j = pos
      · rw [same]
        exact unmatched
      · exact never j (by omega)
    · intro never j from_
      exact never j (by omega)
  | case3 pos short =>
    constructor
    · intro _ j from_ matchedAt
      have fits := length_le_of_prefix_drop nonempty matchedAt
      omega
    · intro _
      rfl

/-- A match lies between `pos` and the end of the text. -/
theorem find_bounds {text pattern : List α} (nonempty : pattern ≠ []) {pos index : Nat}
    (found : find text pattern pos = some index) : pos ≤ index ∧ index + pattern.length ≤ text.length := by
  obtain ⟨after, matchedAt, _⟩ := (find_eq_some_iff text nonempty pos index).mp found
  exact ⟨after, length_le_of_prefix_drop nonempty matchedAt⟩

/-- A one-element pattern that does not occur before its first place is found
there. -/
theorem find_singleton_of_not_mem {before : List α} {d : α} (after : List α) (missing : d ∉ before) :
    find (before ++ d :: after) [d] 0 = some before.length := by
  refine (find_eq_some_iff _ (List.cons_ne_nil d []) 0 _).mpr ⟨Nat.zero_le _, ?_, ?_⟩
  · rw [List.drop_left']
    · exact List.prefix_cons_inj d |>.mpr (List.nil_prefix)
    · rfl
  · intro j _ inside
    rw [List.drop_append_of_le_length (by omega), List.drop_eq_getElem_cons inside, List.cons_append,
      List.cons_prefix_cons]
    -- the element at j is one of before's, so it is not d
    exact fun ⟨same, _⟩ => missing (same ▸ List.getElem_mem inside)

end ListSearch
