import Mathlib.Data.List.Basic
import Mathlib.Logic.Function.Basic

namespace BluetoothStack
namespace ArrayMoves

/-!
# Moving entries of an array in place

C code inserts into a sorted array by copying each entry one slot up, from the
end down to the place of the new entry, and deletes from it by copying each
entry one slot down, from the place of the old entry to the end; it compacts
a byte buffer by copying each byte a gap down.  An array is a list here and
one copy is `List.set`, a buffer is a function from positions and one copy is
`Function.update`, and each loop is structural in the number of copies.

The insertion loop is characterised entry by entry (`shiftUp_getElem?`): a
copy never reads an entry an earlier copy of the same loop wrote, so each
entry ends up as the one a slot below.  From that the prefix of an array in
use after an insertion is `List.insertIdx` (`take_set_shiftUp`).
-/

variable {α : Type*}

/-- `for (yy = top; count copies; yy--) a[yy] = a[yy - 1]`. -/
def shiftUp (a : List α) (top : Nat) : Nat → List α
  | 0 => a
  | count + 1 =>
      match a[top - 1]? with
      | some below => shiftUp (a.set top below) (top - 1) count
      | none => shiftUp a (top - 1) count

/-- `for (zz = bottom; count copies; zz++) a[zz] = a[zz + 1]`. -/
def shiftDown (a : List α) (bottom : Nat) : Nat → List α
  | 0 => a
  | count + 1 =>
      match a[bottom + 1]? with
      | some above => shiftDown (a.set bottom above) (bottom + 1) count
      | none => shiftDown a (bottom + 1) count

/-- `for (zz = 0; zz < count; zz++, dst++) *dst = *(dst + gap)` on a buffer. -/
def moveDown (buf : Nat → α) (dst gap : Nat) : Nat → Nat → α
  | 0 => buf
  | count + 1 => moveDown (Function.update buf dst (buf (dst + gap))) (dst + 1) gap count

/-- `memcpy(dst, src, count)` into a buffer. -/
def copyInto (buf : Nat → α) (dst count : Nat) (src : Nat → α) : Nat → α :=
  fun i => if dst ≤ i ∧ i < dst + count then src (i - dst) else buf i

section Entries

variable {a : List α}

@[simp]
theorem shiftUp_length (top count : Nat) : (shiftUp a top count).length = a.length := by
  induction count generalizing a top with
  | zero => rfl
  | succ count ih =>
      unfold shiftUp
      split
      · rw [ih, List.length_set]
      · rw [ih]

@[simp]
theorem shiftDown_length (bottom count : Nat) : (shiftDown a bottom count).length = a.length := by
  induction count generalizing a bottom with
  | zero => rfl
  | succ count ih =>
      unfold shiftDown
      split
      · rw [ih, List.length_set]
      · rw [ih]

/-- Shifting up `count` entries below `top` leaves each of them the entry
below it, and every other entry as it was. -/
theorem shiftUp_getElem? {top count : Nat} (enough : count ≤ top) (inside : top < a.length) (i : Nat) :
    (shiftUp a top count)[i]? = if top - count < i ∧ i ≤ top then a[i - 1]? else a[i]? := by
  induction count generalizing a top with
  | zero =>
      have outside : ¬(top - 0 < i ∧ i ≤ top) := fun within => by omega
      rw [if_neg outside]
      rfl
  | succ count ih =>
      have below : a[top - 1]? = some a[top - 1] := List.getElem?_eq_getElem (by omega)
      rw [shiftUp, below]
      dsimp only
      rw [ih (by omega) (by rw [List.length_set]; omega), List.getElem?_set, List.getElem?_set]
      -- the copy at `top` is the only write; the later copies read below it
      by_cases at_top : i = top
      · subst at_top
        rw [if_neg (by omega), if_pos rfl, if_pos inside, if_pos (by omega), below]
      · by_cases moved : top - 1 - count < i ∧ i ≤ top - 1
        · rw [if_pos moved, if_neg (by omega), if_pos (by omega)]
        · rw [if_neg moved, if_neg (Ne.symm at_top), if_neg (by omega)]

/-- An insertion: shifting up the entries from `xx` of the `num` in use and
writing the new entry at `xx` leaves the first `num + 1` entries as the first
`num` with the new one inserted. -/
theorem take_set_shiftUp {xx num : Nat} (b : α) (place : xx ≤ num) (room : num < a.length) :
    ((shiftUp a num (num - xx)).set xx b).take (num + 1) = (a.take num).insertIdx xx b := by
  apply List.ext_getElem?
  intro i
  rw [List.getElem?_take, List.getElem?_set, shiftUp_getElem? (by omega) room, List.getElem?_insertIdx,
    shiftUp_length, List.length_take]
  by_cases early : i < xx
  · rw [if_pos (by omega), if_neg (by omega), if_neg (by omega), if_pos early, List.getElem?_take, if_pos (by omega)]
  · by_cases here : i = xx
    · subst here
      rw [if_pos (by omega), if_pos rfl, if_pos (by omega), if_neg (Nat.lt_irrefl i), if_pos rfl,
        if_pos (by omega)]
    · by_cases inUse : i < num + 1
      · rw [if_pos inUse, if_neg (Ne.symm here), if_pos (by omega), if_neg early, if_neg here,
          List.getElem?_take, if_pos (by omega)]
      · rw [if_neg inUse, if_neg early, if_neg here, List.getElem?_take, if_neg (by omega)]

/-- After an insertion whose count is not raised, what is in use is the new
entry or one of the old entries but the last. -/
theorem mem_take_insertIdx {xx : Nat} {b c : α} (place : xx < a.length)
    (member : c ∈ (a.insertIdx xx b).take a.length) : c = b ∨ ∃ j, j + 1 < a.length ∧ a[j]? = some c := by
  obtain ⟨i, found⟩ := List.mem_iff_getElem?.mp member
  rw [List.getElem?_take, List.getElem?_insertIdx] at found
  split_ifs at found with inUse early here
  · exact Or.inr ⟨i, by omega, found⟩
  · exact Or.inl (Option.some.inj found).symm
  · exact Or.inr ⟨i - 1, by omega, found⟩

end Entries

end ArrayMoves
end BluetoothStack
