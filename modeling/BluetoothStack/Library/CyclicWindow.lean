import Mathlib.Data.List.Basic
import Mathlib.Data.List.Nodup
import Mathlib.Tactic.Ring

namespace BluetoothStack
namespace CyclicWindow

/-!
# Runs of consecutive residues

A sliding-window sender numbers its frames modulo `m` and keeps the frames it
has sent but not yet seen acknowledged in sending order.  When nothing is
lost or reordered, the sequence numbers of that queue form a *run*: the
residues `first, first + 1, …, first + count - 1`, each taken modulo `m`.

This file develops the arithmetic of such runs independently of any protocol.
`modSub m upper lower` counts the steps from `lower` forward to `upper`; a
cyclic interval is described by that count, and a run is cut by it.  The
lemmas are exactly those a window invariant needs: appending the next number,
dropping an acknowledged prefix, and locating an element by its distance from
the start of the run.
-/

/-- Subtraction of residues: the number of steps from `lower` forward to
`upper` modulo `m`.  For `lower, upper < m` this is `(upper - lower) mod m`
taken in the integers. -/
def modSub (m upper lower : Nat) : Nat :=
  (upper + (m - lower % m)) % m

/-- The `count` consecutive residues modulo `m` that start at `first`. -/
def run (m first count : Nat) : List Nat :=
  (List.range count).map fun offset => (first + offset) % m

/-- `x` lies in the cyclic interval from `lower` to `upper` with both ends
included: walking forward from `lower`, one meets `x` no later than `upper`. -/
def InClosed (m lower upper x : Nat) : Prop :=
  modSub m x lower ≤ modSub m upper lower

/-- `x` lies in the cyclic interval from `lower` up to, but excluding, `upper`. -/
def InHalfOpen (m lower upper x : Nat) : Prop :=
  modSub m x lower < modSub m upper lower

instance (m lower upper x : Nat) : Decidable (InClosed m lower upper x) :=
  inferInstanceAs (Decidable (_ ≤ _))

instance (m lower upper x : Nat) : Decidable (InHalfOpen m lower upper x) :=
  inferInstanceAs (Decidable (_ < _))

/-! ## Subtraction of residues -/

theorem modSub_lt {m : Nat} (positive : 0 < m) (upper lower : Nat) :
    modSub m upper lower < m :=
  Nat.mod_lt _ positive

/-- Adding the complement of a residue gives a multiple of the modulus. -/
theorem add_sub_mod_self {m : Nat} (positive : 0 < m) (lower : Nat) :
    (lower + (m - lower % m)) % m = 0 := by
  have bound : lower % m < m := Nat.mod_lt _ positive
  rw [← Nat.mod_add_mod]
  have regroup : lower % m + (m - lower % m) = m := by omega
  rw [regroup, Nat.mod_self]

/-- The distance from `lower` to a residue reached after `offset` steps,
written with the complement of `lower`: the complement cancels `lower`. -/
theorem add_add_sub_mod {m : Nat} (positive : 0 < m) (lower offset : Nat) :
    (lower + offset + (m - lower % m)) % m = offset % m := by
  rw [Nat.add_right_comm, ← Nat.mod_add_mod, add_sub_mod_self positive, Nat.zero_add]

/-- Going forward from `lower` by `modSub m upper lower` steps lands on `upper`. -/
theorem add_modSub_mod {m : Nat} (positive : 0 < m) (upper lower : Nat) :
    (lower + modSub m upper lower) % m = upper % m := by
  have bound : lower % m < m := Nat.mod_lt _ positive
  unfold modSub
  rw [Nat.add_mod_mod, ← Nat.mod_add_mod lower]
  have regroup : lower % m + (upper + (m - lower % m)) = upper + m := by omega
  rw [regroup, Nat.add_mod_right]

/-- The distance from a residue to itself is zero. -/
@[simp]
theorem modSub_self {m : Nat} (positive : 0 < m) (lower : Nat) :
    modSub m lower lower = 0 :=
  add_sub_mod_self positive lower

/-- The distance from `lower` to `lower + offset` is `offset`, for offsets
below the modulus. -/
theorem modSub_add_mod {m : Nat} (lower offset : Nat) (small : offset < m) :
    modSub m ((lower + offset) % m) lower = offset := by
  have positive : 0 < m := by omega
  unfold modSub
  rw [Nat.mod_add_mod, add_add_sub_mod positive, Nat.mod_eq_of_lt small]

/-- Advancing `upper` by one step advances the distance by one, as long as
the distance does not wrap. -/
theorem modSub_succ {m : Nat} (upper lower : Nat) (room : modSub m upper lower + 1 < m) :
    modSub m ((upper + 1) % m) lower = modSub m upper lower + 1 := by
  have positive : 0 < m := by omega
  have start := add_modSub_mod positive upper lower
  have advanced : (upper + 1) % m = (lower + (modSub m upper lower + 1)) % m := by
    rw [← Nat.mod_add_mod upper, ← start, Nat.mod_add_mod, Nat.add_assoc]
  rw [advanced]
  exact modSub_add_mod lower _ room

/-- Distances compose: from `lower` to `upper` is from `lower` to `middle`
and then from `middle` to `upper`, whenever `middle` comes first. -/
theorem modSub_sub {m : Nat} (positive : 0 < m) {upper middle lower : Nat}
    (first : modSub m middle lower ≤ modSub m upper lower) (middleSmall : middle < m) :
    modSub m upper middle = modSub m upper lower - modSub m middle lower := by
  have toMiddle := add_modSub_mod positive middle lower
  have toUpper := add_modSub_mod positive upper lower
  have upperBound := modSub_lt positive upper lower
  rw [Nat.mod_eq_of_lt middleSmall] at toMiddle
  generalize modSub m middle lower = toMiddleSteps at first toMiddle
  generalize modSub m upper lower = toUpperSteps at first toUpper upperBound
  have small : toUpperSteps - toMiddleSteps < m := by omega
  have shifted : (middle + (toUpperSteps - toMiddleSteps)) % m = upper % m := by
    rw [← toUpper, ← toMiddle, Nat.mod_add_mod, Nat.add_assoc, Nat.add_sub_cancel' first]
  calc modSub m upper middle
      = modSub m (upper % m) middle := by simp only [modSub, Nat.mod_add_mod]
    _ = modSub m ((middle + (toUpperSteps - toMiddleSteps)) % m) middle := by rw [shifted]
    _ = toUpperSteps - toMiddleSteps := modSub_add_mod middle _ small

/-! ## Runs -/

@[simp]
theorem run_length (m first count : Nat) : (run m first count).length = count := by
  simp [run]

@[simp]
theorem run_zero (m first : Nat) : run m first 0 = [] := rfl

/-- Extending a run appends the next residue. -/
theorem run_succ (m first count : Nat) :
    run m first (count + 1) = run m first count ++ [(first + count) % m] := by
  simp [run, List.range_succ]

/-- Dropping a prefix of a run leaves the run that starts further on. -/
theorem run_drop (m first count steps : Nat) :
    (run m first count).drop steps = run m ((first + steps) % m) (count - steps) := by
  apply List.ext_getElem
  · simp
  · intro index _ _
    simp only [run, List.getElem_drop, List.getElem_map, List.getElem_range]
    rw [Nat.mod_add_mod, Nat.add_assoc]

/-- Taking a prefix of a run gives the shorter run. -/
theorem run_take (m first count steps : Nat) :
    (run m first count).take steps = run m first (min steps count) := by
  unfold run
  rw [← List.map_take, List.take_range]

/-- A run depends only on the residue it starts at. -/
theorem run_mod (m first count : Nat) : run m (first % m) count = run m first count := by
  simp only [run, Nat.mod_add_mod]

/-- A run and the run that starts where it stops make one run. -/
theorem run_append (m first count more : Nat) :
    run m first (count + more) = run m first count ++ run m ((first + count) % m) more := by
  induction more with
  | zero => simp
  | succ more ih =>
    rw [← Nat.add_assoc, run_succ, ih, run_succ, List.append_assoc, Nat.mod_add_mod, Nat.add_assoc]

/-- A run starts with its first residue. -/
theorem run_succ_left (m first count : Nat) :
    run m first (count + 1) = first % m :: run m ((first + 1) % m) count := by
  rw [Nat.add_comm count 1, run_append]
  rfl

/-- A nonempty run ends with the residue `count - 1` steps on. -/
theorem run_getLast? (m first count : Nat) :
    (run m first (count + 1)).getLast? = some ((first + count) % m) := by
  simp [run_succ]

/-- A run no longer than the modulus repeats no residue: each element is
told apart by its distance from the start. -/
theorem run_nodup {m : Nat} (first : Nat) {count : Nat} (fits : count ≤ m) :
    (run m first count).Nodup := by
  unfold run
  apply List.Nodup.map_on _ List.nodup_range
  intro offset below offset' below' same
  rw [List.mem_range] at below below'
  have distance := modSub_add_mod first offset (by omega : offset < m)
  rw [same, modSub_add_mod first offset' (by omega)] at distance
  exact distance.symm

/-- Each element of a run with `count ≤ m` sits at its distance from the start. -/
theorem modSub_of_mem_run {m first count x : Nat} (fits : count ≤ m)
    (member : x ∈ run m first count) :
    ∃ offset, offset < count ∧ x = (first + offset) % m ∧ modSub m x first = offset := by
  simp only [run, List.mem_map, List.mem_range] at member
  obtain ⟨offset, below, rfl⟩ := member
  exact ⟨offset, below, rfl, modSub_add_mod first offset (by omega)⟩

/-! ## Labelled runs

A list whose elements carry labels that form a run is cut by distance from
its start exactly where the run is: the first `steps` elements are those
less than `steps` away. -/

section Labelled

variable {α : Type*} {m first count : Nat} {l : List α} {label : α → Nat}

theorem modSub_lt_of_mem_take (labels : l.map label = run m first count) (fits : count ≤ m)
    {steps : Nat} {a : α} (member : a ∈ l.take steps) : modSub m (label a) first < steps := by
  have labelled : label a ∈ run m first (min steps count) := by
    rw [← run_take, ← labels, ← List.map_take]
    exact List.mem_map_of_mem member
  obtain ⟨offset, below, -, distance⟩ := modSub_of_mem_run (by omega) labelled
  omega

theorem le_modSub_of_mem_drop (labels : l.map label = run m first count) (fits : count ≤ m)
    {steps : Nat} {a : α} (member : a ∈ l.drop steps) : steps ≤ modSub m (label a) first := by
  have labelled : label a ∈ run m ((first + steps) % m) (count - steps) := by
    rw [← run_drop, ← labels, ← List.map_drop]
    exact List.mem_map_of_mem member
  obtain ⟨offset, below, located, -⟩ := modSub_of_mem_run (by omega) labelled
  have distance : modSub m (label a) first = steps + offset := by
    rw [located, Nat.mod_add_mod, Nat.add_assoc]
    exact modSub_add_mod first _ (by omega)
  omega

/-- The elements of a labelled run whose labels lie in the cyclic interval
from the start up to `upper` are its first `modSub m upper first`. -/
theorem filter_inHalfOpen (labels : l.map label = run m first count) (fits : count ≤ m)
    (upper : Nat) :
    l.filter (fun a => decide (InHalfOpen m first upper (label a))) =
      l.take (modSub m upper first) := by
  have near : ∀ a ∈ l.take (modSub m upper first),
      decide (InHalfOpen m first upper (label a)) = true :=
    fun a member => decide_eq_true (modSub_lt_of_mem_take labels fits member)
  have far : ∀ a ∈ l.drop (modSub m upper first),
      ¬decide (InHalfOpen m first upper (label a)) = true := by
    intro a member
    have outside : ¬InHalfOpen m first upper (label a) :=
      Nat.not_lt.mpr (le_modSub_of_mem_drop labels fits member)
    simp [outside]
  conv_lhs => rw [← List.take_append_drop (modSub m upper first) l]
  rw [List.filter_append, List.filter_eq_self.mpr near, List.filter_eq_nil_iff.mpr far,
    List.append_nil]

/-- The elements of a labelled run whose labels lie outside that interval are
the rest. -/
theorem filter_not_inHalfOpen (labels : l.map label = run m first count) (fits : count ≤ m)
    (upper : Nat) :
    l.filter (fun a => !decide (InHalfOpen m first upper (label a))) =
      l.drop (modSub m upper first) := by
  have near : ∀ a ∈ l.take (modSub m upper first),
      ¬(!decide (InHalfOpen m first upper (label a))) = true := by
    intro a member
    have inside : InHalfOpen m first upper (label a) := modSub_lt_of_mem_take labels fits member
    simp [inside]
  have far : ∀ a ∈ l.drop (modSub m upper first),
      (!decide (InHalfOpen m first upper (label a))) = true := by
    intro a member
    have outside : ¬InHalfOpen m first upper (label a) :=
      Nat.not_lt.mpr (le_modSub_of_mem_drop labels fits member)
    simp [outside]
  conv_lhs => rw [← List.take_append_drop (modSub m upper first) l]
  rw [List.filter_append, List.filter_eq_nil_iff.mpr near, List.filter_eq_self.mpr far,
    List.nil_append]

end Labelled

/-! ## Sliding-window senders

A sender that numbers its frames modulo `m` keeps three things: the number
the next new frame takes, the number of the oldest frame not yet
acknowledged, and the frames awaiting acknowledgement in sending order.  A
new frame is appended under the next number; an acknowledgement up to some
number releases the frames before it.  The window is valid when the labels
of the pending frames are the run from the oldest number up to the next. -/

/-- The state of a sliding-window sender over frames of type `α`. -/
structure Window (α : Type*) where
  next : Nat
  oldest : Nat
  pending : List α

namespace Window

variable {α : Type*} {m : Nat} {label : α → Nat} {w : Window α}

/-- Sending a new frame: it waits under the next number, which advances. -/
def push (m : Nat) (w : Window α) (frame : α) : Window α :=
  { w with next := (w.next + 1) % m, pending := w.pending ++ [frame] }

/-- An acknowledgement of every frame before `upTo`: the frames from the
oldest up to it are released. -/
def acknowledge (m : Nat) (w : Window α) (upTo : Nat) : Window α :=
  { w with oldest := upTo, pending := w.pending.drop (modSub m upTo w.oldest) }

/-- The window invariant: both numbers are residues, and the pending frames
carry, in order, the numbers from the oldest up to, but excluding, the next. -/
structure Valid (m : Nat) (label : α → Nat) (w : Window α) : Prop where
  next_lt : w.next < m
  oldest_lt : w.oldest < m
  labels : w.pending.map label = run m w.oldest (modSub m w.next w.oldest)

theorem Valid.length_eq (valid : w.Valid m label) :
    w.pending.length = modSub m w.next w.oldest := by
  simpa using congrArg List.length valid.labels

/-- A window with nothing pending is valid. -/
theorem valid_of_pending_nil (next_lt : w.next < m) (same : w.oldest = w.next)
    (empty : w.pending = []) : w.Valid m label where
  next_lt := next_lt
  oldest_lt := same ▸ next_lt
  labels := by rw [empty, same, modSub_self (by omega), run_zero, List.map_nil]

/-- Sending under the next number keeps the window valid while the pending
frames stay fewer than `m`. -/
theorem Valid.push (valid : w.Valid m label) {frame : α} (labelled : label frame = w.next)
    (room : w.pending.length + 1 < m) : (w.push m frame).Valid m label where
  next_lt := Nat.mod_lt _ (by omega)
  oldest_lt := valid.oldest_lt
  labels := by
    have positive : 0 < m := by omega
    have distance : modSub m w.next w.oldest + 1 < m := valid.length_eq ▸ room
    simp only [Window.push, List.map_append, List.map_cons, List.map_nil, valid.labels,
      labelled]
    rw [modSub_succ _ _ distance, run_succ, add_modSub_mod positive,
      Nat.mod_eq_of_lt valid.next_lt]

/-- An acknowledgement up to a number in the closed interval from the
oldest to the next keeps the window valid. -/
theorem Valid.acknowledge (valid : w.Valid m label) {upTo : Nat}
    (inWindow : InClosed m w.oldest w.next upTo) (small : upTo < m) :
    (w.acknowledge m upTo).Valid m label where
  next_lt := valid.next_lt
  oldest_lt := small
  labels := by
    have positive : 0 < m := by omega
    simp only [Window.acknowledge, List.map_drop, valid.labels, run_drop]
    rw [add_modSub_mod positive, Nat.mod_eq_of_lt small, modSub_sub positive inWindow small]

/-- An acknowledgement up to `upTo` releases exactly the pending frames
whose numbers lie in the interval from the oldest up to `upTo`, keeps the
others in order, and the released frames come first. -/
theorem Valid.acknowledge_pending (valid : w.Valid m label) (upTo : Nat) :
    (w.acknowledge m upTo).pending =
        w.pending.filter (fun a => !decide (InHalfOpen m w.oldest upTo (label a))) ∧
      w.pending = w.pending.filter (fun a => decide (InHalfOpen m w.oldest upTo (label a))) ++
        (w.acknowledge m upTo).pending := by
  have fits : modSub m w.next w.oldest ≤ m := (modSub_lt (by have := valid.next_lt; omega) _ _).le
  rw [filter_not_inHalfOpen valid.labels fits, filter_inHalfOpen valid.labels fits]
  exact ⟨rfl, (List.take_append_drop _ _).symm⟩

end Window

end CyclicWindow
end BluetoothStack
