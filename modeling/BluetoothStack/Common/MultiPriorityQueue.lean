import Mathlib.Order.Fin.Basic
import Mathlib.Algebra.GroupWithZero.Nat
import BluetoothStack.Library.StableQueue
import BluetoothStack.Library.Simulation

namespace BluetoothStack
namespace Common

/-!
# MultiPriorityQueue as common/multi_priority_queue.h builds it

The queue keeps one std::queue per priority level, queues_, and
next_to_dequeue_, a std::priority_queue<int> that holds one copy of the
priority of every queued item.  push() appends to the queue of its priority
and pushes the priority; front() and pop() read and drop the head of the
queue that the top priority names.  The priority queue is read as the
multiset of its elements: top() is their maximum and pop() removes one copy
of it.  A priority outside [0, NUM_PRIORITY_LEVELS) would index past queues_,
so a priority is a `Fin levels`; front() and pop() on an empty queue are
undefined and are none.

The abstract model is `StableQueue`: the remaining items in the order they
were pushed, whose front is the earliest item of the greatest priority.
`Refines` relates the two: every queue of
queues_ is the bucket of its priority, and next_to_dequeue_ is a permutation
of the priorities of the remaining items, so its top names a queue that is not
empty.  Each call keeps the relation and answers as the abstract queue does,
so every sequence of calls from the constructor does (`run_refines_stableRun`).
-/

/-- `MultiPriorityQueue<T, NUM_PRIORITY_LEVELS>`: queues_ and next_to_dequeue_. -/
structure MultiPriorityQueue (α : Type) (levels : Nat) where
  queues : Fin levels → List α
  nextToDequeue : List (Fin levels)

namespace MultiPriorityQueue

variable {α : Type} {levels : Nat}

/-- The default constructor: every queue empty. -/
def create : MultiPriorityQueue α levels :=
  ⟨fun _ => [], []⟩

/-- `front()`: the head of the queue that next_to_dequeue_.top() names. -/
def front (q : MultiPriorityQueue α levels) : Option α :=
  q.nextToDequeue.max?.bind fun top => (q.queues top).head?

def empty (q : MultiPriorityQueue α levels) : Bool :=
  q.nextToDequeue.isEmpty

def size (q : MultiPriorityQueue α levels) : Nat :=
  q.nextToDequeue.length

/-- `push(t, priority)`. -/
def push (q : MultiPriorityQueue α levels) (t : α) (priority : Fin levels) : MultiPriorityQueue α levels :=
  ⟨Function.update q.queues priority (q.queues priority ++ [t]), priority :: q.nextToDequeue⟩

/-- `pop()`: drop the head of the queue that the top priority names, then the
top priority. -/
def pop (q : MultiPriorityQueue α levels) : Option (MultiPriorityQueue α levels) :=
  q.nextToDequeue.max?.map fun top =>
    ⟨Function.update q.queues top (q.queues top).tail, q.nextToDequeue.erase top⟩

/-- The items from the highest priority down, each queue oldest first: the
order in which they leave while nothing is pushed. -/
def toList (q : MultiPriorityQueue α levels) : List α :=
  (List.finRange levels).reverse.flatMap q.queues

@[simp]
theorem size_create : (create : MultiPriorityQueue α levels).size = 0 := rfl

@[simp]
theorem front_create : (create : MultiPriorityQueue α levels).front = none := rfl

@[simp]
theorem toList_create : (create : MultiPriorityQueue α levels).toList = [] := by
  simp [toList, create]

@[simp]
theorem size_push (q : MultiPriorityQueue α levels) (t : α) (priority : Fin levels) :
    (q.push t priority).size = q.size + 1 := by
  simp [size, push]

@[simp]
theorem front_push_create (t : α) (priority : Fin levels) :
    ((create : MultiPriorityQueue α levels).push t priority).front = some t := by
  simp [front, push, create]

/-- Popping the one item of a queue leaves the queue as created. -/
@[simp]
theorem pop_push_create (t : α) (priority : Fin levels) :
    ((create : MultiPriorityQueue α levels).push t priority).pop = some create := by
  simp only [pop, push, create, List.max?_singleton, Option.map_some, Option.some.injEq, List.erase_cons_head,
    Function.update_self, List.nil_append, List.tail_cons, Function.update_idem]
  congr 1
  funext other
  by_cases same : other = priority
  · rw [same, Function.update_self]
  · rw [Function.update_of_ne same]

/-! ## The abstract queue -/

/-- Every queue of queues_ holds the remaining items of its priority, oldest
first, and next_to_dequeue_ holds their priorities. -/
def Refines (q : MultiPriorityQueue α levels) (remaining : List (α × Fin levels)) : Prop :=
  (∀ priority, q.queues priority = StableQueue.bucket remaining priority) ∧
    q.nextToDequeue.Perm (remaining.map Prod.snd)

section Steps

variable {q : MultiPriorityQueue α levels} {remaining : List (α × Fin levels)}

theorem Refines.top_eq (refines : q.Refines remaining) : q.nextToDequeue.max? = StableQueue.greatest remaining :=
  StableQueue.max?_eq_of_perm refines.2

theorem Refines.front_eq (refines : q.Refines remaining) : q.front = (StableQueue.front remaining).map Prod.fst := by
  rw [front, refines.top_eq, StableQueue.front]
  cases StableQueue.greatest remaining with
  | none => rfl
  | some top => rw [Option.bind_some, Option.bind_some, refines.1 top, StableQueue.head?_bucket]

theorem Refines.size_eq (refines : q.Refines remaining) : q.size = remaining.length := by
  rw [size, refines.2.length_eq, List.length_map]

theorem Refines.empty_eq (refines : q.Refines remaining) : q.empty = remaining.isEmpty := by
  have sameLength : q.nextToDequeue.length = remaining.length := refines.size_eq
  rw [empty, Bool.eq_iff_iff, List.isEmpty_iff_length_eq_zero, List.isEmpty_iff_length_eq_zero, sameLength]

theorem create_refines : (create : MultiPriorityQueue α levels).Refines [] :=
  ⟨fun _ => rfl, List.Perm.refl []⟩

/-- A push appends to the queue of its priority, which is the bucket the
abstract push appends to. -/
theorem push_refines (refines : q.Refines remaining) (t : α) (priority : Fin levels) :
    (q.push t priority).Refines (StableQueue.push (t, priority) remaining) := by
  constructor
  · intro other
    rw [push]
    dsimp only
    by_cases same : other = priority
    · subst same
      rw [Function.update_self, refines.1 other]
      exact (StableQueue.bucket_push_self (t, other) remaining).symm
    · rw [Function.update_of_ne same, refines.1 other]
      exact (StableQueue.bucket_push_of_ne (t, priority) remaining (Ne.symm same)).symm
  · have appended : (StableQueue.push (t, priority) remaining).map Prod.snd = remaining.map Prod.snd ++ [priority] := by
      simp [StableQueue.push]
    rw [appended]
    exact (refines.2.cons priority).trans (List.perm_append_singleton priority _).symm

/-- A pop drops the head of the queue of the greatest priority and one copy of
that priority: the abstract pop of the front item. -/
theorem pop_refines (refines : q.Refines remaining) {top : Fin levels}
    (found : StableQueue.greatest remaining = some top) :
    q.pop = some ⟨Function.update q.queues top (q.queues top).tail, q.nextToDequeue.erase top⟩ ∧
      MultiPriorityQueue.Refines ⟨Function.update q.queues top (q.queues top).tail, q.nextToDequeue.erase top⟩
        (StableQueue.pop remaining) := by
  refine ⟨by rw [pop, refines.top_eq, found, Option.map_some], ?_, ?_⟩
  · intro other
    dsimp only
    rw [StableQueue.pop_of_greatest found]
    by_cases same : other = top
    · subst same
      rw [Function.update_self, refines.1 other, StableQueue.bucket_eraseP_self]
    · rw [Function.update_of_ne same, refines.1 other, StableQueue.bucket_eraseP_of_ne remaining (Ne.symm same)]
  · dsimp only
    rw [StableQueue.pop_of_greatest found, StableQueue.map_snd_eraseP]
    exact refines.2.erase top

end Steps

/-! ## Sequences of calls -/

inductive Call (α : Type) (levels : Nat) where
  | push (t : α) (priority : Fin levels)
  | pop
  | front
  | empty
  | size

inductive Reply (α : Type) where
  | done
  | front (t : α)
  | empty (isEmpty : Bool)
  | size (n : Nat)
  deriving DecidableEq

def Call.isPush : Call α levels → Bool
  | .push _ _ => true
  | _ => false

def Call.isPop : Call α levels → Bool
  | .pop => true
  | _ => false

/-- One call on the implementation; front() and pop() of an empty queue are
undefined. -/
def call (q : MultiPriorityQueue α levels) : Call α levels → Option (Reply α × MultiPriorityQueue α levels)
  | .push t priority => some (.done, q.push t priority)
  | .pop => q.pop.map fun popped => (.done, popped)
  | .front => q.front.map fun t => (.front t, q)
  | .empty => some (.empty q.empty, q)
  | .size => some (.size q.size, q)

def run (q : MultiPriorityQueue α levels) (calls : List (Call α levels)) :
    Option (List (Reply α) × MultiPriorityQueue α levels) :=
  Simulation.run call q calls

/-- The same call on the priority-stable queue of the remaining items. -/
def stableCall (remaining : List (α × Fin levels)) :
    Call α levels → Option (Reply α × List (α × Fin levels))
  | .push t priority => some (.done, StableQueue.push (t, priority) remaining)
  | .pop => (StableQueue.front remaining).map fun _ => (.done, StableQueue.pop remaining)
  | .front => (StableQueue.front remaining).map fun item => (.front item.1, remaining)
  | .empty => some (.empty remaining.isEmpty, remaining)
  | .size => some (.size remaining.length, remaining)

def stableRun (remaining : List (α × Fin levels)) (calls : List (Call α levels)) :
    Option (List (Reply α) × List (α × Fin levels)) :=
  Simulation.run stableCall remaining calls

theorem pop_call_refines {q : MultiPriorityQueue α levels} {remaining : List (α × Fin levels)}
    (refines : q.Refines remaining) :
    Option.Rel (Simulation.Agree Refines) (q.call .pop) (stableCall remaining .pop) := by
  rcases found : StableQueue.greatest remaining with _ | top
  · have noTop : q.nextToDequeue.max? = none := by rw [refines.top_eq, found]
    have noFront : StableQueue.front remaining = none := by rw [StableQueue.front, found, Option.bind_none]
    simp only [call, stableCall, pop, noTop, noFront, Option.map_none]
    exact Option.Rel.none
  · obtain ⟨popped, poppedRefines⟩ := pop_refines refines found
    obtain ⟨item, member, atTop⟩ := (StableQueue.greatest_eq_some_iff.mp found).1
    have present : (remaining.find? fun item => item.2 = top).isSome :=
      List.find?_isSome.mpr ⟨item, member, by simpa using atTop⟩
    obtain ⟨first, atFirst⟩ := Option.isSome_iff_exists.mp present
    have atFront : StableQueue.front remaining = some first := by
      rw [StableQueue.front, found, Option.bind_some, atFirst]
    simp only [call, stableCall, popped, atFront, Option.map_some]
    exact Option.Rel.some ⟨rfl, poppedRefines⟩

/-- One call keeps the refinement and answers as the abstract queue does. -/
theorem call_refines {q : MultiPriorityQueue α levels} {remaining : List (α × Fin levels)}
    (refines : q.Refines remaining) (first : Call α levels) :
    Option.Rel (Simulation.Agree Refines) (q.call first) (stableCall remaining first) := by
  cases first with
  | push t priority => exact Option.Rel.some ⟨rfl, push_refines refines t priority⟩
  | pop => exact pop_call_refines refines
  | front =>
    rw [call, stableCall, refines.front_eq]
    cases StableQueue.front remaining with
    | none => exact Option.Rel.none
    | some item => exact Option.Rel.some ⟨rfl, refines⟩
  | empty => exact Option.Rel.some ⟨by rw [refines.empty_eq], refines⟩
  | size => exact Option.Rel.some ⟨by rw [refines.size_eq], refines⟩

theorem call_simulates :
    Simulation.Simulates (call : MultiPriorityQueue α levels → Call α levels → Option (Reply α × MultiPriorityQueue α levels))
      stableCall Refines :=
  fun _ _ refines first => call_refines refines first

/-- Each call of the abstract queue changes the number of remaining items by
its push or its pop. -/
theorem stableCall_length {remaining : List (α × Fin levels)} {first : Call α levels}
    {outcome : Reply α × List (α × Fin levels)} (called : stableCall remaining first = some outcome) :
    outcome.2.length + (if first.isPop then 1 else 0) = remaining.length + (if first.isPush then 1 else 0) := by
  cases first with
  | push t priority =>
    cases called
    simp [Call.isPop, Call.isPush, StableQueue.push]
  | pop =>
    obtain ⟨item, atFront, rfl⟩ := Option.map_eq_some_iff.mp called
    have waiting : remaining ≠ [] := by
      rintro rfl
      simp [StableQueue.front, StableQueue.greatest] at atFront
    simpa [Call.isPop, Call.isPush] using StableQueue.length_pop waiting
  | front =>
    obtain ⟨item, _, rfl⟩ := Option.map_eq_some_iff.mp called
    rfl
  | empty =>
    cases called
    rfl
  | size =>
    cases called
    rfl

/-- Over a run, the items remaining are those there before and those pushed,
less those popped; by induction on the calls. -/
theorem stableRun_length : ∀ (calls : List (Call α levels)) {remaining : List (α × Fin levels)}
    {result : List (Reply α) × List (α × Fin levels)}, stableRun remaining calls = some result →
      result.2.length + calls.countP Call.isPop = remaining.length + calls.countP Call.isPush
  | [], _, _, ran => by
    cases ran
    rfl
  | first :: rest, remaining, result, ran => by
    rw [stableRun, Simulation.run_cons] at ran
    obtain ⟨outcome, called, after⟩ := Option.bind_eq_some_iff.mp ran
    obtain ⟨tail, ranRest, rfl⟩ := Option.map_eq_some_iff.mp after
    have step := stableCall_length called
    have later := stableRun_length rest ranRest
    rw [List.countP_cons, List.countP_cons]
    dsimp only at later ⊢
    omega

/-- From the constructor, every sequence of calls fails exactly where the
priority-stable queue's does (a front() or pop() of an empty queue), and
otherwise gives its replies: front() the earliest item of the greatest
priority, size() the number of items pushed less the number popped. -/
theorem run_refines_stableRun (calls : List (Call α levels)) :
    Option.Rel (Simulation.Agree Refines) (create.run calls) (stableRun [] calls) ∧
      ∀ result, stableRun [] calls = some result →
        result.2.length + calls.countP Call.isPop = calls.countP Call.isPush := by
  constructor
  · exact Simulation.run_simulates call_simulates create_refines calls
  · intro result ran
    simpa using stableRun_length calls ran

/-- The two levels of the scheduler's queue, as numerals of `Fin 2`. -/
local instance twoLevelsNeZero : NeZero 2 := ⟨by decide⟩

/-- An item of priority 0, then two of priority 1, then two reads around a pop. -/
def twoLevelCalls : List (Call Nat 2) :=
  [.push 10 0, .push 20 1, .push 30 1, .front, .pop, .front, .size]

/-- Of the two items of priority 1 the older leaves first, and both leave
before the item of priority 0 pushed ahead of them. -/
theorem run_refines_stableRun_two :
    (Option.Rel (Simulation.Agree Refines) (create.run twoLevelCalls) (stableRun [] twoLevelCalls) ∧
      ∀ result, stableRun [] twoLevelCalls = some result →
        result.2.length + twoLevelCalls.countP Call.isPop = twoLevelCalls.countP Call.isPush) ∧
      (create.run twoLevelCalls).map Prod.fst = some [.done, .done, .done, .front 20, .done, .front 30, .size 2] :=
  ⟨run_refines_stableRun twoLevelCalls, by decide⟩

end MultiPriorityQueue

end Common
end BluetoothStack
