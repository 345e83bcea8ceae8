import Mathlib.Algebra.Order.Group.Int
import Mathlib.Data.Nat.ModEq
import BluetoothStack.Library.CyclicWindow
import BluetoothStack.Library.Simulation

namespace BluetoothStack
namespace Osi

/-!
# The byte ringbuffer of osi/src/ringbuffer.cc

ringbuffer_t keeps total bytes at base, the bytes still free in available,
and head and tail pointers: the queued bytes are the total - available bytes
from head on, wrapping at base + total.  Insert writes at tail, delete and pop
move head, peek reads from head + offset.  Pointers are modelled as offsets
from base and size_t sums as Nat, with the one sum that can pass SIZE_MAX,
offset + length in ringbuffer_peek, taken modulo 2^64.

The abstract model is a byte FIFO of bounded length (`ByteFifo`).  The bytes
of the buffer from head are `CyclicWindow.run total head size` read in memory,
so the FIFO operations become the lemmas of runs: insert appends a run, delete
drops a prefix, peek drops and takes.  Each call then keeps `Refines` and
answers as the FIFO does, for every call whose peek does not wrap
offset + length.
-/

/-- size_t arithmetic is modulo 2^64. -/
def kSizeModulus : Nat := 2 ^ 64

/-- ringbuffer_t with base as offset 0: head and tail are offsets into the
total bytes of memory. -/
structure Ringbuffer where
  total : Nat
  available : Nat
  memory : Nat → UInt8
  head : Nat
  tail : Nat

namespace Ringbuffer

/-- ringbuffer_init: osi_calloc'd bytes, empty. -/
def ringbufferInit (size : Nat) : Ringbuffer :=
  ⟨size, size, fun _ => 0, 0, 0⟩

def ringbufferAvailable (rb : Ringbuffer) : Nat :=
  rb.available

def ringbufferSize (rb : Ringbuffer) : Nat :=
  rb.total - rb.available

/-- A pointer one byte on, back to base when it reaches base + total. -/
def advance (total pointer : Nat) : Nat :=
  if pointer + 1 ≥ total then 0 else pointer + 1

/-- The copy loop of ringbuffer_insert: byte i of p goes to tail, which then
advances. -/
def insertLoop (total : Nat) (p : Nat → UInt8) (length : Nat) (memory : Nat → UInt8) (tail : Nat) :
    (Nat → UInt8) × Nat :=
  (List.range length).foldl (fun state i => (Function.update state.1 state.2 (p i), advance total state.2))
    (memory, tail)

def ringbufferInsert (rb : Ringbuffer) (p : Nat → UInt8) (length : Nat) : Nat × Ringbuffer :=
  let length := if length > ringbufferAvailable rb then ringbufferAvailable rb else length
  let written := insertLoop rb.total p length rb.memory rb.tail
  (length, { rb with memory := written.1, tail := written.2, available := rb.available - length })

/-- head += length, and one wrap back by total. -/
def moveHead (total head length : Nat) : Nat :=
  if head + length ≥ total then head + length - total else head + length

def ringbufferDelete (rb : Ringbuffer) (length : Nat) : Nat × Ringbuffer :=
  let length := if length > ringbufferSize rb then ringbufferSize rb else length
  (length, { rb with head := moveHead rb.total rb.head length, available := rb.available + length })

/-- The copy loop of ringbuffer_peek: count bytes from b on. -/
def peekLoop (total : Nat) (memory : Nat → UInt8) (count b : Nat) : List UInt8 :=
  ((List.range count).foldl (fun state _ => (state.1 ++ [memory state.2], advance total state.2)) ([], b)).1

/-- The asserts on offset, and the % of a total of 0, are none. -/
def ringbufferPeek (rb : Ringbuffer) (offset : Int) (length : Nat) : Option (Nat × List UInt8) :=
  if offset < 0 then none
  else if offset.toNat > ringbufferSize rb then none
  else if rb.total = 0 then none
  else
    let b := (rb.head + offset.toNat) % rb.total
    let bytesToCopy :=
      if (offset.toNat + length) % kSizeModulus > ringbufferSize rb then ringbufferSize rb - offset.toNat
      else length
    some (bytesToCopy, peekLoop rb.total rb.memory bytesToCopy b)

def ringbufferPop (rb : Ringbuffer) (length : Nat) : Option ((Nat × List UInt8) × Ringbuffer) :=
  (ringbufferPeek rb 0 length).map fun copied =>
    (copied, { rb with head := moveHead rb.total rb.head copied.1, available := rb.available + copied.1 })

/-! ## Calls -/

/-- The calls on a buffer; p of insert is the caller's bytes from p on. -/
inductive Call where
  | insert (p : Nat → UInt8) (length : Nat)
  | delete (length : Nat)
  | peek (offset : Int) (length : Nat)
  | pop (length : Nat)

/-- The count a call returns, and the bytes peek and pop copy to p. -/
inductive Reply where
  | count (n : Nat)
  | copied (n : Nat) (bytes : List UInt8)
  deriving DecidableEq

def call (rb : Ringbuffer) : Call → Option (Reply × Ringbuffer)
  | .insert p length => some (.count (rb.ringbufferInsert p length).1, (rb.ringbufferInsert p length).2)
  | .delete length => some (.count (rb.ringbufferDelete length).1, (rb.ringbufferDelete length).2)
  | .peek offset length => (rb.ringbufferPeek offset length).map fun copied => (.copied copied.1 copied.2, rb)
  | .pop length => (rb.ringbufferPop length).map fun popped => (.copied popped.1.1 popped.1.2, popped.2)

/-- The calls whose size_t sums do not pass SIZE_MAX. -/
def Call.Fits : Call → Prop
  | .peek offset length => offset.toNat + length < kSizeModulus
  | .pop length => length < kSizeModulus
  | _ => True

end Ringbuffer

/-! ## The bounded FIFO a buffer holds -/

/-- A queue of at most total bytes. -/
structure ByteFifo where
  total : Nat
  queue : List UInt8
  bounded : queue.length ≤ total

namespace ByteFifo

open Ringbuffer

def empty (total : Nat) : ByteFifo :=
  ⟨total, [], Nat.zero_le _⟩

/-- Append what fits of the first length bytes of p. -/
def insert (f : ByteFifo) (p : Nat → UInt8) (length : Nat) : ByteFifo :=
  ⟨f.total, f.queue ++ (List.range (min length (f.total - f.queue.length))).map p, by
    have bounded := f.bounded
    simp only [List.length_append, List.length_map, List.length_range]
    omega⟩

def delete (f : ByteFifo) (length : Nat) : ByteFifo :=
  ⟨f.total, f.queue.drop length, by
    have bounded := f.bounded
    simp only [List.length_drop]
    omega⟩

/-- The same calls on the FIFO: a peek from past the end is refused. -/
def fifoCall (f : ByteFifo) : Call → Option (Reply × ByteFifo)
  | .insert p length => some (.count (min length (f.total - f.queue.length)), f.insert p length)
  | .delete length => some (.count (min length f.queue.length), f.delete length)
  | .peek offset length =>
    if 0 ≤ offset ∧ offset.toNat ≤ f.queue.length then
      some (.copied ((f.queue.drop offset.toNat).take length).length ((f.queue.drop offset.toNat).take length), f)
    else none
  | .pop length => some (.copied (f.queue.take length).length (f.queue.take length), f.delete length)

end ByteFifo

/-! ## The bytes a buffer holds -/

namespace Ringbuffer

open CyclicWindow

/-- The queued bytes: ringbuffer_size bytes from head, wrapping at total. -/
def contents (rb : Ringbuffer) : List UInt8 :=
  (run rb.total rb.head (ringbufferSize rb)).map rb.memory

/-- head and tail inside the buffer, with the queued bytes between them. -/
structure Wf (rb : Ringbuffer) : Prop where
  positive : 0 < rb.total
  availableLe : rb.available ≤ rb.total
  headLt : rb.head < rb.total
  tailEq : rb.tail = (rb.head + ringbufferSize rb) % rb.total

/-- The buffer holds the FIFO. -/
structure Refines (rb : Ringbuffer) (f : ByteFifo) : Prop where
  wf : rb.Wf
  total : rb.total = f.total
  contents : rb.contents = f.queue

theorem Wf.tail_lt {rb : Ringbuffer} (wf : rb.Wf) : rb.tail < rb.total := by
  rw [wf.tailEq]
  exact Nat.mod_lt _ wf.positive

theorem Refines.size_eq {rb : Ringbuffer} {f : ByteFifo} (refines : rb.Refines f) :
    ringbufferSize rb = f.queue.length := by
  rw [← refines.contents, Ringbuffer.contents, List.length_map, run_length]

theorem Refines.available_eq {rb : Ringbuffer} {f : ByteFifo} (refines : rb.Refines f) :
    ringbufferAvailable rb = f.total - f.queue.length := by
  have size := refines.size_eq
  have availableLe := refines.wf.availableLe
  rw [ringbufferSize] at size
  rw [ringbufferAvailable, ← refines.total]
  omega

theorem refines_init {total : Nat} (positive : 0 < total) : (ringbufferInit total).Refines (ByteFifo.empty total) :=
  ⟨⟨positive, le_rfl, positive, by simp [ringbufferInit, ringbufferSize]⟩, rfl,
    by simp [contents, ringbufferInit, ringbufferSize, ByteFifo.empty]⟩

/-! ## Pointer steps -/

theorem advance_eq {total pointer : Nat} (below : pointer < total) : advance total pointer = (pointer + 1) % total := by
  unfold advance
  split
  · rename_i wraps
    have reaches : pointer + 1 = total := by omega
    rw [reaches, Nat.mod_self]
  · rw [Nat.mod_eq_of_lt (by omega)]

theorem moveHead_eq {total head length : Nat} (below : head < total) (small : length ≤ total) :
    moveHead total head length = (head + length) % total := by
  unfold moveHead
  split
  · rename_i wraps
    rw [Nat.mod_eq_sub_mod wraps, Nat.mod_eq_of_lt (by omega)]
  · rw [Nat.mod_eq_of_lt (by omega)]

/-- The clamp of a length to a bound. -/
theorem clamp_eq_min (length bound : Nat) : (if length > bound then bound else length) = min length bound := by
  split <;> omega

/-- Two pointers fewer than total steps on from one start are apart. -/
theorem add_mod_ne {total start i j : Nat} (iBelow : i < total) (jBelow : j < total) (different : i ≠ j) :
    (start + i) % total ≠ (start + j) % total := by
  intro same
  have distance := modSub_add_mod start i iBelow
  rw [same, modSub_add_mod start j jBelow] at distance
  exact different distance.symm

/-! ## The copy loops -/

theorem insertLoop_succ (total : Nat) (p : Nat → UInt8) (n : Nat) (memory : Nat → UInt8) (tail : Nat) :
    insertLoop total p (n + 1) memory tail =
      (Function.update (insertLoop total p n memory tail).1 (insertLoop total p n memory tail).2 (p n),
        advance total (insertLoop total p n memory tail).2) := by
  simp only [insertLoop, List.range_succ, List.foldl_append, List.foldl_cons, List.foldl_nil]

/-- The insert loop writes p's bytes at the n positions from tail and leaves
every other byte; by induction on the bytes written. -/
theorem insertLoop_spec {total : Nat} (p : Nat → UInt8) (memory : Nat → UInt8) {tail : Nat} (below : tail < total)
    {n : Nat} (fits : n ≤ total) :
    (insertLoop total p n memory tail).2 = (tail + n) % total ∧
      (∀ i < n, (insertLoop total p n memory tail).1 ((tail + i) % total) = p i) ∧
      ∀ j, j ∉ run total tail n → (insertLoop total p n memory tail).1 j = memory j := by
  induction n with
  | zero => simp [insertLoop, Nat.mod_eq_of_lt below]
  | succ n ih =>
    rcases ih (by omega) with ⟨moved, written, kept⟩
    rw [insertLoop_succ, moved]
    refine ⟨?_, ?_, ?_⟩
    · rw [advance_eq (Nat.mod_lt _ (by omega)), Nat.mod_add_mod, Nat.add_assoc]
    · intro i iBelow
      by_cases last : i = n
      · rw [last]
        exact Function.update_self _ _ _
      · change Function.update _ _ _ _ = _
        rw [Function.update_of_ne (add_mod_ne (by omega) (by omega) last)]
        exact written i (by omega)
    · intro j outside
      rw [run_succ, List.mem_append, not_or, List.mem_singleton] at outside
      change Function.update _ _ _ _ = _
      rw [Function.update_of_ne outside.2]
      exact kept j outside.1

/-- The peek loop reads the run of count positions from b. -/
theorem peekLoop_eq {total : Nat} (memory : Nat → UInt8) {b : Nat} (below : b < total) (count : Nat) :
    peekLoop total memory count b = (run total b count).map memory := by
  suffices fold : ∀ count, (List.range count).foldl
      (fun (state : List UInt8 × Nat) (_ : Nat) => (state.1 ++ [memory state.2], advance total state.2)) ([], b) =
      ((run total b count).map memory, (b + count) % total) by
    rw [peekLoop, fold]
  intro count
  induction count with
  | zero => simp [Nat.mod_eq_of_lt below]
  | succ count ih =>
    rw [List.range_succ, List.foldl_append, ih, List.foldl_cons, List.foldl_nil, run_succ, List.map_append,
      List.map_singleton, advance_eq (Nat.mod_lt _ (by omega)), Nat.mod_add_mod, Nat.add_assoc]

/-! ## Each call on a buffer that holds a FIFO -/

theorem Refines.congr {rb : Ringbuffer} {f g : ByteFifo} (refines : rb.Refines f) (total : f.total = g.total)
    (queue : f.queue = g.queue) : rb.Refines g :=
  ⟨refines.wf, refines.total.trans total, refines.contents.trans queue⟩

/-- The bytes of a window inside the queue. -/
theorem Refines.window {rb : Ringbuffer} {f : ByteFifo} (refines : rb.Refines f) {offset count : Nat}
    (inside : offset + count ≤ f.queue.length) :
    (run rb.total ((rb.head + offset) % rb.total) count).map rb.memory = (f.queue.drop offset).take count := by
  have size := refines.size_eq
  rw [← refines.contents, Ringbuffer.contents, ← List.map_drop, ← List.map_take, run_drop, run_take,
    Nat.min_eq_left (by omega)]

/-- Writing n bytes at tail appends them to the queue when they fit. -/
theorem contents_insert {rb : Ringbuffer} (wf : rb.Wf) (p : Nat → UInt8) {n : Nat} (room : n ≤ rb.available) :
    contents { rb with
      memory := (insertLoop rb.total p n rb.memory rb.tail).1
      tail := (insertLoop rb.total p n rb.memory rb.tail).2
      available := rb.available - n } = rb.contents ++ (List.range n).map p := by
  have availableLe := wf.availableLe
  rcases insertLoop_spec p rb.memory wf.tail_lt (n := n) (by omega) with ⟨-, written, kept⟩
  have size : rb.total - (rb.available - n) = ringbufferSize rb + n := by
    rw [ringbufferSize]
    omega
  have nodup : (run rb.total rb.head (ringbufferSize rb + n)).Nodup :=
    run_nodup rb.head (by rw [ringbufferSize]; omega)
  rw [run_append, ← wf.tailEq] at nodup
  simp only [contents, ringbufferSize]
  rw [size, run_append, ← wf.tailEq, List.map_append]
  congr 1
  · apply List.map_congr_left
    intro j queued
    exact kept j fun appended => (List.nodup_append.1 nodup).2.2 j queued j appended rfl
  · rw [run, List.map_map]
    apply List.map_congr_left
    intro i below
    exact written i (List.mem_range.1 below)

theorem insert_refines {rb : Ringbuffer} {f : ByteFifo} (refines : rb.Refines f) (p : Nat → UInt8) (length : Nat) :
    (rb.ringbufferInsert p length).1 = min length (f.total - f.queue.length) ∧
      (rb.ringbufferInsert p length).2.Refines (f.insert p length) := by
  have available := refines.available_eq
  have wf := refines.wf
  have availableLe := wf.availableLe
  rw [ringbufferAvailable] at available
  constructor
  · simp only [ringbufferInsert, ringbufferAvailable, clamp_eq_min, available]
  simp only [ringbufferInsert, ringbufferAvailable, clamp_eq_min, available]
  rcases insertLoop_spec p rb.memory wf.tail_lt (n := min length (f.total - f.queue.length))
    (by omega) with ⟨moved, -, -⟩
  refine ⟨⟨wf.positive, ?_, wf.headLt, ?_⟩, refines.total, ?_⟩
  · dsimp only
    omega
  · simp only [ringbufferSize]
    rw [moved, wf.tailEq, Nat.mod_add_mod, ringbufferSize, Nat.add_assoc]
    congr 2
    omega
  · rw [← available, contents_insert wf p (by omega), refines.contents, available]
    rfl

/-- Moving head over n queued bytes drops them. -/
theorem Refines.moveHead {rb : Ringbuffer} {f : ByteFifo} (refines : rb.Refines f) {n : Nat}
    (queued : n ≤ f.queue.length) :
    { rb with head := moveHead rb.total rb.head n, available := rb.available + n }.Refines (f.delete n) := by
  have wf := refines.wf
  have size := refines.size_eq
  have total := refines.total
  have bounded := f.bounded
  have availableLe := wf.availableLe
  rw [ringbufferSize] at size
  have moved : Ringbuffer.moveHead rb.total rb.head n = (rb.head + n) % rb.total := moveHead_eq wf.headLt (by omega)
  have size' : rb.total - (rb.available + n) = ringbufferSize rb - n := by
    rw [ringbufferSize]
    omega
  refine ⟨⟨wf.positive, by dsimp only; omega, ?_, ?_⟩, total, ?_⟩
  · rw [moved]
    exact Nat.mod_lt _ wf.positive
  · simp only [ringbufferSize]
    rw [wf.tailEq, moved, size', Nat.mod_add_mod, Nat.add_assoc, ringbufferSize]
    congr 2
    omega
  · simp only [Ringbuffer.contents, ringbufferSize]
    show _ = f.queue.drop n
    rw [size', moved, ← refines.contents, Ringbuffer.contents, ← run_drop, List.map_drop]

theorem delete_refines {rb : Ringbuffer} {f : ByteFifo} (refines : rb.Refines f) (length : Nat) :
    (rb.ringbufferDelete length).1 = min length f.queue.length ∧ (rb.ringbufferDelete length).2.Refines (f.delete length) := by
  constructor
  · simp only [ringbufferDelete, clamp_eq_min, refines.size_eq]
  simp only [ringbufferDelete, clamp_eq_min, refines.size_eq]
  exact (refines.moveHead (Nat.min_le_right length f.queue.length)).congr (g := f.delete length) rfl
    List.drop_eq_drop_min.symm

/-- ringbuffer_peek when offset + length does not pass SIZE_MAX: the window
of the queue, or none where an assert fails. -/
theorem peek_refines {rb : Ringbuffer} {f : ByteFifo} (refines : rb.Refines f) {offset : Int} {length : Nat}
    (fits : offset.toNat + length < kSizeModulus) :
    rb.ringbufferPeek offset length =
      if 0 ≤ offset ∧ offset.toNat ≤ f.queue.length then
        some (((f.queue.drop offset.toNat).take length).length, (f.queue.drop offset.toNat).take length)
      else none := by
  have size := refines.size_eq
  have positive := refines.wf.positive
  unfold ringbufferPeek
  by_cases negative : offset < 0
  · rw [if_pos negative, if_neg (by omega)]
  by_cases past : offset.toNat > ringbufferSize rb
  · rw [if_neg negative, if_pos past, if_neg (by omega)]
  rw [if_pos (show 0 ≤ offset ∧ offset.toNat ≤ f.queue.length from ⟨by omega, by omega⟩), if_neg negative,
    if_neg past, if_neg (by omega), Nat.mod_eq_of_lt fits]
  dsimp only
  rw [peekLoop_eq _ (Nat.mod_lt _ positive)]
  have copied : (if offset.toNat + length > ringbufferSize rb then ringbufferSize rb - offset.toNat else length) =
      min length (f.queue.length - offset.toNat) := by
    rw [size]
    split <;> omega
  have dropped : (f.queue.drop offset.toNat).length = f.queue.length - offset.toNat := List.length_drop
  rw [copied, refines.window (by omega), ← dropped, ← List.take_eq_take_min, List.length_take]

theorem pop_refines {rb : Ringbuffer} {f : ByteFifo} (refines : rb.Refines f) {length : Nat}
    (fits : length < kSizeModulus) :
    ∃ rb', rb.ringbufferPop length = some (((f.queue.take length).length, f.queue.take length), rb') ∧
      rb'.Refines (f.delete length) := by
  have peeked : rb.ringbufferPeek 0 length = _ :=
    peek_refines refines (by rw [Int.toNat_zero, Nat.zero_add]; exact fits)
  rw [if_pos ⟨le_rfl, by rw [Int.toNat_zero]; exact Nat.zero_le _⟩, Int.toNat_zero, List.drop_zero] at peeked
  refine ⟨_, by rw [ringbufferPop, peeked]; rfl, ?_⟩
  have dropped : f.queue.drop (f.queue.take length).length = f.queue.drop length := by
    rw [List.length_take, ← List.drop_eq_drop_min]
  exact (refines.moveHead (List.length_take_le' length f.queue)).congr (g := f.delete length) rfl dropped

/-- Each call that fits keeps the refinement and answers as the FIFO does. -/
theorem call_simulatesOn : Simulation.SimulatesOn Call.Fits call ByteFifo.fifoCall Refines := by
  intro rb f refines input fits
  cases input with
  | insert p length =>
    rcases insert_refines refines p length with ⟨count, refines'⟩
    exact Option.Rel.some ⟨by rw [count], refines'⟩
  | delete length =>
    rcases delete_refines refines length with ⟨count, refines'⟩
    exact Option.Rel.some ⟨by rw [count], refines'⟩
  | peek offset length =>
    simp only [call, ByteFifo.fifoCall, peek_refines refines fits]
    split
    · exact Option.Rel.some ⟨rfl, refines⟩
    · exact Option.Rel.none
  | pop length =>
    rcases pop_refines refines fits with ⟨rb', popped, refines'⟩
    simp only [call, ByteFifo.fifoCall, popped, Option.map_some]
    exact Option.Rel.some ⟨rfl, refines'⟩

/-- From ringbuffer_init with a positive size, every sequence of calls whose
peeks do not wrap offset + length fails where the FIFO's does and otherwise
gives its replies, with head and tail inside the buffer and the queued bytes
the FIFO's queue after every call. -/
theorem run_refines_fifo (total : Nat) (positive : 0 < total) (calls : List Call) (fits : ∀ c ∈ calls, c.Fits) :
    Option.Rel (Simulation.Agree Refines) (Simulation.run call (ringbufferInit total) calls)
      (Simulation.run ByteFifo.fifoCall (ByteFifo.empty total) calls) :=
  Simulation.run_simulatesOn call_simulatesOn (refines_init positive) calls fits

theorem run_refines_fifo_insertPeekPop :
    0 < 4 ∧ (∀ c ∈ [Call.insert (fun _ => 7) 3, .peek 1 2, .pop 2], c.Fits) ∧
      Option.Rel (Simulation.Agree Refines)
        (Simulation.run call (ringbufferInit 4) [.insert (fun _ => 7) 3, .peek 1 2, .pop 2])
        (Simulation.run ByteFifo.fifoCall (ByteFifo.empty 4) [.insert (fun _ => 7) 3, .peek 1 2, .pop 2]) := by
  have fits : ∀ c ∈ [Call.insert (fun _ => 7) 3, .peek 1 2, .pop 2], c.Fits := by
    intro c member
    simp only [List.mem_cons, List.not_mem_nil, or_false] at member
    rcases member with rfl | rfl | rfl
    · trivial
    · show (1 : Int).toNat + 2 < kSizeModulus
      decide
    · show 2 < kSizeModulus
      decide
  exact ⟨by decide, fits, run_refines_fifo 4 (by decide) _ fits⟩

/-- A peek whose offset + length passes SIZE_MAX and wraps to at most the
size copies all length bytes, more than the queue holds from offset: the
reply is no longer the FIFO's. -/
theorem peek_wrapped_breaks_refinement {rb : Ringbuffer} {f : ByteFifo} (refines : rb.Refines f) {offset length : Nat}
    (inside : offset ≤ f.queue.length) (wraps : kSizeModulus ≤ offset + length)
    (wrappedBack : offset + length - kSizeModulus ≤ f.queue.length) (small : f.total < kSizeModulus) :
    (∃ bytes, rb.call (.peek offset length) = some (.copied length bytes, rb)) ∧
      ¬ Option.Rel (Simulation.Agree Refines) (rb.call (.peek offset length)) (f.fifoCall (.peek offset length)) := by
  have size := refines.size_eq
  have positive := refines.wf.positive
  have bounded := f.bounded
  have wrapped : (offset + length) % kSizeModulus = offset + length - kSizeModulus := by
    rw [Nat.mod_eq_sub_mod wraps, Nat.mod_eq_of_lt (by omega)]
  have peeked : rb.ringbufferPeek offset length = some (length, peekLoop rb.total rb.memory length
      ((rb.head + offset) % rb.total)) := by
    unfold ringbufferPeek
    rw [if_neg (by omega), Int.toNat_natCast, if_neg (by omega), if_neg (by omega), wrapped, if_neg (by omega)]
  have answered : rb.call (.peek offset length) = some (.copied length (peekLoop rb.total rb.memory length
      ((rb.head + offset) % rb.total)), rb) := by
    simp only [call, peeked, Option.map_some]
  refine ⟨⟨_, answered⟩, ?_⟩
  rw [answered]
  simp only [ByteFifo.fifoCall, Int.toNat_natCast, if_pos (show 0 ≤ (offset : Int) ∧ offset ≤ f.queue.length from
    ⟨Int.natCast_nonneg _, inside⟩)]
  intro related
  cases related with
  | some agree =>
    have count := congrArg (fun reply => match reply with | Reply.count n => n | Reply.copied n _ => n) agree.1
    simp only [List.length_take, List.length_drop] at count
    omega

theorem peek_wrapped_breaks_refinement_sizeMax :
    1 ≤ ((ByteFifo.empty 2).insert (fun _ => 7) 2).queue.length ∧ kSizeModulus ≤ 1 + (kSizeModulus - 1) ∧
      1 + (kSizeModulus - 1) - kSizeModulus ≤ ((ByteFifo.empty 2).insert (fun _ => 7) 2).queue.length ∧
      ((ByteFifo.empty 2).insert (fun _ => 7) 2).total < kSizeModulus ∧
      (∃ bytes, ((ringbufferInit 2).ringbufferInsert (fun _ => 7) 2).2.call (.peek (1 : Nat) (kSizeModulus - 1)) =
        some (.copied (kSizeModulus - 1) bytes, ((ringbufferInit 2).ringbufferInsert (fun _ => 7) 2).2)) ∧
        ¬ Option.Rel (Simulation.Agree Refines)
          (((ringbufferInit 2).ringbufferInsert (fun _ => 7) 2).2.call (.peek (1 : Nat) (kSizeModulus - 1)))
          (((ByteFifo.empty 2).insert (fun _ => 7) 2).fifoCall (.peek (1 : Nat) (kSizeModulus - 1))) :=
  ⟨by decide, by decide, by decide, by decide,
    peek_wrapped_breaks_refinement (insert_refines (refines_init (by decide)) (fun _ => 7) 2).2 (by decide) (by decide)
      (by decide) (by decide)⟩

end Ringbuffer

end Osi
end BluetoothStack
