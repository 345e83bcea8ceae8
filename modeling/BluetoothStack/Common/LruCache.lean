import BluetoothStack.Common.ListMap
import BluetoothStack.Library.ListMap
import BluetoothStack.Library.Simulation

namespace BluetoothStack
namespace Common

/-!
# LruCache as common/lru_cache.h builds it

LruCache keeps a ListMap, warmest node first: find() splices the node of a key
to begin(), contains() is find(), and insert_or_assign() and try_emplace() of
a new key extract the node before end() when the cache is full, then put the
new node at begin().

The abstract model is `Library.LruCache`, the list of entries with distinct
keys, warmest first, and at most capacity of them, on which the config cache
model is built.  `Refines` relates the two: the implementation's containers
are in step and its entries, read in list order, are the abstract ones.  Each
call keeps the relation and returns what the abstract cache says, so a whole
sequence of calls from the constructor does (`run_refines`).
-/

/-- The capacity and the list map of an LruCache. -/
structure LruCache (κ α : Type) where
  capacity : Nat
  listMap : ListMap κ α

namespace LruCache

variable {κ α : Type} [DecidableEq κ]

/-- The constructor asserts a capacity other than zero. -/
def create (capacity : Nat) : Option (LruCache κ α) :=
  if capacity ≠ 0 then some ⟨capacity, .empty⟩ else none

def size (c : LruCache κ α) : Nat :=
  c.listMap.size

/-- find: the iterator of a key, whose node is spliced to begin(). -/
def find (c : LruCache κ α) (key : κ) : Option Nat × LruCache κ α :=
  match c.listMap.find key with
  | none => (none, c)
  | some iter => (some iter, { c with listMap := c.listMap.splice c.listMap.begin iter })

/-- contains: find() against end(), with find()'s splice. -/
def contains (c : LruCache κ α) (key : κ) : Bool × LruCache κ α :=
  ((c.find key).1.isSome, (c.find key).2)

/-- list_map_.begin()->second = value. -/
def assignBegin (m : ListMap κ α) (value : α) : ListMap κ α :=
  match m.nodeList with
  | [] => m
  | node :: rest => { m with nodeList := (node.1, node.2.1, value) :: rest }

/-- The eviction before a new key: list_map_.extract(std::prev(list_map_.end())->first)
when the cache is at capacity. -/
def evict (c : LruCache κ α) : Option (κ × α) × ListMap κ α :=
  if c.listMap.size = c.capacity then
    match c.listMap.nodeList.getLast? with
    | some coldest => c.listMap.extract coldest.2.1
    | none => (none, c.listMap)
  else (none, c.listMap)

/-- insert_or_assign: the evicted node, if any. -/
def insertOrAssign (c : LruCache κ α) (key : κ) (value : α) : Option (κ × α) × LruCache κ α :=
  let warmed := c.contains key
  if warmed.1 then
    -- contains() calls find() that moved the node to the head
    (none, { warmed.2 with listMap := assignBegin warmed.2.listMap value })
  else
    let evicted := warmed.2.evict
    (evicted.1, { warmed.2 with listMap := evicted.2.insertOrAssign evicted.2.begin key value })

/-- try_emplace: the inserted iterator, whether insertion happened, and the
evicted node, if any. -/
def tryEmplace (c : LruCache κ α) (key : κ) (value : α) : (Option Nat × Bool × Option (κ × α)) × LruCache κ α :=
  let warmed := c.contains key
  if warmed.1 then ((none, false, none), warmed.2)
  else
    let evicted := warmed.2.evict
    let emplaced := evicted.2.tryEmplace evicted.2.begin key value
    ((emplaced.1.1, emplaced.1.2, evicted.1), { warmed.2 with listMap := emplaced.2 })

def extract (c : LruCache κ α) (key : κ) : Option (κ × α) × LruCache κ α :=
  ((c.listMap.extract key).1, { c with listMap := (c.listMap.extract key).2 })

/-- erase(iter): the iterator after the erased node. -/
def erase (c : LruCache κ α) (iter : Nat) : Option (Option Nat × LruCache κ α) :=
  (c.listMap.erase iter).map fun erased => (erased.1, { c with listMap := erased.2 })

/-- The containers in step, and no more nodes than the capacity. -/
structure Wf (c : LruCache κ α) : Prop where
  listMap : c.listMap.Wf
  positive : 0 < c.capacity
  bounded : c.size ≤ c.capacity

/-- The implementation holds the abstract cache. -/
def Refines (c : LruCache κ α) (a : Library.LruCache κ α) : Prop :=
  c.Wf ∧ c.capacity = a.capacity ∧ c.listMap.entries = a.listMap.entries

section Steps

variable {c : LruCache κ α} {a : Library.LruCache κ α}

omit [DecidableEq κ] in
/-- The bound on the size follows from the abstract one. -/
theorem refines_of {c : LruCache κ α} {a : Library.LruCache κ α} (listMap : c.listMap.Wf)
    (capacity : c.capacity = a.capacity) (entries : c.listMap.entries = a.listMap.entries) : c.Refines a := by
  have length : c.listMap.nodeList.length = a.listMap.entries.length := by
    rw [← entries, ListMap.entries, List.length_map]
  have bounded := a.size_le
  refine ⟨⟨listMap, capacity ▸ a.capacity_pos, ?_⟩, capacity, entries⟩
  rw [size, ListMap.size, length, capacity]
  exact bounded

omit [DecidableEq κ] in
theorem Refines.size_eq (refines : c.Refines a) : c.listMap.size = a.listMap.size := by
  rw [ListMap.size, Library.ListMap.size, ← refines.2.2, ListMap.entries, List.length_map]

omit [DecidableEq κ] in
theorem Refines.find_eq_none_iff (refines : c.Refines a) {key : κ} :
    c.listMap.find key = none ↔ key ∉ a.listMap.keys := by
  rw [refines.1.listMap.find_eq_none_iff, refines.2.2]
  rfl

omit [DecidableEq κ] in
/-- The node an iterator of the implementation points at carries an abstract entry. -/
theorem Refines.entry_of_find (refines : c.Refines a) {key : κ} {address : Nat}
    (found : c.listMap.find key = some address) :
    ∃ value, (address, key, value) ∈ c.listMap.nodeList ∧ (key, value) ∈ a.listMap.entries := by
  obtain ⟨value, member⟩ := refines.1.listMap.pointsAt key address found
  refine ⟨value, member, ?_⟩
  rw [← refines.2.2]
  exact List.mem_map_of_mem member

omit [DecidableEq κ] in
theorem find_of_present (refines : c.Refines a) {key : κ} {address : Nat} {value : α}
    (found : c.listMap.find key = some address) (member : (address, key, value) ∈ c.listMap.nodeList) :
    c.find key = (some address, { c with listMap :=
      { c.listMap with nodeList := (address, key, value) :: c.listMap.nodeList.filter (·.1 ≠ address) } }) := by
  rw [find]
  split
  · rename_i missing
    rw [found] at missing
    cases missing
  · rename_i same
    rw [found] at same
    cases same
    rw [ListMap.splice_begin refines.1.listMap member]

omit [DecidableEq κ] in
theorem find_of_absent {key : κ} (missing : c.listMap.find key = none) : c.find key = (none, c) := by
  rw [find, missing]

/-- find() warms the key and answers as the abstract cache does. -/
theorem find_refines (refines : c.Refines a) (key : κ) :
    (c.find key).2.Refines (a.find key).2 ∧ (c.find key).1.isSome = (a.find key).1.isSome := by
  rcases found : c.listMap.find key with _ | address
  · have absent := refines.find_eq_none_iff.mp found
    rw [find_of_absent found, Library.LruCache.find_fst, Library.ListMap.find?_eq_none_iff.mpr absent]
    refine ⟨refines_of refines.1.listMap refines.2.1 ?_, rfl⟩
    rw [Library.LruCache.find_of_not_mem absent]
    exact refines.2.2
  · obtain ⟨value, member, entry⟩ := refines.entry_of_find found
    rw [find_of_present refines found member, Library.LruCache.find_fst,
      Library.ListMap.find?_eq_some_iff.mpr entry]
    refine ⟨refines_of (refines.1.listMap.moveToFront member) refines.2.1 ?_, rfl⟩
    rw [Library.LruCache.entries_find_of_mem entry, ← refines.2.2, ← refines.1.listMap.entries_filter member]
    rfl

/-- The eviction takes out the abstract cache's last entry exactly when it is full. -/
theorem evict_refines (refines : c.Refines a) :
    c.evict.2.Wf ∧ c.evict.2.entries = a.evicted.entries ∧
      c.evict.1 = (if a.listMap.size = a.capacity then a.listMap.entries.getLast? else none) ∧
      ∀ key, c.listMap.find key = none → c.evict.2.find key = none := by
  by_cases full : c.listMap.size = c.capacity
  · have abstractFull : a.listMap.size = a.capacity := by
      rw [← refines.size_eq, ← refines.2.1]
      exact full
    have nonempty : c.listMap.nodeList ≠ [] := by
      intro empty
      have positive := refines.1.positive
      rw [ListMap.size, empty] at full
      simp at full
      omega
    obtain ⟨coldest, last⟩ := Option.ne_none_iff_exists'.mp (mt List.getLast?_eq_none_iff.mp nonempty)
    have member : (coldest.1, coldest.2.1, coldest.2.2) ∈ c.listMap.nodeList := List.mem_of_getLast? last
    have abstractLast : a.listMap.entries.getLast? = some coldest.2 := by
      rw [← refines.2.2, ListMap.entries, List.getLast?_map, last]
      rfl
    have extracted := ListMap.extract_present refines.1.listMap member
    have evicted : c.evict = c.listMap.extract coldest.2.1 := by
      rw [evict, if_pos full, last]
    have stillAbsent : ∀ key, c.listMap.find key = none → (c.listMap.extract coldest.2.1).2.find key = none :=
      fun _ missing => ListMap.find_extract_of_none missing
    rw [evicted, if_pos abstractFull, abstractLast]
    refine ⟨?_, ?_, by rw [extracted], stillAbsent⟩
    · rw [extracted]
      exact refines.1.listMap.extract member
    rw [extracted, Library.LruCache.entries_evicted_of_full abstractFull abstractLast, ← refines.2.2,
      ← refines.1.listMap.entries_filter member]
    rfl
  · have room : a.listMap.size ≠ a.capacity := by
      rw [← refines.size_eq, ← refines.2.1]
      exact full
    have kept : c.evict = (none, c.listMap) := by
      rw [evict, if_neg full]
    rw [kept, if_neg room, Library.LruCache.evicted_of_not_full room]
    exact ⟨refines.1.listMap, refines.2.2, rfl, fun _ missing => missing⟩

theorem insertOrAssign_refines (refines : c.Refines a) (key : κ) (value : α) :
    (c.insertOrAssign key value).2.Refines (a.insertOrAssign key value) ∧
      (c.insertOrAssign key value).1 = a.evictionOf key := by
  rcases found : c.listMap.find key with _ | address
  · have absent := refines.find_eq_none_iff.mp found
    obtain ⟨wf, entries, evicted, stillAbsent⟩ := evict_refines refines
    have inserted : c.insertOrAssign key value = (c.evict.1, { c with listMap :=
        ⟨(c.evict.2.nextAddress, key, value) :: c.evict.2.nodeList,
          Function.update c.evict.2.keyMap key (some c.evict.2.nextAddress), c.evict.2.nextAddress + 1⟩ }) := by
      simp only [insertOrAssign, contains, find_of_absent found, Option.isSome_none, Bool.false_eq_true,
        if_false]
      rw [ListMap.insertOrAssign_begin (stillAbsent key found), ListMap.tryEmplace_begin (stillAbsent key found)]
    rw [inserted, Library.LruCache.evictionOf, if_neg absent]
    refine ⟨refines_of (wf.emplaceFront (stillAbsent key found) value)
      (by simpa using refines.2.1) ?_, evicted⟩
    rw [Library.LruCache.entries_insertOrAssign_of_not_mem absent, ← entries]
    rfl
  · obtain ⟨old, member, entry⟩ := refines.entry_of_find found
    have assigned : c.insertOrAssign key value = (none, { c with listMap :=
        { c.listMap with nodeList := (address, key, value) :: c.listMap.nodeList.filter (·.1 ≠ address) } }) := by
      simp only [insertOrAssign, contains, find_of_present refines found member, Option.isSome_some, if_true]
      rfl
    rw [assigned, Library.LruCache.evictionOf, if_pos (Library.LruCache.mem_keys_of_mem entry)]
    refine ⟨refines_of ((refines.1.listMap.moveToFront member).assignHead rfl value)
      (by simpa using refines.2.1) ?_, rfl⟩
    rw [Library.LruCache.entries_insertOrAssign_of_mem entry, ← refines.2.2, ← refines.1.listMap.entries_filter member]
    rfl

theorem tryEmplace_refines (refines : c.Refines a) (key : κ) (value : α) :
    (c.tryEmplace key value).2.Refines (a.tryEmplace key value) ∧
      (c.tryEmplace key value).1.2 = (decide (key ∉ a.listMap.keys), a.evictionOf key) := by
  rcases found : c.listMap.find key with _ | address
  · have absent := refines.find_eq_none_iff.mp found
    obtain ⟨wf, entries, evicted, stillAbsent⟩ := evict_refines refines
    have emplaced : c.tryEmplace key value = ((some c.evict.2.nextAddress, true, c.evict.1), { c with listMap :=
        ⟨(c.evict.2.nextAddress, key, value) :: c.evict.2.nodeList,
          Function.update c.evict.2.keyMap key (some c.evict.2.nextAddress), c.evict.2.nextAddress + 1⟩ }) := by
      simp only [tryEmplace, contains, find_of_absent found, Option.isSome_none, Bool.false_eq_true, if_false]
      rw [ListMap.tryEmplace_begin (stillAbsent key found)]
    rw [emplaced, Library.LruCache.evictionOf, if_neg absent, decide_eq_true absent]
    refine ⟨refines_of (wf.emplaceFront (stillAbsent key found) value)
      (by simpa using refines.2.1) ?_, by rw [evicted]⟩
    rw [Library.LruCache.entries_tryEmplace_of_not_mem absent, ← entries]
    rfl
  · obtain ⟨old, member, entry⟩ := refines.entry_of_find found
    have present := Library.LruCache.mem_keys_of_mem entry
    have warmed : c.tryEmplace key value = ((none, false, none), (c.find key).2) := by
      simp only [tryEmplace, contains, find_of_present refines found member, Option.isSome_some, if_true]
    rw [warmed, Library.LruCache.evictionOf, if_pos present, decide_eq_false (not_not_intro present),
      Library.LruCache.tryEmplace_of_mem entry]
    exact ⟨(find_refines refines key).1, rfl⟩

theorem extract_refines (refines : c.Refines a) (key : κ) :
    (c.extract key).2.Refines (a.extract key).2 ∧ (c.extract key).1 = (a.extract key).1.map (key, ·) := by
  rcases found : c.listMap.find key with _ | address
  · have absent := refines.find_eq_none_iff.mp found
    have unchanged : a.listMap.entries.filter (·.1 ≠ key) = a.listMap.entries := by
      rw [List.filter_eq_self]
      intro entry member
      have different : entry.1 ≠ key := fun same => absent (same ▸ Library.LruCache.mem_keys_of_mem member)
      simpa using different
    rw [extract, ListMap.extract_absent found, Library.LruCache.extract_fst,
      Library.ListMap.find?_eq_none_iff.mpr absent]
    refine ⟨refines_of refines.1.listMap refines.2.1 ?_, rfl⟩
    rw [Library.LruCache.listMap_extract, Library.ListMap.entries_erase, unchanged]
    exact refines.2.2
  · obtain ⟨value, member, entry⟩ := refines.entry_of_find found
    rw [extract, ListMap.extract_present refines.1.listMap member, Library.LruCache.extract_fst,
      Library.ListMap.find?_eq_some_iff.mpr entry]
    refine ⟨refines_of (refines.1.listMap.extract member) refines.2.1 ?_, rfl⟩
    rw [Library.LruCache.listMap_extract, Library.ListMap.entries_erase, ← refines.2.2,
      ← refines.1.listMap.entries_filter member]
    rfl

end Steps

/-! ## Sequences of calls -/

/-- The calls of the cache's interface; erase names its iterator by the key of
the node it points at. -/
inductive Call (κ α : Type) where
  | find (key : κ)
  | contains (key : κ)
  | insertOrAssign (key : κ) (value : α)
  | tryEmplace (key : κ) (value : α)
  | extract (key : κ)
  | erase (key : κ)

/-- What a call returns, read without iterators: whether find() or contains()
saw the key, whether try_emplace() inserted, and the node an eviction or
extract() gave back. -/
inductive Reply (κ α : Type) where
  | found (present : Bool)
  | node (evicted : Option (κ × α))
  | emplaced (inserted : Bool) (evicted : Option (κ × α))
  | erased
  deriving DecidableEq

/-- One call on the implementation; erase() of an iterator that is no node is
undefined. -/
def call (c : LruCache κ α) : Call κ α → Option (Reply κ α × LruCache κ α)
  | .find key => some (.found (c.find key).1.isSome, (c.find key).2)
  | .contains key => some (.found (c.contains key).1, (c.contains key).2)
  | .insertOrAssign key value => some (.node (c.insertOrAssign key value).1, (c.insertOrAssign key value).2)
  | .tryEmplace key value =>
    some (.emplaced (c.tryEmplace key value).1.2.1 (c.tryEmplace key value).1.2.2, (c.tryEmplace key value).2)
  | .extract key => some (.node (c.extract key).1, (c.extract key).2)
  | .erase key =>
    match c.listMap.find key with
    | none => none
    | some iter => (c.erase iter).map fun erased => (.erased, erased.2)

def run (c : LruCache κ α) (calls : List (Call κ α)) : Option (List (Reply κ α) × LruCache κ α) :=
  Simulation.run call c calls

/-- The same call on the bounded recency list. -/
def recencyCall (a : Library.LruCache κ α) : Call κ α → Option (Reply κ α × Library.LruCache κ α)
  | .find key | .contains key => some (.found (a.find key).1.isSome, (a.find key).2)
  | .insertOrAssign key value => some (.node (a.evictionOf key), a.insertOrAssign key value)
  | .tryEmplace key value => some (.emplaced (decide (key ∉ a.listMap.keys)) (a.evictionOf key), a.tryEmplace key value)
  | .extract key => some (.node ((a.extract key).1.map (key, ·)), (a.extract key).2)
  | .erase key => if key ∈ a.listMap.keys then some (.erased, a.erase key) else none

def recencyRun (a : Library.LruCache κ α) (calls : List (Call κ α)) :
    Option (List (Reply κ α) × Library.LruCache κ α) :=
  Simulation.run recencyCall a calls

theorem erase_refines {c : LruCache κ α} {a : Library.LruCache κ α} (refines : c.Refines a) (key : κ) :
    Option.Rel (Simulation.Agree Refines) (c.call (.erase key)) (recencyCall a (.erase key)) := by
  rcases found : c.listMap.find key with _ | address
  · have absent := refines.find_eq_none_iff.mp found
    simp only [call, recencyCall, found, if_neg absent]
    exact Option.Rel.none
  · obtain ⟨value, member, entry⟩ := refines.entry_of_find found
    have erased := ListMap.erase_present refines.1.listMap member
    rcases result : c.listMap.erase address with _ | ⟨next, m⟩
    · rw [result] at erased
      cases erased
    · rw [result] at erased
      simp only [Option.map_some, Option.some.injEq] at erased
      simp only [call, recencyCall, found, erase, result, Option.map_some,
        if_pos (Library.LruCache.mem_keys_of_mem entry)]
      refine Option.Rel.some ⟨rfl, ?_⟩
      have extracted := (extract_refines refines key).1
      rw [extract] at extracted
      rw [erased]
      exact extracted

/-- One call keeps the refinement and answers as the recency list does. -/
theorem call_refines {c : LruCache κ α} {a : Library.LruCache κ α} (refines : c.Refines a) (first : Call κ α) :
    Option.Rel (Simulation.Agree Refines) (c.call first) (recencyCall a first) := by
  cases first with
  | find key =>
    have step := find_refines refines key
    exact Option.Rel.some ⟨by simp only [step.2], step.1⟩
  | contains key =>
    have step := find_refines refines key
    exact Option.Rel.some ⟨by simp only [contains, step.2], step.1⟩
  | insertOrAssign key value =>
    have step := insertOrAssign_refines refines key value
    exact Option.Rel.some ⟨by simp only [step.2], step.1⟩
  | tryEmplace key value =>
    have step := tryEmplace_refines refines key value
    exact Option.Rel.some ⟨by simp only [step.2], step.1⟩
  | extract key =>
    have step := extract_refines refines key
    exact Option.Rel.some ⟨by simp only [step.2], step.1⟩
  | erase key => exact erase_refines refines key

theorem call_simulates : Simulation.Simulates (call (κ := κ) (α := α)) recencyCall Refines :=
  fun _ _ refines first => call_refines refines first

omit [DecidableEq κ] in
theorem create_refines {capacity : Nat} (positive : 0 < capacity) :
    ∃ c a, create capacity = some c ∧ Library.LruCache.create capacity = some a ∧ c.Refines (κ := κ) (α := α) a :=
  ⟨⟨capacity, .empty⟩, ⟨capacity, .empty, positive, Nat.zero_le _⟩,
    by rw [create, if_pos (Nat.pos_iff_ne_zero.mp positive)],
    by rw [Library.LruCache.create, dif_pos positive],
    refines_of ListMap.wf_empty rfl rfl⟩

/-- From the constructor, every sequence of calls fails exactly where the
bounded recency list's does, and otherwise gives its replies and ends in a
cache that holds it. -/
theorem run_refines_recencyRun (capacity : Nat) (positive : 0 < capacity) (calls : List (Call κ α)) :
    ∃ c a, create capacity = some c ∧ Library.LruCache.create capacity = some a ∧
      Option.Rel (Simulation.Agree Refines) (c.run calls) (recencyRun a calls) := by
  obtain ⟨c, a, created, abstractCreated, refines⟩ := create_refines (κ := κ) (α := α) positive
  exact ⟨c, a, created, abstractCreated, Simulation.run_simulates call_simulates refines calls⟩

/-- A full cache of two evicts the key that find() did not warm. -/
theorem run_refines_recencyRun_two :
    0 < 2 ∧ (∃ c a, create 2 = some c ∧ Library.LruCache.create 2 = some a ∧
      Option.Rel (Simulation.Agree Refines) (c.run [.insertOrAssign 1 10, .insertOrAssign 2 20, .find 1,
        .insertOrAssign 3 30]) (recencyRun a [.insertOrAssign 1 10, .insertOrAssign 2 20, .find 1,
        .insertOrAssign 3 30])) ∧
      ((create (κ := Nat) (α := Nat) 2).bind fun c =>
        c.run [.insertOrAssign 1 10, .insertOrAssign 2 20, .find 1, .insertOrAssign 3 30]).map Prod.fst =
        some [.node none, .node none, .found true, .node (some (2, 20))] :=
  ⟨by decide, run_refines_recencyRun 2 (by decide) _, by decide +kernel⟩

end LruCache

end Common
end BluetoothStack
