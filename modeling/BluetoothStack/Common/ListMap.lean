import Mathlib.Data.List.Perm.Basic
import Mathlib.Data.List.Nodup
import Mathlib.Logic.Function.Basic

namespace BluetoothStack
namespace Common

/-!
# ListMap as common/list_map.h builds it

A ListMap keeps its entries in a std::list, node_list_, and finds them through
an unordered_map from keys to list iterators, key_map_.  A node is modelled by
its address and the value_type it holds, an iterator by the address of its
node (end() by none), and key_map_ by a function to addresses.  New nodes get
addresses no node had before, as the allocator gives them.

`Wf` is what keeps the two containers in step: the nodes have distinct
addresses and distinct keys, every node's key is mapped to the node's
iterator, and every iterator in key_map_ points at a node of the list that
carries its key.  Each operation keeps it, and each one's effect on the
entries, node_list_ read without addresses, is stated beside it.
-/

/-- The list and the index of a ListMap. -/
structure ListMap (κ α : Type) where
  nodeList : List (Nat × κ × α)
  keyMap : κ → Option Nat
  nextAddress : Nat

namespace ListMap

variable {κ α : Type}

def empty : ListMap κ α :=
  ⟨[], fun _ => none, 0⟩

/-- The entries in list order. -/
def entries (m : ListMap κ α) : List (κ × α) :=
  m.nodeList.map (·.2)

def size (m : ListMap κ α) : Nat :=
  m.nodeList.length

/-- begin(): the first node, or end() for an empty list. -/
def begin (m : ListMap κ α) : Option Nat :=
  m.nodeList.head?.map (·.1)

/-- find(key): the iterator key_map_ holds. -/
def find (m : ListMap κ α) (key : κ) : Option Nat :=
  m.keyMap key

def contains (m : ListMap κ α) (key : κ) : Bool :=
  (m.find key).isSome

/-- std::list::emplace(pos, ...): the node goes before the node at pos, and
at the back for end(). -/
def emplaceBefore (pos : Option Nat) (node : Nat × κ × α) : List (Nat × κ × α) → List (Nat × κ × α)
  | [] => [node]
  | other :: rest => if some other.1 = pos then node :: other :: rest else other :: emplaceBefore pos node rest

/-- The two containers in step. -/
structure Wf (m : ListMap κ α) : Prop where
  addresses : (m.nodeList.map (·.1)).Nodup
  keys : (m.nodeList.map (·.2.1)).Nodup
  indexed : ∀ node ∈ m.nodeList, m.keyMap node.2.1 = some node.1
  pointsAt : ∀ key address, m.keyMap key = some address → ∃ value, (address, key, value) ∈ m.nodeList
  fresh : ∀ node ∈ m.nodeList, node.1 < m.nextAddress

theorem wf_empty : (empty : ListMap κ α).Wf :=
  ⟨List.nodup_nil, List.nodup_nil, fun _ member => (nomatch member), fun _ _ found => (nomatch found),
    fun _ member => (nomatch member)⟩

namespace Wf

variable {m : ListMap κ α} (wf : m.Wf)
include wf

theorem find_eq_none_iff {key : κ} : m.find key = none ↔ key ∉ m.entries.map Prod.fst := by
  constructor
  · intro missing present
    obtain ⟨entry, member, rfl⟩ := List.mem_map.mp present
    obtain ⟨node, inList, rfl⟩ := List.mem_map.mp member
    rw [find, wf.indexed node inList] at missing
    cases missing
  · intro absent
    rcases found : m.find key with _ | address
    · rfl
    · obtain ⟨value, member⟩ := wf.pointsAt key address found
      exact absurd (List.mem_map.mpr ⟨(key, value), List.mem_map.mpr ⟨_, member, rfl⟩, rfl⟩) absent

/-- Within the list, a node has the address of the node of a key exactly
when it carries that key. -/
theorem address_eq_iff {address : Nat} {key : κ} {value : α} (member : (address, key, value) ∈ m.nodeList)
    {node : Nat × κ × α} (inList : node ∈ m.nodeList) : node.1 = address ↔ node.2.1 = key := by
  constructor
  · intro same
    have equal := List.inj_on_of_nodup_map wf.addresses inList member same
    rw [equal]
  · intro same
    have indexed := wf.indexed node inList
    rw [same, wf.indexed _ member] at indexed
    exact (Option.some.inj indexed).symm

end Wf

theorem emplaceBefore_begin (node : Nat × κ × α) (nodes : List (Nat × κ × α)) :
    emplaceBefore (nodes.head?.map (·.1)) node nodes = node :: nodes := by
  cases nodes with
  | nil => rfl
  | cons first rest => simp [emplaceBefore]

variable [DecidableEq κ]

/-- try_emplace(pos, key, args): nothing when the key is there; otherwise a new
node before pos, indexed in key_map_. -/
def tryEmplace (m : ListMap κ α) (pos : Option Nat) (key : κ) (value : α) : (Option Nat × Bool) × ListMap κ α :=
  match m.keyMap key with
  | some _ => ((none, false), m)
  | none =>
    ((some m.nextAddress, true),
      ⟨emplaceBefore pos (m.nextAddress, key, value) m.nodeList, Function.update m.keyMap key (some m.nextAddress),
        m.nextAddress + 1⟩)

/-- insert_or_assign(pos, key, value): the value of a present key is replaced
through its iterator; a new key gets a node before pos. -/
def insertOrAssign (m : ListMap κ α) (pos : Option Nat) (key : κ) (value : α) : ListMap κ α :=
  match m.keyMap key with
  | some address =>
    { m with nodeList := m.nodeList.map fun node => if node.1 = address then (node.1, node.2.1, value) else node }
  | none =>
    ⟨emplaceBefore pos (m.nextAddress, key, value) m.nodeList, Function.update m.keyMap key (some m.nextAddress),
      m.nextAddress + 1⟩

/-- splice(pos, *this, it): the node at it moves before pos, and key_map_ is
left alone; a splice of a node before itself does nothing. -/
def splice (m : ListMap κ α) (pos : Option Nat) (it : Nat) : ListMap κ α :=
  if pos = some it then m
  else
    match m.nodeList.find? (·.1 = it) with
    | some node => { m with nodeList := emplaceBefore pos node (m.nodeList.filter (·.1 ≠ it)) }
    | none => m

/-- extract(key): the node of a present key taken out of both containers. -/
def extract (m : ListMap κ α) (key : κ) : Option (κ × α) × ListMap κ α :=
  match m.keyMap key with
  | none => (none, m)
  | some address =>
    ((m.nodeList.find? (·.1 = address)).map (·.2),
      { m with nodeList := m.nodeList.filter (·.1 ≠ address), keyMap := Function.update m.keyMap key none })

/-- erase(iter): the node taken out of both containers, and the iterator of
the node after it.  Reading iter->first of an iterator that is not a node is
undefined, hence none. -/
def erase (m : ListMap κ α) (iter : Nat) : Option (Option Nat × ListMap κ α) :=
  match m.nodeList.find? (·.1 = iter) with
  | none => none
  | some node =>
    some ((((m.nodeList.dropWhile (·.1 ≠ iter)).drop 1).head?.map (·.1),
      { m with nodeList := m.nodeList.filter (·.1 ≠ iter), keyMap := Function.update m.keyMap node.2.1 none }))

def clear (m : ListMap κ α) : ListMap κ α :=
  { m with nodeList := [], keyMap := fun _ => none }

namespace Wf

variable {m : ListMap κ α} (wf : m.Wf)
include wf

/-- Taking out the node of a key is taking out the key's entry. -/
theorem entries_filter {address : Nat} {key : κ} {value : α} (member : (address, key, value) ∈ m.nodeList) :
    (m.nodeList.filter (·.1 ≠ address)).map (·.2) = m.entries.filter (·.1 ≠ key) := by
  rw [entries, List.filter_map]
  congr 1
  apply List.filter_congr
  intro node inList
  simp [Function.comp, wf.address_eq_iff member inList]

end Wf

omit [DecidableEq κ] in
/-- The node at a key's iterator, spliced to begin(): it comes first, and the
others keep their order. -/
theorem splice_begin {m : ListMap κ α} (wf : m.Wf) {address : Nat} {key : κ} {value : α}
    (member : (address, key, value) ∈ m.nodeList) :
    m.splice m.begin address = { m with nodeList := (address, key, value) :: m.nodeList.filter (·.1 ≠ address) } := by
  have found : m.nodeList.find? (·.1 = address) = some (address, key, value) := by
    rw [List.find?_eq_some_iff_append]
    refine ⟨by simp, ?_⟩
    obtain ⟨before, after, split⟩ := List.append_of_mem member
    refine ⟨before, after, split, fun node inBefore => ?_⟩
    have inList : node ∈ m.nodeList := by rw [split]; exact List.mem_append_left _ inBefore
    have different : node.1 ≠ address := by
      intro same
      have equal := List.inj_on_of_nodup_map wf.addresses inList member same
      have nodup := wf.addresses
      rw [split, List.map_append, List.nodup_append] at nodup
      exact nodup.2.2 _ (List.mem_map_of_mem (equal ▸ inBefore)) _ (by simp) rfl
    simpa using different
  unfold splice begin
  rcases nodes : m.nodeList with _ | ⟨first, rest⟩
  · rw [nodes] at member
    cases member
  · by_cases atFront : first.1 = address
    · -- the node is the first one already: splicing it before itself does nothing
      have firstNode : first = (address, key, value) := by
        apply List.inj_on_of_nodup_map wf.addresses (by rw [nodes]; simp) member atFront
      have restFiltered : rest.filter (·.1 ≠ address) = rest := by
        apply List.filter_eq_self.mpr
        intro node inRest
        have nodup := wf.addresses
        rw [nodes, List.map_cons, List.nodup_cons] at nodup
        simp only [decide_eq_true_eq]
        rintro same
        have repeated : first.1 ∈ rest.map (·.1) := by
          rw [atFront, ← same]
          exact List.mem_map_of_mem inRest
        exact nodup.1 repeated
      rw [if_pos (by simp [atFront])]
      cases m
      simp only at nodes
      subst nodes
      simpa [firstNode] using restFiltered.symm
    · rw [nodes] at found
      rw [if_neg (by simpa using atFront), found]
      simp [emplaceBefore, atFront]

omit [DecidableEq κ] in
/-- Moving a node to the front keeps the containers in step: the list holds
the same nodes. -/
theorem Wf.moveToFront {m : ListMap κ α} (wf : m.Wf) {address : Nat} {key : κ} {value : α}
    (member : (address, key, value) ∈ m.nodeList) :
    ({ m with nodeList := (address, key, value) :: m.nodeList.filter (·.1 ≠ address) } : ListMap κ α).Wf := by
  have same : ∀ node, node ∈ (address, key, value) :: m.nodeList.filter (·.1 ≠ address) ↔ node ∈ m.nodeList := by
    intro node
    constructor
    · rintro (_ | ⟨_, kept⟩)
      · exact member
      · exact (List.mem_filter.mp kept).1
    · intro inList
      by_cases atAddress : node.1 = address
      · rw [List.inj_on_of_nodup_map wf.addresses inList member atAddress]
        exact List.mem_cons_self
      · exact List.mem_cons_of_mem _ (List.mem_filter.mpr ⟨inList, by simpa using atAddress⟩)
  have sublist : (m.nodeList.filter (·.1 ≠ address)).Sublist m.nodeList := List.filter_sublist
  have otherAddress : address ∉ (m.nodeList.filter (·.1 ≠ address)).map (·.1) := by
    intro present
    obtain ⟨node, kept, atAddress⟩ := List.mem_map.mp present
    exact absurd atAddress (by simpa using (List.mem_filter.mp kept).2)
  have otherKey : key ∉ (m.nodeList.filter (·.1 ≠ address)).map (·.2.1) := by
    intro present
    obtain ⟨node, kept, atKey⟩ := List.mem_map.mp present
    rw [List.mem_filter, decide_eq_true_eq] at kept
    exact kept.2 ((wf.address_eq_iff member kept.1).mpr atKey)
  exact ⟨List.nodup_cons.mpr ⟨otherAddress, wf.addresses.sublist (sublist.map _)⟩,
    List.nodup_cons.mpr ⟨otherKey, wf.keys.sublist (sublist.map _)⟩,
    fun node inList => wf.indexed node ((same node).mp inList),
    fun key address found => by
      obtain ⟨value, member⟩ := wf.pointsAt key address found
      exact ⟨value, (same _).mpr member⟩,
    fun node inList => wf.fresh node ((same node).mp inList)⟩

/-- try_emplace of a new key at begin(): a new node in front. -/
theorem tryEmplace_begin {m : ListMap κ α} {key : κ} (absent : m.find key = none) (value : α) :
    m.tryEmplace m.begin key value =
      ((some m.nextAddress, true), ⟨(m.nextAddress, key, value) :: m.nodeList,
        Function.update m.keyMap key (some m.nextAddress), m.nextAddress + 1⟩) := by
  unfold tryEmplace begin
  rw [show m.keyMap key = none from absent, emplaceBefore_begin]

theorem insertOrAssign_begin {m : ListMap κ α} {key : κ} (absent : m.find key = none) (value : α) :
    m.insertOrAssign m.begin key value = (m.tryEmplace m.begin key value).2 := by
  unfold insertOrAssign tryEmplace
  rw [show m.keyMap key = none from absent]

theorem Wf.emplaceFront {m : ListMap κ α} (wf : m.Wf) {key : κ} (absent : m.find key = none) (value : α) :
    (⟨(m.nextAddress, key, value) :: m.nodeList, Function.update m.keyMap key (some m.nextAddress),
      m.nextAddress + 1⟩ : ListMap κ α).Wf := by
  have newKey : key ∉ m.nodeList.map (·.2.1) := by
    have missing := (wf.find_eq_none_iff).mp absent
    simpa [entries, List.map_map] using missing
  have newAddress : m.nextAddress ∉ m.nodeList.map (·.1) := by
    intro old
    obtain ⟨node, inList, same⟩ := List.mem_map.mp old
    have := wf.fresh node inList
    omega
  refine ⟨List.nodup_cons.mpr ⟨newAddress, wf.addresses⟩, List.nodup_cons.mpr ⟨newKey, wf.keys⟩, ?_, ?_, ?_⟩
  · intro node inList
    rcases List.mem_cons.mp inList with rfl | old
    · simp
    · have different : node.2.1 ≠ key := fun same => newKey (same ▸ List.mem_map_of_mem old)
      dsimp only
      rw [Function.update_of_ne different]
      exact wf.indexed node old
  · intro other address found
    dsimp only at found
    by_cases same : other = key
    · subst same
      rw [Function.update_self] at found
      cases found
      exact ⟨value, List.mem_cons_self⟩
    · rw [Function.update_of_ne same] at found
      obtain ⟨value', member⟩ := wf.pointsAt other address found
      exact ⟨value', List.mem_cons_of_mem _ member⟩
  · intro node inList
    rcases List.mem_cons.mp inList with rfl | old
    · simp
    · have := wf.fresh node old
      simp only
      omega

/-- extract of a present key: its entry, and its node gone from both containers. -/
theorem extract_present {m : ListMap κ α} (wf : m.Wf) {address : Nat} {key : κ} {value : α}
    (member : (address, key, value) ∈ m.nodeList) :
    m.extract key = (some (key, value),
      { m with nodeList := m.nodeList.filter (·.1 ≠ address), keyMap := Function.update m.keyMap key none }) := by
  have found : m.nodeList.find? (·.1 = address) = some (address, key, value) := by
    apply List.find?_eq_some_iff_append.mpr
    refine ⟨by simp, ?_⟩
    obtain ⟨before, after, split⟩ := List.append_of_mem member
    refine ⟨before, after, split, fun node inBefore => ?_⟩
    have inList : node ∈ m.nodeList := by rw [split]; exact List.mem_append_left _ inBefore
    have different : node.1 ≠ address := by
      intro same
      have equal := List.inj_on_of_nodup_map wf.addresses inList member same
      have nodup := wf.addresses
      rw [split, List.map_append, List.nodup_append] at nodup
      exact nodup.2.2 _ (List.mem_map_of_mem (equal ▸ inBefore)) _ (by simp) rfl
    simpa using different
  unfold extract
  rw [wf.indexed _ member]
  dsimp only
  rw [found]
  rfl

theorem extract_absent {m : ListMap κ α} {key : κ} (absent : m.find key = none) : m.extract key = (none, m) := by
  unfold extract
  rw [show m.keyMap key = none from absent]

theorem Wf.extract {m : ListMap κ α} (wf : m.Wf) {address : Nat} {key : κ} {value : α}
    (member : (address, key, value) ∈ m.nodeList) :
    ({ m with nodeList := m.nodeList.filter (·.1 ≠ address), keyMap := Function.update m.keyMap key none } :
      ListMap κ α).Wf := by
  have sublist : (m.nodeList.filter (·.1 ≠ address)).Sublist m.nodeList := List.filter_sublist
  refine ⟨wf.addresses.sublist (sublist.map _), wf.keys.sublist (sublist.map _), ?_, ?_, ?_⟩
  · intro node inList
    rw [List.mem_filter, decide_eq_true_eq] at inList
    have different : node.2.1 ≠ key := fun same => inList.2 ((wf.address_eq_iff member inList.1).mpr same)
    dsimp only
    rw [Function.update_of_ne different]
    exact wf.indexed node inList.1
  · intro other address' found
    dsimp only at found
    by_cases same : other = key
    · subst same
      rw [Function.update_self] at found
      cases found
    · rw [Function.update_of_ne same] at found
      obtain ⟨value', member'⟩ := wf.pointsAt other address' found
      refine ⟨value', List.mem_filter.mpr ⟨member', ?_⟩⟩
      rw [decide_eq_true_eq]
      intro sameAddress
      exact same ((wf.address_eq_iff member member').mp sameAddress)
  · intro node inList
    exact wf.fresh node (List.mem_filter.mp inList).1

/-- erase of a node: the same containers as extract of its key. -/
theorem erase_present {m : ListMap κ α} (wf : m.Wf) {address : Nat} {key : κ} {value : α}
    (member : (address, key, value) ∈ m.nodeList) :
    (m.erase address).map Prod.snd = some (m.extract key).2 := by
  have found : m.nodeList.find? (·.1 = address) = some (address, key, value) := by
    have extracted := extract_present wf member
    unfold extract at extracted
    rw [wf.indexed _ member] at extracted
    simp only [Prod.mk.injEq, Option.map_eq_some_iff] at extracted
    obtain ⟨⟨node, found, same⟩, -⟩ := extracted
    have inList := List.mem_of_find?_eq_some found
    have atAddress : node.1 = address := by simpa using List.find?_some found
    rw [found, List.inj_on_of_nodup_map wf.addresses inList member atAddress]
  rw [extract_present wf member]
  unfold erase
  rw [found]
  rfl

omit [DecidableEq κ] in
/-- Assigning the value of the first node keeps the containers in step. -/
theorem Wf.assignHead {m : ListMap κ α} (wf : m.Wf) {node : Nat × κ × α} {rest : List (Nat × κ × α)}
    (split : m.nodeList = node :: rest) (value : α) :
    ({ m with nodeList := (node.1, node.2.1, value) :: rest } : ListMap κ α).Wf := by
  have addresses := wf.addresses
  have keys := wf.keys
  rw [split] at addresses keys
  refine ⟨addresses, keys, ?_, ?_, ?_⟩
  · intro other inList
    rcases List.mem_cons.mp inList with rfl | kept
    · exact wf.indexed node (by rw [split]; exact List.mem_cons_self)
    · exact wf.indexed other (by rw [split]; exact List.mem_cons_of_mem _ kept)
  · intro key address found
    obtain ⟨old, member⟩ := wf.pointsAt key address found
    rw [split] at member
    rcases List.mem_cons.mp member with first | kept
    · rw [← first]
      exact ⟨value, List.mem_cons_self⟩
    · exact ⟨old, List.mem_cons_of_mem _ kept⟩
  · intro other inList
    rcases List.mem_cons.mp inList with rfl | kept
    · exact wf.fresh node (by rw [split]; exact List.mem_cons_self)
    · exact wf.fresh other (by rw [split]; exact List.mem_cons_of_mem _ kept)

/-- A key that is absent stays absent when a node is taken out. -/
theorem find_extract_of_none {m : ListMap κ α} {key other : κ} (absent : m.find key = none) :
    (m.extract other).2.find key = none := by
  unfold extract
  split
  · exact absent
  · dsimp only [find]
    by_cases same : key = other
    · rw [same, Function.update_self]
    · rw [Function.update_of_ne same]
      exact absent

end ListMap

end Common
end BluetoothStack
