import Mathlib.Data.List.Nodup

namespace BluetoothStack
namespace Library

/-!
# Ordered maps with distinct keys, and LRU caches over them

A list map keeps its entries in a list whose keys are pairwise distinct, in
the order they were put there: a new key goes in at the front or at the
back, and an existing key keeps its place when its value is assigned.  An
LRU cache is a list map with a capacity, warmest key first: finding a key
moves it to the front, and a new key put into a full cache first evicts the
key at the back.

Invariants over the entries are stated with `ListMap.All`; each operation
has a lemma saying which entries it can leave (`mem_*`) and one saying that
it keeps `All` (`All.*`).
-/

/-- Where a new key goes in: the list's begin or its end. -/
inductive Position
  | front
  | back
  deriving DecidableEq, Repr

namespace Position

variable {β : Type}

/-- The list with one more element at this position. -/
def put : Position → List β → β → List β
  | front, values, value => value :: values
  | back, values, value => values ++ [value]

@[simp]
theorem mem_put (pos : Position) (values : List β) (value other : β) :
    other ∈ pos.put values value ↔ other = value ∨ other ∈ values := by
  cases pos with
  | front => simp [put]
  | back => simp [put, or_comm]

@[simp]
theorem length_put (pos : Position) (values : List β) (value : β) :
    (pos.put values value).length = values.length + 1 := by
  cases pos <;> simp [put]

theorem map_put {γ : Type} (f : β → γ) (pos : Position) (values : List β) (value : β) :
    (pos.put values value).map f = pos.put (values.map f) (f value) := by
  cases pos <;> simp [put]

theorem nodup_put {pos : Position} {values : List β} {value : β}
    (nodup : values.Nodup) (fresh : value ∉ values) : (pos.put values value).Nodup := by
  cases pos with
  | front => exact List.nodup_cons.mpr ⟨fresh, nodup⟩
  | back =>
    rw [put, ← List.concat_eq_append]
    exact List.Nodup.concat fresh nodup

end Position

/-- A map whose entries keep the order they were put in. -/
structure ListMap (κ α : Type) where
  entries : List (κ × α)
  nodup : (entries.map Prod.fst).Nodup

namespace ListMap

variable {κ α : Type}

/-- The keys, in order. -/
def keys (m : ListMap κ α) : List κ :=
  m.entries.map Prod.fst

def empty : ListMap κ α :=
  ⟨[], List.nodup_nil⟩

def size (m : ListMap κ α) : Nat :=
  m.entries.length

/-- What holds of every entry. -/
def All (m : ListMap κ α) (holds : κ → α → Prop) : Prop :=
  ∀ entry ∈ m.entries, holds entry.1 entry.2

/-- Every entry with its value changed; the keys stay where they are. -/
def mapValues (m : ListMap κ α) (f : κ → α → α) : ListMap κ α :=
  ⟨m.entries.map (fun entry => (entry.1, f entry.1 entry.2)), by
    rw [List.map_map]
    exact m.nodup⟩

/-- The entries that pass a test, in their order. -/
def filter (m : ListMap κ α) (keep : κ → α → Bool) : ListMap κ α :=
  ⟨m.entries.filter (fun entry => keep entry.1 entry.2),
    m.nodup.sublist (List.Sublist.map Prod.fst List.filter_sublist)⟩

/-! ## Entries, keys and sizes -/

theorem mem_keys {m : ListMap κ α} {key : κ} : key ∈ m.keys ↔ ∃ value, (key, value) ∈ m.entries := by
  simp [keys]

/-- A list map is its entries: the distinctness of the keys is a proof. -/
@[ext]
theorem ext {m m' : ListMap κ α} (same : m.entries = m'.entries) : m = m' := by
  cases m
  cases m'
  cases same
  rfl

theorem size_pos_of_mem {m : ListMap κ α} {entry : κ × α} (member : entry ∈ m.entries) : 0 < m.size :=
  List.length_pos_of_mem member

@[simp]
theorem empty_entries : (empty : ListMap κ α).entries = [] := rfl

theorem mem_mapValues {m : ListMap κ α} {f : κ → α → α} {entry : κ × α} :
    entry ∈ (m.mapValues f).entries ↔ ∃ value, (entry.1, value) ∈ m.entries ∧ entry.2 = f entry.1 value := by
  simp only [mapValues, List.mem_map]
  constructor
  · rintro ⟨⟨key, value⟩, member, rfl⟩
    exact ⟨value, member, rfl⟩
  · rintro ⟨value, member, same⟩
    exact ⟨(entry.1, value), member, Prod.ext rfl same.symm⟩

@[simp]
theorem keys_mapValues (m : ListMap κ α) (f : κ → α → α) : (m.mapValues f).keys = m.keys := by
  simp [keys, mapValues]

theorem mem_filter {m : ListMap κ α} {keep : κ → α → Bool} {entry : κ × α} :
    entry ∈ (m.filter keep).entries ↔ entry ∈ m.entries ∧ keep entry.1 entry.2 = true :=
  List.mem_filter

theorem size_mapValues (m : ListMap κ α) (f : κ → α → α) : (m.mapValues f).size = m.size :=
  List.length_map _

theorem size_filter_le (m : ListMap κ α) (keep : κ → α → Bool) : (m.filter keep).size ≤ m.size :=
  List.length_filter_le _ _

section All

variable {holds : κ → α → Prop}

theorem all_empty : (empty : ListMap κ α).All holds := fun _ member => nomatch member

theorem All.filter {m : ListMap κ α} (all : m.All holds) (keep : κ → α → Bool) : (m.filter keep).All holds :=
  fun entry member => all entry (mem_filter.mp member).1

theorem All.mapValues {m : ListMap κ α} {f : κ → α → α} {holds' : κ → α → Prop} (all : m.All holds)
    (step : ∀ key value, holds key value → holds' key (f key value)) : (m.mapValues f).All holds' := by
  intro entry member
  obtain ⟨value, member, changed⟩ := mem_mapValues.mp member
  rw [changed]
  exact step entry.1 value (all _ member)

end All

variable [DecidableEq κ]

def find? (m : ListMap κ α) (key : κ) : Option α :=
  m.entries.lookup key

def contains (m : ListMap κ α) (key : κ) : Bool :=
  (m.find? key).isSome

/-- Remove a key with its value; nothing happens when it is absent. -/
def erase (m : ListMap κ α) (key : κ) : ListMap κ α :=
  m.filter (fun other _ => other != key)

/-- The value of a key taken out of the map. -/
def extract (m : ListMap κ α) (key : κ) : Option α × ListMap κ α :=
  (m.find? key, m.erase key)

/-- Assign through the iterator of a key: its value changes in place, and
nothing happens when it is absent. -/
def modify (m : ListMap κ α) (key : κ) (f : α → α) : ListMap κ α :=
  m.mapValues (fun other value => if other = key then f value else value)

/-- Put a key with its value at a position, unless the key is there already. -/
def tryEmplace (m : ListMap κ α) (pos : Position) (key : κ) (value : α) : ListMap κ α :=
  if present : key ∈ m.keys then m
  else ⟨pos.put m.entries (key, value), by
    rw [Position.map_put]
    exact Position.nodup_put m.nodup present⟩

/-- Replace the value of a key in place, or put the key at a position. -/
def insertOrAssign (m : ListMap κ α) (pos : Position) (key : κ) (value : α) : ListMap κ α :=
  if key ∈ m.keys then m.modify key (fun _ => value) else m.tryEmplace pos key value

/-- Move a key with its value to the front (std::list::splice to begin). -/
def spliceFront (m : ListMap κ α) (key : κ) : ListMap κ α :=
  match m.find? key with
  | some value => (m.erase key).tryEmplace .front key value
  | none => m

/-! ## Lookup -/

theorem lookup_eq_some_iff_mem {key : κ} {value : α} :
    ∀ {entries : List (κ × α)}, (entries.map Prod.fst).Nodup →
      (entries.lookup key = some value ↔ (key, value) ∈ entries)
  | [], _ => by simp
  | (other, found) :: rest, nodup => by
    rw [List.map_cons, List.nodup_cons] at nodup
    rw [List.lookup_cons, List.mem_cons]
    by_cases same : key = other
    · subst same
      have absent : ∀ value', (key, value') ∉ rest := fun value' member =>
        nodup.1 (List.mem_map.mpr ⟨_, member, rfl⟩)
      simp only [beq_self_eq_true, Option.some.injEq, Prod.mk.injEq, true_and]
      constructor
      · intro found
        exact Or.inl found.symm
      · rintro (same | member)
        · exact same.symm
        · exact absurd member (absent value)
    · have different : (key == other) = false := beq_false_of_ne same
      simp only [different, Prod.mk.injEq, same, false_and, false_or]
      exact lookup_eq_some_iff_mem nodup.2

@[simp]
theorem find?_eq_some_iff {m : ListMap κ α} {key : κ} {value : α} :
    m.find? key = some value ↔ (key, value) ∈ m.entries :=
  lookup_eq_some_iff_mem m.nodup

@[simp]
theorem find?_eq_none_iff {m : ListMap κ α} {key : κ} : m.find? key = none ↔ key ∉ m.keys := by
  rw [find?, List.lookup_eq_none_iff, mem_keys]
  constructor
  · rintro differ ⟨value, member⟩
    simp at differ
    exact differ key value member rfl
  · intro absent entry member
    simp only [bne_iff_ne, ne_eq]
    intro same
    exact absent ⟨entry.2, by rw [same]; exact member⟩

theorem mem_keys_of_find? {m : ListMap κ α} {key : κ} {value : α} (found : m.find? key = some value) :
    key ∈ m.keys :=
  mem_keys.mpr ⟨value, find?_eq_some_iff.mp found⟩

@[simp]
theorem contains_iff {m : ListMap κ α} {key : κ} : m.contains key = true ↔ key ∈ m.keys := by
  rw [contains, Option.isSome_iff_ne_none, ne_eq, find?_eq_none_iff, not_not]

@[simp]
theorem contains_eq_false_iff {m : ListMap κ α} {key : κ} : m.contains key = false ↔ key ∉ m.keys := by
  rw [← Bool.not_eq_true, contains_iff]

theorem eq_of_mem_of_mem {m : ListMap κ α} {key : κ} {value value' : α}
    (member : (key, value) ∈ m.entries) (member' : (key, value') ∈ m.entries) : value = value' := by
  have found := find?_eq_some_iff.mpr member
  rw [find?_eq_some_iff.mpr member'] at found
  exact (Option.some.inj found).symm

/-! ## Which entries each operation leaves -/

theorem mem_erase {m : ListMap κ α} {key : κ} {entry : κ × α} :
    entry ∈ (m.erase key).entries ↔ entry ∈ m.entries ∧ entry.1 ≠ key := by
  simp [erase, mem_filter]

theorem mem_keys_erase {m : ListMap κ α} {key other : κ} :
    other ∈ (m.erase key).keys ↔ other ∈ m.keys ∧ other ≠ key := by
  simp only [mem_keys, mem_erase]
  constructor
  · rintro ⟨value, member, different⟩
    exact ⟨⟨value, member⟩, different⟩
  · rintro ⟨⟨value, member⟩, different⟩
    exact ⟨value, member, different⟩

theorem mem_modify {m : ListMap κ α} {key : κ} {f : α → α} {entry : κ × α} :
    entry ∈ (m.modify key f).entries ↔
      (entry ∈ m.entries ∧ entry.1 ≠ key) ∨ ∃ value, (key, value) ∈ m.entries ∧ entry = (key, f value) := by
  rw [modify, mem_mapValues]
  by_cases same : entry.1 = key
  · obtain ⟨other, changed⟩ := entry
    simp only at same
    subst same
    simp
  · simp only [same, if_false, ne_eq, not_false_eq_true, and_true]
    constructor
    · rintro ⟨value, member, rfl⟩
      exact Or.inl member
    · rintro (member | ⟨value, _, rfl⟩)
      · exact ⟨entry.2, member, rfl⟩
      · exact absurd rfl same

@[simp]
theorem keys_modify (m : ListMap κ α) (key : κ) (f : α → α) : (m.modify key f).keys = m.keys :=
  keys_mapValues m _

theorem mem_tryEmplace {m : ListMap κ α} {pos : Position} {key : κ} {value : α} {entry : κ × α} :
    entry ∈ (m.tryEmplace pos key value).entries ↔ entry ∈ m.entries ∨ (key ∉ m.keys ∧ entry = (key, value)) := by
  unfold tryEmplace
  by_cases present : key ∈ m.keys
  · simp [present]
  · simp [present, or_comm]

theorem mem_keys_tryEmplace {m : ListMap κ α} {pos : Position} {key other : κ} {value : α} :
    other ∈ (m.tryEmplace pos key value).keys ↔ other = key ∨ other ∈ m.keys := by
  unfold tryEmplace
  by_cases present : key ∈ m.keys
  · simp only [present, dite_true]
    constructor
    · exact Or.inr
    · rintro (rfl | member)
      · exact present
      · exact member
  · rw [dif_neg present]
    simp only [keys, Position.map_put, Position.mem_put]

/-! ## Entries put at the back -/

theorem tryEmplace_of_mem {m : ListMap κ α} {pos : Position} {key : κ} (present : key ∈ m.keys)
    (value : α) : m.tryEmplace pos key value = m := by
  simp [tryEmplace, present]

theorem entries_tryEmplace_back {m : ListMap κ α} {key : κ} (absent : key ∉ m.keys) (value : α) :
    (m.tryEmplace .back key value).entries = m.entries ++ [(key, value)] := by
  simp [tryEmplace, absent, Position.put]

theorem entries_insertOrAssign_back {m : ListMap κ α} {key : κ} (absent : key ∉ m.keys) (value : α) :
    (m.insertOrAssign .back key value).entries = m.entries ++ [(key, value)] := by
  rw [insertOrAssign, if_neg absent, entries_tryEmplace_back absent]

/-- Assigning the key of the last entry changes that entry only. -/
theorem entries_modify_last {m : ListMap κ α} {front : List (κ × α)} {key : κ} {value : α}
    (split : m.entries = front ++ [(key, value)]) (f : α → α) :
    (m.modify key f).entries = front ++ [(key, f value)] := by
  have nodup := m.nodup
  rw [split, List.map_append, List.nodup_append] at nodup
  have fresh : ∀ entry ∈ front, entry.1 ≠ key := fun entry member same =>
    nodup.2.2 entry.1 (List.mem_map_of_mem member) key (by simp) same
  simp only [modify, mapValues, split, List.map_append, List.map_cons, List.map_nil]
  congr 1
  conv => rhs; rw [← List.map_id front]
  apply List.map_congr_left
  intro entry member
  simp [fresh entry member]

theorem mem_insertOrAssign {m : ListMap κ α} {pos : Position} {key : κ} {value : α} {entry : κ × α} :
    entry ∈ (m.insertOrAssign pos key value).entries ↔ (entry ∈ m.entries ∧ entry.1 ≠ key) ∨ entry = (key, value) := by
  unfold insertOrAssign
  by_cases present : key ∈ m.keys
  · obtain ⟨old, member⟩ := mem_keys.mp present
    simp only [present, if_true, mem_modify]
    constructor
    · rintro (kept | ⟨_, _, rfl⟩)
      · exact Or.inl kept
      · exact Or.inr rfl
    · rintro (kept | rfl)
      · exact Or.inl kept
      · exact Or.inr ⟨old, member, rfl⟩
  · simp only [present, if_false, mem_tryEmplace, not_false_eq_true, true_and]
    constructor
    · rintro (member | rfl)
      · refine Or.inl ⟨member, ?_⟩
        rintro same
        exact present (mem_keys.mpr ⟨entry.2, by rw [← same]; exact member⟩)
      · exact Or.inr rfl
    · rintro (⟨member, _⟩ | rfl)
      · exact Or.inl member
      · exact Or.inr rfl

theorem mem_insertOrAssign_self (m : ListMap κ α) (pos : Position) (key : κ) (value : α) :
    (key, value) ∈ (m.insertOrAssign pos key value).entries :=
  mem_insertOrAssign.mpr (Or.inr rfl)

theorem mem_keys_insertOrAssign {m : ListMap κ α} {pos : Position} {key other : κ} {value : α} :
    other ∈ (m.insertOrAssign pos key value).keys ↔ other = key ∨ other ∈ m.keys := by
  unfold insertOrAssign
  by_cases present : key ∈ m.keys
  · simp only [present, if_true, keys_modify]
    constructor
    · exact Or.inr
    · rintro (rfl | member)
      · exact present
      · exact member
  · simp only [present, if_false]
    exact mem_keys_tryEmplace

/-! ## Lookups after each operation -/

/-- Two maps with the same entries for a key look it up alike. -/
theorem find?_congr {m m' : ListMap κ α} {key : κ}
    (same : ∀ value, (key, value) ∈ m'.entries ↔ (key, value) ∈ m.entries) : m'.find? key = m.find? key := by
  apply Option.ext
  intro value
  rw [find?_eq_some_iff, find?_eq_some_iff]
  exact same value

/-- An assignment through the iterator of a present key is what a lookup
then finds. -/
theorem find?_modify_self (m : ListMap κ α) (key : κ) (f : α → α) :
    (m.modify key f).find? key = (m.find? key).map f := by
  cases found : m.find? key with
  | none =>
    rw [Option.map_none, find?_eq_none_iff, keys_modify]
    exact find?_eq_none_iff.mp found
  | some value =>
    rw [Option.map_some]
    exact find?_eq_some_iff.mpr (mem_modify.mpr (Or.inr ⟨value, find?_eq_some_iff.mp found, rfl⟩))

theorem find?_modify_of_ne {m : ListMap κ α} {key other : κ} (f : α → α) (different : other ≠ key) :
    (m.modify key f).find? other = m.find? other := by
  apply find?_congr
  intro value
  rw [mem_modify]
  constructor
  · rintro (⟨member, -⟩ | ⟨_, _, same⟩)
    · exact member
    · exact absurd (Prod.mk.inj same).1 different
  · intro member
    exact Or.inl ⟨member, different⟩

theorem find?_tryEmplace_self (m : ListMap κ α) (pos : Position) (key : κ) (value : α) :
    (m.tryEmplace pos key value).find? key = some ((m.find? key).getD value) := by
  cases found : m.find? key with
  | none =>
    exact find?_eq_some_iff.mpr (mem_tryEmplace.mpr (Or.inr ⟨find?_eq_none_iff.mp found, rfl⟩))
  | some old =>
    exact find?_eq_some_iff.mpr (mem_tryEmplace.mpr (Or.inl (find?_eq_some_iff.mp found)))

theorem find?_tryEmplace_of_ne {m : ListMap κ α} {pos : Position} {key other : κ} (value : α)
    (different : other ≠ key) : (m.tryEmplace pos key value).find? other = m.find? other := by
  apply find?_congr
  intro found
  rw [mem_tryEmplace]
  constructor
  · rintro (member | ⟨_, same⟩)
    · exact member
    · exact absurd (Prod.mk.inj same).1 different
  · exact Or.inl

theorem find?_insertOrAssign_self (m : ListMap κ α) (pos : Position) (key : κ) (value : α) :
    (m.insertOrAssign pos key value).find? key = some value :=
  find?_eq_some_iff.mpr (mem_insertOrAssign_self m pos key value)

theorem find?_insertOrAssign_of_ne {m : ListMap κ α} {pos : Position} {key other : κ} (value : α)
    (different : other ≠ key) : (m.insertOrAssign pos key value).find? other = m.find? other := by
  apply find?_congr
  intro found
  rw [mem_insertOrAssign]
  constructor
  · rintro (⟨member, -⟩ | same)
    · exact member
    · exact absurd (Prod.mk.inj same).1 different
  · intro member
    exact Or.inl ⟨member, different⟩

theorem find?_erase (m : ListMap κ α) (key other : κ) :
    (m.erase key).find? other = if other = key then none else m.find? other := by
  split
  · rename_i same
    rw [find?_eq_none_iff, mem_keys_erase]
    exact fun ⟨_, different⟩ => different same
  · rename_i different
    apply find?_congr
    intro value
    rw [mem_erase]
    exact ⟨fun ⟨member, _⟩ => member, fun member => ⟨member, different⟩⟩

theorem mem_spliceFront {m : ListMap κ α} {key : κ} {entry : κ × α} :
    entry ∈ (m.spliceFront key).entries ↔ entry ∈ m.entries := by
  unfold spliceFront
  split
  · rename_i value found
    have member := find?_eq_some_iff.mp found
    rw [mem_tryEmplace, mem_erase]
    have absent : key ∉ (m.erase key).keys := fun member => (mem_keys_erase.mp member).2 rfl
    simp only [absent, not_false_eq_true, true_and]
    constructor
    · rintro (⟨kept, _⟩ | rfl)
      · exact kept
      · exact member
    · intro kept
      by_cases same : entry.1 = key
      · right
        obtain ⟨other, changed⟩ := entry
        simp only at same
        subst same
        rw [eq_of_mem_of_mem kept member]
      · exact Or.inl ⟨kept, same⟩
  · rfl

/-! ## Sizes -/

theorem size_tryEmplace_le (m : ListMap κ α) (pos : Position) (key : κ) (value : α) :
    (m.tryEmplace pos key value).size ≤ m.size + 1 := by
  unfold tryEmplace
  split
  · exact Nat.le_succ _
  · simp [size]

theorem size_insertOrAssign_le (m : ListMap κ α) (pos : Position) (key : κ) (value : α) :
    (m.insertOrAssign pos key value).size ≤ m.size + 1 := by
  unfold insertOrAssign
  split
  · rw [modify, size_mapValues]
    exact Nat.le_succ _
  · exact size_tryEmplace_le m pos key value

theorem length_filter_ne_add_one {key : κ} :
    ∀ {entries : List (κ × α)}, (entries.map Prod.fst).Nodup → key ∈ entries.map Prod.fst →
      (entries.filter (fun entry => entry.1 != key)).length + 1 = entries.length
  | [], _, member => absurd member List.not_mem_nil
  | (other, value) :: rest, nodup, member => by
    rw [List.map_cons, List.nodup_cons] at nodup
    by_cases same : other = key
    · subst same
      have kept : rest.filter (fun entry => entry.1 != other) = rest := by
        rw [List.filter_eq_self]
        intro entry member
        simp only [bne_iff_ne, ne_eq]
        intro found
        exact nodup.1 (List.mem_map.mpr ⟨entry, member, found⟩)
      simp [kept]
    · have later : key ∈ rest.map Prod.fst := by
        rcases List.mem_cons.mp member with first | later
        · exact absurd first.symm same
        · exact later
      have shorter := length_filter_ne_add_one nodup.2 later
      simp [same, shorter]

theorem size_erase_add_one {m : ListMap κ α} {key : κ} (present : key ∈ m.keys) :
    (m.erase key).size + 1 = m.size :=
  length_filter_ne_add_one m.nodup present

/-! ## Entries put at the front -/

theorem entries_erase (m : ListMap κ α) (key : κ) : (m.erase key).entries = m.entries.filter (·.1 ≠ key) := by
  simp only [erase, filter]
  apply List.filter_congr
  intro entry _
  by_cases same : entry.1 = key <;> simp [same]

/-- With distinct keys, an entry and the others are all the entries. -/
theorem perm_cons_filter_of_mem {m : ListMap κ α} {entry : κ × α} (member : entry ∈ m.entries) :
    m.entries.Perm (entry :: m.entries.filter (·.1 ≠ entry.1)) := by
  classical
  have erased : m.entries.erase entry = m.entries.filter (·.1 ≠ entry.1) := by
    rw [(m.nodup.of_map Prod.fst).erase_eq_filter]
    apply List.filter_congr
    intro other inList
    by_cases same : other.1 = entry.1
    · have otherMember : (entry.1, other.2) ∈ m.entries := by
        rw [← same]
        exact inList
      have sameValue : other.2 = entry.2 := eq_of_mem_of_mem otherMember member
      have equal : other = entry := Prod.ext same sameValue
      simp [equal]
    · have different : other ≠ entry := fun equal => same (equal ▸ rfl)
      simp [same, different]
  rw [← erased]
  exact List.perm_cons_erase member

theorem entries_tryEmplace_front {m : ListMap κ α} {key : κ} (absent : key ∉ m.keys) (value : α) :
    (m.tryEmplace .front key value).entries = (key, value) :: m.entries := by
  simp [tryEmplace, absent, Position.put]

theorem entries_insertOrAssign_front {m : ListMap κ α} {key : κ} (absent : key ∉ m.keys) (value : α) :
    (m.insertOrAssign .front key value).entries = (key, value) :: m.entries := by
  rw [insertOrAssign, if_neg absent, entries_tryEmplace_front absent]

/-- Splicing a present key to the front. -/
theorem entries_spliceFront_of_mem {m : ListMap κ α} {key : κ} {value : α} (member : (key, value) ∈ m.entries) :
    (m.spliceFront key).entries = (key, value) :: m.entries.filter (·.1 ≠ key) := by
  have absent : key ∉ (m.erase key).keys := fun present => (mem_keys_erase.mp present).2 rfl
  rw [spliceFront, find?_eq_some_iff.mpr member]
  dsimp only
  rw [entries_tryEmplace_front absent, entries_erase]

theorem spliceFront_of_not_mem {m : ListMap κ α} {key : κ} (absent : key ∉ m.keys) : m.spliceFront key = m := by
  rw [spliceFront, find?_eq_none_iff.mpr absent]

/-- Assigning the key of the first entry changes that entry only. -/
theorem entries_modify_head {m : ListMap κ α} {key : κ} {value : α} {rest : List (κ × α)}
    (split : m.entries = (key, value) :: rest) (f : α → α) :
    (m.modify key f).entries = (key, f value) :: rest := by
  have nodup := m.nodup
  rw [split, List.map_cons, List.nodup_cons] at nodup
  have fresh : ∀ entry ∈ rest, entry.1 ≠ key := by
    intro entry member same
    have present := List.mem_map_of_mem (f := Prod.fst) member
    rw [same] at present
    exact nodup.1 present
  simp only [modify, mapValues, split, List.map_cons]
  congr 1
  conv => rhs; rw [← List.map_id rest]
  apply List.map_congr_left
  intro entry member
  simp [fresh entry member]

theorem size_spliceFront (m : ListMap κ α) (key : κ) : (m.spliceFront key).size = m.size := by
  unfold spliceFront
  split
  · rename_i value found
    have present : key ∈ m.keys := mem_keys.mpr ⟨value, find?_eq_some_iff.mp found⟩
    have absent : key ∉ (m.erase key).keys := fun member => (mem_keys_erase.mp member).2 rfl
    have dropped := size_erase_add_one present
    simp only [tryEmplace, absent, dite_false]
    rw [size, Position.length_put]
    exact dropped
  · rfl

/-! ## Keeping an invariant of the entries -/

section All

variable {holds : κ → α → Prop}

theorem All.erase {m : ListMap κ α} (all : m.All holds) (key : κ) : (m.erase key).All holds :=
  all.filter _

/-- Assigning a key keeps an invariant when the new value meets it; the old
entry of the key need not. -/
theorem All.modify {m : ListMap κ α} {key : κ} {f : α → α}
    (others : ∀ entry ∈ m.entries, entry.1 ≠ key → holds entry.1 entry.2)
    (changed : ∀ value, (key, value) ∈ m.entries → holds key (f value)) : (m.modify key f).All holds := by
  intro entry member
  rcases mem_modify.mp member with ⟨kept, different⟩ | ⟨value, old, rfl⟩
  · exact others entry kept different
  · exact changed value old

theorem All.insertOrAssign {m : ListMap κ α} (all : m.All holds) {pos : Position} {key : κ} {value : α}
    (new : holds key value) : (m.insertOrAssign pos key value).All holds := by
  intro entry member
  rcases mem_insertOrAssign.mp member with ⟨kept, _⟩ | rfl
  · exact all entry kept
  · exact new

/-- The pattern "find the key, emplace a default if it is absent, then assign
through the iterator" keeps an invariant that the assigned value meets. -/
theorem All.modify_tryEmplace {m : ListMap κ α} (all : m.All holds) {pos : Position} {key : κ} {default : α}
    {f : α → α} (changed : ∀ value, holds key (f value)) :
    ((m.tryEmplace pos key default).modify key f).All holds := by
  refine All.modify (fun entry member different => ?_) (fun value _ => changed value)
  rcases mem_tryEmplace.mp member with kept | ⟨_, rfl⟩
  · exact all entry kept
  · exact absurd rfl different

end All

end ListMap

/-- An LRU cache: a list map with its warmest key first, never holding more
keys than its capacity. -/
structure LruCache (κ α : Type) where
  capacity : Nat
  listMap : ListMap κ α
  capacity_pos : 0 < capacity
  size_le : listMap.size ≤ capacity

namespace LruCache

variable {κ α : Type}

/-- The constructor asserts a capacity other than zero. -/
def create (capacity : Nat) : Option (LruCache κ α) :=
  if positive : 0 < capacity then some ⟨capacity, .empty, positive, Nat.zero_le _⟩ else none

def clear (cache : LruCache κ α) : LruCache κ α :=
  ⟨cache.capacity, .empty, cache.capacity_pos, Nat.zero_le _⟩

/-- Iterating over the entries with an in-place assignment of each value. -/
def mapValues (cache : LruCache κ α) (f : κ → α → α) : LruCache κ α :=
  ⟨cache.capacity, cache.listMap.mapValues f, cache.capacity_pos,
    Nat.le_trans (Nat.le_of_eq (ListMap.size_mapValues _ _)) cache.size_le⟩

/-- Erasing the entries that fail a test through their iterators. -/
def filter (cache : LruCache κ α) (keep : κ → α → Bool) : LruCache κ α :=
  ⟨cache.capacity, cache.listMap.filter keep, cache.capacity_pos,
    Nat.le_trans (ListMap.size_filter_le _ _) cache.size_le⟩

@[simp]
theorem listMap_filter (cache : LruCache κ α) (keep : κ → α → Bool) :
    (cache.filter keep).listMap = cache.listMap.filter keep := rfl

@[simp]
theorem listMap_mapValues (cache : LruCache κ α) (f : κ → α → α) :
    (cache.mapValues f).listMap = cache.listMap.mapValues f := rfl

theorem mem_keys_of_mem {cache : LruCache κ α} {entry : κ × α} (member : entry ∈ cache.listMap.entries) :
    entry.1 ∈ cache.listMap.keys :=
  ListMap.mem_keys.mpr ⟨entry.2, member⟩

@[simp]
theorem keys_mapValues (cache : LruCache κ α) (f : κ → α → α) :
    (cache.mapValues f).listMap.keys = cache.listMap.keys :=
  ListMap.keys_mapValues _ _

theorem mem_keys_filter {cache : LruCache κ α} {keep : κ → α → Bool} {key : κ}
    (member : key ∈ (cache.filter keep).listMap.keys) : key ∈ cache.listMap.keys := by
  obtain ⟨value, member⟩ := ListMap.mem_keys.mp member
  rw [listMap_filter] at member
  exact ListMap.mem_keys.mpr ⟨value, (ListMap.mem_filter.mp member).1⟩

variable [DecidableEq κ]

/-- find: the value of a key, which moves to the front. -/
def find (cache : LruCache κ α) (key : κ) : Option α × LruCache κ α :=
  (cache.listMap.find? key, ⟨cache.capacity, cache.listMap.spliceFront key, cache.capacity_pos,
    Nat.le_trans (Nat.le_of_eq (ListMap.size_spliceFront _ _)) cache.size_le⟩)

/-- extract: take a key out, without warming anything. -/
def extract (cache : LruCache κ α) (key : κ) : Option α × LruCache κ α :=
  (cache.listMap.find? key, ⟨cache.capacity, cache.listMap.erase key, cache.capacity_pos,
    Nat.le_trans (ListMap.size_filter_le _ _) cache.size_le⟩)

/-- erase through the iterator of a key. -/
def erase (cache : LruCache κ α) (key : κ) : LruCache κ α :=
  (cache.extract key).2

/-- Assignment through the iterator of a key. -/
def modify (cache : LruCache κ α) (key : κ) (f : α → α) : LruCache κ α :=
  cache.mapValues (fun other value => if other = key then f value else value)

/-- The map with its coldest key removed when the cache is full, as
insert_or_assign and try_emplace do before a new key goes in. -/
def evicted (cache : LruCache κ α) : ListMap κ α :=
  if cache.listMap.size = cache.capacity then
    match cache.listMap.entries.getLast? with
    | some coldest => cache.listMap.erase coldest.1
    | none => cache.listMap
  else cache.listMap

theorem size_evicted_lt (cache : LruCache κ α) : cache.evicted.size < cache.capacity := by
  unfold evicted
  split
  · rename_i full
    split
    · rename_i coldest last
      have present : coldest.1 ∈ cache.listMap.keys :=
        ListMap.mem_keys.mpr ⟨coldest.2, List.mem_of_getLast? last⟩
      have dropped := ListMap.size_erase_add_one present
      omega
    · rename_i noLast
      have empty : cache.listMap.entries = [] := List.getLast?_eq_none_iff.mp noLast
      have : cache.listMap.size = 0 := by simp [ListMap.size, empty]
      have := cache.capacity_pos
      omega
  · have := cache.size_le
    omega

/-- try_emplace: a present key is only warmed; a new one goes to the front,
after an eviction when the cache is full. -/
def tryEmplace (cache : LruCache κ α) (key : κ) (value : α) : LruCache κ α :=
  -- contains() warms the key through find()
  if (cache.find key).1.isSome then (cache.find key).2
  else ⟨cache.capacity, cache.evicted.tryEmplace .front key value, cache.capacity_pos,
    Nat.le_trans (ListMap.size_tryEmplace_le _ _ _ _) cache.size_evicted_lt⟩

/-- insert_or_assign: a present key is warmed and assigned; a new one goes to
the front, after an eviction when the cache is full. -/
def insertOrAssign (cache : LruCache κ α) (key : κ) (value : α) : LruCache κ α :=
  if (cache.find key).1.isSome then (cache.find key).2.modify key (fun _ => value)
  else ⟨cache.capacity, cache.evicted.insertOrAssign .front key value, cache.capacity_pos,
    Nat.le_trans (ListMap.size_insertOrAssign_le _ _ _ _) cache.size_evicted_lt⟩

/-- What insert_or_assign and try_emplace give back as evicted: nothing for a
present key, and the coldest entry of a full cache. -/
def evictionOf (cache : LruCache κ α) (key : κ) : Option (κ × α) :=
  if key ∈ cache.listMap.keys then none
  else if cache.listMap.size = cache.capacity then cache.listMap.entries.getLast? else none

/-- Find a key, and try_emplace a default when it is absent: the cache then
holds the key, ready for an assignment through its iterator. -/
def findOrEmplace (cache : LruCache κ α) (key : κ) (default : α) : LruCache κ α :=
  if (cache.find key).1.isSome then (cache.find key).2 else (cache.find key).2.tryEmplace key default

/-! ## Which entries each operation leaves -/

/-- findOrEmplace on an empty cache: the key with its default. -/
theorem findOrEmplace_of_nil {cache : LruCache κ α} (empty : cache.listMap.entries = []) (key : κ)
    (default : α) : (cache.findOrEmplace key default).listMap.entries = [(key, default)] := by
  have absent : cache.listMap.find? key = none := by
    simp [ListMap.find?, empty]
  have notFull : cache.listMap.size ≠ cache.capacity := by
    have := cache.capacity_pos
    simp only [ListMap.size, empty, List.length_nil]
    omega
  simp [findOrEmplace, find, tryEmplace, evicted, ListMap.spliceFront, absent, notFull,
    ListMap.tryEmplace, ListMap.keys, empty, Position.put]

/-- findOrEmplace of the one key of a cache leaves it as it is. -/
theorem findOrEmplace_of_singleton {cache : LruCache κ α} {key : κ} {value : α}
    (single : cache.listMap.entries = [(key, value)]) (default : α) :
    (cache.findOrEmplace key default).listMap.entries = [(key, value)] := by
  have found : cache.listMap.find? key = some value := by
    simp [ListMap.find?, single]
  simp [findOrEmplace, find, ListMap.spliceFront, found, ListMap.tryEmplace, ListMap.erase,
    ListMap.filter, ListMap.keys, single, Position.put]

@[simp]
theorem listMap_extract (cache : LruCache κ α) (key : κ) :
    (cache.extract key).2.listMap = cache.listMap.erase key := rfl

@[simp]
theorem listMap_modify (cache : LruCache κ α) (key : κ) (f : α → α) :
    (cache.modify key f).listMap = cache.listMap.modify key f := rfl

@[simp]
theorem find_fst (cache : LruCache κ α) (key : κ) : (cache.find key).1 = cache.listMap.find? key := rfl

@[simp]
theorem extract_fst (cache : LruCache κ α) (key : κ) : (cache.extract key).1 = cache.listMap.find? key := rfl

@[simp]
theorem capacity_find (cache : LruCache κ α) (key : κ) : (cache.find key).2.capacity = cache.capacity := rfl

@[simp]
theorem capacity_tryEmplace (cache : LruCache κ α) (key : κ) (value : α) :
    (cache.tryEmplace key value).capacity = cache.capacity := by
  unfold tryEmplace
  split <;> rfl

@[simp]
theorem capacity_insertOrAssign (cache : LruCache κ α) (key : κ) (value : α) :
    (cache.insertOrAssign key value).capacity = cache.capacity := by
  unfold insertOrAssign
  split <;> rfl

theorem mem_find {cache : LruCache κ α} {key : κ} {entry : κ × α} :
    entry ∈ (cache.find key).2.listMap.entries ↔ entry ∈ cache.listMap.entries :=
  ListMap.mem_spliceFront

theorem mem_keys_find {cache : LruCache κ α} {key other : κ} :
    other ∈ (cache.find key).2.listMap.keys ↔ other ∈ cache.listMap.keys := by
  simp only [ListMap.mem_keys, mem_find]

/-- find() only reorders: a lookup after it finds what it found before. -/
theorem find?_find (cache : LruCache κ α) (key other : κ) :
    (cache.find key).2.listMap.find? other = cache.listMap.find? other := by
  apply Option.ext
  intro value
  rw [ListMap.find?_eq_some_iff, ListMap.find?_eq_some_iff, mem_find]

/-- The eviction drops at most one key, the coldest. -/
theorem find?_evicted (cache : LruCache κ α) :
    ∃ dropped : Option κ, (∀ key ∈ dropped, key ∈ cache.listMap.keys) ∧
      ∀ other, cache.evicted.find? other = if dropped = some other then none else cache.listMap.find? other := by
  unfold evicted
  split
  · split
    · rename_i coldest last
      refine ⟨some coldest.1, fun key same => ?_, fun other => ?_⟩
      · cases same
        exact ListMap.mem_keys.mpr ⟨coldest.2, List.mem_of_getLast? last⟩
      · rw [ListMap.find?_erase]
        by_cases same : other = coldest.1
        · rw [if_pos same, if_pos (by rw [same])]
        · rw [if_neg same, if_neg (fun equal => same (Option.some.inj equal).symm)]
    · exact ⟨none, fun _ absent => (by cases absent), fun other => by rw [if_neg (by simp)]⟩
  · exact ⟨none, fun _ absent => (by cases absent), fun other => by rw [if_neg (by simp)]⟩

theorem mem_evicted {cache : LruCache κ α} {entry : κ × α} (member : entry ∈ cache.evicted.entries) :
    entry ∈ cache.listMap.entries := by
  unfold evicted at member
  split at member
  · split at member
    · exact (ListMap.mem_erase.mp member).1
    · exact member
  · exact member

theorem mem_keys_evicted {cache : LruCache κ α} {key : κ} (member : key ∈ cache.evicted.keys) :
    key ∈ cache.listMap.keys := by
  obtain ⟨value, member⟩ := ListMap.mem_keys.mp member
  exact ListMap.mem_keys.mpr ⟨value, mem_evicted member⟩

theorem mem_keys_extract {cache : LruCache κ α} {key other : κ} :
    other ∈ (cache.extract key).2.listMap.keys ↔ other ∈ cache.listMap.keys ∧ other ≠ key := by
  rw [listMap_extract]
  exact ListMap.mem_keys_erase

/-- A new key goes in, and the only entries lost are evicted ones. -/
theorem mem_tryEmplace {cache : LruCache κ α} {key : κ} {value : α} {entry : κ × α}
    (member : entry ∈ (cache.tryEmplace key value).listMap.entries) :
    entry ∈ cache.listMap.entries ∨ entry = (key, value) := by
  unfold tryEmplace at member
  split at member
  · exact Or.inl (mem_find.mp member)
  · rcases ListMap.mem_tryEmplace.mp member with kept | ⟨_, rfl⟩
    · exact Or.inl (mem_evicted kept)
    · exact Or.inr rfl

theorem mem_insertOrAssign {cache : LruCache κ α} {key : κ} {value : α} {entry : κ × α}
    (member : entry ∈ (cache.insertOrAssign key value).listMap.entries) :
    (entry ∈ cache.listMap.entries ∧ entry.1 ≠ key) ∨ entry = (key, value) := by
  unfold insertOrAssign at member
  split at member
  · rw [listMap_modify, ListMap.mem_modify] at member
    rcases member with ⟨kept, different⟩ | ⟨_, _, rfl⟩
    · exact Or.inl ⟨mem_find.mp kept, different⟩
    · exact Or.inr rfl
  · rcases ListMap.mem_insertOrAssign.mp member with ⟨kept, different⟩ | rfl
    · exact Or.inl ⟨mem_evicted kept, different⟩
    · exact Or.inr rfl

theorem mem_insertOrAssign_self (cache : LruCache κ α) (key : κ) (value : α) :
    (key, value) ∈ (cache.insertOrAssign key value).listMap.entries := by
  unfold LruCache.insertOrAssign
  split
  · rename_i found
    obtain ⟨old, member⟩ := Option.isSome_iff_exists.mp found
    rw [listMap_modify, ListMap.mem_modify]
    exact Or.inr ⟨old, mem_find.mpr (ListMap.find?_eq_some_iff.mp member), rfl⟩
  · exact ListMap.mem_insertOrAssign_self _ _ _ _

theorem mem_keys_tryEmplace {cache : LruCache κ α} {key other : κ} {value : α}
    (member : other ∈ (cache.tryEmplace key value).listMap.keys) : other = key ∨ other ∈ cache.listMap.keys := by
  obtain ⟨found, member⟩ := ListMap.mem_keys.mp member
  rcases mem_tryEmplace member with kept | same
  · exact Or.inr (mem_keys_of_mem kept)
  · exact Or.inl (Prod.mk.inj same).1

theorem mem_keys_insertOrAssign {cache : LruCache κ α} {key other : κ} {value : α}
    (member : other ∈ (cache.insertOrAssign key value).listMap.keys) : other = key ∨ other ∈ cache.listMap.keys := by
  obtain ⟨found, member⟩ := ListMap.mem_keys.mp member
  rcases mem_insertOrAssign member with ⟨kept, _⟩ | same
  · exact Or.inr (mem_keys_of_mem kept)
  · exact Or.inl (Prod.mk.inj same).1

theorem mem_keys_findOrEmplace {cache : LruCache κ α} {key other : κ} {default : α}
    (member : other ∈ (cache.findOrEmplace key default).listMap.keys) : other = key ∨ other ∈ cache.listMap.keys := by
  unfold findOrEmplace at member
  split at member
  · exact Or.inr (mem_keys_find.mp member)
  · rcases mem_keys_tryEmplace member with same | kept
    · exact Or.inl same
    · exact Or.inr (mem_keys_find.mp kept)

@[simp]
theorem keys_modify (cache : LruCache κ α) (key : κ) (f : α → α) :
    (cache.modify key f).listMap.keys = cache.listMap.keys :=
  ListMap.keys_mapValues _ _

/-! ## The entries each operation leaves -/

theorem entries_find_of_mem {cache : LruCache κ α} {key : κ} {value : α}
    (member : (key, value) ∈ cache.listMap.entries) :
    (cache.find key).2.listMap.entries = (key, value) :: cache.listMap.entries.filter (·.1 ≠ key) :=
  ListMap.entries_spliceFront_of_mem member

theorem find_of_not_mem {cache : LruCache κ α} {key : κ} (absent : key ∉ cache.listMap.keys) :
    (cache.find key).2.listMap = cache.listMap :=
  ListMap.spliceFront_of_not_mem absent

theorem find_snd_of_not_mem {cache : LruCache κ α} {key : κ} (absent : key ∉ cache.listMap.keys) :
    (cache.find key).2 = cache := by
  obtain ⟨capacity, listMap, positive, bounded⟩ := cache
  simp only [find, mk.injEq, true_and]
  exact ListMap.spliceFront_of_not_mem absent

/-- The eviction of a full cache takes out its last entry. -/
theorem entries_evicted_of_full {cache : LruCache κ α} (full : cache.listMap.size = cache.capacity)
    {coldest : κ × α} (last : cache.listMap.entries.getLast? = some coldest) :
    cache.evicted.entries = cache.listMap.entries.filter (·.1 ≠ coldest.1) := by
  rw [evicted, if_pos full, last]
  exact ListMap.entries_erase _ _

theorem evicted_of_not_full {cache : LruCache κ α} (room : cache.listMap.size ≠ cache.capacity) :
    cache.evicted = cache.listMap := by
  rw [evicted, if_neg room]

theorem entries_tryEmplace_of_not_mem {cache : LruCache κ α} {key : κ} (absent : key ∉ cache.listMap.keys)
    (value : α) : (cache.tryEmplace key value).listMap.entries = (key, value) :: cache.evicted.entries := by
  have missing : (cache.find key).1 = none := by
    rw [find_fst]
    exact ListMap.find?_eq_none_iff.mpr absent
  have stillAbsent : key ∉ cache.evicted.keys := fun present => absent (mem_keys_evicted present)
  rw [tryEmplace, if_neg (by rw [missing]; simp)]
  exact ListMap.entries_tryEmplace_front stillAbsent value

theorem entries_insertOrAssign_of_not_mem {cache : LruCache κ α} {key : κ} (absent : key ∉ cache.listMap.keys)
    (value : α) : (cache.insertOrAssign key value).listMap.entries = (key, value) :: cache.evicted.entries := by
  have missing : (cache.find key).1 = none := by
    rw [find_fst]
    exact ListMap.find?_eq_none_iff.mpr absent
  have stillAbsent : key ∉ cache.evicted.keys := fun present => absent (mem_keys_evicted present)
  rw [insertOrAssign, if_neg (by rw [missing]; simp)]
  exact ListMap.entries_insertOrAssign_front stillAbsent value

theorem entries_insertOrAssign_of_mem {cache : LruCache κ α} {key : κ} {old : α}
    (member : (key, old) ∈ cache.listMap.entries) (value : α) :
    (cache.insertOrAssign key value).listMap.entries = (key, value) :: cache.listMap.entries.filter (·.1 ≠ key) := by
  have found : (cache.find key).1 = some old := by
    rw [find_fst]
    exact ListMap.find?_eq_some_iff.mpr member
  rw [insertOrAssign, if_pos (by rw [found]; rfl), listMap_modify]
  exact ListMap.entries_modify_head (entries_find_of_mem member) _

theorem tryEmplace_of_mem {cache : LruCache κ α} {key : κ} {old : α} (member : (key, old) ∈ cache.listMap.entries)
    (value : α) : cache.tryEmplace key value = (cache.find key).2 := by
  have found : (cache.find key).1 = some old := by
    rw [find_fst]
    exact ListMap.find?_eq_some_iff.mpr member
  rw [tryEmplace, if_pos (by rw [found]; rfl)]

/-- findOrEmplace: the key holds its value, or the default; every other key
keeps its value, but for at most one key the cache held, the coldest, which a
full cache evicts to make room. -/
theorem find?_findOrEmplace (cache : LruCache κ α) (key : κ) (default : α) :
    ∃ dropped : Option κ, (∀ other ∈ dropped, other ≠ key ∧ other ∈ cache.listMap.keys) ∧
      (cache.findOrEmplace key default).listMap.find? key = some ((cache.listMap.find? key).getD default) ∧
      ∀ other, other ≠ key → (cache.findOrEmplace key default).listMap.find? other =
        if dropped = some other then none else cache.listMap.find? other := by
  unfold findOrEmplace
  split
  · -- a present key is only warmed
    rename_i found
    rcases Option.isSome_iff_exists.mp found with ⟨value, present⟩
    rw [find_fst] at present
    refine ⟨none, fun _ absent => (by cases absent), ?_, fun other _ => ?_⟩
    · rw [find?_find, present]
      rfl
    · rw [find?_find, if_neg (Option.some_ne_none other).symm]
  · -- an absent key goes in, after the eviction of a full cache
    rename_i missing
    have absent : key ∉ cache.listMap.keys := fun present => missing (ListMap.contains_iff.mpr present)
    rcases find?_evicted cache with ⟨dropped, kept, evictedFind⟩
    rw [find_snd_of_not_mem absent, tryEmplace, if_neg missing]
    refine ⟨dropped, fun other member => ⟨?_, kept other member⟩, ?_, fun other different => ?_⟩
    · rintro rfl
      exact absent (kept _ member)
    · show (cache.evicted.tryEmplace .front key default).find? key = _
      rw [ListMap.find?_tryEmplace_self, evictedFind, ListMap.find?_eq_none_iff.mpr absent, ite_self]
    · show (cache.evicted.tryEmplace .front key default).find? other = _
      rw [ListMap.find?_tryEmplace_of_ne default different, evictedFind]

/-- find() only reorders the entries. -/
theorem entries_find_perm (cache : LruCache κ α) (key : κ) :
    (cache.find key).2.listMap.entries.Perm cache.listMap.entries := by
  by_cases present : key ∈ cache.listMap.keys
  · obtain ⟨value, member⟩ := ListMap.mem_keys.mp present
    rw [entries_find_of_mem member]
    exact (ListMap.perm_cons_filter_of_mem member).symm
  · rw [find_of_not_mem present]

/-- A new key goes to the front, and the entry given back as evicted, if any,
is one the cache held. -/
theorem insertOrAssign_of_not_mem {cache : LruCache κ α} {key : κ} (absent : key ∉ cache.listMap.keys)
    (value : α) :
    (cache.evictionOf key = none ∧
        (cache.insertOrAssign key value).listMap.entries = (key, value) :: cache.listMap.entries) ∨
      ∃ coldest ∈ cache.listMap.entries, cache.evictionOf key = some coldest ∧
        (cache.insertOrAssign key value).listMap.entries =
          (key, value) :: cache.listMap.entries.filter (·.1 ≠ coldest.1) := by
  rw [entries_insertOrAssign_of_not_mem absent, evictionOf, if_neg absent]
  by_cases full : cache.listMap.size = cache.capacity
  · rw [if_pos full]
    rcases last : cache.listMap.entries.getLast? with _ | coldest
    · left
      refine ⟨rfl, ?_⟩
      rw [evicted, if_pos full, last]
    · right
      have member := List.mem_of_getLast? last
      refine ⟨coldest, member, rfl, ?_⟩
      rw [entries_evicted_of_full full last]
  · left
    rw [if_neg full, evicted_of_not_full full]
    exact ⟨rfl, rfl⟩

/-! ## Keeping an invariant of the entries -/

section All

variable {holds : κ → α → Prop}

theorem All.find {cache : LruCache κ α} (all : cache.listMap.All holds) (key : κ) :
    (cache.find key).2.listMap.All holds :=
  fun entry member => all entry (mem_find.mp member)

theorem All.extract {cache : LruCache κ α} (all : cache.listMap.All holds) (key : κ) :
    (cache.extract key).2.listMap.All holds := by
  rw [listMap_extract]
  exact ListMap.All.erase all key

theorem All.insertOrAssign {cache : LruCache κ α} (all : cache.listMap.All holds) {key : κ} {value : α}
    (new : holds key value) : (cache.insertOrAssign key value).listMap.All holds := by
  unfold LruCache.insertOrAssign
  split
  · exact ListMap.All.modify (fun entry member _ => All.find all key entry member) (fun _ _ => new)
  · exact ListMap.All.insertOrAssign (fun entry member => all entry (mem_evicted member)) new

/-- Find or emplace a key, then assign through its iterator: an invariant
that the assigned value meets is kept. -/
theorem All.modify_findOrEmplace {cache : LruCache κ α} (all : cache.listMap.All holds) {key : κ}
    {default : α} {f : α → α} (changed : ∀ value, holds key (f value)) :
    ((cache.findOrEmplace key default).modify key f).listMap.All holds := by
  rw [listMap_modify]
  refine ListMap.All.modify (fun entry member different => ?_) (fun value _ => changed value)
  unfold findOrEmplace at member
  split at member
  · exact all entry (mem_find.mp member)
  · rcases mem_tryEmplace member with kept | rfl
    · exact all entry (mem_find.mp kept)
    · exact absurd rfl different

end All

end LruCache

end Library
end BluetoothStack
