import BluetoothStack.Storage.ConfigCache
import Mathlib.Logic.Relation
import Mathlib.Data.List.TakeWhile

namespace BluetoothStack
namespace Storage

open Library

/-!
# What the config cache keeps between calls

Over every sequence of calls from the constructor, the information sections
are exactly the sections not named by an address, the device maps share no
section, no section is empty, and every persistent device has a persistent
property (`wellFormed_of_run`).

The converse of the last fact fails: RemoveProperty moves a persistent device
to the temporary devices as soon as one persistent property is removed, so a
device bonded over both transports that loses its LinkKey keeps its LE keys
in the LRU cache, where it is not written to disk and can be evicted
(`removeProperty_demotes_bonded_device`).
-/

/-- An information section: not named by an address, and not empty. -/
def InformationSection (name : String) (properties : Properties) : Prop :=
  isDeviceSection name = false ∧ 0 < properties.size

/-- A device section: named by an address, and not empty. -/
def DeviceSection (name : String) (properties : Properties) : Prop :=
  isDeviceSection name = true ∧ 0 < properties.size

/-- A persistent device section: a device section with a persistent property. -/
def BondedSection (names : List String) (name : String) (properties : Properties) : Prop :=
  DeviceSection name properties ∧ ∃ property ∈ properties.keys, property ∈ names

namespace ConfigCache

structure WellFormed (c : ConfigCache) : Prop where
  information : c.informationSections.All InformationSection
  persistent : c.persistentDevices.All (BondedSection c.persistentPropertyNames)
  temporary : c.temporaryDevices.listMap.All DeviceSection
  separate : ∀ name ∈ c.persistentDevices.keys, name ∉ c.temporaryDevices.listMap.keys

@[simp]
theorem isPersistentProperty_iff {c : ConfigCache} {property : String} :
    c.isPersistentProperty property = true ↔ property ∈ c.persistentPropertyNames := by
  simp [isPersistentProperty]

theorem wellFormed_create {tempDeviceCapacity : Nat} {names : List String} {c : ConfigCache}
    (created : create tempDeviceCapacity names = some c) : c.WellFormed := by
  unfold create LruCache.create at created
  split at created
  · cases created
    exact ⟨ListMap.all_empty, ListMap.all_empty, ListMap.all_empty, (fun _ member => by cases member)⟩
  · cases created

/-! ## Setting a property -/

theorem size_pos_insertOrAssign (properties : Properties) (property value : String) :
    0 < (properties.insertOrAssign .back property value).size :=
  ListMap.size_pos_of_mem (ListMap.mem_insertOrAssign_self _ _ _ _)

theorem keys_insertOrAssign_of_mem {properties : Properties} {property value other : String}
    (member : other ∈ properties.keys) : other ∈ (properties.insertOrAssign .back property value).keys :=
  ListMap.mem_keys_insertOrAssign.mpr (Or.inr member)

theorem WellFormed.setInformationProperty {c : ConfigCache} (wf : c.WellFormed) {sectionName : String}
    (information : isDeviceSection sectionName = false) (property value : String) :
    (c.setInformationProperty sectionName property value).WellFormed :=
  { wf with
    information := wf.information.modify_tryEmplace fun properties =>
      ⟨information, size_pos_insertOrAssign properties property value⟩ }

/-- A property on a device section that is persistent already, or becomes
persistent with it. -/
theorem WellFormed.storePersistent {c : ConfigCache} (wf : c.WellFormed) {sectionName property : String}
    (device : isDeviceSection sectionName = true) (present : sectionName ∈ c.persistentDevices.keys)
    (value : String) : (c.storeDeviceProperty sectionName property value).WellFormed := by
  have contained : c.persistentDevices.contains sectionName = true := ListMap.contains_iff.mpr present
  unfold storeDeviceProperty
  rw [if_pos contained]
  refine { wf with persistent := ?_, separate := ?_ }
  · refine ListMap.All.modify (fun entry member _ => wf.persistent entry member) ?_
    rintro properties member
    obtain ⟨_, key, keyed, persistent⟩ := wf.persistent _ member
    exact ⟨⟨device, size_pos_insertOrAssign properties property value⟩, key,
      keys_insertOrAssign_of_mem keyed, persistent⟩
  · intro name member
    rw [ListMap.keys_modify] at member
    exact wf.separate name member

theorem WellFormed.promoteStore {c : ConfigCache} (wf : c.WellFormed) {sectionName property : String}
    (device : isDeviceSection sectionName = true) (absent : sectionName ∉ c.persistentDevices.keys)
    (persistent : property ∈ c.persistentPropertyNames) (value : String) :
    ((c.promoteDevice sectionName property).storeDeviceProperty sectionName property value).WellFormed := by
  have promoting : (!c.persistentDevices.contains sectionName && c.isPersistentProperty property) = true := by
    simp [absent, persistent]
  unfold promoteDevice storeDeviceProperty
  rw [if_pos promoting]
  have present : (c.persistentDevices.tryEmplace .back sectionName
      ((c.temporaryDevices.extract sectionName).1.getD .empty)).contains sectionName = true :=
    ListMap.contains_iff.mpr (ListMap.mem_keys_tryEmplace.mpr (Or.inl rfl))
  dsimp only
  rw [if_pos present]
  refine ⟨wf.information, ?_, LruCache.All.extract wf.temporary sectionName, ?_⟩
  · exact wf.persistent.modify_tryEmplace fun properties =>
      ⟨⟨device, size_pos_insertOrAssign properties property value⟩, property,
        ListMap.mem_keys_insertOrAssign.mpr (Or.inl rfl), persistent⟩
  · intro name member
    rw [ListMap.keys_modify, ListMap.mem_keys_tryEmplace] at member
    rw [LruCache.mem_keys_extract]
    rintro ⟨temporary, different⟩
    rcases member with same | kept
    · exact different same
    · exact wf.separate name kept temporary

theorem WellFormed.storeTemporary {c : ConfigCache} (wf : c.WellFormed) {sectionName property : String}
    (device : isDeviceSection sectionName = true) (absent : sectionName ∉ c.persistentDevices.keys)
    (value : String) : (c.storeDeviceProperty sectionName property value).WellFormed := by
  have missing : c.persistentDevices.contains sectionName = false := by
    simpa using absent
  unfold storeDeviceProperty
  rw [if_neg (by simp [missing])]
  refine { wf with temporary := ?_, separate := ?_ }
  · exact LruCache.All.modify_findOrEmplace wf.temporary fun properties =>
      ⟨device, size_pos_insertOrAssign properties property value⟩
  · intro name member temporary
    rw [LruCache.keys_modify] at temporary
    rcases LruCache.mem_keys_findOrEmplace temporary with same | kept
    · exact absent (same ▸ member)
    · exact wf.separate name member kept

theorem WellFormed.setDeviceProperty {c : ConfigCache} (wf : c.WellFormed) {sectionName : String}
    (device : isDeviceSection sectionName = true) (property value : String) :
    ((c.promoteDevice sectionName property).storeDeviceProperty sectionName property value).WellFormed := by
  by_cases present : sectionName ∈ c.persistentDevices.keys
  · -- already persistent: promoteDevice does nothing
    have contained : c.persistentDevices.contains sectionName = true := ListMap.contains_iff.mpr present
    have unchanged : c.promoteDevice sectionName property = c := by
      simp [promoteDevice, contained]
    rw [unchanged]
    exact wf.storePersistent device present value
  · by_cases persistent : property ∈ c.persistentPropertyNames
    · exact wf.promoteStore device present persistent value
    · have unchanged : c.promoteDevice sectionName property = c := by
        simp [promoteDevice, persistent]
      rw [unchanged]
      exact wf.storeTemporary device present value

theorem WellFormed.setProperty {c c' : ConfigCache} (wf : c.WellFormed) {sectionName property value : String}
    (set : c.setProperty sectionName property value = some c') : c'.WellFormed := by
  unfold ConfigCache.setProperty at set
  dsimp only at set
  split at set
  · cases set
  · split at set
    · rename_i information
      cases set
      exact wf.setInformationProperty (by simpa using information) _ _
    · rename_i device
      cases set
      exact wf.setDeviceProperty (by simpa using device) _ _

/-! ## Removing -/

theorem WellFormed.removeSection {c : ConfigCache} (wf : c.WellFormed) (sectionName : String) :
    (c.removeSection sectionName).2.WellFormed := by
  unfold ConfigCache.removeSection
  split
  · exact { wf with information := wf.information.erase sectionName }
  · split
    · refine { wf with persistent := wf.persistent.erase sectionName, separate := ?_ }
      intro name member
      exact wf.separate name (ListMap.mem_keys_erase.mp member).1
    · refine { wf with temporary := LruCache.All.extract wf.temporary sectionName, separate := ?_ }
      intro name member temporary
      exact wf.separate name member (LruCache.mem_keys_extract.mp temporary).1

/-- What is left of a section after one property is removed keeps the other
keys. -/
theorem mem_keys_erase_of_ne {properties : Properties} {property other : String}
    (member : other ∈ properties.keys) (different : other ≠ property) : other ∈ (properties.erase property).keys :=
  ListMap.mem_keys_erase.mpr ⟨member, different⟩

theorem WellFormed.removeInformationProperty {c : ConfigCache} (wf : c.WellFormed) {sectionName property : String}
    {properties : Properties} (found : c.informationSections.find? sectionName = some properties) :
    (c.removeProperty sectionName property).2.WellFormed := by
  unfold ConfigCache.removeProperty
  rw [found]
  dsimp only
  refine { wf with information := ?_ }
  split
  · exact wf.information.erase sectionName
  · rename_i nonempty
    refine ListMap.All.modify (fun entry member _ => wf.information entry member) fun old member => ?_
    exact ⟨(wf.information _ member).1, Nat.pos_of_ne_zero nonempty⟩

/-- The persistent branch of RemoveProperty: the section goes when empty,
moves to the temporary devices when a persistent property went, and
otherwise keeps the persistent property it had. -/
theorem WellFormed.removePersistentProperty {c : ConfigCache} (wf : c.WellFormed)
    {sectionName property : String} {properties : Properties}
    (notInformation : c.informationSections.find? sectionName = none)
    (found : c.persistentDevices.find? sectionName = some properties) :
    (c.removeProperty sectionName property).2.WellFormed := by
  have member := ListMap.find?_eq_some_iff.mp found
  obtain ⟨⟨device, _⟩, key, keyed, persistent⟩ := wf.persistent _ member
  unfold ConfigCache.removeProperty
  rw [notInformation, found]
  dsimp only
  split
  · refine { wf with persistent := wf.persistent.erase sectionName, separate := ?_ }
    intro name member
    exact wf.separate name (ListMap.mem_keys_erase.mp member).1
  · rename_i nonempty
    split
    · -- move unpaired device
      refine { wf with persistent := wf.persistent.erase sectionName, temporary := ?_, separate := ?_ }
      · exact LruCache.All.insertOrAssign wf.temporary ⟨device, Nat.pos_of_ne_zero nonempty⟩
      · intro name member temporary
        obtain ⟨kept, different⟩ := ListMap.mem_keys_erase.mp member
        rcases LruCache.mem_keys_insertOrAssign temporary with same | old
        · exact different same
        · exact wf.separate name kept old
    · rename_i notDemoted
      refine { wf with persistent := ?_, separate := ?_ }
      · refine ListMap.All.modify (fun entry member _ => wf.persistent entry member) fun old oldMember => ?_
        have same := ListMap.eq_of_mem_of_mem oldMember member
        subst same
        -- the persistent key is not the property removed, or the device would have moved
        have different : key ≠ property := by
          rintro rfl
          apply notDemoted
          have keyFound : (old.find? key).isSome = true := by
            rw [Option.isSome_iff_ne_none, ne_eq, ListMap.find?_eq_none_iff, not_not]
            exact keyed
          simp [keyFound, persistent]
        exact ⟨⟨device, Nat.pos_of_ne_zero nonempty⟩, key, mem_keys_erase_of_ne keyed different, persistent⟩
      · intro name member
        rw [ListMap.keys_modify] at member
        exact wf.separate name member

theorem WellFormed.removeTemporaryProperty {c : ConfigCache} (wf : c.WellFormed) {sectionName property : String}
    (notInformation : c.informationSections.find? sectionName = none)
    (notPersistent : c.persistentDevices.find? sectionName = none) :
    (c.removeProperty sectionName property).2.WellFormed := by
  have warmed := LruCache.All.find wf.temporary sectionName
  have warmedSeparate : ∀ name ∈ c.persistentDevices.keys, name ∉ (c.temporaryDevices.find sectionName).2.listMap.keys :=
    fun name member temporary => wf.separate name member (LruCache.mem_keys_find.mp temporary)
  unfold ConfigCache.removeProperty
  rw [notInformation, notPersistent]
  dsimp only
  split
  · rename_i properties cache found
    have listed : (c.temporaryDevices.find sectionName).2 = cache := by rw [found]
    have member : (sectionName, properties) ∈ c.temporaryDevices.listMap.entries := by
      rw [← ListMap.find?_eq_some_iff, ← LruCache.find_fst, found]
    rw [← listed]
    refine { wf with temporary := ?_, separate := ?_ }
    · split
      · exact LruCache.All.extract warmed sectionName
      · rename_i nonempty
        rw [LruCache.listMap_modify]
        refine ListMap.All.modify (fun entry member _ => warmed entry member) fun _ _ => ?_
        exact ⟨(wf.temporary _ member).1, Nat.pos_of_ne_zero nonempty⟩
    · intro name persistent temporary
      split at temporary
      · exact warmedSeparate name persistent (LruCache.mem_keys_extract.mp temporary).1
      · rw [LruCache.keys_modify] at temporary
        exact warmedSeparate name persistent temporary
  · rename_i cache found
    have listed : (c.temporaryDevices.find sectionName).2 = cache := by rw [found]
    rw [← listed]
    exact { wf with temporary := warmed, separate := warmedSeparate }

theorem WellFormed.removeProperty {c : ConfigCache} (wf : c.WellFormed) (sectionName property : String) :
    (c.removeProperty sectionName property).2.WellFormed := by
  cases information : c.informationSections.find? sectionName with
  | some properties => exact wf.removeInformationProperty information
  | none =>
    cases persistent : c.persistentDevices.find? sectionName with
    | some properties => exact wf.removePersistentProperty information persistent
    | none => exact wf.removeTemporaryProperty information persistent

theorem WellFormed.removeSectionWithProperty {c : ConfigCache} (wf : c.WellFormed) (property : String) :
    (c.removeSectionWithProperty property).WellFormed := by
  refine ⟨wf.information.filter _, wf.persistent.filter _, wf.temporary.filter _, ?_⟩
  intro name member temporary
  obtain ⟨properties, member⟩ := ListMap.mem_keys.mp member
  exact wf.separate name (ListMap.mem_keys.mpr ⟨properties, (ListMap.mem_filter.mp member).1⟩)
    (LruCache.mem_keys_filter temporary)

theorem wellFormed_clear (c : ConfigCache) : c.clear.WellFormed :=
  ⟨ListMap.all_empty, ListMap.all_empty, ListMap.all_empty, (fun _ member => by cases member)⟩

/-! ## Device types -/

end ConfigCache

/-- Fixing the device type only adds or assigns DevType: every key stays. -/
theorem mem_keys_fixDeviceTypeInconsistencyInSection (sectionName : String) {key : String} {entries : Properties}
    (member : key ∈ entries.keys) : key ∈ (fixDeviceTypeInconsistencyInSection sectionName entries).2.keys := by
  unfold fixDeviceTypeInconsistencyInSection
  split
  · exact member
  · split
    · exact member
    · dsimp only
      split
      · split
        · rw [ListMap.keys_modify]
          exact member
        · exact member
      · exact ListMap.mem_keys_insertOrAssign.mpr (Or.inr member)

theorem size_pos_fixDeviceTypeInconsistencyInSection {sectionName : String} {entries : Properties}
    (nonempty : 0 < entries.size) : 0 < (fixDeviceTypeInconsistencyInSection sectionName entries).2.size := by
  obtain ⟨entry, member⟩ := List.exists_mem_of_length_pos nonempty
  have keyed : entry.1 ∈ entries.keys := ListMap.mem_keys.mpr ⟨entry.2, member⟩
  obtain ⟨value, kept⟩ := ListMap.mem_keys.mp (mem_keys_fixDeviceTypeInconsistencyInSection sectionName keyed)
  exact ListMap.size_pos_of_mem kept

namespace ConfigCache

theorem WellFormed.fixDeviceTypeInconsistencies {c : ConfigCache} (wf : c.WellFormed) :
    c.fixDeviceTypeInconsistencies.2.WellFormed := by
  refine ⟨?_, ?_, ?_, ?_⟩
  · refine wf.information.mapValues fun name entries ⟨information, nonempty⟩ => ?_
    exact ⟨information, size_pos_fixDeviceTypeInconsistencyInSection nonempty⟩
  · refine wf.persistent.mapValues fun name entries ⟨⟨device, nonempty⟩, key, keyed, persistent⟩ => ?_
    exact ⟨⟨device, size_pos_fixDeviceTypeInconsistencyInSection nonempty⟩, key,
      mem_keys_fixDeviceTypeInconsistencyInSection name keyed, persistent⟩
  · refine wf.temporary.mapValues fun name entries ⟨device, nonempty⟩ => ?_
    exact ⟨device, size_pos_fixDeviceTypeInconsistencyInSection nonempty⟩
  · intro name member temporary
    change name ∈ (ListMap.mapValues _ _).keys at member
    change name ∈ (LruCache.mapValues _ _).listMap.keys at temporary
    rw [ListMap.keys_mapValues] at member
    rw [LruCache.keys_mapValues] at temporary
    exact wf.separate name member temporary

/-! ## Commit, and whole runs -/

theorem WellFormed.applyMutation {c c' : ConfigCache} (wf : c.WellFormed) {entry : MutationEntry}
    (applied : c.applyMutation entry = some c') : c'.WellFormed := by
  unfold ConfigCache.applyMutation at applied
  split at applied
  · exact wf.setProperty applied
  · cases applied
    exact wf.removeProperty _ _
  · cases applied
    exact wf.removeSection _

theorem WellFormed.commit {c c' : ConfigCache} (wf : c.WellFormed) {entries : List MutationEntry}
    (committed : c.commit entries = some c') : c'.WellFormed := by
  induction entries generalizing c with
  | nil =>
    cases committed
    exact wf
  | cons entry rest ih =>
    obtain ⟨next, applied, restCommitted⟩ := Option.bind_eq_some_iff.mp committed
    exact ih (wf.applyMutation applied) restCommitted

theorem WellFormed.step {c c' : ConfigCache} (wf : c.WellFormed) (step : ConfigStep c c') : c'.WellFormed := by
  cases step with
  | setProperty sectionName property value set => exact wf.setProperty set
  | removeProperty sectionName property => exact wf.removeProperty sectionName property
  | removeSection sectionName => exact wf.removeSection sectionName
  | removeSectionWithProperty property => exact wf.removeSectionWithProperty property
  | commit entries committed => exact wf.commit committed
  | fixDeviceTypeInconsistencies => exact wf.fixDeviceTypeInconsistencies
  | clear => exact wellFormed_clear c

/-- Every state a sequence of calls reaches from the constructor is well formed. -/
theorem wellFormed_of_run {tempDeviceCapacity : Nat} {names : List String} {c c' : ConfigCache}
    (created : create tempDeviceCapacity names = some c) (run : Relation.ReflTransGen ConfigStep c c') :
    c'.WellFormed := by
  induction run with
  | refl => exact wellFormed_create created
  | tail _ step wf => exact wf.step step

/-- A section name is in at most one of the three maps. -/
theorem WellFormed.at_most_one_map {c : ConfigCache} (wf : c.WellFormed) (name : String) :
    (name ∈ c.informationSections.keys → name ∉ c.persistentDevices.keys ∧ name ∉ c.temporaryDevices.listMap.keys) ∧
      (name ∈ c.persistentDevices.keys → name ∉ c.temporaryDevices.listMap.keys) := by
  refine ⟨fun information => ⟨fun persistent => ?_, fun temporary => ?_⟩, wf.separate name⟩
  · obtain ⟨properties, member⟩ := ListMap.mem_keys.mp information
    obtain ⟨properties', member'⟩ := ListMap.mem_keys.mp persistent
    have notDevice := (wf.information _ member).1
    rw [(wf.persistent _ member').1.1] at notDevice
    cases notDevice
  · obtain ⟨properties, member⟩ := ListMap.mem_keys.mp information
    obtain ⟨properties', member'⟩ := ListMap.mem_keys.mp temporary
    have notDevice := (wf.information _ member).1
    rw [(wf.temporary _ member').1] at notDevice
    cases notDevice

/-! ## A bonded device that RemoveProperty demotes -/

theorem trimAfterNewLine_of_not_mem {value : String} (oneLine : '\n' ∉ value.toList) :
    trimAfterNewLine value = value := by
  unfold trimAfterNewLine
  rw [List.takeWhile_eq_self_iff.mpr, String.ofList_toList]
  intro char member
  simp only [ne_eq, decide_eq_true_eq]
  rintro rfl
  exact oneLine member

theorem isEmpty_of_isValidAddress {address : String} (valid : Hci.Address.isValidAddress address = true) :
    address.isEmpty = false := by
  have length := Hci.Address.length_of_isValidAddress valid
  rw [← Bool.not_eq_true, String.isEmpty_iff]
  rintro rfl
  cases length

/-- SetProperty on a device section whose names have no newline. -/
theorem setProperty_device {c : ConfigCache} {sectionName : String} (property value : String)
    (device : isDeviceSection sectionName = true) (oneLine : '\n' ∉ sectionName.toList)
    (named : trimAfterNewLine property = property) (nonempty : property.isEmpty = false) :
    c.setProperty sectionName property value =
      some ((c.promoteDevice sectionName property).storeDeviceProperty sectionName property
        (trimAfterNewLine value)) := by
  have nonemptySection := isEmpty_of_isValidAddress device
  unfold ConfigCache.setProperty
  simp only [trimAfterNewLine_of_not_mem oneLine, named, nonemptySection, nonempty, device]
  rfl

/-- Setting a persistent property, or any property of a persistent device,
leaves the device persistent with the property and all the keys it had. -/
theorem persistent_setDeviceProperty {c : ConfigCache} (sectionName property value : String)
    (persistent : property ∈ c.persistentPropertyNames ∨ sectionName ∈ c.persistentDevices.keys) :
    ∃ properties, (sectionName, properties) ∈
        ((c.promoteDevice sectionName property).storeDeviceProperty sectionName property value).persistentDevices.entries ∧
      property ∈ properties.keys ∧
      ∀ old, (sectionName, old) ∈ c.persistentDevices.entries → ∀ key ∈ old.keys, key ∈ properties.keys := by
  by_cases present : sectionName ∈ c.persistentDevices.keys
  · obtain ⟨old, member⟩ := ListMap.mem_keys.mp present
    have contained : c.persistentDevices.contains sectionName = true := ListMap.contains_iff.mpr present
    have unchanged : c.promoteDevice sectionName property = c := by
      simp [promoteDevice, contained]
    rw [unchanged]
    unfold storeDeviceProperty
    rw [if_pos contained]
    refine ⟨old.insertOrAssign .back property value, ListMap.mem_modify.mpr (Or.inr ⟨old, member, rfl⟩),
      ListMap.mem_keys_insertOrAssign.mpr (Or.inl rfl), fun old' member' key keyed => ?_⟩
    rw [ListMap.eq_of_mem_of_mem member' member] at keyed
    exact keys_insertOrAssign_of_mem keyed
  · have persistentProperty : property ∈ c.persistentPropertyNames := persistent.resolve_right present
    have promoting : (!c.persistentDevices.contains sectionName && c.isPersistentProperty property) = true := by
      simp [present, persistentProperty]
    unfold promoteDevice storeDeviceProperty
    rw [if_pos promoting]
    have promoted : (c.persistentDevices.tryEmplace .back sectionName
        ((c.temporaryDevices.extract sectionName).1.getD .empty)).contains sectionName = true :=
      ListMap.contains_iff.mpr (ListMap.mem_keys_tryEmplace.mpr (Or.inl rfl))
    dsimp only
    rw [if_pos promoted]
    refine ⟨((c.temporaryDevices.extract sectionName).1.getD .empty).insertOrAssign .back property value,
      ListMap.mem_modify.mpr (Or.inr ⟨_, ListMap.mem_tryEmplace.mpr (Or.inr ⟨present, rfl⟩), rfl⟩),
      ListMap.mem_keys_insertOrAssign.mpr (Or.inl rfl), fun old member => ?_⟩
    exact absurd (ListMap.mem_keys.mpr ⟨old, member⟩) present

/-- RemoveProperty of a persistent property from a persistent device that has
another property moves the device, with what is left, to the temporary
devices. -/
theorem removeProperty_moves_to_temporary {c : ConfigCache} {sectionName property : String}
    {properties : Properties} (notInformation : c.informationSections.find? sectionName = none)
    (found : c.persistentDevices.find? sectionName = some properties) (removed : property ∈ properties.keys)
    (persistent : property ∈ c.persistentPropertyNames) (other : ∃ key ∈ properties.keys, key ≠ property) :
    sectionName ∉ (c.removeProperty sectionName property).2.persistentDevices.keys ∧
      (sectionName, properties.erase property) ∈ (c.removeProperty sectionName property).2.temporaryDevices.listMap.entries := by
  obtain ⟨key, keyed, different⟩ := other
  have remaining : (properties.erase property).size ≠ 0 := by
    obtain ⟨value, member⟩ := ListMap.mem_keys.mp (mem_keys_erase_of_ne keyed different)
    exact Nat.pos_iff_ne_zero.mp (ListMap.size_pos_of_mem member)
  have removedFound : (properties.find? property).isSome = true := by
    rw [Option.isSome_iff_ne_none, ne_eq, ListMap.find?_eq_none_iff, not_not]
    exact removed
  have demoted : ((properties.find? property).isSome && c.isPersistentProperty property) = true := by
    simp [removedFound, persistent]
  unfold ConfigCache.removeProperty
  rw [notInformation, found]
  dsimp only
  rw [if_neg remaining, if_pos demoted]
  exact ⟨fun member => (ListMap.mem_keys_erase.mp member).2 rfl, LruCache.mem_insertOrAssign_self _ _ _⟩

end ConfigCache

open ConfigCache in
/-- A device bonded over BR/EDR and LE (its LinkKey set, then its LE_KEY_PENC)
whose LinkKey is then removed: the cache no longer counts it as persistent,
although it still has a link key property of the storage module's list. -/
theorem removeProperty_demotes_bonded_device (tempDeviceCapacity : Nat) (sectionName linkKey leKey : String)
    (capacity : 0 < tempDeviceCapacity) (address : isDeviceSection sectionName = true)
    (oneLine : '\n' ∉ sectionName.toList) :
    ∃ c c', ConfigCache.create tempDeviceCapacity kLinkKeyProperties = some c ∧
      Relation.ReflTransGen ConfigStep c c' ∧
      c'.isPersistentSection sectionName = false ∧
      c'.hasAtLeastOneMatchingPropertiesInSection sectionName kLinkKeyProperties = true := by
  obtain ⟨c, created⟩ : ∃ c, ConfigCache.create tempDeviceCapacity kLinkKeyProperties = some c := by
    simp [ConfigCache.create, LruCache.create, capacity]
  have names : c.persistentPropertyNames = kLinkKeyProperties := by
    simp only [ConfigCache.create, LruCache.create, capacity, dite_true, Option.map_some, Option.some.injEq] at created
    rw [← created]
  -- SetProperty(section, "LinkKey", linkKey): the device becomes persistent
  have setLinkKey := setProperty_device (c := c) "LinkKey" linkKey address oneLine (by decide) (by decide)
  obtain ⟨linked, linkedMember, linkKeyed, _⟩ := persistent_setDeviceProperty (c := c) sectionName "LinkKey"
    (trimAfterNewLine linkKey) (Or.inl (by rw [names]; decide))
  set c₁ := (c.promoteDevice sectionName "LinkKey").storeDeviceProperty sectionName "LinkKey"
    (trimAfterNewLine linkKey) with c₁_def
  have names₁ : c₁.persistentPropertyNames = kLinkKeyProperties := by
    rw [← names]
    simp only [c₁_def, promoteDevice, storeDeviceProperty]
    split_ifs <;> rfl
  -- SetProperty(section, "LE_KEY_PENC", leKey): it stays persistent with both keys
  have setLeKey := setProperty_device (c := c₁) "LE_KEY_PENC" leKey address oneLine (by decide) (by decide)
  obtain ⟨bonded, bondedMember, leKeyed, kept⟩ := persistent_setDeviceProperty (c := c₁) sectionName "LE_KEY_PENC"
    (trimAfterNewLine leKey) (Or.inl (by rw [names₁]; decide))
  set c₂ := (c₁.promoteDevice sectionName "LE_KEY_PENC").storeDeviceProperty sectionName "LE_KEY_PENC"
    (trimAfterNewLine leKey) with c₂_def
  have linkKeyKept : "LinkKey" ∈ bonded.keys := kept linked linkedMember "LinkKey" linkKeyed
  have names₂ : c₂.persistentPropertyNames = kLinkKeyProperties := by
    rw [← names₁]
    simp only [c₂_def, promoteDevice, storeDeviceProperty]
    split_ifs <;> rfl
  -- RemoveProperty(section, "LinkKey"): the device moves to the temporary devices
  have run₂ : Relation.ReflTransGen ConfigStep c c₂ :=
    (Relation.ReflTransGen.single (ConfigStep.setProperty sectionName "LinkKey" linkKey setLinkKey)).tail
      (ConfigStep.setProperty sectionName "LE_KEY_PENC" leKey setLeKey)
  have wf₂ := wellFormed_of_run created run₂
  have persistentKey : sectionName ∈ c₂.persistentDevices.keys := ListMap.mem_keys.mpr ⟨bonded, bondedMember⟩
  have notInformation : c₂.informationSections.find? sectionName = none := by
    rw [ListMap.find?_eq_none_iff]
    intro information
    exact ((wf₂.at_most_one_map sectionName).1 information).1 persistentKey
  obtain ⟨demoted, moved⟩ := removeProperty_moves_to_temporary notInformation
    (ListMap.find?_eq_some_iff.mpr bondedMember) linkKeyKept (by rw [names₂]; decide)
    ⟨"LE_KEY_PENC", leKeyed, by decide⟩
  refine ⟨c, (c₂.removeProperty sectionName "LinkKey").2, created,
    run₂.tail (ConfigStep.removeProperty c₂ sectionName "LinkKey"), ?_, ?_⟩
  · simpa [isPersistentSection] using demoted
  · have notPersistent : (c₂.removeProperty sectionName "LinkKey").2.persistentDevices.find? sectionName = none :=
      ListMap.find?_eq_none_iff.mpr demoted
    have temporary := ListMap.find?_eq_some_iff.mpr moved
    have leKeyLeft : "LE_KEY_PENC" ∈ (bonded.erase "LinkKey").keys := mem_keys_erase_of_ne leKeyed (by decide)
    simp only [hasAtLeastOneMatchingPropertiesInSection, address, Bool.not_true, Bool.false_eq_true, if_false,
      notPersistent, temporary, Option.none_or]
    exact List.any_eq_true.mpr ⟨"LE_KEY_PENC", leKeyLeft, by decide⟩

theorem removeProperty_demotes_bonded_device_example :
    0 < 16 ∧ isDeviceSection "AA:BB:CC:DD:EE:FF" = true ∧ '\n' ∉ "AA:BB:CC:DD:EE:FF".toList ∧
      ∃ c c', ConfigCache.create 16 kLinkKeyProperties = some c ∧
        Relation.ReflTransGen ConfigStep c c' ∧
        c'.isPersistentSection "AA:BB:CC:DD:EE:FF" = false ∧
        c'.hasAtLeastOneMatchingPropertiesInSection "AA:BB:CC:DD:EE:FF" kLinkKeyProperties = true :=
  ⟨by decide, by decide, by decide,
    removeProperty_demotes_bonded_device 16 "AA:BB:CC:DD:EE:FF" "0123456789abcdef0123456789abcdef"
      "fedcba9876543210fedcba9876543210" (by decide) (by decide) (by decide)⟩

end Storage
end BluetoothStack
