import BluetoothStack.Storage.ConfigCacheInvariant

namespace BluetoothStack
namespace Storage

open Library

/-!
# Reading the config cache (storage/config_cache.cc)

GetProperty, HasSection, HasProperty, GetPropertyNames and
GetSectionNamesWithProperty are const methods, but not all are pure: the
find() of the LRU cache of temporary devices warms the section it looks up,
so the readers that look there give back a cache as well.  The readers here
are those of a cache without a keystore; `ConfigCacheKeystore` adds it.

The cache is seen through `sectionOf`, the section of a name in whichever
map has it.  Sections are unique among the maps of a well-formed cache, so
GetProperty reads that section (`getProperty_fst_of_wellFormed`); HasProperty,
which stops at the first map with the section, agrees with it
(`hasProperty_eq_getProperty`), and the two listings name exactly what it
finds (`getPropertyNames_spec`, `mem_getSectionNamesWithProperty`).
SetProperty sets one property of one section and may evict one temporary
device (`sectionOf_setProperty`), so afterwards the property holds the value
set, trimmed after a newline, and every other property holds what it held but
for the evicted device (`find?_setProperty`).  A read never changes what a
later read finds (`getProperty_fst_getProperty`).
-/

namespace ConfigCache

/-! ## GetProperty -/

/-- GetProperty: the property in the information section of that name, or
else in the persistent device of that name, or else in the temporary device,
whose find() warms it.  Without a keystore a persistent value is returned as
stored. -/
def getProperty (c : ConfigCache) (sectionName property : String) : Option String × ConfigCache :=
  match (c.informationSections.find? sectionName).bind (·.find? property) with
  | some value => (some value, c)
  | none =>
    match (c.persistentDevices.find? sectionName).bind (·.find? property) with
    | some value => (some value, c)
    | none =>
      ((c.temporaryDevices.find sectionName).1.bind (·.find? property),
        { c with temporaryDevices := (c.temporaryDevices.find sectionName).2 })

/-- What GetProperty finds: the property in the first of the three maps
that has it. -/
theorem getProperty_fst (c : ConfigCache) (sectionName property : String) :
    (c.getProperty sectionName property).1 =
      (((c.informationSections.find? sectionName).bind (·.find? property)).or
        ((c.persistentDevices.find? sectionName).bind (·.find? property))).or
        ((c.temporaryDevices.listMap.find? sectionName).bind (·.find? property)) := by
  unfold getProperty
  split
  · rename_i found
    rw [found]
    rfl
  · rename_i notInformation
    rw [notInformation, Option.none_or]
    split
    · rename_i found
      rw [found]
      rfl
    · rename_i notPersistent
      rw [notPersistent]
      rfl

/-- GetProperty gives back the cache, or the cache with the section warmed
among the temporary devices. -/
theorem getProperty_snd (c : ConfigCache) (sectionName property : String) :
    (c.getProperty sectionName property).2 = c ∨
      (c.getProperty sectionName property).2 = { c with temporaryDevices := (c.temporaryDevices.find sectionName).2 } := by
  unfold getProperty
  split
  · exact Or.inl rfl
  · split
    · exact Or.inl rfl
    · exact Or.inr rfl

/-- A read never changes what a later read finds. -/
theorem getProperty_fst_getProperty (c : ConfigCache) (sectionName property other otherProperty : String) :
    ((c.getProperty sectionName property).2.getProperty other otherProperty).1 =
      (c.getProperty other otherProperty).1 := by
  rcases getProperty_snd c sectionName property with same | warmed
  · rw [same]
  · rw [warmed, getProperty_fst, getProperty_fst]
    dsimp only
    rw [LruCache.find?_find]

/-! ## HasSection, HasProperty and the section of a name -/

/-- HasSection: the contains() of the LRU cache is its find(), which warms
the section. -/
def hasSection (c : ConfigCache) (sectionName : String) : Bool × ConfigCache :=
  if c.informationSections.contains sectionName || c.persistentDevices.contains sectionName then (true, c)
  else
    ((c.temporaryDevices.find sectionName).1.isSome,
      { c with temporaryDevices := (c.temporaryDevices.find sectionName).2 })

/-- HasProperty: whether the first map that has the section has the
property.  Unlike GetProperty it looks no further when that section lacks
the property. -/
def hasProperty (c : ConfigCache) (sectionName property : String) : Bool × ConfigCache :=
  match c.informationSections.find? sectionName with
  | some properties => ((properties.find? property).isSome, c)
  | none =>
    match c.persistentDevices.find? sectionName with
    | some properties => ((properties.find? property).isSome, c)
    | none =>
      ((c.temporaryDevices.find sectionName).1.any fun properties => (properties.find? property).isSome,
        { c with temporaryDevices := (c.temporaryDevices.find sectionName).2 })

/-- The section of a name, from whichever of the three maps has it; in a
well-formed cache at most one does. -/
def sectionOf (c : ConfigCache) (sectionName : String) : Option Properties :=
  ((c.informationSections.find? sectionName).or (c.persistentDevices.find? sectionName)).or
    (c.temporaryDevices.listMap.find? sectionName)

theorem WellFormed.information_find?_of_device {c : ConfigCache} (wf : c.WellFormed) {sectionName : String}
    (device : isDeviceSection sectionName = true) : c.informationSections.find? sectionName = none := by
  rw [ListMap.find?_eq_none_iff]
  intro member
  rcases ListMap.mem_keys.mp member with ⟨properties, entry⟩
  have information := (wf.information _ entry).1
  rw [device] at information
  cases information

theorem WellFormed.device_find?_of_information {c : ConfigCache} (wf : c.WellFormed) {sectionName : String}
    (information : isDeviceSection sectionName = false) :
    c.persistentDevices.find? sectionName = none ∧ c.temporaryDevices.listMap.find? sectionName = none := by
  constructor
  · rw [ListMap.find?_eq_none_iff]
    intro member
    rcases ListMap.mem_keys.mp member with ⟨properties, entry⟩
    have device := (wf.persistent _ entry).1.1
    rw [information] at device
    cases device
  · rw [ListMap.find?_eq_none_iff]
    intro member
    rcases ListMap.mem_keys.mp member with ⟨properties, entry⟩
    have device := (wf.temporary _ entry).1
    rw [information] at device
    cases device

theorem WellFormed.find?_of_temporary {c : ConfigCache} (wf : c.WellFormed) {sectionName : String}
    (temporary : sectionName ∈ c.temporaryDevices.listMap.keys) :
    c.informationSections.find? sectionName = none ∧ c.persistentDevices.find? sectionName = none := by
  have unique := wf.at_most_one_map sectionName
  exact ⟨ListMap.find?_eq_none_iff.mpr fun information => (unique.1 information).2 temporary,
    ListMap.find?_eq_none_iff.mpr fun persistent => unique.2 persistent temporary⟩

/-- Where a name stands in a well-formed cache: among the information
sections, or among the persistent devices, and then in no later map, or in
neither of the two. -/
theorem WellFormed.find?_cases {c : ConfigCache} (wf : c.WellFormed) (sectionName : String) :
    (∃ properties, c.informationSections.find? sectionName = some properties ∧
        c.persistentDevices.find? sectionName = none ∧ c.temporaryDevices.listMap.find? sectionName = none) ∨
      (c.informationSections.find? sectionName = none ∧ ∃ properties,
        c.persistentDevices.find? sectionName = some properties ∧
          c.temporaryDevices.listMap.find? sectionName = none) ∨
      (c.informationSections.find? sectionName = none ∧ c.persistentDevices.find? sectionName = none) := by
  have unique := wf.at_most_one_map sectionName
  cases information : c.informationSections.find? sectionName with
  | some properties =>
    have present := ListMap.mem_keys_of_find? information
    exact Or.inl ⟨properties, rfl, ListMap.find?_eq_none_iff.mpr (unique.1 present).1,
      ListMap.find?_eq_none_iff.mpr (unique.1 present).2⟩
  | none =>
    cases persistent : c.persistentDevices.find? sectionName with
    | some properties =>
      have absent := ListMap.find?_eq_none_iff.mpr (unique.2 (ListMap.mem_keys_of_find? persistent))
      exact Or.inr (Or.inl ⟨rfl, properties, rfl, absent⟩)
    | none => exact Or.inr (Or.inr ⟨rfl, rfl⟩)

/-- On a well-formed cache GetProperty reads the one section of the name. -/
theorem getProperty_fst_of_wellFormed {c : ConfigCache} (wf : c.WellFormed) (sectionName property : String) :
    (c.getProperty sectionName property).1 = (c.sectionOf sectionName).bind (·.find? property) := by
  rw [getProperty_fst, sectionOf]
  rcases wf.find?_cases sectionName with
    ⟨properties, information, persistent, temporary⟩ | ⟨information, properties, persistent, temporary⟩ |
      ⟨information, persistent⟩
  · -- the section is in no device map, so a property it lacks is found nowhere
    simp only [information, persistent, temporary, Option.bind_some, Option.bind_none, Option.or_none]
  · simp only [information, persistent, temporary, Option.bind_some, Option.bind_none, Option.or_none,
      Option.none_or]
  · simp only [information, persistent, Option.bind_none, Option.none_or]

/-- On a well-formed cache HasProperty is GetProperty followed by
has_value(), in the cache it gives back as well: a section found among the
information sections or the persistent devices is in no other map, so
GetProperty looks further in vain, and its find() of a temporary device that
is absent changes nothing. -/
theorem hasProperty_eq_getProperty {c : ConfigCache} (wf : c.WellFormed) (sectionName property : String) :
    c.hasProperty sectionName property =
      ((c.getProperty sectionName property).1.isSome, (c.getProperty sectionName property).2) := by
  unfold hasProperty getProperty
  rcases wf.find?_cases sectionName with
    ⟨properties, information, persistent, temporary⟩ | ⟨information, properties, persistent, temporary⟩ |
      ⟨information, persistent⟩
  · have absent := ListMap.find?_eq_none_iff.mp temporary
    simp only [information, persistent, Option.bind_some, Option.bind_none, LruCache.find_snd_of_not_mem absent,
      LruCache.find_fst, temporary]
    cases properties.find? property <;> rfl
  · have absent := ListMap.find?_eq_none_iff.mp temporary
    simp only [information, persistent, Option.bind_some, Option.bind_none, LruCache.find_snd_of_not_mem absent,
      LruCache.find_fst, temporary]
    cases properties.find? property <;> rfl
  · simp only [information, persistent, Option.bind_none, Option.isSome_bind]

/-- The adapter's name, once set, is found by both reads. -/
theorem hasProperty_eq_getProperty_adapterName :
    let initial : ConfigCache := ⟨kLinkKeyProperties, .empty, .empty, ⟨1, .empty, Nat.one_pos, Nat.zero_le 1⟩⟩
    let c := (initial.setProperty "Adapter" "Name" "phone").getD initial
    create 1 kLinkKeyProperties = some initial ∧ initial.setProperty "Adapter" "Name" "phone" = some c ∧
      (c.getProperty "Adapter" "Name").1 = some "phone" ∧
      c.hasProperty "Adapter" "Name" =
        ((c.getProperty "Adapter" "Name").1.isSome, (c.getProperty "Adapter" "Name").2) := by
  intro initial c
  have created : create 1 kLinkKeyProperties = some initial := rfl
  have set : initial.setProperty "Adapter" "Name" "phone" = some c := rfl
  exact ⟨created, set, rfl, hasProperty_eq_getProperty ((wellFormed_create created).setProperty set) "Adapter" "Name"⟩

/-! ## Listing sections and properties -/

/-- GetPersistentSections: the names of the persistent devices, in order. -/
def getPersistentSections (c : ConfigCache) : List String :=
  c.persistentDevices.keys

/-- The loop body of GetSectionNamesWithProperty over one map: each section
that has the property, with its value. -/
def sectionsWithProperty (property : String) (entries : List (String × Properties)) : List (String × String) :=
  entries.filterMap fun elem => (elem.2.find? property).map fun value => (elem.1, value)

/-- GetSectionNamesWithProperty: the information sections, then the
persistent devices, then the temporary devices, whose iteration does not
warm them. -/
def getSectionNamesWithProperty (c : ConfigCache) (property : String) : List (String × String) :=
  sectionsWithProperty property c.informationSections.entries ++
    sectionsWithProperty property c.persistentDevices.entries ++
    sectionsWithProperty property c.temporaryDevices.listMap.entries

/-- GetPropertyNames: the property names of the section in the first map
that has it; the find() of the temporary devices warms the section. -/
def getPropertyNames (c : ConfigCache) (sectionName : String) : List String × ConfigCache :=
  match c.informationSections.find? sectionName with
  | some properties => (properties.keys, c)
  | none =>
    match c.persistentDevices.find? sectionName with
    | some properties => (properties.keys, c)
    | none =>
      (((c.temporaryDevices.find sectionName).1.map ListMap.keys).getD [],
        { c with temporaryDevices := (c.temporaryDevices.find sectionName).2 })

theorem getPropertyNames_fst (c : ConfigCache) (sectionName : String) :
    (c.getPropertyNames sectionName).1 = ((c.sectionOf sectionName).map ListMap.keys).getD [] := by
  unfold getPropertyNames sectionOf
  cases c.informationSections.find? sectionName <;> cases c.persistentDevices.find? sectionName <;> rfl

/-- On a well-formed cache the section of a name is the one entry of that
name in any of the three maps. -/
theorem sectionOf_eq_some_iff {c : ConfigCache} (wf : c.WellFormed) {sectionName : String}
    {properties : Properties} :
    c.sectionOf sectionName = some properties ↔
      (sectionName, properties) ∈ c.informationSections.entries ∨
        (sectionName, properties) ∈ c.persistentDevices.entries ∨
        (sectionName, properties) ∈ c.temporaryDevices.listMap.entries := by
  rw [sectionOf, ← ListMap.find?_eq_some_iff, ← ListMap.find?_eq_some_iff, ← ListMap.find?_eq_some_iff]
  rcases wf.find?_cases sectionName with
    ⟨found, information, persistent, temporary⟩ | ⟨information, found, persistent, temporary⟩ |
      ⟨information, persistent⟩
  · simp [information, persistent, temporary]
  · simp [information, persistent, temporary]
  · simp [information, persistent]

theorem mem_sectionsWithProperty {property sectionName value : String} {entries : List (String × Properties)} :
    (sectionName, value) ∈ sectionsWithProperty property entries ↔
      ∃ properties, (sectionName, properties) ∈ entries ∧ properties.find? property = some value := by
  simp only [sectionsWithProperty, List.mem_filterMap, Option.map_eq_some_iff, Prod.mk.injEq]
  constructor
  · rintro ⟨⟨name, properties⟩, member, found, lookup, rfl, rfl⟩
    exact ⟨properties, member, lookup⟩
  · rintro ⟨properties, member, found⟩
    exact ⟨(sectionName, properties), member, value, found, rfl, rfl⟩

theorem sublist_sectionsWithProperty (property : String) (entries : List (String × Properties)) :
    ((sectionsWithProperty property entries).map Prod.fst).Sublist (entries.map Prod.fst) := by
  induction entries with
  | nil => exact List.Sublist.slnil
  | cons elem rest tail =>
    unfold sectionsWithProperty at tail ⊢
    rw [List.filterMap_cons]
    cases elem.2.find? property with
    | none => exact tail.cons _
    | some value => exact tail.cons_cons _

/-- The names of the three maps of a well-formed cache, together, have no
repetition: each map's keys are distinct, and no name is in two maps. -/
theorem nodup_keys_of_wellFormed {c : ConfigCache} (wf : c.WellFormed) :
    (c.informationSections.keys ++ c.persistentDevices.keys ++ c.temporaryDevices.listMap.keys).Nodup := by
  rw [List.nodup_append, List.nodup_append]
  refine ⟨⟨c.informationSections.nodup, c.persistentDevices.nodup, ?_⟩, c.temporaryDevices.listMap.nodup, ?_⟩
  · rintro name information _ persistent rfl
    exact ((wf.at_most_one_map name).1 information).1 persistent
  · rintro name front _ temporary rfl
    rcases List.mem_append.mp front with information | persistent
    · exact ((wf.at_most_one_map name).1 information).2 temporary
    · exact (wf.at_most_one_map name).2 persistent temporary

/-- GetPropertyNames lists, on a well-formed cache, the properties that
GetProperty finds in the section, each once. -/
theorem getPropertyNames_spec {c : ConfigCache} (wf : c.WellFormed) (sectionName : String) :
    (c.getPropertyNames sectionName).1.Nodup ∧
      ∀ property, property ∈ (c.getPropertyNames sectionName).1 ↔ (c.getProperty sectionName property).1.isSome := by
  rw [getPropertyNames_fst]
  constructor
  · cases c.sectionOf sectionName with
    | none => exact List.nodup_nil
    | some properties => exact properties.nodup
  · intro property
    rw [getProperty_fst_of_wellFormed wf]
    cases c.sectionOf sectionName with
    | none => simp
    | some properties =>
      rw [Option.map_some, Option.getD_some, Option.bind_some]
      exact ListMap.contains_iff.symm

/-- An adapter section with a name and an address lists both, in the order
they were set. -/
theorem getPropertyNames_spec_adapter :
    let initial : ConfigCache := ⟨kLinkKeyProperties, .empty, .empty, ⟨1, .empty, Nat.one_pos, Nat.zero_le 1⟩⟩
    let named := (initial.setProperty "Adapter" "Name" "phone").getD initial
    let c := (named.setProperty "Adapter" "Address" "01:02:03:04:05:06").getD named
    create 1 kLinkKeyProperties = some initial ∧ initial.setProperty "Adapter" "Name" "phone" = some named ∧
      named.setProperty "Adapter" "Address" "01:02:03:04:05:06" = some c ∧
      (c.getPropertyNames "Adapter").1 = ["Name", "Address"] ∧
      (c.getPropertyNames "Adapter").1.Nodup ∧
        ∀ property, property ∈ (c.getPropertyNames "Adapter").1 ↔ (c.getProperty "Adapter" property).1.isSome := by
  intro initial named c
  have created : create 1 kLinkKeyProperties = some initial := rfl
  have setName : initial.setProperty "Adapter" "Name" "phone" = some named := rfl
  have setAddress : named.setProperty "Adapter" "Address" "01:02:03:04:05:06" = some c := rfl
  have wf := ((wellFormed_create created).setProperty setName).setProperty setAddress
  exact ⟨created, setName, setAddress, rfl, getPropertyNames_spec wf "Adapter"⟩

/-- GetSectionNamesWithProperty names no section twice: the names it lists
are a sublist of the names of the three maps. -/
theorem nodup_getSectionNamesWithProperty {c : ConfigCache} (wf : c.WellFormed) (property : String) :
    ((c.getSectionNamesWithProperty property).map Prod.fst).Nodup := by
  apply List.Nodup.sublist _ (nodup_keys_of_wellFormed wf)
  simp only [getSectionNamesWithProperty, List.map_append, ListMap.keys]
  exact ((sublist_sectionsWithProperty property _).append (sublist_sectionsWithProperty property _)).append
    (sublist_sectionsWithProperty property _)

/-- GetSectionNamesWithProperty lists, on a well-formed cache, exactly the
stored values of the property, with their sections. -/
theorem mem_getSectionNamesWithProperty {c : ConfigCache} (wf : c.WellFormed) {property sectionName value : String} :
    (sectionName, value) ∈ c.getSectionNamesWithProperty property ↔
      (c.sectionOf sectionName).bind (·.find? property) = some value := by
  rw [Option.bind_eq_some_iff]
  simp only [getSectionNamesWithProperty, List.mem_append, mem_sectionsWithProperty, sectionOf_eq_some_iff wf]
  constructor
  · rintro ((⟨properties, member, found⟩ | ⟨properties, member, found⟩) | ⟨properties, member, found⟩)
    · exact ⟨properties, Or.inl member, found⟩
    · exact ⟨properties, Or.inr (Or.inl member), found⟩
    · exact ⟨properties, Or.inr (Or.inr member), found⟩
  · rintro ⟨properties, member | member | member, found⟩
    · exact Or.inl (Or.inl ⟨properties, member, found⟩)
    · exact Or.inl (Or.inr ⟨properties, member, found⟩)
    · exact Or.inr ⟨properties, member, found⟩

/-! ## SetProperty -/

theorem informationSections_promoteDevice (c : ConfigCache) (sectionName property : String) :
    (c.promoteDevice sectionName property).informationSections = c.informationSections := by
  unfold promoteDevice
  split <;> rfl

/-- SetProperty succeeds for names without a newline that are not empty. -/
theorem setProperty_isSome (c : ConfigCache) {sectionName property : String}
    (sectionLine : '\n' ∉ sectionName.toList) (propertyLine : '\n' ∉ property.toList)
    (sectionNamed : sectionName ≠ "") (propertyNamed : property ≠ "") (value : String) :
    ∃ c', c.setProperty sectionName property value = some c' := by
  have sectionFull : sectionName.isEmpty = false := by
    rw [← Bool.not_eq_true, String.isEmpty_iff]
    exact sectionNamed
  have propertyFull : property.isEmpty = false := by
    rw [← Bool.not_eq_true, String.isEmpty_iff]
    exact propertyNamed
  unfold setProperty
  simp only [trimAfterNewLine_of_not_mem sectionLine, trimAfterNewLine_of_not_mem propertyLine, sectionFull,
    propertyFull, Bool.or_false, Bool.false_eq_true, if_false]
  split
  · exact ⟨_, rfl⟩
  · exact ⟨_, rfl⟩

/-! ## What SetProperty does to the sections -/

theorem sectionOf_setInformationProperty {c : ConfigCache} (wf : c.WellFormed) {sectionName : String}
    (information : isDeviceSection sectionName = false) (property value : String) :
    (c.setInformationProperty sectionName property value).sectionOf sectionName =
        some (((c.sectionOf sectionName).getD .empty).insertOrAssign .back property value) ∧
      ∀ other, other ≠ sectionName →
        (c.setInformationProperty sectionName property value).sectionOf other = c.sectionOf other := by
  rcases wf.device_find?_of_information information with ⟨notPersistent, notTemporary⟩
  constructor
  · simp only [sectionOf, setInformationProperty, ListMap.find?_modify_self, ListMap.find?_tryEmplace_self,
      Option.map_some, notPersistent, notTemporary, Option.or_none]
  · intro other different
    simp only [sectionOf, setInformationProperty, ListMap.find?_modify_of_ne _ different,
      ListMap.find?_tryEmplace_of_ne _ different]

/-- A promotion moves the device's section, or a new empty one, to the
persistent devices: that section keeps its properties, and no other changes. -/
theorem sectionOf_promoteDevice {c : ConfigCache} (wf : c.WellFormed) {sectionName : String}
    (device : isDeviceSection sectionName = true) (property : String) :
    ((c.promoteDevice sectionName property).sectionOf sectionName).getD .empty =
        (c.sectionOf sectionName).getD .empty ∧
      ∀ other, other ≠ sectionName →
        (c.promoteDevice sectionName property).sectionOf other = c.sectionOf other := by
  unfold promoteDevice
  split
  · rename_i promoting
    have notPersistent : c.persistentDevices.find? sectionName = none := by
      simp only [Bool.and_eq_true, Bool.not_eq_true', ListMap.contains_eq_false_iff] at promoting
      exact ListMap.find?_eq_none_iff.mpr promoting.1
    constructor
    · simp only [sectionOf, wf.information_find?_of_device device, notPersistent, ListMap.find?_tryEmplace_self,
        LruCache.extract_fst, Option.none_or, Option.some_or, Option.getD_some, Option.getD_none]
    · intro other different
      simp only [sectionOf, ListMap.find?_tryEmplace_of_ne _ different, LruCache.listMap_extract,
        ListMap.find?_erase, if_neg different]
  · exact ⟨rfl, fun _ _ => rfl⟩

/-- After a promotion a temporary device is one the cache had, and it is in
no other map. -/
theorem temporary_promoteDevice {c : ConfigCache} (wf : c.WellFormed) (sectionName property : String)
    {name : String} (member : name ∈ (c.promoteDevice sectionName property).temporaryDevices.listMap.keys) :
    name ∈ c.temporaryDevices.listMap.keys ∧
      (c.promoteDevice sectionName property).informationSections.find? name = none ∧
      (c.promoteDevice sectionName property).persistentDevices.find? name = none := by
  unfold promoteDevice at member ⊢
  split at member
  · rename_i promoting
    rw [if_pos promoting]
    dsimp only at member ⊢
    rw [LruCache.mem_keys_extract] at member
    rcases wf.find?_of_temporary member.1 with ⟨noInformation, noPersistent⟩
    exact ⟨member.1, noInformation, by rw [ListMap.find?_tryEmplace_of_ne _ member.2, noPersistent]⟩
  · rename_i notPromoting
    rw [if_neg notPromoting]
    exact ⟨member, wf.find?_of_temporary member⟩

/-- Storing a device property sets it in the device's section, found where
it is or emplaced among the temporary devices; the emplacement may evict one
other temporary device. -/
theorem sectionOf_storeDeviceProperty {c : ConfigCache} {sectionName : String}
    (notInformation : c.informationSections.find? sectionName = none)
    (separate : ∀ name ∈ c.temporaryDevices.listMap.keys,
      c.informationSections.find? name = none ∧ c.persistentDevices.find? name = none)
    (property value : String) :
    ∃ evicted : Option String, (∀ name ∈ evicted, name ≠ sectionName ∧ name ∈ c.temporaryDevices.listMap.keys) ∧
      (c.storeDeviceProperty sectionName property value).sectionOf sectionName =
        some (((c.sectionOf sectionName).getD .empty).insertOrAssign .back property value) ∧
      ∀ other, other ≠ sectionName → (c.storeDeviceProperty sectionName property value).sectionOf other =
        if evicted = some other then none else c.sectionOf other := by
  unfold storeDeviceProperty
  split
  · -- a persistent device: assigned in place
    rename_i persistent
    rcases Option.isSome_iff_exists.mp persistent with ⟨properties, found⟩
    refine ⟨none, fun _ absent => (by cases absent), ?_, fun other different => ?_⟩
    · simp only [sectionOf, notInformation, ListMap.find?_modify_self, found, Option.map_some, Option.none_or,
        Option.some_or, Option.getD_some]
    · simp only [sectionOf, ListMap.find?_modify_of_ne _ different, if_neg (Option.some_ne_none other).symm]
  · -- a temporary device: found, or emplaced, then assigned
    rename_i notPersistent
    have missing : c.persistentDevices.find? sectionName = none := Option.not_isSome_iff_eq_none.mp notPersistent
    rcases LruCache.find?_findOrEmplace c.temporaryDevices sectionName .empty with ⟨evicted, kept, self, others⟩
    refine ⟨evicted, kept, ?_, fun other different => ?_⟩
    · simp only [sectionOf, notInformation, missing, LruCache.listMap_modify, ListMap.find?_modify_self, self,
        Option.map_some, Option.none_or]
    · simp only [sectionOf, LruCache.listMap_modify, ListMap.find?_modify_of_ne _ different, others other different]
      split
      · -- the evicted device was in no other map
        rename_i dropped
        rcases separate other (kept other (Option.mem_def.mpr dropped)).2 with ⟨noInformation, noPersistent⟩
        rw [noInformation, noPersistent]
        rfl
      · rfl

/-- SetProperty sets one property in the section of the trimmed name, which
it creates when there is none, and changes no other section but for one
temporary device that the LRU cache may evict. -/
theorem sectionOf_setProperty {c c' : ConfigCache} (wf : c.WellFormed) {sectionName property value : String}
    (set : c.setProperty sectionName property value = some c') :
    ∃ evicted : Option String,
      (∀ name ∈ evicted, name ≠ trimAfterNewLine sectionName ∧ name ∈ c.temporaryDevices.listMap.keys) ∧
      c'.sectionOf (trimAfterNewLine sectionName) =
        some (((c.sectionOf (trimAfterNewLine sectionName)).getD .empty).insertOrAssign .back
          (trimAfterNewLine property) (trimAfterNewLine value)) ∧
      ∀ other, other ≠ trimAfterNewLine sectionName →
        c'.sectionOf other = if evicted = some other then none else c.sectionOf other := by
  unfold setProperty at set
  dsimp only at set
  split at set
  · cases set
  split at set
  · rename_i information
    cases set
    rcases sectionOf_setInformationProperty wf (by simpa using information) (trimAfterNewLine property)
      (trimAfterNewLine value) with ⟨self, others⟩
    refine ⟨none, fun _ absent => (by cases absent), self, fun other different => ?_⟩
    rw [others other different, if_neg (Option.some_ne_none other).symm]
  · -- a device section: promoted, then stored
    rename_i notInformation
    cases set
    have device : isDeviceSection (trimAfterNewLine sectionName) = true := by simpa using notInformation
    rcases sectionOf_promoteDevice wf device (trimAfterNewLine property) with ⟨promoted, unchanged⟩
    have stillNotInformation : (c.promoteDevice (trimAfterNewLine sectionName)
        (trimAfterNewLine property)).informationSections.find? (trimAfterNewLine sectionName) = none := by
      rw [informationSections_promoteDevice]
      exact wf.information_find?_of_device device
    rcases sectionOf_storeDeviceProperty stillNotInformation
      (fun name member => (temporary_promoteDevice wf _ _ member).2) (trimAfterNewLine property)
      (trimAfterNewLine value) with ⟨evicted, kept, self, others⟩
    refine ⟨evicted, fun name member => ⟨(kept name member).1, (temporary_promoteDevice wf _ _ (kept name member).2).1⟩,
      ?_, fun other different => ?_⟩
    · rw [self, promoted]
    · rw [others other different, unchanged other different]

/-- SetProperty on the stored values: on a well-formed cache the property
set holds the value set, under the names SetProperty stores it (each trimmed
after a newline), and every other property of every section keeps its value,
but for those of at most one temporary device, which the LRU cache evicts. -/
theorem find?_setProperty {c c' : ConfigCache} (wf : c.WellFormed) {sectionName property value : String}
    (set : c.setProperty sectionName property value = some c') :
    (c'.sectionOf (trimAfterNewLine sectionName)).bind (·.find? (trimAfterNewLine property)) =
        some (trimAfterNewLine value) ∧
      ∃ evicted : Option String,
        (∀ name ∈ evicted, name ≠ trimAfterNewLine sectionName ∧ name ∈ c.temporaryDevices.listMap.keys) ∧
        ∀ other otherProperty, other ≠ trimAfterNewLine sectionName ∨ otherProperty ≠ trimAfterNewLine property →
          (c'.sectionOf other).bind (·.find? otherProperty) =
            if evicted = some other then none else (c.sectionOf other).bind (·.find? otherProperty) := by
  rcases sectionOf_setProperty wf set with ⟨evicted, kept, self, others⟩
  refine ⟨by rw [self, Option.bind_some, ListMap.find?_insertOrAssign_self], evicted, kept,
    fun other otherProperty different => ?_⟩
  by_cases same : other = trimAfterNewLine sectionName
  · -- another property of the section that was set
    subst same
    have otherName : otherProperty ≠ trimAfterNewLine property := different.resolve_left (not_not.mpr rfl)
    rw [self, if_neg fun dropped => (kept _ (Option.mem_def.mpr dropped)).1 rfl, Option.bind_some,
      ListMap.find?_insertOrAssign_of_ne _ otherName]
    cases c.sectionOf (trimAfterNewLine sectionName) <;> rfl
  · rw [others other same]
    split <;> rfl

/-- On a well-formed cache, a read after SetProperty finds the value set,
under the names SetProperty stores it. -/
theorem getProperty_setProperty {c c' : ConfigCache} (wf : c.WellFormed) {sectionName property value : String}
    (set : c.setProperty sectionName property value = some c') :
    (c'.getProperty (trimAfterNewLine sectionName) (trimAfterNewLine property)).1 = some (trimAfterNewLine value) := by
  rw [getProperty_fst_of_wellFormed (wf.setProperty set)]
  exact (find?_setProperty wf set).1

end ConfigCache

end Storage
end BluetoothStack
