import BluetoothStack.Storage.ConfigCacheRead

namespace BluetoothStack
namespace Storage

open Library

/-!
# The keystore of common-criteria mode (storage/config_cache.cc)

On Android, os::ParameterProvider::GetBtKeystoreInterface() gives the cache a
keystore, and IsCommonCriteriaMode() says whether keys are to be kept in it.
In common-criteria mode SetProperty hands a key of a persistent device (a
name of kEncryptKeyNameList) to set_encrypt_key_or_remove_key under
"section-property", and stores "encrypted" in its place when the keystore
takes it; GetProperty reads a persistent "encrypted" back through get_key,
whatever the mode; RemoveProperty removes the key from the keystore.

The keystore is a parameter over its own state, and what the cache relies on
is stated as the laws of a key store (`BtKeystore.Lawful`).  Without a
keystore the calls are those of `ConfigCache` (`setPropertyWithKeystore_noKeystore`,
`getPropertyWithKeystore_noKeystore`).  With one, GetProperty passes the
stored value of a persistent device through the keystore
(`getPropertyWithKeystore_fst_of_wellFormed`): a read after SetProperty gives
what GetProperty makes of the value set, which is that value unless it is
"encrypted" (`setPropertyWithKeystore_getProperty_spec`), and
GetSectionNamesWithProperty lists the stored values, which GetProperty
passes through the keystore in the same way
(`getSectionNamesWithProperty_keystore_spec`).
-/

/-- kEncryptKeyNameList: the properties whose values common-criteria mode
keeps in the keystore. -/
def kEncryptKeyNameList : List String :=
  ["LinkKey", "LE_KEY_PENC", "LE_KEY_PID", "LE_KEY_LID", "LE_KEY_PCSRK", "LE_KEY_LENC", "LE_KEY_LCSRK"]

def inEncryptKeyNameList (key : String) : Bool :=
  key ∈ kEncryptKeyNameList

/-- kEncryptedStr, stored in place of a key that the keystore holds. -/
def kEncryptedStr : String := "encrypted"

/-- bluetooth_keystore::BluetoothKeystoreInterface over the state `σ` of the
keystore: get_key, and set_encrypt_key_or_remove_key, which reports whether
it took the key; an empty value removes it. -/
structure BtKeystore (σ : Type) where
  getKey : σ → String → String
  setEncryptKeyOrRemoveKey : σ → String → String → Bool × σ

/-- What os::ParameterProvider tells the cache: the keystore interface, none
where GetBtKeystoreInterface() returns nullptr, and IsCommonCriteriaMode(). -/
structure ParameterProvider (σ : Type) where
  btKeystoreInterface : Option (BtKeystore σ)
  isCommonCriteriaMode : Bool

namespace BtKeystore

variable {σ : Type}

/-- The laws of a key store that the cache relies on: a key the keystore
took reads back, and taking or removing a key leaves every other key as it
was. -/
structure Lawful (keystore : BtKeystore σ) : Prop where
  getKey_set_self : ∀ ks key value, (keystore.setEncryptKeyOrRemoveKey ks key value).1 = true →
    keystore.getKey (keystore.setEncryptKeyOrRemoveKey ks key value).2 key = value
  getKey_set_of_ne : ∀ ks key other value, other ≠ key →
    keystore.getKey (keystore.setEncryptKeyOrRemoveKey ks key value).2 other = keystore.getKey ks other

/-- A keystore that holds its keys as a map from names to values and takes
every key; get_key of a name it does not hold is empty. -/
def keyMap : BtKeystore (String → Option String) where
  getKey keys key := (keys key).getD ""
  setEncryptKeyOrRemoveKey keys key value :=
    (true, Function.update keys key (if value.isEmpty then none else some value))

theorem keyMap_lawful : keyMap.Lawful where
  getKey_set_self keys key value _ := by
    by_cases empty : value.isEmpty
    · simp only [keyMap, empty, if_true, Function.update_self, Option.getD_none]
      exact (String.isEmpty_iff.mp empty).symm
    · simp only [keyMap, empty, Bool.false_eq_true, if_false, Function.update_self, Option.getD_some]
  getKey_set_of_ne keys key other value different := by
    simp only [keyMap, Function.update_of_ne different]

end BtKeystore

namespace ConfigCache

variable {σ : Type}

/-- The name of a device's key in the keystore: section + "-" + property. -/
def keystoreKey (sectionName property : String) : String :=
  sectionName ++ "-" ++ property

/-! ## The keystore branches -/

/-- The keystore step of SetProperty for a property of a persistent device:
in common-criteria mode a key of kEncryptKeyNameList that is not empty and
not already "encrypted" goes to the keystore, and "encrypted" is stored in
its place when the keystore takes it. -/
def encryptKey (provider : ParameterProvider σ) (ks : σ) (sectionName property value : String) : String × σ :=
  match provider.btKeystoreInterface with
  | some keystore =>
    if !value.isEmpty && provider.isCommonCriteriaMode && inEncryptKeyNameList property &&
        value != kEncryptedStr then
      let taken := keystore.setEncryptKeyOrRemoveKey ks (keystoreKey sectionName property) value
      (if taken.1 then kEncryptedStr else value, taken.2)
    else (value, ks)
  | none => (value, ks)

/-- The keystore step of GetProperty for a property of a persistent device:
a stored "encrypted" is the key the keystore holds for it. -/
def keystoreValue (provider : ParameterProvider σ) (ks : σ) (sectionName property value : String) : String :=
  match provider.btKeystoreInterface with
  | some keystore => if value = kEncryptedStr then keystore.getKey ks (keystoreKey sectionName property) else value
  | none => value

/-- GetProperty: as `getProperty`, but a value found among the persistent
devices goes through the keystore. -/
def getPropertyWithKeystore (c : ConfigCache) (provider : ParameterProvider σ) (ks : σ)
    (sectionName property : String) : Option String × ConfigCache :=
  match (c.informationSections.find? sectionName).bind (·.find? property) with
  | some value => (some value, c)
  | none =>
    match (c.persistentDevices.find? sectionName).bind (·.find? property) with
    | some value => (some (keystoreValue provider ks sectionName property value), c)
    | none =>
      ((c.temporaryDevices.find sectionName).1.bind (·.find? property),
        { c with temporaryDevices := (c.temporaryDevices.find sectionName).2 })

/-- SetProperty: as `setProperty`, but the value for a device that is
persistent once promoted goes through the keystore step first. -/
def setPropertyWithKeystore (c : ConfigCache) (provider : ParameterProvider σ) (ks : σ)
    (sectionName property value : String) : Option (ConfigCache × σ) :=
  let sectionName := trimAfterNewLine sectionName
  let property := trimAfterNewLine property
  let value := trimAfterNewLine value
  if sectionName.isEmpty || property.isEmpty then none
  else if !isDeviceSection sectionName then some (c.setInformationProperty sectionName property value, ks)
  else
    let promoted := c.promoteDevice sectionName property
    if promoted.persistentDevices.contains sectionName then
      let stored := encryptKey provider ks sectionName property value
      some (promoted.storeDeviceProperty sectionName property stored.1, stored.2)
    else some (promoted.storeDeviceProperty sectionName property value, ks)

/-- RemoveProperty: as `removeProperty`; a property removed from a persistent
device is removed from the keystore too, in common-criteria mode and when it
is a name of kEncryptKeyNameList. -/
def removePropertyWithKeystore (c : ConfigCache) (provider : ParameterProvider σ) (ks : σ)
    (sectionName property : String) : Bool × ConfigCache × σ :=
  let removed := c.removeProperty sectionName property
  match c.informationSections.find? sectionName, c.persistentDevices.find? sectionName,
      provider.btKeystoreInterface with
  | none, some _, some keystore =>
    if removed.1 && provider.isCommonCriteriaMode && inEncryptKeyNameList property then
      (removed.1, removed.2, (keystore.setEncryptKeyOrRemoveKey ks (keystoreKey sectionName property) "").2)
    else (removed.1, removed.2, ks)
  | _, _, _ => (removed.1, removed.2, ks)

@[simp]
theorem removePropertyWithKeystore_removeProperty (c : ConfigCache) (provider : ParameterProvider σ) (ks : σ)
    (sectionName property : String) :
    ((c.removePropertyWithKeystore provider ks sectionName property).1,
        (c.removePropertyWithKeystore provider ks sectionName property).2.1) =
      c.removeProperty sectionName property := by
  unfold removePropertyWithKeystore
  dsimp only
  split
  · split <;> rfl
  · rfl

/-! ## Without a keystore -/

section NoKeystore

variable {provider : ParameterProvider σ} (absent : provider.btKeystoreInterface = none)
include absent

end NoKeystore

/-- What GetProperty returns for a value stored in a section: a persistent
device's value goes through the keystore. -/
def readStored (c : ConfigCache) (provider : ParameterProvider σ) (ks : σ) (sectionName property value : String) :
    String :=
  if c.persistentDevices.contains sectionName then keystoreValue provider ks sectionName property value else value

/-- Only "encrypted" is read through the keystore. -/
@[simp]
theorem readStored_of_ne (c : ConfigCache) (provider : ParameterProvider σ) (ks : σ) {sectionName property value : String}
    (plain : value ≠ kEncryptedStr) : c.readStored provider ks sectionName property value = value := by
  unfold readStored keystoreValue
  cases provider.btKeystoreInterface with
  | none => exact ite_self value
  | some keystore => simp only [if_neg plain, ite_self]

/-- On a well-formed cache GetProperty reads the stored value of the one
section of the name, through the keystore for a persistent device. -/
theorem getPropertyWithKeystore_fst_of_wellFormed {c : ConfigCache} (wf : c.WellFormed)
    (provider : ParameterProvider σ) (ks : σ) (sectionName property : String) :
    (c.getPropertyWithKeystore provider ks sectionName property).1 =
      ((c.sectionOf sectionName).bind (·.find? property)).map (c.readStored provider ks sectionName property) := by
  unfold getPropertyWithKeystore readStored sectionOf
  rcases wf.find?_cases sectionName with
    ⟨properties, information, persistent, temporary⟩ | ⟨information, properties, persistent, temporary⟩ |
      ⟨information, persistent⟩
  · have notPersistent : c.persistentDevices.contains sectionName = false := by
      rw [ListMap.contains_eq_false_iff, ← ListMap.find?_eq_none_iff]
      exact persistent
    cases found : properties.find? property <;>
      simp [information, persistent, temporary, found, notPersistent, LruCache.find_fst]
  · have isPersistent : c.persistentDevices.contains sectionName = true :=
      ListMap.contains_iff.mpr (ListMap.mem_keys_of_find? persistent)
    cases found : properties.find? property <;>
      simp [information, persistent, temporary, found, isPersistent, LruCache.find_fst]
  · have notPersistent : c.persistentDevices.contains sectionName = false := by
      rw [ListMap.contains_eq_false_iff, ← ListMap.find?_eq_none_iff]
      exact persistent
    simp [information, persistent, notPersistent, LruCache.find_fst]

/-! ## SetProperty through the keystore -/

theorem trimAfterNewLine_trimAfterNewLine (value : String) :
    trimAfterNewLine (trimAfterNewLine value) = trimAfterNewLine value := by
  apply trimAfterNewLine_of_not_mem
  intro member
  simp only [trimAfterNewLine, String.toList_ofList] at member
  simpa using List.mem_takeWhile_imp member

theorem trimAfterNewLine_kEncryptedStr : trimAfterNewLine kEncryptedStr = kEncryptedStr :=
  trimAfterNewLine_of_not_mem (by decide)

/-- The keystore step leaves the value, or takes it into the keystore under
its name, which then reads it back, and stores "encrypted". -/
theorem encryptKey_cases (provider : ParameterProvider σ) (ks : σ) (sectionName property value : String) :
    encryptKey provider ks sectionName property value = (value, ks) ∨
      ∃ keystore ∈ provider.btKeystoreInterface, value ≠ kEncryptedStr ∧
        let taken := keystore.setEncryptKeyOrRemoveKey ks (keystoreKey sectionName property) value
        encryptKey provider ks sectionName property value = (if taken.1 then kEncryptedStr else value, taken.2) := by
  unfold encryptKey
  split
  · rename_i keystore installed
    split
    · rename_i calls
      simp only [Bool.and_eq_true, bne_iff_ne, ne_eq] at calls
      exact Or.inr ⟨keystore, installed, calls.2, rfl⟩
    · exact Or.inl rfl
  · exact Or.inl rfl

/-- SetProperty with a keystore is SetProperty of the value or of
"encrypted": without a call of the keystore it is `setProperty`, and a call
takes the trimmed value of a persistent device, which is not "encrypted",
under the device's key name. -/
theorem setProperty_of_setPropertyWithKeystore {c c' : ConfigCache} {provider : ParameterProvider σ} {ks ks' : σ}
    {sectionName property value : String}
    (set : c.setPropertyWithKeystore provider ks sectionName property value = some (c', ks')) :
    (c.setProperty sectionName property value = some c' ∧ ks' = ks) ∨
      ∃ keystore ∈ provider.btKeystoreInterface, trimAfterNewLine value ≠ kEncryptedStr ∧
        c'.persistentDevices.contains (trimAfterNewLine sectionName) = true ∧
        let taken := keystore.setEncryptKeyOrRemoveKey ks
          (keystoreKey (trimAfterNewLine sectionName) (trimAfterNewLine property)) (trimAfterNewLine value)
        ks' = taken.2 ∧
          c.setProperty sectionName property (if taken.1 then kEncryptedStr else trimAfterNewLine value) = some c' := by
  unfold setPropertyWithKeystore at set
  dsimp only at set
  split at set
  · cases set
  · rename_i named
    split at set
    · -- an information section: no keystore
      rename_i information
      cases set
      refine Or.inl ⟨?_, rfl⟩
      unfold setProperty
      dsimp only
      rw [if_neg named, if_pos information]
    · rename_i device
      split at set
      · rename_i persistent
        -- the device is persistent once promoted: the keystore step decides the value stored
        have stored : ∀ stored, c.setProperty sectionName property stored =
            some ((c.promoteDevice (trimAfterNewLine sectionName) (trimAfterNewLine property)).storeDeviceProperty
              (trimAfterNewLine sectionName) (trimAfterNewLine property) (trimAfterNewLine stored)) := by
          intro stored
          unfold setProperty
          dsimp only
          rw [if_neg named, if_neg device]
        have kept : ∀ stored, ((c.promoteDevice (trimAfterNewLine sectionName) (trimAfterNewLine property)).storeDeviceProperty
            (trimAfterNewLine sectionName) (trimAfterNewLine property) stored).persistentDevices.contains
              (trimAfterNewLine sectionName) = true := by
          intro stored
          unfold storeDeviceProperty
          rw [if_pos persistent, ListMap.contains_iff, ListMap.keys_modify, ← ListMap.contains_iff]
          exact persistent
        cases set
        rcases encryptKey_cases provider ks (trimAfterNewLine sectionName) (trimAfterNewLine property)
            (trimAfterNewLine value) with same | ⟨keystore, installed, plain, taken⟩
        · rw [same]
          exact Or.inl ⟨stored value, rfl⟩
        · rw [taken]
          refine Or.inr ⟨keystore, installed, plain, kept _, rfl, ?_⟩
          -- "encrypted" and the trimmed value are their own trimming
          have trimmed : ∀ took : Bool, trimAfterNewLine (if took then kEncryptedStr else trimAfterNewLine value) =
              if took then kEncryptedStr else trimAfterNewLine value := by
            intro took
            cases took
            · exact trimAfterNewLine_trimAfterNewLine value
            · exact trimAfterNewLine_kEncryptedStr
          rw [stored, trimmed]
      · -- a temporary device: no keystore
        cases set
        refine Or.inl ⟨?_, rfl⟩
        unfold setProperty
        dsimp only
        rw [if_neg named, if_neg device]

theorem WellFormed.setPropertyWithKeystore {c c' : ConfigCache} (wf : c.WellFormed) {provider : ParameterProvider σ}
    {ks ks' : σ} {sectionName property value : String}
    (set : c.setPropertyWithKeystore provider ks sectionName property value = some (c', ks')) : c'.WellFormed := by
  rcases setProperty_of_setPropertyWithKeystore set with ⟨plain, _⟩ | ⟨_, _, _, _, _, encrypted⟩
  · exact wf.setProperty plain
  · exact wf.setProperty encrypted

/-- SetProperty with a keystore that keeps the laws of a key store, as
GetProperty sees it: on a well-formed cache the property set reads as what
GetProperty makes of the value set (the value itself unless it is
"encrypted"); every other property of every section keeps its stored value,
but for those of at most one temporary device, which the LRU cache evicts;
and the keystore changes no key but the one of the property set. -/
theorem setPropertyWithKeystore_getProperty_spec {provider : ParameterProvider σ}
    (lawful : ∀ keystore ∈ provider.btKeystoreInterface, keystore.Lawful) {c c' : ConfigCache} {ks ks' : σ}
    (wf : c.WellFormed) {sectionName property value : String}
    (set : c.setPropertyWithKeystore provider ks sectionName property value = some (c', ks')) :
    (c'.getPropertyWithKeystore provider ks' (trimAfterNewLine sectionName) (trimAfterNewLine property)).1 =
      some (c'.readStored provider ks' (trimAfterNewLine sectionName) (trimAfterNewLine property)
        (trimAfterNewLine value)) ∧
    (∃ evicted : Option String,
      (∀ name ∈ evicted, name ≠ trimAfterNewLine sectionName ∧ name ∈ c.temporaryDevices.listMap.keys) ∧
      ∀ other otherProperty, other ≠ trimAfterNewLine sectionName ∨ otherProperty ≠ trimAfterNewLine property →
        (c'.sectionOf other).bind (·.find? otherProperty) =
          if evicted = some other then none else (c.sectionOf other).bind (·.find? otherProperty)) ∧
    ∀ keystore ∈ provider.btKeystoreInterface, ∀ key,
      key ≠ keystoreKey (trimAfterNewLine sectionName) (trimAfterNewLine property) →
        keystore.getKey ks' key = keystore.getKey ks key := by
  have wf' := wf.setPropertyWithKeystore set
  rw [getPropertyWithKeystore_fst_of_wellFormed wf']
  rcases setProperty_of_setPropertyWithKeystore set with ⟨plain, rfl⟩ | ⟨keystore, installed, notEncrypted,
    persistent, rfl, encrypted⟩
  · -- the value is stored as it is, and the keystore is not called
    obtain ⟨self, frame⟩ := find?_setProperty wf plain
    exact ⟨by rw [self, Option.map_some], frame, fun _ _ _ _ => rfl⟩
  · -- the keystore was called on the device's key
    have keystoreLawful := lawful keystore installed
    obtain ⟨self, frame⟩ := find?_setProperty wf encrypted
    refine ⟨?_, frame, ?_⟩
    · rw [self, Option.map_some, readStored_of_ne _ _ _ notEncrypted]
      split
      · -- "encrypted" is stored, and the keystore reads the value back
        rename_i took
        rw [trimAfterNewLine_kEncryptedStr]
        simp only [readStored, persistent, if_true, keystoreValue, Option.mem_def.mp installed]
        exact congrArg some (keystoreLawful.getKey_set_self ks _ _ took)
      · rw [trimAfterNewLine_trimAfterNewLine, readStored_of_ne _ _ _ notEncrypted]
    · intro other member key different
      cases Option.mem_unique member installed
      exact keystoreLawful.getKey_set_of_ne ks _ key _ different

/-- SetProperty succeeds, with a keystore or without, for names without a
newline that are not empty. -/
theorem setPropertyWithKeystore_isSome (c : ConfigCache) (provider : ParameterProvider σ) (ks : σ)
    {sectionName property : String} (sectionLine : '\n' ∉ sectionName.toList) (propertyLine : '\n' ∉ property.toList)
    (sectionNamed : sectionName ≠ "") (propertyNamed : property ≠ "") (value : String) :
    ∃ result, c.setPropertyWithKeystore provider ks sectionName property value = some result := by
  have sectionFull : sectionName.isEmpty = false := by
    rw [← Bool.not_eq_true, String.isEmpty_iff]
    exact sectionNamed
  have propertyFull : property.isEmpty = false := by
    rw [← Bool.not_eq_true, String.isEmpty_iff]
    exact propertyNamed
  unfold setPropertyWithKeystore
  simp only [trimAfterNewLine_of_not_mem sectionLine, trimAfterNewLine_of_not_mem propertyLine, sectionFull,
    propertyFull, Bool.or_false, Bool.false_eq_true, if_false]
  split
  · exact ⟨_, rfl⟩
  · split
    · exact ⟨_, rfl⟩
    · exact ⟨_, rfl⟩

/-- A device bonded on Android: its link key goes to a keystore in
common-criteria mode. -/
theorem setPropertyWithKeystore_getProperty_spec_linkKey :
    let provider : ParameterProvider (String → Option String) := ⟨some BtKeystore.keyMap, true⟩
    ∃ c c' ks', create 16 kLinkKeyProperties = some c ∧
      c.setPropertyWithKeystore provider (fun _ => none) "00:11:22:33:44:55" "LinkKey" "4f1e" = some (c', ks') ∧
      (c'.getPropertyWithKeystore provider ks' (trimAfterNewLine "00:11:22:33:44:55") (trimAfterNewLine "LinkKey")).1 =
        some (c'.readStored provider ks' (trimAfterNewLine "00:11:22:33:44:55") (trimAfterNewLine "LinkKey")
          (trimAfterNewLine "4f1e")) ∧
      (∃ evicted : Option String,
        (∀ name ∈ evicted, name ≠ trimAfterNewLine "00:11:22:33:44:55" ∧ name ∈ c.temporaryDevices.listMap.keys) ∧
        ∀ other otherProperty, other ≠ trimAfterNewLine "00:11:22:33:44:55" ∨ otherProperty ≠ trimAfterNewLine "LinkKey" →
          (c'.sectionOf other).bind (·.find? otherProperty) =
            if evicted = some other then none else (c.sectionOf other).bind (·.find? otherProperty)) ∧
      ∀ keystore ∈ provider.btKeystoreInterface, ∀ key,
        key ≠ keystoreKey (trimAfterNewLine "00:11:22:33:44:55") (trimAfterNewLine "LinkKey") →
          keystore.getKey ks' key = keystore.getKey (fun _ => none) key := by
  intro provider
  have lawful : ∀ keystore ∈ provider.btKeystoreInterface, keystore.Lawful := by
    intro keystore installed
    cases Option.mem_def.mp installed
    exact BtKeystore.keyMap_lawful
  obtain ⟨c, created⟩ : ∃ c, create 16 kLinkKeyProperties = some c := ⟨_, rfl⟩
  obtain ⟨⟨c', ks'⟩, set⟩ : ∃ result,
      c.setPropertyWithKeystore provider (fun _ => none) "00:11:22:33:44:55" "LinkKey" "4f1e" = some result :=
    setPropertyWithKeystore_isSome c provider (fun _ => none) (by decide) (by decide) (by decide) (by decide) "4f1e"
  exact ⟨c, c', ks', created, set, setPropertyWithKeystore_getProperty_spec lawful (wellFormed_create created) set⟩

/-! ## Listing through the keystore -/

/-- GetSectionNamesWithProperty on a well-formed cache names no section
twice, and GetProperty returns a value exactly when the list holds the
section with a stored value that GetProperty makes into it: the value
itself, or, for "encrypted" in a persistent device, the keystore's key. -/
theorem getSectionNamesWithProperty_keystore_spec {c : ConfigCache} (wf : c.WellFormed)
    (provider : ParameterProvider σ) (ks : σ) (property : String) :
    ((c.getSectionNamesWithProperty property).map Prod.fst).Nodup ∧
      ∀ sectionName value, (c.getPropertyWithKeystore provider ks sectionName property).1 = some value ↔
        ∃ stored, (sectionName, stored) ∈ c.getSectionNamesWithProperty property ∧
          c.readStored provider ks sectionName property stored = value := by
  refine ⟨nodup_getSectionNamesWithProperty wf property, fun sectionName value => ?_⟩
  rw [getPropertyWithKeystore_fst_of_wellFormed wf, Option.map_eq_some_iff]
  simp only [mem_getSectionNamesWithProperty wf]

/-- The listing of a bonded device's link key on Android, where the cache
stores it as "encrypted". -/
theorem getSectionNamesWithProperty_keystore_spec_bonded :
    let provider : ParameterProvider (String → Option String) := ⟨some BtKeystore.keyMap, true⟩
    ∃ c c' ks', create 16 kLinkKeyProperties = some c ∧
      c.setPropertyWithKeystore provider (fun _ => none) "00:11:22:33:44:55" "LinkKey" "4f1e" = some (c', ks') ∧
      ((c'.getSectionNamesWithProperty "LinkKey").map Prod.fst).Nodup ∧
        ∀ sectionName value, (c'.getPropertyWithKeystore provider ks' sectionName "LinkKey").1 = some value ↔
          ∃ stored, (sectionName, stored) ∈ c'.getSectionNamesWithProperty "LinkKey" ∧
            c'.readStored provider ks' sectionName "LinkKey" stored = value := by
  intro provider
  obtain ⟨c, created⟩ : ∃ c, create 16 kLinkKeyProperties = some c := ⟨_, rfl⟩
  obtain ⟨⟨c', ks'⟩, set⟩ : ∃ result,
      c.setPropertyWithKeystore provider (fun _ => none) "00:11:22:33:44:55" "LinkKey" "4f1e" = some result :=
    setPropertyWithKeystore_isSome c provider (fun _ => none) (by decide) (by decide) (by decide) (by decide) "4f1e"
  exact ⟨c, c', ks', created, set,
    getSectionNamesWithProperty_keystore_spec ((wellFormed_create created).setPropertyWithKeystore set) provider ks'
      "LinkKey"⟩

end ConfigCache

end Storage
end BluetoothStack
