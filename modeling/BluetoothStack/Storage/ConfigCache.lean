import BluetoothStack.Library.ListMap
import BluetoothStack.Types.Address

namespace BluetoothStack
namespace Storage

open Library

/-!
# The storage config cache

ConfigCache (system/gd/storage/config_cache.cc) keeps sections of string
properties in three maps: the information sections, whose names are not
device addresses, the persistent devices, which are written to disk, and the
temporary devices, an LRU cache that evicts its coldest device.  A device
section becomes persistent when a property of persistent_property_names_ is
set on it, and temporary again when such a property is removed.  A section
is a device section when hci::Address::IsValidAddress accepts its name
(`Hci.Address.isValidAddress`).

The calls here are those of a cache without a keystore, where
GetBtKeystoreInterface() returns null and values are stored as they are
given; `ConfigCacheKeystore` adds the keystore of common-criteria mode as a
parameter, and reduces to these calls without one.
-/

/-! ## Section names -/

/-- TrimAfterNewLine: the string up to its first newline. -/
def trimAfterNewLine (value : String) : String :=
  String.ofList (value.toList.takeWhile (· ≠ '\n'))

/-- ConfigCache::IsDeviceSection. -/
def isDeviceSection (sectionName : String) : Bool :=
  Hci.Address.isValidAddress sectionName

/-! ## Property names -/

/-- Device::kLinkKeyProperties, the persistent property names the storage
module gives its config cache. -/
def kLinkKeyProperties : List String :=
  ["LinkKey", "LE_KEY_PENC", "LE_KEY_PID", "LE_KEY_PCSRK", "LE_KEY_LENC", "LE_KEY_LCSRK"]

def kLePropertyNames : List String :=
  ["LE_KEY_PENC", "LE_KEY_PID", "LE_KEY_PCSRK", "LE_KEY_LENC", "LE_KEY_LCSRK"]

def kClassicPropertyNames : List String :=
  ["LinkKey", "SdpDiMaufacturer", "SdpDiModel", "SdpDiHardwareVersion", "SdpDiVendorSource"]

/-- hci::DeviceType. -/
inductive DeviceType
  | unknown
  | brEdr
  | le
  | dual
  deriving DecidableEq, Repr

/-- std::to_string of the enumerator's value. -/
def DeviceType.toConfigString : DeviceType → String
  | unknown => "0"
  | brEdr => "1"
  | le => "2"
  | dual => "3"

/-! ## The cache -/

/-- The properties of one section, in the order they were set. -/
abbrev Properties := ListMap String String

structure ConfigCache where
  persistentPropertyNames : List String
  informationSections : ListMap String Properties
  persistentDevices : ListMap String Properties
  temporaryDevices : LruCache String Properties

namespace ConfigCache

/-- The constructor: no sections, and an LRU cache of temp_device_capacity
devices, which asserts a capacity other than zero. -/
def create (tempDeviceCapacity : Nat) (persistentPropertyNames : List String) : Option ConfigCache :=
  (LruCache.create tempDeviceCapacity).map fun temporaryDevices =>
    ⟨persistentPropertyNames, .empty, .empty, temporaryDevices⟩

def isPersistentProperty (c : ConfigCache) (property : String) : Bool :=
  property ∈ c.persistentPropertyNames

def isPersistentSection (c : ConfigCache) (sectionName : String) : Bool :=
  c.persistentDevices.contains sectionName

/-- HasAtLeastOneMatchingPropertiesInSection: the section, looked up in the
information sections or else in the device maps, has one of the names. -/
def hasAtLeastOneMatchingPropertiesInSection (c : ConfigCache) (sectionName : String)
    (propertyNames : List String) : Bool :=
  let found :=
    if !isDeviceSection sectionName then c.informationSections.find? sectionName
    else (c.persistentDevices.find? sectionName).or (c.temporaryDevices.listMap.find? sectionName)
  match found with
  | some properties => properties.keys.any (· ∈ propertyNames)
  | none => false

/-! ## SetProperty -/

/-- An information section: found, or created at the back, then assigned. -/
def setInformationProperty (c : ConfigCache) (sectionName property value : String) : ConfigCache :=
  { c with
    informationSections :=
      (c.informationSections.tryEmplace .back sectionName .empty).modify sectionName
        (·.insertOrAssign .back property value) }

/-- Move paired devices or create new paired device when a link key is set:
the section's temporary properties, if any, move to the persistent devices. -/
def promoteDevice (c : ConfigCache) (sectionName property : String) : ConfigCache :=
  if !c.persistentDevices.contains sectionName && c.isPersistentProperty property then
    { c with
      temporaryDevices := (c.temporaryDevices.extract sectionName).2
      persistentDevices :=
        c.persistentDevices.tryEmplace .back sectionName ((c.temporaryDevices.extract sectionName).1.getD .empty) }
  else c

/-- The property goes into the persistent section if there is one, and into
the temporary one (found, or emplaced) otherwise. -/
def storeDeviceProperty (c : ConfigCache) (sectionName property value : String) : ConfigCache :=
  if c.persistentDevices.contains sectionName then
    { c with persistentDevices := c.persistentDevices.modify sectionName (·.insertOrAssign .back property value) }
  else
    { c with
      temporaryDevices :=
        (c.temporaryDevices.findOrEmplace sectionName .empty).modify sectionName
          (·.insertOrAssign .back property value) }

/-- SetProperty without a keystore, after the three names are trimmed after a
newline; an empty section or property name fails the assertion and aborts. -/
def setProperty (c : ConfigCache) (sectionName property value : String) : Option ConfigCache :=
  let sectionName := trimAfterNewLine sectionName
  let property := trimAfterNewLine property
  let value := trimAfterNewLine value
  if sectionName.isEmpty || property.isEmpty then none
  else if !isDeviceSection sectionName then some (c.setInformationProperty sectionName property value)
  else some ((c.promoteDevice sectionName property).storeDeviceProperty sectionName property value)

/-! ## Removal -/

/-- RemoveSection: sections are unique among all three maps, hence removing
from the first that has it is enough. -/
def removeSection (c : ConfigCache) (sectionName : String) : Bool × ConfigCache :=
  if c.informationSections.contains sectionName then
    (true, { c with informationSections := c.informationSections.erase sectionName })
  else if c.persistentDevices.contains sectionName then
    (true, { c with persistentDevices := c.persistentDevices.erase sectionName })
  else
    ((c.temporaryDevices.extract sectionName).1.isSome,
      { c with temporaryDevices := (c.temporaryDevices.extract sectionName).2 })

/-- RemoveProperty: a section left empty is removed, as empty sections are
not allowed, and a persistent device that loses a persistent property moves
to the temporary devices. -/
def removeProperty (c : ConfigCache) (sectionName property : String) : Bool × ConfigCache :=
  match c.informationSections.find? sectionName with
  | some properties =>
    let remaining := properties.erase property
    ((properties.find? property).isSome,
      { c with
        informationSections :=
          if remaining.size = 0 then c.informationSections.erase sectionName
          else c.informationSections.modify sectionName fun _ => remaining })
  | none =>
    match c.persistentDevices.find? sectionName with
    | some properties =>
      let remaining := properties.erase property
      let removed := (properties.find? property).isSome
      if remaining.size = 0 then
        (removed, { c with persistentDevices := c.persistentDevices.erase sectionName })
      else if removed && c.isPersistentProperty property then
        -- move unpaired device
        (true, { c with
          persistentDevices := c.persistentDevices.erase sectionName
          temporaryDevices := c.temporaryDevices.insertOrAssign sectionName remaining })
      else
        (removed, { c with persistentDevices := c.persistentDevices.modify sectionName fun _ => remaining })
    | none =>
      -- find() warms the section in the LRU order
      match c.temporaryDevices.find sectionName with
      | (some properties, warmed) =>
        let remaining := properties.erase property
        ((properties.find? property).isSome,
          { c with
            temporaryDevices :=
              if remaining.size = 0 then warmed.erase sectionName
              else warmed.modify sectionName fun _ => remaining })
      | (none, warmed) => (false, { c with temporaryDevices := warmed })

/-- RemoveSectionWithProperty: every section, in any map, that has the
property is erased. -/
def removeSectionWithProperty (c : ConfigCache) (property : String) : ConfigCache :=
  let keep := fun (_ : String) (properties : Properties) => !properties.contains property
  { c with
    informationSections := c.informationSections.filter keep
    persistentDevices := c.persistentDevices.filter keep
    temporaryDevices := c.temporaryDevices.filter keep }

/-- Clear: no sections; the temporary devices keep their capacity. -/
def clear (c : ConfigCache) : ConfigCache :=
  { c with informationSections := .empty, persistentDevices := .empty, temporaryDevices := c.temporaryDevices.clear }

/-! ## Device types -/

end ConfigCache

/-- The DevType a section's keys imply: DUAL with both classic and LE keys,
and BR_EDR by default. -/
def impliedDeviceType (entries : Properties) : DeviceType :=
  let isLe := entries.keys.any (· ∈ kLePropertyNames)
  let isClassic := entries.keys.any (· ∈ kClassicPropertyNames)
  if isClassic && isLe then DeviceType.dual
  else if isClassic then DeviceType.brEdr
  else if isLe then DeviceType.le
  else DeviceType.brEdr

/-- FixDeviceTypeInconsistencyInSection: a device section that is not DUAL
gets the DevType its keys imply; reports whether the section changed. -/
def fixDeviceTypeInconsistencyInSection (sectionName : String) (entries : Properties) : Bool × Properties :=
  if !Hci.Address.isValidAddress sectionName then (false, entries)
  -- we might only have one of classic/LE keys for a dual device, but it is still a dual device
  else if entries.find? "DevType" = some DeviceType.dual.toConfigString then (false, entries)
  else
    let deviceTypeStr := (impliedDeviceType entries).toConfigString
    match entries.find? "DevType" with
    | some current =>
      if deviceTypeStr ≠ current then (true, entries.modify "DevType" fun _ => deviceTypeStr)
      else (false, entries)
    | none => (true, entries.insertOrAssign .back "DevType" deviceTypeStr)

namespace ConfigCache

/-- FixDeviceTypeInconsistencies over the three maps, in place. -/
def fixDeviceTypeInconsistencies (c : ConfigCache) : Bool × ConfigCache :=
  let changed := fun (sections : ListMap String Properties) =>
    sections.entries.any fun entry => (fixDeviceTypeInconsistencyInSection entry.1 entry.2).1
  let fix := fun (sectionName : String) (entries : Properties) =>
    (fixDeviceTypeInconsistencyInSection sectionName entries).2
  let persistentDeviceChanged := changed c.informationSections || changed c.persistentDevices
  let tempDeviceChanged := changed c.temporaryDevices.listMap
  (persistentDeviceChanged || tempDeviceChanged,
    { c with
      informationSections := c.informationSections.mapValues fix
      persistentDevices := c.persistentDevices.mapValues fix
      temporaryDevices := c.temporaryDevices.mapValues fix })

/-! ## Commit -/

end ConfigCache

/-- MutationEntry::EntryType. -/
inductive EntryType
  | set
  | removeProperty
  | removeSection
  deriving DecidableEq, Repr

structure MutationEntry where
  entryType : EntryType
  sectionName : String
  property : String
  value : String
  deriving DecidableEq, Repr

namespace ConfigCache

def applyMutation (c : ConfigCache) (entry : MutationEntry) : Option ConfigCache :=
  match entry.entryType with
  | .set => c.setProperty entry.sectionName entry.property entry.value
  | .removeProperty => some (c.removeProperty entry.sectionName entry.property).2
  | .removeSection => some (c.removeSection entry.sectionName).2

/-- Commit: the mutation entries in queue order, while holding the mutex. -/
def commit : ConfigCache → List MutationEntry → Option ConfigCache
  | c, [] => some c
  | c, entry :: rest => (c.applyMutation entry).bind fun c => commit c rest

end ConfigCache

/-- The calls that change the cache, each taking it to the next. -/
inductive ConfigStep : ConfigCache → ConfigCache → Prop
  | setProperty {c c' : ConfigCache} (sectionName property value : String)
      (set : c.setProperty sectionName property value = some c') : ConfigStep c c'
  | removeProperty (c : ConfigCache) (sectionName property : String) :
      ConfigStep c (c.removeProperty sectionName property).2
  | removeSection (c : ConfigCache) (sectionName : String) : ConfigStep c (c.removeSection sectionName).2
  | removeSectionWithProperty (c : ConfigCache) (property : String) :
      ConfigStep c (c.removeSectionWithProperty property)
  | commit {c c' : ConfigCache} (entries : List MutationEntry) (committed : c.commit entries = some c') :
      ConfigStep c c'
  | fixDeviceTypeInconsistencies (c : ConfigCache) : ConfigStep c c.fixDeviceTypeInconsistencies.2
  | clear (c : ConfigCache) : ConfigStep c c.clear

end Storage

/-! ## A device section that is no address text -/

/-- A sign before one hexadecimal digit passes both end-pointer checks:
"-1" is read as 0xff, and the text that is no address text is a device
section that prints back differently. -/
theorem fromString_accepts_signed_group :
    RawAddress.fromString "-1:00:00:00:00:00" = some ⟨fun i => if i = 0 then 0xFF else 0⟩ ∧
      Hci.Address.fromString "-1:00:00:00:00:00" = some ⟨fun i => if i = 5 then 0xFF else 0⟩ ∧
      Storage.isDeviceSection "-1:00:00:00:00:00" = true ∧ ¬ IsAddressText "-1:00:00:00:00:00".toList ∧
      (RawAddress.mk fun i => if i = 0 then 0xFF else 0).toString = "ff:00:00:00:00:00" ∧
      (Hci.Address.mk fun i => if i = 5 then 0xFF else 0).toString = "ff:00:00:00:00:00" := by
  refine ⟨by decide, by decide, by decide, ?_, by decide, by decide⟩
  rintro ⟨digits, hex, same⟩
  have sign := isHexDigit_of_mem_addressText hex (c := '-') (by rw [← same]; decide)
  revert sign
  decide

end BluetoothStack
