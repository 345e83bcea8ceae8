import BluetoothStack.Storage.ConfigCacheRead
import BluetoothStack.Common.Strings

namespace BluetoothStack
namespace Storage

open Common

/-!
# Typed properties (storage/config_cache_helper.cc)

ConfigCacheHelper keeps booleans, numbers and byte vectors in the config
cache as text.  SetX writes the text of the value with SetProperty; GetX
reads the text with GetProperty and parses it with the parsers of
common/strings.cc.  A read after SetProperty finds the value set
(`getProperty_setProperty`), and a read never changes what a later read
finds, so every typed getter returns what its setter stored
(`configCacheHelper_round_trips`).  GetUint32 and GetInt narrow what
GetUint64 and GetInt64 read, and return a value stored with the 64-bit
setter only when it fits (`narrowing_getters_range`).
-/

namespace ConfigCacheHelper

/-- The setters: SetProperty of the text of the value. -/
def setTyped {α : Type} (text : α → String) (c : ConfigCache) (sectionName property : String) (value : α) :
    Option ConfigCache :=
  c.setProperty sectionName property (text value)

/-- The getters that parse what GetProperty reads, and nothing when the
property is absent. -/
def getTyped {α : Type} (parse : String → Option α) (c : ConfigCache) (sectionName property : String) :
    Option α × ConfigCache :=
  ((c.getProperty sectionName property).1.bind parse, (c.getProperty sectionName property).2)

/-- `SetBool`. -/
def setBool : ConfigCache → String → String → Bool → Option ConfigCache :=
  setTyped fun value => if value then "true" else "false"

/-- `GetBool`: "true" or "false", and nothing else. -/
def getBool : ConfigCache → String → String → Option Bool × ConfigCache :=
  getTyped fun valueStr => if valueStr = "true" then some true else if valueStr = "false" then some false else none

/-- `SetUint64`: std::to_string. -/
def setUint64 : ConfigCache → String → String → UInt64 → Option ConfigCache :=
  setTyped fun value => String.ofList (CNumerals.toDecimal value.toNat)

/-- `GetUint64`: Uint64FromString. -/
def getUint64 : ConfigCache → String → String → Option UInt64 × ConfigCache :=
  getTyped fun valueStr => uint64FromString valueStr.toList

/-- `SetUint32`: std::to_string. -/
def setUint32 : ConfigCache → String → String → UInt32 → Option ConfigCache :=
  setTyped fun value => String.ofList (CNumerals.toDecimal value.toNat)

/-- `IsNumberInNumericLimits<RawType>(input)` of common/numbers.h, for an
input type whose range holds the raw type's: the input lies between the
lowest and the greatest value of the raw type. -/
def isNumberInNumericLimits (lowest greatest input : Int) : Bool :=
  !(input > greatest) && !(input < lowest)

theorem isNumberInNumericLimits_iff {lowest greatest input : Int} :
    isNumberInNumericLimits lowest greatest input = true ↔ lowest ≤ input ∧ input ≤ greatest := by
  simp only [isNumberInNumericLimits, Bool.and_eq_true, Bool.not_eq_true', decide_eq_false_iff_not]
  omega

/-- `GetUint32`: GetProperty, then GetUint64, which reads the property again,
then the range of uint32_t. -/
def getUint32 (c : ConfigCache) (sectionName property : String) : Option UInt32 × ConfigCache :=
  match c.getProperty sectionName property with
  | (none, c₁) => (none, c₁)
  | (some _, c₁) =>
    match getUint64 c₁ sectionName property with
    | (none, c₂) => (none, c₂)
    | (some largeValue, c₂) =>
      (if isNumberInNumericLimits 0 (2 ^ 32 - 1) largeValue.toNat then some largeValue.toUInt32 else none, c₂)

/-- `SetInt64`: std::to_string. -/
def setInt64 : ConfigCache → String → String → Int64 → Option ConfigCache :=
  setTyped fun value => String.ofList (CNumerals.toSignedDecimal value.toInt)

/-- `GetInt64`: Int64FromString. -/
def getInt64 : ConfigCache → String → String → Option Int64 × ConfigCache :=
  getTyped fun valueStr => int64FromString valueStr.toList

/-- `SetInt`: std::to_string of an int. -/
def setInt : ConfigCache → String → String → Int32 → Option ConfigCache :=
  setTyped fun value => String.ofList (CNumerals.toSignedDecimal value.toInt)

/-- `GetInt`: GetProperty, then GetInt64, then the range of int; the value is
returned through static_cast<uint32_t>, converted back to an int. -/
def getInt (c : ConfigCache) (sectionName property : String) : Option Int32 × ConfigCache :=
  match c.getProperty sectionName property with
  | (none, c₁) => (none, c₁)
  | (some _, c₁) =>
    match getInt64 c₁ sectionName property with
    | (none, c₂) => (none, c₂)
    | (some largeValue, c₂) =>
      (if isNumberInNumericLimits (-2 ^ 31) (2 ^ 31 - 1) largeValue.toInt then
        some largeValue.toUInt64.toUInt32.toInt32 else none, c₂)

/-- `SetBin`: ToHexString. -/
def setBin : ConfigCache → String → String → List UInt8 → Option ConfigCache :=
  setTyped fun value => String.ofList (toHexString value)

/-- `GetBin`: FromHexString. -/
def getBin : ConfigCache → String → String → Option (List UInt8) × ConfigCache :=
  getTyped fun valueStr => fromHexString valueStr.toList

/-! ## Reading back what was set -/

/-- What the setters write has no newline. -/
theorem oneLine_of_all {text : List Char} {allowed : Char → Bool} (all : ∀ c ∈ text, allowed c = true)
    (notNewline : allowed '\n' = false) : '\n' ∉ (String.ofList text).toList := by
  rw [String.toList_ofList]
  intro member
  rw [all '\n' member] at notNewline
  cases notNewline

theorem oneLine_toDecimal (n : Nat) : '\n' ∉ (String.ofList (CNumerals.toDecimal n)).toList :=
  oneLine_of_all (fun _ member => CNumerals.isDigit_of_mem_toDecimal member) (by decide)

theorem oneLine_toSignedDecimal (value : Int) : '\n' ∉ (String.ofList (CNumerals.toSignedDecimal value)).toList := by
  have signOrDigit : ∀ c ∈ CNumerals.toSignedDecimal value, (c = '-' || c.isDigit) = true := by
    intro c member
    unfold CNumerals.toSignedDecimal at member
    split at member
    · rcases List.mem_cons.mp member with minus | digit
      · simp [minus]
      · simp [CNumerals.isDigit_of_mem_toDecimal digit]
    · simp [CNumerals.isDigit_of_mem_toDecimal member]
  exact oneLine_of_all signOrDigit (by decide)

/-- GetUint32 once GetProperty finds a text: the value GetUint64 reads from
it, when it fits in 32 bits. -/
theorem getUint32_of_found {c : ConfigCache} {sectionName property valueStr : String}
    (found : (c.getProperty sectionName property).1 = some valueStr) :
    (getUint32 c sectionName property).1 =
      (uint64FromString valueStr.toList).bind fun largeValue =>
        if isNumberInNumericLimits 0 (2 ^ 32 - 1) largeValue.toNat then some largeValue.toUInt32 else none := by
  -- GetUint64 reads the property again, and finds the same text
  have again := ConfigCache.getProperty_fst_getProperty c sectionName property sectionName property
  rcases first : c.getProperty sectionName property with ⟨_ | text, c₁⟩
  · rw [first] at found
    cases found
  rw [first] at found again
  cases found
  unfold getUint32
  rw [first]
  dsimp only at again ⊢
  unfold getUint64 getTyped
  rw [again, Option.bind_some]
  cases uint64FromString valueStr.toList <;> rfl

/-- GetInt once GetProperty finds a text: the value GetInt64 reads from it,
when it is an int, through static_cast<uint32_t>. -/
theorem getInt_of_found {c : ConfigCache} {sectionName property valueStr : String}
    (found : (c.getProperty sectionName property).1 = some valueStr) :
    (getInt c sectionName property).1 =
      (int64FromString valueStr.toList).bind fun largeValue =>
        if isNumberInNumericLimits (-2 ^ 31) (2 ^ 31 - 1) largeValue.toInt then
          some largeValue.toUInt64.toUInt32.toInt32 else none := by
  have again := ConfigCache.getProperty_fst_getProperty c sectionName property sectionName property
  rcases first : c.getProperty sectionName property with ⟨_ | text, c₁⟩
  · rw [first] at found
    cases found
  rw [first] at found again
  cases found
  unfold getInt
  rw [first]
  dsimp only at again ⊢
  unfold getInt64 getTyped
  rw [again, Option.bind_some]
  cases int64FromString valueStr.toList <;> rfl

/-- static_cast<uint32_t> of an int64_t, converted to an int, keeps its low
32 bits, as the narrowing to int32_t does. -/
theorem toInt32_toUInt32_toUInt64 (x : Int64) : x.toUInt64.toUInt32.toInt32 = x.toInt32 := by
  apply Int32.toBitVec_inj.mp
  rw [UInt32.toBitVec_toInt32, UInt64.toBitVec_toUInt32, Int64.toBitVec_toUInt64, Int64.toBitVec_toInt32,
    BitVec.signExtend_eq_setWidth_of_le _ (by decide)]

theorem toUInt32_toUInt64 (value : UInt32) : value.toUInt64.toUInt32 = value := by
  apply UInt32.toNat_inj.mp
  rw [UInt64.toNat_toUInt32, UInt32.toNat_toUInt64]
  exact Nat.mod_eq_of_lt value.toNat_lt

theorem uint64FromString_toDecimal (value : UInt64) :
    uint64FromString (String.ofList (CNumerals.toDecimal value.toNat)).toList = some value := by
  rw [String.toList_ofList]
  exact uint64FromString_uint64ToString value

theorem int64FromString_toSignedDecimal (value : Int64) :
    int64FromString (String.ofList (CNumerals.toSignedDecimal value.toInt)).toList = some value := by
  rw [String.toList_ofList]
  exact int64FromString_int64ToString value


section RoundTrip

variable {c : ConfigCache} (wf : c.WellFormed) {sectionName property : String}
  (sectionLine : '\n' ∉ sectionName.toList) (propertyLine : '\n' ∉ property.toList)
  (sectionNamed : sectionName ≠ "") (propertyNamed : property ≠ "")

include wf sectionLine propertyLine sectionNamed propertyNamed

/-- A set of a one-line text succeeds and is read back. -/
theorem getProperty_setTyped {α : Type} (text : α → String) (value : α) (oneLine : '\n' ∉ (text value).toList) :
    ∃ c', setTyped text c sectionName property value = some c' ∧
      (c'.getProperty sectionName property).1 = some (text value) := by
  rcases ConfigCache.setProperty_isSome c sectionLine propertyLine sectionNamed propertyNamed (text value)
    with ⟨c', set⟩
  refine ⟨c', set, ?_⟩
  have found := ConfigCache.getProperty_setProperty wf set
  rwa [ConfigCache.trimAfterNewLine_of_not_mem sectionLine, ConfigCache.trimAfterNewLine_of_not_mem propertyLine,
    ConfigCache.trimAfterNewLine_of_not_mem oneLine] at found

/-- A getter that parses back the text of its setter returns the value set. -/
theorem getTyped_setTyped {α : Type} (text : α → String) (parse : String → Option α) (value : α)
    (parseText : parse (text value) = some value) (oneLine : '\n' ∉ (text value).toList) :
    ∃ c', setTyped text c sectionName property value = some c' ∧
      (getTyped parse c' sectionName property).1 = some value := by
  rcases getProperty_setTyped wf sectionLine propertyLine sectionNamed propertyNamed text value oneLine with ⟨c', set, found⟩
  refine ⟨c', set, ?_⟩
  rw [getTyped, found, Option.bind_some, parseText]

/-- Every typed setter of ConfigCacheHelper is undone by its getter: on a
well-formed cache, for a section and a property named without a newline, the
setter succeeds and the getter returns the value set. -/
theorem configCacheHelper_round_trips :
    (∀ value, ∃ c', setBool c sectionName property value = some c' ∧
      (getBool c' sectionName property).1 = some value) ∧
    (∀ value, ∃ c', setUint64 c sectionName property value = some c' ∧
      (getUint64 c' sectionName property).1 = some value) ∧
    (∀ value, ∃ c', setUint32 c sectionName property value = some c' ∧
      (getUint32 c' sectionName property).1 = some value) ∧
    (∀ value, ∃ c', setInt64 c sectionName property value = some c' ∧
      (getInt64 c' sectionName property).1 = some value) ∧
    (∀ value, ∃ c', setInt c sectionName property value = some c' ∧
      (getInt c' sectionName property).1 = some value) ∧
    (∀ value, ∃ c', setBin c sectionName property value = some c' ∧
      (getBin c' sectionName property).1 = some value) := by
  refine ⟨fun value => ?_, fun value => ?_, fun value => ?_, fun value => ?_, fun value => ?_, fun value => ?_⟩
  · apply getTyped_setTyped wf sectionLine propertyLine sectionNamed propertyNamed
      (fun value : Bool => if value then "true" else "false")
      (fun valueStr : String => if valueStr = "true" then some true else if valueStr = "false" then some false else none)
    · cases value <;> rfl
    · cases value <;> decide
  · exact getTyped_setTyped wf sectionLine propertyLine sectionNamed propertyNamed
      (fun value : UInt64 => String.ofList (CNumerals.toDecimal value.toNat))
      (fun valueStr : String => uint64FromString valueStr.toList)
      value (uint64FromString_toDecimal value) (oneLine_toDecimal _)
  · -- GetUint32 reads the text as a uint64_t, which fits
    rcases getProperty_setTyped wf sectionLine propertyLine sectionNamed propertyNamed
      (fun value : UInt32 => String.ofList (CNumerals.toDecimal value.toNat)) value (oneLine_toDecimal _)
      with ⟨c', set, found⟩
    refine ⟨c', set, ?_⟩
    have parsed := uint64FromString_toDecimal value.toUInt64
    rw [UInt32.toNat_toUInt64] at parsed
    have small := value.toNat_lt
    have fits : isNumberInNumericLimits 0 (2 ^ 32 - 1) value.toUInt64.toNat = true := by
      rw [isNumberInNumericLimits_iff, UInt32.toNat_toUInt64]
      omega
    rw [getUint32_of_found found, parsed, Option.bind_some, if_pos fits, toUInt32_toUInt64]
  · exact getTyped_setTyped wf sectionLine propertyLine sectionNamed propertyNamed
      (fun value : Int64 => String.ofList (CNumerals.toSignedDecimal value.toInt))
      (fun valueStr : String => int64FromString valueStr.toList) value
      (int64FromString_toSignedDecimal value) (oneLine_toSignedDecimal _)
  · -- GetInt reads the text as an int64_t, which is an int
    rcases getProperty_setTyped wf sectionLine propertyLine sectionNamed propertyNamed
      (fun value : Int32 => String.ofList (CNumerals.toSignedDecimal value.toInt)) value
      (oneLine_toSignedDecimal _) with ⟨c', set, found⟩
    refine ⟨c', set, ?_⟩
    have parsed := int64FromString_toSignedDecimal value.toInt64
    rw [Int32.toInt_toInt64] at parsed
    have low := value.le_toInt
    have high := value.toInt_lt
    have fits : isNumberInNumericLimits (-2 ^ 31) (2 ^ 31 - 1) value.toInt64.toInt = true := by
      rw [isNumberInNumericLimits_iff, Int32.toInt_toInt64]
      omega
    rw [getInt_of_found found, parsed, Option.bind_some, if_pos fits, toInt32_toUInt32_toUInt64,
      Int32.toInt32_toInt64]
  · exact getTyped_setTyped wf sectionLine propertyLine sectionNamed propertyNamed
      (fun value : List UInt8 => String.ofList (toHexString value))
      (fun valueStr : String => fromHexString valueStr.toList) value
      (by rw [String.toList_ofList]; exact fromHexString_toHexString value)
      (oneLine_of_all (List.all_eq_true.mp (all_isHexDigit_toHexString value)) (by decide))

/-- GetUint32 and GetInt narrow what the 64-bit getters read: a value that
SetUint64 or SetInt64 stored is returned, as the same number, exactly when it
is a value of uint32_t or of int, and reads as nothing otherwise. -/
theorem narrowing_getters_range :
    (∀ value : UInt64, ∃ c', setUint64 c sectionName property value = some c' ∧
      (getUint32 c' sectionName property).1.map UInt32.toNat =
        if value.toNat < 2 ^ 32 then some value.toNat else none) ∧
    (∀ value : Int64, ∃ c', setInt64 c sectionName property value = some c' ∧
      (getInt c' sectionName property).1.map Int32.toInt =
        if -2 ^ 31 ≤ value.toInt ∧ value.toInt < 2 ^ 31 then some value.toInt else none) := by
  constructor
  · intro value
    rcases getProperty_setTyped wf sectionLine propertyLine sectionNamed propertyNamed
      (fun value : UInt64 => String.ofList (CNumerals.toDecimal value.toNat)) value (oneLine_toDecimal _)
      with ⟨c', set, found⟩
    refine ⟨c', set, ?_⟩
    rw [getUint32_of_found found, uint64FromString_toDecimal, Option.bind_some]
    by_cases fits : value.toNat < 2 ^ 32
    · rw [if_pos fits, if_pos (isNumberInNumericLimits_iff.mpr ⟨by omega, by omega⟩), Option.map_some,
        UInt64.toNat_toUInt32, Nat.mod_eq_of_lt fits]
    · have outside : isNumberInNumericLimits 0 (2 ^ 32 - 1) value.toNat ≠ true := by
        rw [Ne, isNumberInNumericLimits_iff]
        omega
      rw [if_neg fits, if_neg outside, Option.map_none]
  · intro value
    rcases getProperty_setTyped wf sectionLine propertyLine sectionNamed propertyNamed
      (fun value : Int64 => String.ofList (CNumerals.toSignedDecimal value.toInt)) value
      (oneLine_toSignedDecimal _) with ⟨c', set, found⟩
    refine ⟨c', set, ?_⟩
    rw [getInt_of_found found, int64FromString_toSignedDecimal, Option.bind_some, toInt32_toUInt32_toUInt64]
    by_cases fits : -2 ^ 31 ≤ value.toInt ∧ value.toInt < 2 ^ 31
    · rw [if_pos fits, if_pos (isNumberInNumericLimits_iff.mpr ⟨fits.1, by omega⟩), Option.map_some,
        Int64.toInt_toInt32, Int.bmod_eq_of_le (by omega) (by omega)]
    · have outside : isNumberInNumericLimits (-2 ^ 31) (2 ^ 31 - 1) value.toInt ≠ true := by
        rw [Ne, isNumberInNumericLimits_iff]
        omega
      rw [if_neg fits, if_neg outside, Option.map_none]

end RoundTrip

theorem configCacheHelper_round_trips_adapter :
    ∃ c, ConfigCache.create 16 kLinkKeyProperties = some c ∧
      (∀ value, ∃ c', setBool c "Adapter" "Discoverable" value = some c' ∧
        (getBool c' "Adapter" "Discoverable").1 = some value) ∧
      (∀ value, ∃ c', setUint64 c "Adapter" "Discoverable" value = some c' ∧
        (getUint64 c' "Adapter" "Discoverable").1 = some value) ∧
      (∀ value, ∃ c', setUint32 c "Adapter" "Discoverable" value = some c' ∧
        (getUint32 c' "Adapter" "Discoverable").1 = some value) ∧
      (∀ value, ∃ c', setInt64 c "Adapter" "Discoverable" value = some c' ∧
        (getInt64 c' "Adapter" "Discoverable").1 = some value) ∧
      (∀ value, ∃ c', setInt c "Adapter" "Discoverable" value = some c' ∧
        (getInt c' "Adapter" "Discoverable").1 = some value) ∧
      (∀ value, ∃ c', setBin c "Adapter" "Discoverable" value = some c' ∧
        (getBin c' "Adapter" "Discoverable").1 = some value) := by
  obtain ⟨c, created⟩ : ∃ c, ConfigCache.create 16 kLinkKeyProperties = some c := ⟨_, rfl⟩
  exact ⟨c, created, configCacheHelper_round_trips (ConfigCache.wellFormed_create created)
    (by decide) (by decide) (by decide) (by decide)⟩

theorem narrowing_getters_range_adapter :
    ∃ c, ConfigCache.create 16 kLinkKeyProperties = some c ∧
      (∀ value : UInt64, ∃ c', setUint64 c "Adapter" "DiscoveryTimeout" value = some c' ∧
        (getUint32 c' "Adapter" "DiscoveryTimeout").1.map UInt32.toNat =
          if value.toNat < 2 ^ 32 then some value.toNat else none) ∧
      (∀ value : Int64, ∃ c', setInt64 c "Adapter" "DiscoveryTimeout" value = some c' ∧
        (getInt c' "Adapter" "DiscoveryTimeout").1.map Int32.toInt =
          if -2 ^ 31 ≤ value.toInt ∧ value.toInt < 2 ^ 31 then some value.toInt else none) := by
  obtain ⟨c, created⟩ : ∃ c, ConfigCache.create 16 kLinkKeyProperties = some c := ⟨_, rfl⟩
  exact ⟨c, created, narrowing_getters_range (ConfigCache.wellFormed_create created)
    (by decide) (by decide) (by decide) (by decide)⟩

end ConfigCacheHelper

end Storage
end BluetoothStack
