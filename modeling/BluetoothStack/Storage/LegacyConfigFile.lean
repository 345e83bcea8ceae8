import BluetoothStack.Storage.ConfigCacheInvariant
import BluetoothStack.Common.Strings

namespace BluetoothStack
namespace Storage

open Library

/-!
# The legacy config file

ConfigCache::SerializeToLegacyFormat writes every information section and
then every persistent device as a line "[name]", a line "name = value" per
property and an empty line.  LegacyConfigFile::Read takes the text apart
with std::getline, StringTrim and StringSplit (`Common.stringSplit`), and
puts every property back with SetProperty on a new cache whose persistent
property names are Device::kLinkKeyProperties.

The text is a list of characters, a std::string holding them.  Read's outcome
is an Option (Option ConfigCache): none when an assertion aborts (an LRU cache
of capacity zero, an empty name for SetProperty), some none for each
`return std::nullopt`.

The round trip holds for the texts of the caches SetProperty reaches, but
for one kind of line that the writer writes and the reader skips: a line
whose first character is NUL is skipped like a comment, so a property whose
name starts with NUL is lost (`read_serializeToLegacyFormat_nul_name`).
-/

/-! ## StringTrim of common/strings.cc -/

/-- StringTrim: the isspace characters at both ends erased. -/
def stringTrim (str : List Char) : List Char :=
  ((str.dropWhile CNumerals.isSpace).reverse.dropWhile CNumerals.isSpace).reverse

/-- The lines std::getline(config_file, line) extracts in turn: the pieces
between newlines, and none after a newline that ends the text. -/
def getlines (chars : List Char) : List (List Char) :=
  if chars = [] then []
  else if chars.getLast? = some '\n' then (chars.splitOn '\n').dropLast
  else chars.splitOn '\n'

/-! ## Writing and reading -/

/-- ConfigCache::SerializeToLegacyFormat: the information sections, then the
persistent devices; std::endl writes a newline. -/
def serializeToLegacyFormat (c : ConfigCache) : String :=
  String.join ((c.informationSections.entries ++ c.persistentDevices.entries).map fun entry =>
    "[" ++ entry.1 ++ "]" ++ "\n" ++
      String.join (entry.2.entries.map fun property => property.1 ++ " = " ++ property.2 ++ "\n") ++
      "\n")

/-- ConfigCache::kDefaultSectionName. -/
def kDefaultSectionName : String :=
  "Global"

/-- One round of the loop of LegacyConfigFile::Read, on the cache and the
current section name. -/
def readLine (state : ConfigCache × String) (line : List Char) :
    Option (Option (ConfigCache × String)) :=
  let line := stringTrim line
  if line = [] then some (some state)
  else if line.head? = some '\x00' ∨ line.head? = some '#' then some (some state)
  else if line.head? = some '[' then
    if line.getLast? ≠ some ']' then some none
    -- Read 'test' from '[text]', hence -2
    else some (some (state.1, String.ofList ((line.drop 1).take (line.length - 2))))
  else
    match Common.stringSplit line ['='] 2 with
    | none => none
    | some [key, value] =>
      (state.1.setProperty state.2 (String.ofList (stringTrim key)) (String.ofList (stringTrim value))).map
        fun cache => some (cache, state.2)
    | some _ => some none

/-- The loop of LegacyConfigFile::Read over the lines. -/
def readLines : List (List Char) → ConfigCache × String → Option (Option (ConfigCache × String))
  | [], state => some (some state)
  | line :: lines, state =>
    match readLine state line with
    | none => none
    | some none => some none
    | some (some state) => readLines lines state

/-- LegacyConfigFile::Read on the text of the file: a cache of
temp_devices_capacity temporary devices, filled line by line from the section
"Global". -/
def read (tempDevicesCapacity : Nat) (text : String) : Option (Option ConfigCache) :=
  match ConfigCache.create tempDevicesCapacity kLinkKeyProperties with
  | none => none
  | some cache => (readLines (getlines text.toList) (cache, kDefaultSectionName)).map (·.map Prod.fst)

namespace ConfigCache

/-- A sequence of SetProperty calls, each a section, a property and a value. -/
def setProperties (c : ConfigCache) (calls : List (String × String × String)) : Option ConfigCache :=
  calls.foldlM (fun c call => c.setProperty call.1 call.2.1 call.2.2) c

@[simp]
theorem setProperties_nil (c : ConfigCache) : c.setProperties [] = some c := rfl

theorem setProperties_cons (c : ConfigCache) (call : String × String × String)
    (calls : List (String × String × String)) :
    c.setProperties (call :: calls) = (c.setProperty call.1 call.2.1 call.2.2).bind (·.setProperties calls) :=
  rfl

theorem setProperties_append (c : ConfigCache) (calls more : List (String × String × String)) :
    c.setProperties (calls ++ more) = (c.setProperties calls).bind (·.setProperties more) := by
  simp only [setProperties, List.foldlM_append]
  rfl

theorem setProperties_append_of {c c' : ConfigCache} {calls : List (String × String × String)}
    (set : c.setProperties calls = some c') (more : List (String × String × String)) :
    c.setProperties (calls ++ more) = c'.setProperties more := by
  rw [setProperties_append, set, Option.bind_some]

end ConfigCache

/-! ## Trimming and splitting the lines the serializer writes -/

/-- No isspace character at either end. -/
def Trimmed (text : List Char) : Prop :=
  (∀ first ∈ text.head?, CNumerals.isSpace first = false) ∧ ∀ last ∈ text.getLast?, CNumerals.isSpace last = false

-- The option instances by name: with all of Mathlib, a bounded quantifier over
-- Char would otherwise be decided by trying every Char.
instance (text : List Char) : Decidable (Trimmed text) :=
  @instDecidableAnd _ _ (Option.decidableForallMem text.head?) (Option.decidableForallMem text.getLast?)

theorem dropWhile_isCSpace_of_head {text : List Char} (first : ∀ c ∈ text.head?, CNumerals.isSpace c = false) :
    text.dropWhile CNumerals.isSpace = text := by
  cases text with
  | nil => rfl
  | cons c rest => exact List.dropWhile_cons_of_neg (by simpa using first)

theorem stringTrim_of_trimmed {text : List Char} (trimmed : Trimmed text) : stringTrim text = text := by
  have last : ∀ c ∈ text.reverse.head?, CNumerals.isSpace c = false := by
    simpa only [List.head?_reverse] using trimmed.2
  rw [stringTrim, dropWhile_isCSpace_of_head trimmed.1, dropWhile_isCSpace_of_head last,
    List.reverse_reverse]

/-- The key token of a property line: the space before the separator goes. -/
theorem stringTrim_append_space {key : List Char} (trimmed : Trimmed key) (nonempty : key ≠ []) :
    stringTrim (key ++ [' ']) = key := by
  have first : ∀ c ∈ (key ++ [' ']).head?, CNumerals.isSpace c = false := by
    rw [List.head?_append_of_ne_nil _ nonempty]
    exact trimmed.1
  have last : ∀ c ∈ key.reverse.head?, CNumerals.isSpace c = false := by
    simpa only [List.head?_reverse] using trimmed.2
  rw [stringTrim, dropWhile_isCSpace_of_head first, List.reverse_append, List.reverse_singleton,
    List.singleton_append, List.dropWhile_cons_of_pos (by decide), dropWhile_isCSpace_of_head last,
    List.reverse_reverse]

/-- The value token of a property line: the space after the separator goes. -/
theorem stringTrim_space_cons {value : List Char} (trimmed : Trimmed value) :
    stringTrim (' ' :: value) = value := by
  have last : ∀ c ∈ value.reverse.head?, CNumerals.isSpace c = false := by
    simpa only [List.head?_reverse] using trimmed.2
  rw [stringTrim, List.dropWhile_cons_of_pos (by decide), dropWhile_isCSpace_of_head trimmed.1,
    dropWhile_isCSpace_of_head last, List.reverse_reverse]

/-- A property line "key = value" trims to the key, the separator and a rest
that trims to the value; with an empty value the last space goes. -/
theorem stringTrim_propertyLine {key value : List Char} (keyTrimmed : Trimmed key) (nonempty : key ≠ [])
    (valueTrimmed : Trimmed value) :
    ∃ rest, stringTrim (key ++ ' ' :: '=' :: ' ' :: value) = key ++ ' ' :: '=' :: rest ∧
      stringTrim rest = value := by
  have first : ∀ c ∈ (key ++ ' ' :: '=' :: ' ' :: value).head?, CNumerals.isSpace c = false := by
    rw [List.head?_append_of_ne_nil _ nonempty]
    exact keyTrimmed.1
  rcases List.eq_nil_or_concat value with empty | ⟨front, last, split⟩
  · subst empty
    refine ⟨[], ?_, rfl⟩
    have reversed : (key ++ [' ', '=', ' ']).reverse = ' ' :: '=' :: ' ' :: key.reverse := by simp
    rw [stringTrim, dropWhile_isCSpace_of_head first, reversed, List.dropWhile_cons_of_pos (by decide),
      List.dropWhile_cons_of_neg (by decide)]
    simp
  · refine ⟨' ' :: value, stringTrim_of_trimmed ⟨first, ?_⟩, stringTrim_space_cons valueTrimmed⟩
    rw [List.concat_eq_append] at split
    have lastOfValue := valueTrimmed.2
    rw [split, List.getLast?_concat] at lastOfValue
    rw [split, show key ++ ' ' :: '=' :: ' ' :: (front ++ [last]) = (key ++ ' ' :: '=' :: ' ' :: front) ++ [last] by simp,
      List.getLast?_concat]
    exact lastOfValue

/-- StringSplit(line, "=", 2) of a line with a separator: the text before the
first one and all the text after it.  The loop cuts at the first `=` and then
stops, as max_token - 1 tokens are taken. -/
theorem stringSplit_separator {before after : List Char} (missing : '=' ∉ before) :
    Common.stringSplit (before ++ '=' :: after) ['='] 2 = some [before, after] := by
  have found := ListSearch.find_singleton_of_not_mem after missing
  rw [Common.stringSplit, dif_neg (List.cons_ne_nil _ _), Common.stringSplitLoop, if_pos (Or.inr (by decide))]
  split
  · rename_i indexOfDelim same
    rw [found, Option.some_inj] at same
    subst same
    rw [Common.stringSplitLoop, if_neg (by simp), Common.appendRest, if_pos (by simp)]
    simp [List.take_left']
  · rename_i same
    rw [found] at same
    cases same

/-! ## The lines of a serialized cache -/

/-- A property as SerializeToLegacyFormat writes it, without the newline. -/
def propertyLine (property : String × String) : List Char :=
  property.1.toList ++ ' ' :: '=' :: ' ' :: property.2.toList

/-- The lines of one section, without their newlines: the name in brackets,
the properties, and an empty line. -/
def sectionLines (entry : String × Properties) : List (List Char) :=
  ('[' :: entry.1.toList ++ [']']) :: entry.2.entries.map propertyLine ++ [[]]

theorem toList_serializeToLegacyFormat (c : ConfigCache) :
    (serializeToLegacyFormat c).toList =
      ((c.informationSections.entries ++ c.persistentDevices.entries).flatMap sectionLines).flatMap
        (· ++ ['\n']) := by
  rw [serializeToLegacyFormat, String.toList_join, List.flatMap_map, List.flatMap_assoc]
  congr 1
  funext entry
  simp [sectionLines, propertyLine, String.toList_join, List.flatMap_map]

theorem flatMap_newline_eq_intercalate (lines : List (List Char)) :
    lines.flatMap (· ++ ['\n']) = ['\n'].intercalate (lines ++ [[]]) := by
  induction lines with
  | nil => rfl
  | cons line lines ih =>
    rw [List.flatMap_cons, ih, List.cons_append, List.intercalate_cons_of_ne_nil (by simp)]

/-- getline gives back lines that were written with a newline each. -/
theorem getlines_flatMap {lines : List (List Char)} (oneLine : ∀ line ∈ lines, '\n' ∉ line) :
    getlines (lines.flatMap (· ++ ['\n'])) = lines := by
  rcases List.eq_nil_or_concat lines with empty | ⟨front, last, split⟩
  · subst empty
    rfl
  · have nonempty : lines.flatMap (· ++ ['\n']) ≠ [] := by
      simp [split]
    have newlineLast : (lines.flatMap (· ++ ['\n'])).getLast? = some '\n' := by
      rw [split, List.concat_eq_append, List.flatMap_append]
      simp
    have pieces : (lines.flatMap (· ++ ['\n'])).splitOn '\n' = lines ++ [[]] := by
      rw [flatMap_newline_eq_intercalate]
      apply List.splitOn_intercalate
      · intro line member
        rcases List.mem_append.mp member with written | blank
        · exact oneLine line written
        · simp at blank
          simp [blank]
      · simp
    rw [getlines, if_neg nonempty, if_pos newlineLast, pieces, List.dropLast_concat]

/-! ## Reading the lines back -/

theorem readLine_blank (state : ConfigCache × String) : readLine state [] = some (some state) := by
  simp [readLine, stringTrim]

/-- A section line sets the section name. -/
theorem readLine_header (state : ConfigCache × String) (name : String) :
    readLine state ('[' :: name.toList ++ [']']) = some (some (state.1, name)) := by
  have trimmed : Trimmed ('[' :: name.toList ++ [']']) := by
    constructor
    · simp [CNumerals.isSpace]
    · rw [List.getLast?_concat]
      simp [CNumerals.isSpace]
  have closing : ('[' :: (name.toList ++ [']'])).getLast? = some ']' := by
    rw [← List.cons_append, List.getLast?_concat]
  unfold readLine
  rw [stringTrim_of_trimmed trimmed]
  simp [closing]

/-- What a property line may hold for Read to give it back: the conditions
of the legacy format on a key and a value. -/
structure ReadableProperty (property : String × String) : Prop where
  keyOneLine : '\n' ∉ property.1.toList
  valueOneLine : '\n' ∉ property.2.toList
  keyTrimmed : Trimmed property.1.toList
  valueTrimmed : Trimmed property.2.toList
  keyNonempty : property.1.toList ≠ []
  noSeparator : '=' ∉ property.1.toList
  notSkipped : ∀ first ∈ property.1.toList.head?, first ≠ '\x00' ∧ first ≠ '#' ∧ first ≠ '['

/-- A property line is one SetProperty call on the current section. -/
theorem readLine_property (state : ConfigCache × String) {property : String × String}
    (readable : ReadableProperty property) :
    readLine state (propertyLine property) =
      (state.1.setProperty state.2 property.1 property.2).map fun cache => some (cache, state.2) := by
  obtain ⟨rest, trimmedLine, trimmedRest⟩ :=
    stringTrim_propertyLine readable.keyTrimmed readable.keyNonempty readable.valueTrimmed
  obtain ⟨first, others, keyChars⟩ := List.exists_cons_of_ne_nil readable.keyNonempty
  have leading := readable.notSkipped first (by simp [keyChars])
  have split : Common.stringSplit (property.1.toList ++ ' ' :: '=' :: rest) ['='] 2 =
      some [property.1.toList ++ [' '], rest] := by
    rw [show property.1.toList ++ ' ' :: '=' :: rest = (property.1.toList ++ [' ']) ++ '=' :: rest by simp]
    apply stringSplit_separator
    simpa using readable.noSeparator
  unfold readLine propertyLine
  rw [trimmedLine]
  simp only [keyChars, List.cons_append, reduceCtorEq, ↓reduceIte, List.head?_cons, Option.some.injEq,
    leading.1, leading.2.1, leading.2.2, or_self]
  rw [← List.cons_append, ← keyChars, split]
  simp only [stringTrim_append_space readable.keyTrimmed readable.keyNonempty, trimmedRest,
    String.ofList_toList]

theorem readLines_cons_of {line : List Char} {state state' : ConfigCache × String}
    (stepped : readLine state line = some (some state')) (lines : List (List Char)) :
    readLines (line :: lines) state = readLines lines state' := by
  rw [readLines, stepped]

/-- The property lines of a section are its SetProperty calls. -/
theorem readLines_properties {name : String} {properties : List (String × String)}
    (readable : ∀ property ∈ properties, ReadableProperty property) (more : List (List Char)) :
    ∀ {cache cache' : ConfigCache},
      cache.setProperties (properties.map fun property => (name, property.1, property.2)) = some cache' →
      readLines (properties.map propertyLine ++ more) (cache, name) = readLines more (cache', name) := by
  induction properties with
  | nil =>
    intro cache cache' set
    cases set
    rfl
  | cons property properties ih =>
    intro cache cache' set
    rw [List.map_cons, ConfigCache.setProperties_cons] at set
    rcases stepped : cache.setProperty name property.1 property.2 with _ | cache₁
    · rw [stepped] at set
      cases set
    · rw [stepped, Option.bind_some] at set
      have line : readLine (cache, name) (propertyLine property) = some (some (cache₁, name)) := by
        rw [readLine_property (cache, name) (readable property (by simp)), stepped]
        rfl
      rw [List.map_cons, List.cons_append, readLines_cons_of line]
      exact ih (fun other member => readable other (by simp [member])) set

/-- The calls that replaying a list of sections makes, section by section. -/
def sectionCalls (entries : List (String × Properties)) : List (String × String × String) :=
  entries.flatMap fun entry => entry.2.entries.map fun property => (entry.1, property.1, property.2)

/-- Reading the lines of sections is making their SetProperty calls. -/
theorem readLines_sections {entries : List (String × Properties)}
    (readable : ∀ entry ∈ entries, ∀ property ∈ entry.2.entries, ReadableProperty property) :
    ∀ {cache cache' : ConfigCache} (name : String), cache.setProperties (sectionCalls entries) = some cache' →
      ∃ name', readLines (entries.flatMap sectionLines) (cache, name) = some (some (cache', name')) := by
  induction entries with
  | nil =>
    intro cache cache' name set
    cases set
    exact ⟨name, rfl⟩
  | cons entry entries ih =>
    intro cache cache' name set
    rw [sectionCalls, List.flatMap_cons, ← sectionCalls, ConfigCache.setProperties_append] at set
    rcases first : cache.setProperties (entry.2.entries.map fun property => (entry.1, property.1, property.2))
      with _ | cache₁
    · rw [first] at set
      cases set
    · rw [first, Option.bind_some] at set
      obtain ⟨name', rest⟩ := ih (fun other member => readable other (by simp [member])) entry.1 set
      refine ⟨name', ?_⟩
      have lines : sectionLines entry ++ entries.flatMap sectionLines =
          ('[' :: entry.1.toList ++ [']']) :: (entry.2.entries.map propertyLine ++
            [] :: entries.flatMap sectionLines) := by
        simp [sectionLines]
      rw [List.flatMap_cons, lines, readLines_cons_of (readLine_header _ _),
        readLines_properties (readable entry (by simp)) _ first, readLines_cons_of (readLine_blank _)]
      exact rest

/-! ## Replaying the sections on a new cache -/

namespace ConfigCache

theorem setProperty_information (c : ConfigCache) {sectionName : String} {property : String × String}
    (information : isDeviceSection sectionName = false) (oneLine : '\n' ∉ sectionName.toList)
    (named : sectionName ≠ "") (readable : ReadableProperty property) :
    c.setProperty sectionName property.1 property.2 =
      some (c.setInformationProperty sectionName property.1 property.2) := by
  have namedSection : sectionName.isEmpty = false := by simpa using named
  have namedProperty : property.1.isEmpty = false := by simpa using readable.keyNonempty
  unfold setProperty
  simp only [trimAfterNewLine_of_not_mem oneLine, trimAfterNewLine_of_not_mem readable.keyOneLine,
    trimAfterNewLine_of_not_mem readable.valueOneLine, namedSection, namedProperty, information]
  rfl

theorem setProperty_device_readable (c : ConfigCache) {sectionName : String} {property : String × String}
    (device : isDeviceSection sectionName = true) (oneLine : '\n' ∉ sectionName.toList)
    (readable : ReadableProperty property) :
    c.setProperty sectionName property.1 property.2 =
      some ((c.promoteDevice sectionName property.1).storeDeviceProperty sectionName property.1 property.2) := by
  rw [setProperty_device _ _ device oneLine (trimAfterNewLine_of_not_mem readable.keyOneLine)
    (by simpa using readable.keyNonempty), trimAfterNewLine_of_not_mem readable.valueOneLine]

/-- The properties put back so far: their map followed by those still to come
has distinct keys. -/
theorem fresh_of_nodup {q : Properties} {property : String × String} {todo : List (String × String)}
    (nodup : ((q.entries ++ property :: todo).map Prod.fst).Nodup) :
    property.1 ∉ q.keys ∧ (((q.insertOrAssign .back property.1 property.2).entries ++ todo).map Prod.fst).Nodup := by
  have absent : property.1 ∉ q.keys := by
    intro present
    rw [List.map_append, List.nodup_append] at nodup
    exact nodup.2.2 _ present _ (by simp) rfl
  refine ⟨absent, ?_⟩
  rw [ListMap.entries_insertOrAssign_back absent, List.append_assoc, List.singleton_append]
  exact nodup

/-- The calls of one section, on the section's name. -/
def propertyCalls (sectionName : String) (properties : List (String × String)) : List (String × String × String) :=
  properties.map fun property => (sectionName, property.1, property.2)

theorem propertyCalls_cons (sectionName : String) (property : String × String)
    (properties : List (String × String)) :
    propertyCalls sectionName (property :: properties) =
      (sectionName, property.1, property.2) :: propertyCalls sectionName properties := rfl

theorem propertyCalls_append (sectionName : String) (properties more : List (String × String)) :
    propertyCalls sectionName (properties ++ more) =
      propertyCalls sectionName properties ++ propertyCalls sectionName more := by
  simp [propertyCalls]

section Information

variable {sectionName : String} (information : isDeviceSection sectionName = false)
  (oneLine : '\n' ∉ sectionName.toList) (named : sectionName ≠ "")

include information oneLine named

/-- The properties of an information section go back one after the other at
the end of its map, which the first one puts at the back of the sections.
The invariant is stated on the sections as try_emplace sees them, so that it
reads the same before the first call and after it. -/
theorem setProperties_information (front : List (String × Properties)) :
    ∀ (todo : List (String × String)) (c : ConfigCache) (q : Properties),
      (c.informationSections.tryEmplace .back sectionName .empty).entries = front ++ [(sectionName, q)] →
      ((q.entries ++ todo).map Prod.fst).Nodup → (∀ property ∈ todo, ReadableProperty property) →
      ∃ c' q', c.setProperties (propertyCalls sectionName todo) = some c' ∧
        (c'.informationSections.tryEmplace .back sectionName .empty).entries = front ++ [(sectionName, q')] ∧
        q'.entries = q.entries ++ todo ∧ c'.persistentDevices = c.persistentDevices ∧
        c'.temporaryDevices = c.temporaryDevices ∧ c'.persistentPropertyNames = c.persistentPropertyNames := by
  intro todo
  induction todo with
  | nil => exact fun c q placed _ _ => ⟨c, q, rfl, placed, by simp, rfl, rfl, rfl⟩
  | cons property todo ih =>
    intro c q placed nodup readable
    obtain ⟨absent, nodup'⟩ := fresh_of_nodup nodup
    have assigned : (c.setInformationProperty sectionName property.1 property.2).informationSections.entries =
        front ++ [(sectionName, q.insertOrAssign .back property.1 property.2)] :=
      ListMap.entries_modify_last placed _
    have present : sectionName ∈ (c.setInformationProperty sectionName property.1 property.2).informationSections.keys := by
      simp [ListMap.keys, assigned]
    obtain ⟨c', q', set, placed', grown, same⟩ :=
      ih (c.setInformationProperty sectionName property.1 property.2) _
        (by rw [ListMap.tryEmplace_of_mem present]; exact assigned) nodup'
        (fun other member => readable other (by simp [member]))
    refine ⟨c', q', ?_, placed', ?_, same⟩
    · rw [propertyCalls_cons, setProperties_cons,
        setProperty_information c information oneLine named (readable property (by simp))]
      exact set
    · rw [grown, ListMap.entries_insertOrAssign_back absent, List.append_assoc, List.singleton_append]

/-- An information section is put back whole at the end of the sections. -/
theorem setProperties_information_section (c : ConfigCache) {properties : Properties}
    (absent : sectionName ∉ c.informationSections.keys) (nonempty : 0 < properties.size)
    (readable : ∀ property ∈ properties.entries, ReadableProperty property) :
    ∃ c', c.setProperties (propertyCalls sectionName properties.entries) = some c' ∧
      c'.informationSections.entries = c.informationSections.entries ++ [(sectionName, properties)] ∧
      c'.persistentDevices = c.persistentDevices ∧ c'.temporaryDevices = c.temporaryDevices ∧
      c'.persistentPropertyNames = c.persistentPropertyNames := by
  obtain ⟨c', q', set, placed, grown, same⟩ :=
    setProperties_information information oneLine named c.informationSections.entries properties.entries c .empty
      (ListMap.entries_tryEmplace_back absent _) (by simpa using properties.nodup) readable
  have rebuilt : q' = properties := ListMap.ext (by simpa using grown)
  -- the first call put the section in, so try_emplace no longer adds it
  have present : sectionName ∈ c'.informationSections.keys := by
    by_contra missing
    rw [ListMap.entries_tryEmplace_back missing] at placed
    have lastEntry := (List.append_inj' placed rfl).2
    simp only [List.cons.injEq, Prod.mk.injEq, true_and, and_true] at lastEntry
    rw [← rebuilt, ← lastEntry] at nonempty
    exact absurd nonempty (by decide)
  refine ⟨c', set, ?_, same⟩
  rw [← ListMap.tryEmplace_of_mem present .empty, placed, rebuilt]

end Information

/-- What the temporary devices hold of a device section before its first
persistent property: the properties so far, or nothing before the first. -/
def TemporaryHolds (sectionName : String) (q : Properties) (temporary : LruCache String Properties) : Prop :=
  temporary.listMap.entries = [(sectionName, q)] ∨ (temporary.listMap.entries = [] ∧ q = .empty)

theorem findOrEmplace_of_holds {sectionName : String} {q : Properties} {temporary : LruCache String Properties}
    (holds : TemporaryHolds sectionName q temporary) :
    (temporary.findOrEmplace sectionName .empty).listMap.entries = [(sectionName, q)] := by
  rcases holds with single | ⟨empty, rfl⟩
  · exact LruCache.findOrEmplace_of_singleton single _
  · exact LruCache.findOrEmplace_of_nil empty _ _

theorem extract_of_holds {sectionName : String} {q : Properties} {temporary : LruCache String Properties}
    (holds : TemporaryHolds sectionName q temporary) :
    (temporary.extract sectionName).1.getD .empty = q ∧ (temporary.extract sectionName).2.listMap.entries = [] := by
  rw [LruCache.extract_fst, LruCache.listMap_extract]
  rcases holds with single | ⟨empty, rfl⟩
  · simp [ListMap.find?, ListMap.erase, ListMap.filter, single]
  · simp [ListMap.find?, ListMap.erase, ListMap.filter, empty]

section Device

variable {sectionName : String} (device : isDeviceSection sectionName = true)
  (oneLine : '\n' ∉ sectionName.toList)

include device oneLine

/-- Before the first persistent property the properties of a device section
go to the temporary devices, where the section is the only one. -/
theorem setProperties_temporary :
    ∀ (todo : List (String × String)) (c : ConfigCache) (q : Properties),
      sectionName ∉ c.persistentDevices.keys → TemporaryHolds sectionName q c.temporaryDevices →
      ((q.entries ++ todo).map Prod.fst).Nodup →
      (∀ property ∈ todo, ReadableProperty property ∧ property.1 ∉ c.persistentPropertyNames) →
      ∃ c' q', c.setProperties (propertyCalls sectionName todo) = some c' ∧
        TemporaryHolds sectionName q' c'.temporaryDevices ∧ q'.entries = q.entries ++ todo ∧
        c'.persistentDevices = c.persistentDevices ∧ c'.informationSections = c.informationSections ∧
        c'.persistentPropertyNames = c.persistentPropertyNames := by
  intro todo
  induction todo with
  | nil => exact fun c q _ holds _ _ => ⟨c, q, rfl, holds, by simp, rfl, rfl, rfl⟩
  | cons property todo ih =>
    intro c q absent holds nodup readable
    obtain ⟨fresh, nodup'⟩ := fresh_of_nodup nodup
    obtain ⟨readableProperty, notPersistent⟩ := readable property (by simp)
    have missing : c.persistentDevices.contains sectionName = false := by simpa using absent
    have unpromoted : c.promoteDevice sectionName property.1 = c := by
      simp [promoteDevice, notPersistent]
    have stored : (c.storeDeviceProperty sectionName property.1 property.2).temporaryDevices.listMap.entries =
        [(sectionName, q.insertOrAssign .back property.1 property.2)] := by
      unfold storeDeviceProperty
      rw [if_neg (by simp [missing]), LruCache.listMap_modify]
      exact ListMap.entries_modify_last
        (show _ = [] ++ [(sectionName, q)] from findOrEmplace_of_holds holds) _
    have unchanged : (c.storeDeviceProperty sectionName property.1 property.2).persistentDevices = c.persistentDevices ∧
        (c.storeDeviceProperty sectionName property.1 property.2).informationSections = c.informationSections ∧
        (c.storeDeviceProperty sectionName property.1 property.2).persistentPropertyNames =
          c.persistentPropertyNames := by
      unfold storeDeviceProperty
      rw [if_neg (by simp [missing])]
      exact ⟨rfl, rfl, rfl⟩
    obtain ⟨c', q', set, holds', grown, samePersistent, sameInformation, sameNames⟩ :=
      ih (c.storeDeviceProperty sectionName property.1 property.2) _ (by rw [unchanged.1]; exact absent)
        (Or.inl stored) nodup'
        (fun other member => by
          rw [unchanged.2.2]
          exact readable other (by simp [member]))
    refine ⟨c', q', ?_, holds', ?_, samePersistent.trans unchanged.1, sameInformation.trans unchanged.2.1,
      sameNames.trans unchanged.2.2⟩
    · rw [propertyCalls_cons, setProperties_cons, setProperty_device_readable c device oneLine readableProperty,
        unpromoted]
      exact set
    · rw [grown, ListMap.entries_insertOrAssign_back fresh, List.append_assoc, List.singleton_append]

/-- The first persistent property moves the section, with what it had, to the
back of the persistent devices. -/
theorem setProperty_promote (c : ConfigCache) {q : Properties} {property : String × String}
    (absent : sectionName ∉ c.persistentDevices.keys) (holds : TemporaryHolds sectionName q c.temporaryDevices)
    (persistent : property.1 ∈ c.persistentPropertyNames) (readable : ReadableProperty property) :
    ∃ c', c.setProperty sectionName property.1 property.2 = some c' ∧
      c'.persistentDevices.entries =
        c.persistentDevices.entries ++ [(sectionName, q.insertOrAssign .back property.1 property.2)] ∧
      c'.temporaryDevices.listMap.entries = [] ∧ c'.informationSections = c.informationSections ∧
      c'.persistentPropertyNames = c.persistentPropertyNames := by
  obtain ⟨moved, emptied⟩ := extract_of_holds holds
  have promoting : (!c.persistentDevices.contains sectionName && c.isPersistentProperty property.1) = true := by
    simp [absent, persistent]
  have promoted : (c.persistentDevices.tryEmplace .back sectionName
      ((c.temporaryDevices.extract sectionName).1.getD .empty)).contains sectionName = true :=
    ListMap.contains_iff.mpr (ListMap.mem_keys_tryEmplace.mpr (Or.inl rfl))
  refine ⟨_, setProperty_device_readable c device oneLine readable, ?_⟩
  unfold promoteDevice storeDeviceProperty
  rw [if_pos promoting]
  dsimp only
  rw [if_pos promoted]
  refine ⟨?_, emptied, rfl, rfl⟩
  apply ListMap.entries_modify_last
  rw [moved, ListMap.entries_tryEmplace_back absent]

/-- After it, the properties of a persistent device go to the end of its map. -/
theorem setProperties_persistent (front : List (String × Properties)) :
    ∀ (todo : List (String × String)) (c : ConfigCache) (q : Properties),
      c.persistentDevices.entries = front ++ [(sectionName, q)] →
      ((q.entries ++ todo).map Prod.fst).Nodup → (∀ property ∈ todo, ReadableProperty property) →
      ∃ c' q', c.setProperties (propertyCalls sectionName todo) = some c' ∧
        c'.persistentDevices.entries = front ++ [(sectionName, q')] ∧ q'.entries = q.entries ++ todo ∧
        c'.temporaryDevices = c.temporaryDevices ∧ c'.informationSections = c.informationSections ∧
        c'.persistentPropertyNames = c.persistentPropertyNames := by
  intro todo
  induction todo with
  | nil => exact fun c q placed _ _ => ⟨c, q, rfl, placed, by simp, rfl, rfl, rfl⟩
  | cons property todo ih =>
    intro c q placed nodup readable
    obtain ⟨fresh, nodup'⟩ := fresh_of_nodup nodup
    have contained : c.persistentDevices.contains sectionName = true := by
      rw [ListMap.contains_iff]
      simp [ListMap.keys, placed]
    have unpromoted : c.promoteDevice sectionName property.1 = c := by
      simp [promoteDevice, contained]
    have stored : (c.storeDeviceProperty sectionName property.1 property.2).persistentDevices.entries =
        front ++ [(sectionName, q.insertOrAssign .back property.1 property.2)] := by
      unfold storeDeviceProperty
      rw [if_pos contained]
      exact ListMap.entries_modify_last placed _
    have unchanged : (c.storeDeviceProperty sectionName property.1 property.2).temporaryDevices = c.temporaryDevices ∧
        (c.storeDeviceProperty sectionName property.1 property.2).informationSections = c.informationSections ∧
        (c.storeDeviceProperty sectionName property.1 property.2).persistentPropertyNames =
          c.persistentPropertyNames := by
      unfold storeDeviceProperty
      rw [if_pos contained]
      exact ⟨rfl, rfl, rfl⟩
    obtain ⟨c', q', set, placed', grown, sameTemporary, sameInformation, sameNames⟩ :=
      ih (c.storeDeviceProperty sectionName property.1 property.2) _ stored nodup'
        (fun other member => readable other (by simp [member]))
    refine ⟨c', q', ?_, placed', ?_, sameTemporary.trans unchanged.1, sameInformation.trans unchanged.2.1,
      sameNames.trans unchanged.2.2⟩
    · rw [propertyCalls_cons, setProperties_cons,
        setProperty_device_readable c device oneLine (readable property (by simp)), unpromoted]
      exact set
    · rw [grown, ListMap.entries_insertOrAssign_back fresh, List.append_assoc, List.singleton_append]

/-- A device section is put back whole at the end of the persistent devices:
its properties wait in the temporary devices until the first persistent one. -/
theorem setProperties_device_section (c : ConfigCache) {properties : Properties}
    (absent : sectionName ∉ c.persistentDevices.keys) (noTemporary : c.temporaryDevices.listMap.entries = [])
    (bonded : ∃ key ∈ properties.keys, key ∈ c.persistentPropertyNames)
    (readable : ∀ property ∈ properties.entries, ReadableProperty property) :
    ∃ c', c.setProperties (propertyCalls sectionName properties.entries) = some c' ∧
      c'.persistentDevices.entries = c.persistentDevices.entries ++ [(sectionName, properties)] ∧
      c'.temporaryDevices.listMap.entries = [] ∧ c'.informationSections = c.informationSections ∧
      c'.persistentPropertyNames = c.persistentPropertyNames := by
  -- cut the properties at the first persistent one
  let waiting := fun property : String × String => decide (property.1 ∉ c.persistentPropertyNames)
  have split : properties.entries.takeWhile waiting ++ properties.entries.dropWhile waiting = properties.entries :=
    List.takeWhile_append_dropWhile
  rcases after : properties.entries.dropWhile waiting with _ | ⟨first, post⟩
  · rw [after, List.append_nil] at split
    obtain ⟨key, keyed, persistent⟩ := bonded
    obtain ⟨value, member⟩ := ListMap.mem_keys.mp keyed
    rw [← split] at member
    have stillWaiting := List.mem_takeWhile_imp member
    simp [waiting, persistent] at stillWaiting
  · have firstPersistent : first.1 ∈ c.persistentPropertyNames := by
      have head := List.head?_dropWhile_not waiting properties.entries
      rw [after] at head
      simpa [waiting] using head
    rw [after] at split
    have nodup : ((properties.entries.takeWhile waiting ++ first :: post).map Prod.fst).Nodup := by
      rw [split]
      exact properties.nodup
    have readableAll : ∀ property ∈ properties.entries.takeWhile waiting ++ first :: post, ReadableProperty property :=
      fun property member => readable property (split ▸ member)
    obtain ⟨c₁, q₁, set₁, holds₁, grown₁, samePersistent₁, sameInformation₁, sameNames₁⟩ :=
      setProperties_temporary device oneLine (properties.entries.takeWhile waiting) c .empty absent
        (Or.inr ⟨noTemporary, rfl⟩) (List.Nodup.sublist (by simp) nodup)
        (fun property member => ⟨readableAll property (List.mem_append_left _ member),
          by simpa [waiting] using List.mem_takeWhile_imp member⟩)
    rw [ListMap.empty_entries, List.nil_append] at grown₁
    have nodup₁ : ((q₁.entries ++ first :: post).map Prod.fst).Nodup := by
      rw [grown₁]
      exact nodup
    obtain ⟨fresh, nodup₂⟩ := fresh_of_nodup nodup₁
    obtain ⟨c₂, set₂, placed₂, emptied₂, sameInformation₂, sameNames₂⟩ :=
      setProperty_promote device oneLine c₁ (samePersistent₁ ▸ absent) holds₁ (sameNames₁ ▸ firstPersistent)
        (readableAll first (by simp))
    obtain ⟨c₃, q₃, set₃, placed₃, grown₃, sameTemporary₃, sameInformation₃, sameNames₃⟩ :=
      setProperties_persistent device oneLine c₁.persistentDevices.entries post c₂ _ placed₂ nodup₂
        (fun property member => readableAll property (by simp [member]))
    have rebuilt : q₃ = properties := by
      apply ListMap.ext
      rw [grown₃, ListMap.entries_insertOrAssign_back fresh, grown₁, List.append_assoc, List.singleton_append]
      exact split
    refine ⟨c₃, ?_, ?_, ?_, ?_, ?_⟩
    · rw [← split, propertyCalls_append, propertyCalls_cons, setProperties_append_of set₁, setProperties_cons,
        set₂, Option.bind_some]
      exact set₃
    · rw [placed₃, rebuilt, samePersistent₁]
    · rw [sameTemporary₃]
      exact emptied₂
    · rw [sameInformation₃, sameInformation₂, sameInformation₁]
    · rw [sameNames₃, sameNames₂, sameNames₁]

end Device

theorem sectionCalls_cons (entry : String × Properties) (entries : List (String × Properties)) :
    sectionCalls (entry :: entries) = propertyCalls entry.1 entry.2.entries ++ sectionCalls entries := rfl

/-- The information sections, replayed in order, come back in order. -/
theorem setProperties_informationSections :
    ∀ (entries : List (String × Properties)) (c : ConfigCache),
      (∀ entry ∈ entries, InformationSection entry.1 entry.2 ∧ '\n' ∉ entry.1.toList ∧ entry.1 ≠ "" ∧
        ∀ property ∈ entry.2.entries, ReadableProperty property) →
      ((c.informationSections.entries ++ entries).map Prod.fst).Nodup →
      ∃ c', c.setProperties (sectionCalls entries) = some c' ∧
        c'.informationSections.entries = c.informationSections.entries ++ entries ∧
        c'.persistentDevices = c.persistentDevices ∧ c'.temporaryDevices = c.temporaryDevices ∧
        c'.persistentPropertyNames = c.persistentPropertyNames := by
  intro entries
  induction entries with
  | nil => exact fun c _ _ => ⟨c, rfl, by simp, rfl, rfl, rfl⟩
  | cons entry entries ih =>
    intro c sections nodup
    obtain ⟨⟨information, nonempty⟩, oneLine, named, readable⟩ := sections entry (by simp)
    have absent : entry.1 ∉ c.informationSections.keys := by
      intro present
      rw [List.map_append, List.nodup_append] at nodup
      exact nodup.2.2 _ present _ (by simp) rfl
    obtain ⟨c₁, set₁, placed₁, samePersistent₁, sameTemporary₁, sameNames₁⟩ :=
      setProperties_information_section information oneLine named c absent nonempty readable
    obtain ⟨c₂, set₂, placed₂, samePersistent₂, sameTemporary₂, sameNames₂⟩ :=
      ih c₁ (fun other member => sections other (by simp [member]))
        (by rw [placed₁, List.append_assoc, List.singleton_append]; exact nodup)
    refine ⟨c₂, ?_, ?_, samePersistent₂.trans samePersistent₁, sameTemporary₂.trans sameTemporary₁,
      sameNames₂.trans sameNames₁⟩
    · rw [sectionCalls_cons, setProperties_append_of set₁]
      exact set₂
    · rw [placed₂, placed₁, List.append_assoc, List.singleton_append]

/-- The persistent devices, replayed in order, come back in order and leave
no temporary device behind. -/
theorem setProperties_persistentDevices :
    ∀ (entries : List (String × Properties)) (c : ConfigCache),
      (∀ entry ∈ entries, BondedSection c.persistentPropertyNames entry.1 entry.2 ∧ '\n' ∉ entry.1.toList ∧
        ∀ property ∈ entry.2.entries, ReadableProperty property) →
      ((c.persistentDevices.entries ++ entries).map Prod.fst).Nodup → c.temporaryDevices.listMap.entries = [] →
      ∃ c', c.setProperties (sectionCalls entries) = some c' ∧
        c'.persistentDevices.entries = c.persistentDevices.entries ++ entries ∧
        c'.temporaryDevices.listMap.entries = [] ∧ c'.informationSections = c.informationSections ∧
        c'.persistentPropertyNames = c.persistentPropertyNames := by
  intro entries
  induction entries with
  | nil => exact fun c _ _ noTemporary => ⟨c, rfl, by simp, noTemporary, rfl, rfl⟩
  | cons entry entries ih =>
    intro c sections nodup noTemporary
    obtain ⟨⟨⟨device, _⟩, bonded⟩, oneLine, readable⟩ := sections entry (by simp)
    have absent : entry.1 ∉ c.persistentDevices.keys := by
      intro present
      rw [List.map_append, List.nodup_append] at nodup
      exact nodup.2.2 _ present _ (by simp) rfl
    obtain ⟨c₁, set₁, placed₁, noTemporary₁, sameInformation₁, sameNames₁⟩ :=
      setProperties_device_section device oneLine c absent noTemporary bonded readable
    obtain ⟨c₂, set₂, placed₂, noTemporary₂, sameInformation₂, sameNames₂⟩ :=
      ih c₁ (fun other member => by
          rw [sameNames₁]
          exact sections other (by simp [member]))
        (by rw [placed₁, List.append_assoc, List.singleton_append]; exact nodup) noTemporary₁
    refine ⟨c₂, ?_, ?_, noTemporary₂, sameInformation₂.trans sameInformation₁, sameNames₂.trans sameNames₁⟩
    · rw [sectionCalls_cons, setProperties_append_of set₁]
      exact set₂
    · rw [placed₂, placed₁, List.append_assoc, List.singleton_append]

theorem create_spec {tempDeviceCapacity : Nat} {names : List String} {c : ConfigCache}
    (created : create tempDeviceCapacity names = some c) :
    c.informationSections.entries = [] ∧ c.persistentDevices.entries = [] ∧
      c.temporaryDevices.listMap.entries = [] ∧ c.persistentPropertyNames = names := by
  unfold create LruCache.create at created
  split at created
  · cases created
    exact ⟨rfl, rfl, rfl, rfl⟩
  · cases created

theorem persistentPropertyNames_setProperty {c c' : ConfigCache} {sectionName property value : String}
    (set : c.setProperty sectionName property value = some c') :
    c'.persistentPropertyNames = c.persistentPropertyNames := by
  unfold setProperty at set
  dsimp only at set
  split at set
  · cases set
  · split at set
    · cases set
      rfl
    · cases set
      unfold storeDeviceProperty promoteDevice
      split_ifs <;> rfl

end ConfigCache

/-! ## The round trip -/

/-- One SetProperty call that the cache does not abort. -/
def SetPropertyStep (c c' : ConfigCache) : Prop :=
  ∃ sectionName property value, c.setProperty sectionName property value = some c'

/-- The caches SetProperty calls reach keep the invariant and the persistent
property names of the constructor. -/
theorem setPropertyRun_spec {tempDeviceCapacity : Nat} {names : List String} {initial c : ConfigCache}
    (created : ConfigCache.create tempDeviceCapacity names = some initial)
    (run : Relation.ReflTransGen SetPropertyStep initial c) :
    c.WellFormed ∧ c.persistentPropertyNames = names := by
  induction run with
  | refl => exact ⟨ConfigCache.wellFormed_create created, (ConfigCache.create_spec created).2.2.2⟩
  | tail _ step kept =>
    obtain ⟨sectionName, property, value, set⟩ := step
    exact ⟨kept.1.setProperty set, (ConfigCache.persistentPropertyNames_setProperty set).trans kept.2⟩

/-- A sequence of SetProperty calls none of which aborts is a run of steps. -/
theorem setPropertyRun_of_setProperties {c c' : ConfigCache} {calls : List (String × String × String)}
    (set : c.setProperties calls = some c') : Relation.ReflTransGen SetPropertyStep c c' := by
  induction calls generalizing c with
  | nil =>
    cases set
    exact Relation.ReflTransGen.refl
  | cons call calls ih =>
    rw [ConfigCache.setProperties_cons] at set
    rcases stepped : c.setProperty call.1 call.2.1 call.2.2 with _ | c₁
    · rw [stepped] at set
      cases set
    · rw [stepped, Option.bind_some] at set
      exact Relation.ReflTransGen.head ⟨_, _, _, stepped⟩ (ih set)

/-- A name or value as the legacy format has it: one line, with no isspace
character at either end. -/
def OneTrimmedLine (text : String) : Prop :=
  '\n' ∉ text.toList ∧ Trimmed text.toList

instance (text : String) : Decidable (OneTrimmedLine text) :=
  inferInstanceAs (Decidable (_ ∧ _))

/-- The conditions of the round trip on the names and values of a cache: one
trimmed line each, section names not empty, and property names without '='
that do not start with '#' or '['. -/
def LegacyNames (c : ConfigCache) : Prop :=
  ∀ entry ∈ c.informationSections.entries ++ c.persistentDevices.entries,
    (OneTrimmedLine entry.1 ∧ entry.1 ≠ "") ∧
      ∀ property ∈ entry.2.entries,
        (OneTrimmedLine property.1 ∧ '=' ∉ property.1.toList ∧
          ∀ first ∈ property.1.toList.head?, first ≠ '#' ∧ first ≠ '[') ∧ OneTrimmedLine property.2

instance (c : ConfigCache) : Decidable (LegacyNames c) :=
  haveI : ∀ name : String, Decidable (∀ first ∈ name.toList.head?, first ≠ '#' ∧ first ≠ '[') :=
    fun name => Option.decidableForallMem name.toList.head?
  inferInstanceAs (Decidable (∀ entry ∈ _, _))

/-- What Read adds to them: a property name starts with a character other
than NUL. -/
def ReadableNames (c : ConfigCache) : Prop :=
  ∀ entry ∈ c.informationSections.entries ++ c.persistentDevices.entries,
    ∀ property ∈ entry.2.entries, ∃ first ∈ property.1.toList.head?, first ≠ '\x00'

instance (c : ConfigCache) : Decidable (ReadableNames c) :=
  haveI : ∀ name : String, Decidable (∃ first ∈ name.toList.head?, first ≠ '\x00') :=
    fun name => Option.decidableExistsMem name.toList.head?
  inferInstanceAs (Decidable (∀ entry ∈ _, _))

theorem readableProperty_of_names {c : ConfigCache} (legacy : LegacyNames c) (readable : ReadableNames c)
    {entry : String × Properties} (member : entry ∈ c.informationSections.entries ++ c.persistentDevices.entries)
    {property : String × String} (present : property ∈ entry.2.entries) : ReadableProperty property := by
  obtain ⟨⟨⟨keyOneLine, keyTrimmed⟩, noSeparator, notComment⟩, valueOneLine, valueTrimmed⟩ :=
    (legacy entry member).2 property present
  obtain ⟨first, leading, notNul⟩ := readable entry member property present
  refine ⟨keyOneLine, valueOneLine, keyTrimmed, valueTrimmed, ?_, noSeparator, ?_⟩
  · intro empty
    rw [empty] at leading
    cases leading
  · intro other found
    rw [Option.mem_unique found leading]
    exact ⟨notNul, notComment first leading⟩

/-- No line of a serialized cache holds a newline. -/
theorem oneLine_sectionLines {c : ConfigCache} (legacy : LegacyNames c) :
    ∀ line ∈ (c.informationSections.entries ++ c.persistentDevices.entries).flatMap sectionLines, '\n' ∉ line := by
  intro line member
  obtain ⟨entry, written, inSection⟩ := List.mem_flatMap.mp member
  obtain ⟨⟨⟨nameOneLine, _⟩, _⟩, properties⟩ := legacy entry written
  simp only [sectionLines, List.mem_cons, List.mem_append, List.mem_map] at inSection
  rcases inSection with (rfl | ⟨property, present, rfl⟩) | rfl | nothing
  · simpa using nameOneLine
  · obtain ⟨⟨⟨keyOneLine, _⟩, _⟩, valueOneLine, _⟩ := properties property present
    simp [propertyLine, keyOneLine, valueOneLine]
  · simp
  · cases nothing

/-- LegacyConfigFile::Read of the text SerializeToLegacyFormat writes for a
cache that SetProperty calls reach from a cache of the link-key properties,
whose names and values are as the legacy format has them and whose property
names do not start with NUL, gives back its information sections and its
persistent devices in their order, with no temporary device, and the same
text again. -/
theorem read_serializeToLegacyFormat {capacity tempDevicesCapacity : Nat} {initial c : ConfigCache}
    (created : ConfigCache.create capacity kLinkKeyProperties = some initial)
    (run : Relation.ReflTransGen SetPropertyStep initial c) (legacy : LegacyNames c)
    (readable : ReadableNames c) (positive : 0 < tempDevicesCapacity) :
    ∃ c', read tempDevicesCapacity (serializeToLegacyFormat c) = some (some c') ∧
      c'.informationSections = c.informationSections ∧ c'.persistentDevices = c.persistentDevices ∧
      c'.temporaryDevices.listMap.entries = [] ∧ serializeToLegacyFormat c' = serializeToLegacyFormat c := by
  obtain ⟨wf, names⟩ := setPropertyRun_spec created run
  obtain ⟨fresh, createdFresh⟩ : ∃ fresh, ConfigCache.create tempDevicesCapacity kLinkKeyProperties = some fresh := by
    unfold ConfigCache.create LruCache.create
    rw [dif_pos positive]
    exact ⟨_, rfl⟩
  obtain ⟨noInformation, noPersistent, noTemporary, freshNames⟩ := ConfigCache.create_spec createdFresh
  have readableAll : ∀ entry ∈ c.informationSections.entries ++ c.persistentDevices.entries,
      ∀ property ∈ entry.2.entries, ReadableProperty property :=
    fun entry member property present => readableProperty_of_names legacy readable member present
  -- the information sections first
  obtain ⟨c₁, set₁, placed₁, samePersistent₁, sameTemporary₁, sameNames₁⟩ :=
    ConfigCache.setProperties_informationSections c.informationSections.entries fresh
      (fun entry member => ⟨wf.information entry member, (legacy entry (List.mem_append_left _ member)).1.1.1,
        (legacy entry (List.mem_append_left _ member)).1.2, readableAll entry (List.mem_append_left _ member)⟩)
      (by rw [noInformation, List.nil_append]; exact c.informationSections.nodup)
  -- then the persistent devices, each promoted by its first link key
  obtain ⟨c₂, set₂, placed₂, noTemporary₂, sameInformation₂, sameNames₂⟩ :=
    ConfigCache.setProperties_persistentDevices c.persistentDevices.entries c₁
      (fun entry member => ⟨by rw [sameNames₁, freshNames, ← names]; exact wf.persistent entry member,
        (legacy entry (List.mem_append_right _ member)).1.1.1, readableAll entry (List.mem_append_right _ member)⟩)
      (by rw [samePersistent₁, noPersistent, List.nil_append]; exact c.persistentDevices.nodup)
      (by rw [sameTemporary₁]; exact noTemporary)
  have set : fresh.setProperties (sectionCalls (c.informationSections.entries ++ c.persistentDevices.entries)) =
      some c₂ := by
    rw [sectionCalls, List.flatMap_append, ← sectionCalls, ← sectionCalls,
      ConfigCache.setProperties_append_of set₁]
    exact set₂
  obtain ⟨lastSection, readAll⟩ := readLines_sections readableAll kDefaultSectionName set
  have sameInformation : c₂.informationSections = c.informationSections := by
    apply ListMap.ext
    rw [sameInformation₂, placed₁, noInformation, List.nil_append]
  have samePersistent : c₂.persistentDevices = c.persistentDevices := by
    apply ListMap.ext
    rw [placed₂, samePersistent₁, noPersistent, List.nil_append]
  refine ⟨c₂, ?_, sameInformation, samePersistent, noTemporary₂, ?_⟩
  · rw [read, createdFresh]
    dsimp only
    rw [toList_serializeToLegacyFormat, getlines_flatMap (oneLine_sectionLines legacy), readAll]
    rfl
  · rw [serializeToLegacyFormat, serializeToLegacyFormat, sameInformation, samePersistent]

/-- An information section and a device whose name comes before its link key
come back from the file. -/
theorem read_serializeToLegacyFormat_bonded :
    let initial : ConfigCache := ⟨kLinkKeyProperties, .empty, .empty, ⟨1, .empty, Nat.one_pos, Nat.zero_le 1⟩⟩
    let calls : List (String × String × String) :=
      [("Adapter", "Name", "phone"), ("00:11:22:33:44:55", "Name", "headset"),
        ("00:11:22:33:44:55", "LinkKey", "0f")]
    let c := (initial.setProperties calls).getD initial
    initial.setProperties calls = some c ∧ LegacyNames c ∧ ReadableNames c ∧
      c.informationSections.size = 1 ∧ c.persistentDevices.size = 1 ∧
      ∃ c', read 1 (serializeToLegacyFormat c) = some (some c') ∧
        c'.informationSections = c.informationSections ∧ c'.persistentDevices = c.persistentDevices ∧
        c'.temporaryDevices.listMap.entries = [] ∧ serializeToLegacyFormat c' = serializeToLegacyFormat c := by
  intro initial calls c
  have set : initial.setProperties calls = some c := rfl
  have legacy : LegacyNames c := by decide +kernel
  have readable : ReadableNames c := by decide +kernel
  refine ⟨set, legacy, readable, by decide +kernel, by decide +kernel, ?_⟩
  exact read_serializeToLegacyFormat (show ConfigCache.create 1 kLinkKeyProperties = some initial from rfl)
    (setPropertyRun_of_setProperties set) legacy readable Nat.one_pos

/-- A property whose name is NUL meets the conditions of the format but is
read back as a comment: the section it was the only property of is lost, and
the text written again is empty. -/
theorem read_serializeToLegacyFormat_nul_name :
    let initial : ConfigCache := ⟨kLinkKeyProperties, .empty, .empty, ⟨1, .empty, Nat.one_pos, Nat.zero_le 1⟩⟩
    let c := (initial.setProperty "Info" "\x00" "on").getD initial
    ConfigCache.create 1 kLinkKeyProperties = some initial ∧ initial.setProperty "Info" "\x00" "on" = some c ∧
      LegacyNames c ∧ c.informationSections.size = 1 ∧
      (read 1 (serializeToLegacyFormat c)).map (·.map fun c' => (c'.informationSections.size,
        serializeToLegacyFormat c')) = some (some (0, "")) := by
  intro initial c
  refine ⟨rfl, rfl, ?_, ?_, ?_⟩ <;> decide +kernel

end Storage
end BluetoothStack
