import BluetoothStack.Library.ByteStream

namespace BluetoothStack
namespace LeAudio

open ByteStream

/-!
# LE Audio LTV maps

Codec configurations, capabilities and metadata travel as LTV strings: each
entry is a length byte, a type byte and `length - 1` value bytes.
`LeAudioLtvMap` keeps them in a `std::map` from type to value.  `RawPacket`
writes the entries in type order and `RawPacketSize` counts the bytes it
writes; `Parse` reads a string back, skipping zero length bytes, refusing an
entry that runs past the end, and keeping the first value of a type that
occurs twice (`std::map::emplace`).

The map is kept as its function from types to values, so that two maps are
equal exactly when they hold the same values; the buffer `Parse` reads is a
window of memory, as in `ByteStream`.  `invalidate` drops decodings of the
map cached elsewhere in the object, which the model does not keep.
-/

/-- `LeAudioLtvMap`: the value of each type present. -/
@[ext]
structure LeAudioLtvMap where
  values : UInt8 → Option (List UInt8)

namespace LeAudioLtvMap

/-- The map with no entries. -/
def empty : LeAudioLtvMap := ⟨fun _ => none⟩

/-- `std::map::emplace`: a type already present keeps its value. -/
def emplace (m : LeAudioLtvMap) (type : UInt8) (value : List UInt8) : LeAudioLtvMap :=
  match m.values type with
  | some _ => m
  | none => ⟨fun t => if t = type then some value else m.values t⟩

/-- The 256 types, in the order a `std::map` keyed by `uint8_t` visits them. -/
def ltvTypes : List UInt8 :=
  (List.range 256).map UInt8.ofNat

/-- The entries of the map, in iteration order. -/
def entries (m : LeAudioLtvMap) : List (UInt8 × List UInt8) :=
  ltvTypes.filterMap fun type => (m.values type).map (type, ·)

/-- `LeAudioLtvMap::RawPacket`: each entry as its length (the value's size
plus the type byte, stored in a `uint8_t`), its type and its value. -/
def rawPacket (m : LeAudioLtvMap) : List UInt8 :=
  m.entries.flatMap fun entry => UInt8.ofNat (entry.2.length + 1) :: entry.1 :: entry.2

/-- `LeAudioLtvMap::RawPacketSize`: two bytes of header for each entry and
its value. -/
def rawPacketSize (m : LeAudioLtvMap) : Nat :=
  (m.entries.map fun entry => 2 + entry.2.length).sum

/-- The loop of `LeAudioLtvMap::Parse` over the bytes from `p` up to `pEnd`.
The length byte is read before the room is checked, and the check covers the
type byte and the value. -/
def parseLoop (mem : Nat → UInt8) (pEnd : Nat) (m : LeAudioLtvMap) (p : Nat) : Bool × LeAudioLtvMap :=
  if going : p < pEnd then
    let ltvLen := (mem p).toNat
    -- unusual, but possible: an empty entry
    if empty : ltvLen = 0 then parseLoop mem pEnd m (p + 1)
    else if pEnd < p + 1 + ltvLen then (false, m)
    else
      let ltvType := mem (p + 1)
      let valueLen := ltvLen - 1
      parseLoop mem pEnd (m.emplace ltvType (window mem (p + 2) valueLen)) (p + 2 + valueLen)
  else (true, m)
termination_by pEnd - p
decreasing_by all_goals omega

/-- `LeAudioLtvMap::Parse` of the `len` bytes at `p` into the map: whether the
string was well formed, and the map with the entries read.  The static
`Parse` that reports success through a reference parses into an empty map. -/
def parse (m : LeAudioLtvMap) (mem : Nat → UInt8) (p : Nat) (len : UInt8) : Bool × LeAudioLtvMap :=
  if 0 < len.toNat then parseLoop mem (p + len.toNat) m p else (true, m)

/-! ## What a string is made of -/

/-- A piece of an LTV string: a lone zero byte, or an entry. -/
inductive LtvChunk
  | padding
  | entry (type : UInt8) (value : List UInt8)

/-- The bytes of a piece. -/
def LtvChunk.bytes : LtvChunk → List UInt8
  | .padding => [0]
  | .entry type value => UInt8.ofNat (value.length + 1) :: type :: value

/-- The length byte of an entry holds its size. -/
def LtvChunk.Fits : LtvChunk → Prop
  | .padding => True
  | .entry _ value => value.length + 1 < 256

/-- The type and value of an entry. -/
def LtvChunk.entryOf : LtvChunk → Option (UInt8 × List UInt8)
  | .padding => none
  | .entry type value => some (type, value)

/-- What `Parse` does with a piece. -/
def LtvChunk.addTo (m : LeAudioLtvMap) : LtvChunk → LeAudioLtvMap
  | .padding => m
  | .entry type value => m.emplace type value

/-! ## Emplacing -/

theorem emplace_values (m : LeAudioLtvMap) (type t : UInt8) (value : List UInt8) :
    (m.emplace type value).values t = (m.values t).or (if t = type then some value else none) := by
  unfold emplace
  split
  · rename_i present held
    by_cases same : t = type
    · rw [if_pos same, same, held, Option.some_or]
    · rw [if_neg same, Option.or_none]
  · rename_i absent
    by_cases same : t = type
    · simp only [if_pos same]
      rw [same, absent, Option.none_or]
    · simp only [if_neg same, Option.or_none]

/-- Pieces added in order leave each type with its first value. -/
theorem foldl_addTo_values (chunks : List LtvChunk) (m : LeAudioLtvMap) (t : UInt8) :
    (chunks.foldl LtvChunk.addTo m).values t = (m.values t).or ((chunks.filterMap LtvChunk.entryOf).lookup t) := by
  induction chunks generalizing m with
  | nil => rw [List.foldl_nil, List.filterMap_nil, List.lookup_nil, Option.or_none]
  | cons chunk chunks ih =>
    rw [List.foldl_cons, ih]
    cases chunk with
    | padding => rfl
    | entry type value =>
      rw [LtvChunk.addTo, emplace_values, Option.or_assoc]
      simp only [List.filterMap_cons, LtvChunk.entryOf, List.lookup_cons]
      by_cases same : t = type
      · simp only [same, beq_self_eq_true, if_true, Option.some_or]
      · have differ : (t == type) = false := beq_false_of_ne same
        simp only [differ, if_neg same, Option.none_or]

/-! ## Reading -/

section Loop

variable {mem : Nat → UInt8} {pEnd : Nat} {m : LeAudioLtvMap} {p : Nat}

theorem parseLoop_done (done : ¬p < pEnd) : parseLoop mem pEnd m p = (true, m) := by
  rw [parseLoop, dif_neg done]

theorem parseLoop_padding (going : p < pEnd) (zero : (mem p).toNat = 0) :
    parseLoop mem pEnd m p = parseLoop mem pEnd m (p + 1) := by
  rw [parseLoop, dif_pos going, dif_pos zero]

theorem parseLoop_short (going : p < pEnd) (nonzero : ¬(mem p).toNat = 0)
    (short : pEnd < p + 1 + (mem p).toNat) : parseLoop mem pEnd m p = (false, m) := by
  rw [parseLoop, dif_pos going, dif_neg nonzero, if_pos short]

theorem parseLoop_entry (going : p < pEnd) (nonzero : ¬(mem p).toNat = 0)
    (room : ¬pEnd < p + 1 + (mem p).toNat) :
    parseLoop mem pEnd m p =
      parseLoop mem pEnd (m.emplace (mem (p + 1)) (window mem (p + 2) ((mem p).toNat - 1)))
        (p + 2 + ((mem p).toNat - 1)) := by
  rw [parseLoop, dif_pos going, dif_neg nonzero, if_neg room]

end Loop

/-- The loop reads only the bytes from `p` up to `pEnd`. -/
theorem parseLoop_congr {mem mem' : Nat → UInt8} {pEnd : Nat} (m : LeAudioLtvMap) (p : Nat)
    (agree : ∀ i, p ≤ i → i < pEnd → mem i = mem' i) :
    parseLoop mem pEnd m p = parseLoop mem' pEnd m p := by
  induction m, p using parseLoop.induct mem pEnd with
  | case1 m p going _ empty ih =>
    have empty : (mem p).toNat = 0 := empty
    have first := agree p (Nat.le_refl p) going
    rw [parseLoop_padding going empty, parseLoop_padding going (first ▸ empty)]
    exact ih fun i after inside => agree i (by omega) inside
  | case2 m p going _ empty short =>
    have empty : ¬(mem p).toNat = 0 := empty
    have short : pEnd < p + 1 + (mem p).toNat := short
    have first := agree p (Nat.le_refl p) going
    rw [parseLoop_short going empty short, parseLoop_short going (first ▸ empty) (first ▸ short)]
  | case3 m p going _ empty room _ _ ih =>
    have empty : ¬(mem p).toNat = 0 := empty
    have room : ¬pEnd < p + 1 + (mem p).toNat := room
    have first := agree p (Nat.le_refl p) going
    have typed := agree (p + 1) (by omega) (by omega)
    have value : window mem (p + 2) ((mem p).toNat - 1) = window mem' (p + 2) ((mem p).toNat - 1) :=
      window_congr fun i after inside => agree i (by omega) (by omega)
    rw [parseLoop_entry going empty room, parseLoop_entry going (first ▸ empty) (first ▸ room),
      ← first, ← typed, ← value]
    exact ih fun i after inside => agree i (by omega) inside
  | case4 m p done =>
    rw [parseLoop_done done, parseLoop_done done]

theorem parse_eq_parseLoop (m : LeAudioLtvMap) (mem : Nat → UInt8) (p : Nat) (len : UInt8) :
    m.parse mem p len = parseLoop mem (p + len.toNat) m p := by
  unfold parse
  split
  · rfl
  · rename_i zero
    rw [Nat.eq_zero_of_not_pos zero, Nat.add_zero, parseLoop_done (Nat.lt_irrefl p)]

/-- A string made of pieces that fit is read piece by piece. -/
theorem parseLoop_of_chunks (chunks : List LtvChunk) (fits : ∀ chunk ∈ chunks, chunk.Fits)
    {mem : Nat → UInt8} {p : Nat} (placed : window mem p (chunks.flatMap LtvChunk.bytes).length =
      chunks.flatMap LtvChunk.bytes) (m : LeAudioLtvMap) :
    parseLoop mem (p + (chunks.flatMap LtvChunk.bytes).length) m p = (true, chunks.foldl LtvChunk.addTo m) := by
  induction chunks generalizing p m with
  | nil =>
    rw [List.flatMap_nil, List.length_nil, Nat.add_zero, parseLoop_done (Nat.lt_irrefl p)]
    rfl
  | cons chunk chunks ih =>
    have restFits : ∀ chunk ∈ chunks, chunk.Fits := fun other member => fits other (List.mem_cons_of_mem _ member)
    rw [List.flatMap_cons, List.length_append] at placed ⊢
    have split := window_eq_append rfl placed
    cases chunk with
    | padding =>
      -- a zero length byte is skipped
      have zero : (mem p).toNat = 0 := by
        have head := (window_eq_cons split.1).1
        rw [head]
        rfl
      rw [parseLoop_padding (by simp only [LtvChunk.bytes, List.length_singleton]; omega) zero]
      have next := ih restFits split.2 m
      rw [LtvChunk.bytes, List.length_singleton, Nat.add_assoc] at *
      exact next
    | entry type value =>
      have fitsHere : value.length + 1 < 256 := fits _ List.mem_cons_self
      rcases window_eq_cons split.1 with ⟨lengthByte, rest⟩
      rcases window_eq_cons rest with ⟨typeByte, valueBytes⟩
      have length : (mem p).toNat = value.length + 1 := by
        rw [lengthByte, UInt8.toNat_ofNat', Nat.mod_eq_of_lt fitsHere]
      have total : (LtvChunk.entry type value).bytes.length = value.length + 2 := by
        simp [LtvChunk.bytes]
      rw [total] at split
      rw [total, parseLoop_entry (by omega) (by omega) (by omega), length, Nat.add_sub_cancel, typeByte,
        valueBytes]
      have next := ih restFits split.2 (m.emplace type value)
      rw [show p + 2 + value.length = p + (value.length + 2) by omega,
        show p + (value.length + 2 + (chunks.flatMap LtvChunk.bytes).length) =
          p + (value.length + 2) + (chunks.flatMap LtvChunk.bytes).length by omega]
      exact next

/-- A string the loop accepts is made of pieces that fit, and the map is
what they add. -/
theorem chunks_of_parseLoop {mem : Nat → UInt8} {pEnd : Nat} (m : LeAudioLtvMap) (p : Nat)
    {m' : LeAudioLtvMap} (accepted : parseLoop mem pEnd m p = (true, m')) :
    ∃ chunks : List LtvChunk, (∀ chunk ∈ chunks, chunk.Fits) ∧
      window mem p (pEnd - p) = chunks.flatMap LtvChunk.bytes ∧ m' = chunks.foldl LtvChunk.addTo m := by
  induction m, p using parseLoop.induct mem pEnd with
  | case1 m p going _ empty ih =>
    have empty : (mem p).toNat = 0 := empty
    rw [parseLoop_padding going empty] at accepted
    rcases ih accepted with ⟨chunks, fits, placed, added⟩
    refine ⟨.padding :: chunks, ?_, ?_, added⟩
    · intro chunk member
      rcases List.mem_cons.mp member with rfl | later
      · trivial
      · exact fits chunk later
    · have zero : mem p = 0 := UInt8.toNat_inj.mp empty
      rw [show pEnd - p = pEnd - (p + 1) + 1 by omega, window_succ, zero, placed]
      rfl
  | case2 m p going _ empty short =>
    have empty : ¬(mem p).toNat = 0 := empty
    have short : pEnd < p + 1 + (mem p).toNat := short
    rw [parseLoop_short going empty short] at accepted
    cases accepted
  | case3 m p going _ empty room _ _ ih =>
    have empty : ¬(mem p).toNat = 0 := empty
    have room : ¬pEnd < p + 1 + (mem p).toNat := room
    rw [parseLoop_entry going empty room] at accepted
    rcases ih accepted with ⟨chunks, fits, placed, added⟩
    have lengthLt := (mem p).toNat_lt
    refine ⟨.entry (mem (p + 1)) (window mem (p + 2) ((mem p).toNat - 1)) :: chunks, ?_, ?_, added⟩
    · intro chunk member
      rcases List.mem_cons.mp member with rfl | later
      · show (window mem (p + 2) ((mem p).toNat - 1)).length + 1 < 256
        rw [window_length]
        omega
      · exact fits chunk later
    · -- the length byte, the type byte, the value and the rest of the string
      have lengthByte : UInt8.ofNat ((window mem (p + 2) ((mem p).toNat - 1)).length + 1) = mem p := by
        rw [window_length, Nat.sub_add_cancel (by omega), UInt8.ofNat_toNat]
      rw [show pEnd - p = (((mem p).toNat - 1) + (pEnd - (p + 2 + ((mem p).toNat - 1)))) + 1 + 1 by omega,
        window_succ, window_succ, window_add, placed, List.flatMap_cons, LtvChunk.bytes, lengthByte,
        show p + 1 + 1 = p + 2 by omega]
      rfl
  | case4 m p done =>
    rw [parseLoop_done done] at accepted
    cases accepted
    refine ⟨[], fun _ member => (nomatch member), ?_, rfl⟩
    rw [Nat.sub_eq_zero_of_le (Nat.le_of_not_lt done)]
    rfl

/-! ## The entries of a map -/

theorem mem_ltvTypes (t : UInt8) : t ∈ ltvTypes :=
  List.mem_map.mpr ⟨t.toNat, List.mem_range.mpr t.toNat_lt, UInt8.ofNat_toNat⟩

theorem ltvTypes_nodup : ltvTypes.Nodup := by
  apply List.Nodup.map_on _ List.nodup_range
  intro a below b below' same
  rw [List.mem_range] at below below'
  have toNat := congrArg UInt8.toNat same
  rwa [UInt8.toNat_ofNat', UInt8.toNat_ofNat', Nat.mod_eq_of_lt below, Nat.mod_eq_of_lt below'] at toNat

/-- Looking a key up among the pairs of a list of keys: nothing for a key
not in the list. -/
theorem lookup_filterMap_of_not_mem (g : UInt8 → Option (List UInt8)) {keys : List UInt8} {t : UInt8}
    (absent : t ∉ keys) : (keys.filterMap fun key => (g key).map (key, ·)).lookup t = none := by
  induction keys with
  | nil => rfl
  | cons key keys ih =>
    have differ : (t == key) = false := beq_false_of_ne fun same => absent (same ▸ List.mem_cons_self)
    have later := ih fun member => absent (List.mem_cons_of_mem key member)
    rw [List.filterMap_cons]
    cases g key with
    | none => exact later
    | some value => rw [Option.map_some, List.lookup_cons, differ]; exact later

/-- Looking a key up among the pairs of a list of distinct keys gives its value. -/
theorem lookup_filterMap_of_mem (g : UInt8 → Option (List UInt8)) {keys : List UInt8} (nodup : keys.Nodup)
    {t : UInt8} (member : t ∈ keys) : (keys.filterMap fun key => (g key).map (key, ·)).lookup t = g t := by
  induction keys with
  | nil => cases member
  | cons key keys ih =>
    rcases List.nodup_cons.mp nodup with ⟨fresh, nodupRest⟩
    rw [List.filterMap_cons]
    by_cases same : t = key
    · subst same
      cases held : g t with
      | none => exact lookup_filterMap_of_not_mem g fresh
      | some value => rw [Option.map_some, List.lookup_cons, beq_self_eq_true]
    · have later := ih nodupRest ((List.mem_cons.mp member).resolve_left same)
      have differ : (t == key) = false := beq_false_of_ne same
      cases g key with
      | none => exact later
      | some value => rw [Option.map_some, List.lookup_cons, differ]; exact later

theorem values_of_mem_entries {m : LeAudioLtvMap} {entry : UInt8 × List UInt8} (listed : entry ∈ m.entries) :
    m.values entry.1 = some entry.2 := by
  rcases List.mem_filterMap.mp listed with ⟨type, -, found⟩
  cases held : m.values type with
  | none =>
    rw [held] at found
    cases found
  | some value =>
    rw [held, Option.map_some, Option.some.injEq] at found
    subst found
    exact held

theorem entries_lookup (m : LeAudioLtvMap) (t : UInt8) : m.entries.lookup t = m.values t :=
  lookup_filterMap_of_mem m.values ltvTypes_nodup (mem_ltvTypes t)

/-- `RawPacket` writes each entry as a piece. -/
theorem rawPacket_eq_chunks (m : LeAudioLtvMap) :
    m.rawPacket = (m.entries.map fun entry => LtvChunk.entry entry.1 entry.2).flatMap LtvChunk.bytes := by
  rw [List.flatMap_map]
  rfl

theorem rawPacket_length (m : LeAudioLtvMap) : m.rawPacket.length = m.rawPacketSize := by
  rw [rawPacket, rawPacketSize, List.length_flatMap]
  congr 1
  apply List.map_congr_left
  intro entry _
  show entry.2.length + 1 + 1 = 2 + entry.2.length
  omega

/-- The pieces of the entries read back as the entries. -/
theorem filterMap_entryOf_entries (m : LeAudioLtvMap) :
    (m.entries.map fun entry => LtvChunk.entry entry.1 entry.2).filterMap LtvChunk.entryOf = m.entries := by
  rw [List.filterMap_map]
  exact List.filterMap_some

/-! ## The round trip and exact parsing -/

/-- `RawPacket` and `Parse` are inverse on maps whose values fit a length
byte, and `Parse` of a string of at most 255 bytes reads only that string: it
succeeds exactly on the strings made of lone zero bytes and entries that fit,
and then gives each type the value of its first entry. -/
theorem ltvMap_rawPacket_parse :
    (∀ m : LeAudioLtvMap, (∀ type value, m.values type = some value → value.length ≤ 254) →
        m.rawPacketSize ≤ 255 →
        m.rawPacket.length = m.rawPacketSize ∧
        ∀ (mem : Nat → UInt8) (p : Nat), window mem p m.rawPacketSize = m.rawPacket →
          empty.parse mem p (UInt8.ofNat m.rawPacketSize) = (true, m)) ∧
    (∀ (m : LeAudioLtvMap) (mem mem' : Nat → UInt8) (p : Nat) (len : UInt8),
        (∀ i, p ≤ i → i < p + len.toNat → mem i = mem' i) → m.parse mem p len = m.parse mem' p len) ∧
    (∀ (mem : Nat → UInt8) (p : Nat) (b : List UInt8), b.length ≤ 255 → window mem p b.length = b →
        ((empty.parse mem p (UInt8.ofNat b.length)).1 = true ↔
          ∃ chunks : List LtvChunk, (∀ chunk ∈ chunks, chunk.Fits) ∧ b = chunks.flatMap LtvChunk.bytes) ∧
        ∀ chunks : List LtvChunk, (∀ chunk ∈ chunks, chunk.Fits) → b = chunks.flatMap LtvChunk.bytes →
          (empty.parse mem p (UInt8.ofNat b.length)).2.values =
            fun type => (chunks.filterMap LtvChunk.entryOf).lookup type) := by
  refine ⟨fun m short small => ⟨rawPacket_length m, fun mem p placed => ?_⟩, ?_, ?_⟩
  · -- the entries are pieces that fit, so the string reads back as them
    have fits : ∀ chunk ∈ m.entries.map (fun entry => LtvChunk.entry entry.1 entry.2), chunk.Fits := by
      intro chunk member
      rcases List.mem_map.mp member with ⟨entry, listed, rfl⟩
      have bounded := short entry.1 entry.2 (values_of_mem_entries listed)
      show entry.2.length + 1 < 256
      omega
    have length : (UInt8.ofNat m.rawPacketSize).toNat = m.rawPacketSize := by
      rw [UInt8.toNat_ofNat']
      exact Nat.mod_eq_of_lt (by omega)
    rw [← rawPacket_length, rawPacket_eq_chunks] at placed
    rw [parse_eq_parseLoop, length, ← rawPacket_length, rawPacket_eq_chunks,
      parseLoop_of_chunks _ fits placed empty]
    congr 1
    ext t
    rw [foldl_addTo_values, filterMap_entryOf_entries, entries_lookup]
    rfl
  · intro m mem mem' p len agree
    rw [parse_eq_parseLoop, parse_eq_parseLoop]
    exact parseLoop_congr m p agree
  · intro mem p b short placed
    have length : (UInt8.ofNat b.length).toNat = b.length := by
      rw [UInt8.toNat_ofNat']
      exact Nat.mod_eq_of_lt (by omega)
    rw [parse_eq_parseLoop, length]
    refine ⟨⟨fun accepted => ?_, fun ⟨chunks, fits, made⟩ => ?_⟩, fun chunks fits made => ?_⟩
    · rcases parsed : parseLoop mem (p + b.length) empty p with ⟨ok, m'⟩
      rw [parsed] at accepted
      cases accepted
      rcases chunks_of_parseLoop empty p parsed with ⟨chunks, fits, made, -⟩
      rw [Nat.add_sub_cancel_left, placed] at made
      exact ⟨chunks, fits, made⟩
    · subst made
      rw [parseLoop_of_chunks chunks fits placed empty]
    · subst made
      rw [parseLoop_of_chunks chunks fits placed empty]
      funext type
      rw [foldl_addTo_values]
      rfl

/-! ## Intersection -/

/-- `LeAudioLtvMap::Find`: the value of a type, if present. -/
def find (m : LeAudioLtvMap) (type : UInt8) : Option (List UInt8) :=
  m.values type

/-- `LeAudioLtvMap::Add`: `std::map::insert_or_assign`. -/
def add (m : LeAudioLtvMap) (type : UInt8) (value : List UInt8) : LeAudioLtvMap :=
  ⟨fun t => if t = type then some value else m.values t⟩

/-- One entry of the loop of `GetIntersection`.  `entry->size()` on the
empty optional that `Find` returns for a type the other map lacks is
undefined; the model gives `none` there. -/
def intersectionStep (other : LeAudioLtvMap) (result : LeAudioLtvMap) (entry : UInt8 × List UInt8) :
    Option LeAudioLtvMap :=
  match other.find entry.1 with
  | none => none
  | some found =>
    if found.length ≠ entry.2.length then some result
    else if found = entry.2 then some (result.add entry.1 entry.2)
    else some result

/-- `LeAudioLtvMap::GetIntersection`: the entries of this map, in type order,
kept when the other map has the same bytes for the type. -/
def getIntersection (m other : LeAudioLtvMap) : Option LeAudioLtvMap :=
  m.entries.foldlM (intersectionStep other) empty

/-- What the intersection is meant to be: the entries on which both maps
agree byte for byte. -/
def common (m other : LeAudioLtvMap) : LeAudioLtvMap :=
  ⟨fun t => match m.values t, other.values t with
    | some v, some w => if v = w then some v else none
    | _, _ => none⟩

/-- The step when the other map has the type: the entry is added exactly when
the other map holds the same bytes. -/
theorem intersectionStep_of_found {other : LeAudioLtvMap} (result : LeAudioLtvMap) {entry : UInt8 × List UInt8}
    {found : List UInt8} (present : other.values entry.1 = some found) :
    intersectionStep other result entry =
      some (if other.values entry.1 = some entry.2 then result.add entry.1 entry.2 else result) := by
  simp only [intersectionStep, find, present, Option.some.injEq]
  by_cases same : found = entry.2
  · simp [same]
  · have differ : ¬(found.length = entry.2.length ∧ found = entry.2) := fun both => same both.2
    split_ifs <;> simp_all

/-- A missing type ends the loop in the undefined dereference, whatever was
kept before it. -/
theorem foldlM_intersectionStep_missing (other : LeAudioLtvMap) :
    ∀ (entries : List (UInt8 × List UInt8)) (result : LeAudioLtvMap),
      (∃ entry ∈ entries, other.values entry.1 = none) → entries.foldlM (intersectionStep other) result = none
  | [], _, ⟨_, member, _⟩ => by cases member
  | entry :: entries, result, ⟨missing, member, absent⟩ => by
    rw [List.foldlM_cons]
    rcases List.mem_cons.mp member with rfl | later
    · simp [intersectionStep, find, absent]
    · cases stepped : intersectionStep other result entry with
      | none => rfl
      | some result' => exact foldlM_intersectionStep_missing other entries result' ⟨missing, later, absent⟩

/-- Without a missing type the loop is the pure fold that adds the agreeing
entries. -/
theorem foldlM_intersectionStep_found (other : LeAudioLtvMap) :
    ∀ (entries : List (UInt8 × List UInt8)) (result : LeAudioLtvMap),
      (∀ entry ∈ entries, (other.values entry.1).isSome) →
        entries.foldlM (intersectionStep other) result =
          some (entries.foldl (fun result entry =>
            if other.values entry.1 = some entry.2 then result.add entry.1 entry.2 else result) result)
  | [], _, _ => rfl
  | entry :: entries, result, present => by
    rcases Option.isSome_iff_exists.mp (present entry List.mem_cons_self) with ⟨found, held⟩
    rw [List.foldlM_cons, intersectionStep_of_found result held, List.foldl_cons]
    exact foldlM_intersectionStep_found other entries _ fun e member => present e (List.mem_cons_of_mem _ member)

/-- The fold over entries with distinct types sets each type from its own entry. -/
theorem foldl_add_values (other : LeAudioLtvMap) (t : UInt8) :
    ∀ (entries : List (UInt8 × List UInt8)) (result : LeAudioLtvMap), (entries.map Prod.fst).Nodup →
      (entries.foldl (fun result entry =>
          if other.values entry.1 = some entry.2 then result.add entry.1 entry.2 else result) result).values t =
        match entries.lookup t with
        | some v => if other.values t = some v then some v else result.values t
        | none => result.values t
  | [], _, _ => rfl
  | (type, value) :: entries, result, nodup => by
    rcases List.nodup_cons.mp nodup with ⟨fresh, nodupRest⟩
    rw [List.foldl_cons, foldl_add_values other t entries _ nodupRest, List.lookup_cons]
    by_cases same : t = type
    · subst same
      have absent : entries.lookup t = none := by
        rw [List.lookup_eq_none_iff]
        intro entry member
        have other : entry.1 ≠ t := fun same => fresh (List.mem_map.mpr ⟨entry, member, same⟩)
        rw [bne_iff_ne]
        exact fun same => other same.symm
      simp only [beq_self_eq_true, absent]
      split_ifs <;> simp_all [add]
    · have differ : (t == type) = false := beq_false_of_ne same
      simp only [differ]
      cases entries.lookup t <;> split_ifs <;> simp_all [add]

theorem mem_of_lookup_eq_some :
    ∀ {entries : List (UInt8 × List UInt8)} {t : UInt8} {value : List UInt8},
      entries.lookup t = some value → (t, value) ∈ entries
  | [], _, _, found => by cases found
  | (type, held) :: entries, t, value, found => by
    rw [List.lookup_cons] at found
    by_cases same : t = type
    · subst same
      simp only [beq_self_eq_true, Option.some.injEq] at found
      rw [found]
      exact List.mem_cons_self
    · simp only [beq_false_of_ne same] at found
      exact List.mem_cons_of_mem _ (mem_of_lookup_eq_some found)

/-- The types of the entries, in iteration order, are a sublist of the types. -/
theorem map_fst_filterMap_sublist (g : UInt8 → Option (List UInt8)) :
    ∀ keys : List UInt8, ((keys.filterMap fun key => (g key).map (key, ·)).map Prod.fst).Sublist keys
  | [] => List.Sublist.slnil
  | key :: keys => by
    rw [List.filterMap_cons]
    cases g key with
    | none => exact (map_fst_filterMap_sublist g keys).cons key
    | some value => exact (map_fst_filterMap_sublist g keys).cons_cons key

theorem entries_nodup (m : LeAudioLtvMap) : (m.entries.map Prod.fst).Nodup :=
  ltvTypes_nodup.sublist (map_fst_filterMap_sublist m.values ltvTypes)

/-- When the other map has every type of this one, the intersection is defined
and is the common part. -/
theorem getIntersection_of_subset {m other : LeAudioLtvMap}
    (covered : ∀ t, (m.values t).isSome → (other.values t).isSome) :
    m.getIntersection other = some (common m other) := by
  have present : ∀ entry ∈ m.entries, (other.values entry.1).isSome := fun entry listed =>
    covered entry.1 (by rw [values_of_mem_entries listed]; rfl)
  rw [getIntersection, foldlM_intersectionStep_found other m.entries empty present, Option.some.injEq]
  ext : 1
  funext t
  rw [foldl_add_values other t m.entries empty (entries_nodup m), entries_lookup]
  simp only [common, empty]
  cases m.values t <;> cases other.values t <;> simp [eq_comm]

theorem common_comm (m other : LeAudioLtvMap) : common m other = common other m := by
  ext : 1
  funext t
  simp only [common]
  cases m.values t with
  | none => cases other.values t <;> rfl
  | some v =>
    cases other.values t with
    | none => rfl
    | some w =>
      by_cases same : v = w
      · rw [same]
      · simp [same, Ne.symm same]

theorem common_self (m : LeAudioLtvMap) : common m m = m := by
  ext : 1
  funext t
  simp only [common]
  cases m.values t <;> simp

/-- `GetIntersection` is undefined as soon as this map has a type the other
lacks; it is the common part, and so commutative and idempotent, only when
each map has the types of the other. -/
theorem getIntersection_missing_type :
    (∀ m other : LeAudioLtvMap, (∃ t, (m.values t).isSome ∧ other.values t = none) →
      m.getIntersection other = none) ∧
    (∀ m other : LeAudioLtvMap, (∀ t, (m.values t).isSome ↔ (other.values t).isSome) →
      m.getIntersection other = some (common m other) ∧ m.getIntersection other = other.getIntersection m) ∧
    ∀ m : LeAudioLtvMap, m.getIntersection m = some m := by
  refine ⟨fun m other ⟨t, held, absent⟩ => ?_, fun m other same => ?_, fun m => ?_⟩
  · rcases Option.isSome_iff_exists.mp held with ⟨value, present⟩
    have listed : (t, value) ∈ m.entries := by
      rw [← entries_lookup] at present
      exact mem_of_lookup_eq_some present
    exact foldlM_intersectionStep_missing other m.entries empty ⟨(t, value), listed, absent⟩
  · rw [getIntersection_of_subset fun t => (same t).mp, getIntersection_of_subset fun t => (same t).mpr,
      common_comm]
    exact ⟨rfl, rfl⟩
  · rw [getIntersection_of_subset fun _ held => held, common_self]

/-- The maps of the intersection test: type 3 of the first is not in the
second. -/
theorem getIntersection_missing_type_test :
    let one := ((empty.add 1 [0xFF, 0x7F]).add 3 [1, 2, 3, 4, 5, 6, 7, 8, 9]).add 2 [0xFF, 0xFF, 0, 0]
    let two := ((empty.add 0 [127]).add 1 [0xFE, 0x7F]).add 2 [0xFF, 0xFF, 0, 0]
    ((one.values 3).isSome ∧ two.values 3 = none) ∧ one.getIntersection two = none :=
  ⟨⟨rfl, rfl⟩, getIntersection_missing_type.1 _ _ ⟨3, rfl, rfl⟩⟩

end LeAudioLtvMap

end LeAudio
end BluetoothStack
