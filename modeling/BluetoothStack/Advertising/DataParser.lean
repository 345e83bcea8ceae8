import Mathlib.Data.List.Basic

namespace BluetoothStack
namespace Advertising

/-!
# Advertising data (stack/include/advertise_data_parser.h)

Advertising data is a sequence of AD structures: a length byte, then as many
bytes of contents, a type byte and the data.  `AdvertiseDataParser` walks the
bytes from a field's length byte to the next, and stops at the end, at a zero
length byte or at a field that runs past the end.  `RemoveTrailingZeros`,
`IsValid` and `GetFieldByType` differ only in what they do at each stop and
at each field (`walk`).

Every byte string is a sequence of fields followed by the rest where such a
walk stops (`exists_fields`).  The rest decides `IsValid`: it holds exactly
when the rest is all zeros or a field that overruns and matches the Traxxas
quirk (`isValid_iff`).  `GetFieldByType` gives the data of the first field of
the type, inside the data, and nothing when there is none
(`getFieldByType_found`, `getFieldByType_absent`), and `RemoveTrailingZeros`
cuts the data at a zero length byte where the walk stops and nowhere else
(`removeTrailingZeros_fields`).
-/

/-- `trx_quirk`: the scan response of Traxxas devices, whose name field has a
wrong length. -/
def trxQuirk : List UInt8 :=
  [0x14, 0x09, 0x54, 0xFF, 0xFF, 0x20, 0x42, 0x4C, 0x45, 0x05, 0x12, 0xFF, 0x00, 0xE8, 0x03, 0x02, 0x0A, 0x00]

/-- `MalformedPacketQuirk`: at least 18 bytes from `position`, equal to
`trx_quirk` but for bytes 3, 4 and 11. -/
def malformedPacketQuirk (ad : List UInt8) (position : Nat) : Bool :=
  decide (18 ≤ ad.length - position) && (ad.drop position).take 3 == trxQuirk.take 3 &&
    (ad.drop (position + 5)).take 6 == (trxQuirk.drop 5).take 6 &&
    (ad.drop (position + 12)).take 6 == (trxQuirk.drop 12).take 6

/-- The loop of the three walks from `position`: `atEnd` when the position
reaches the end, `atZero` at a zero length byte, `atOverrun` at a field that
runs past the end, and at a whole field of `len` bytes `atField`, which
either leaves the loop with a result or goes on to the next field. -/
def walk {ρ : Type} (ad : List UInt8) (atEnd : ρ) (atZero atOverrun : Nat → ρ) (atField : Nat → Nat → Option ρ)
    (position : Nat) : ρ :=
  if position = ad.length then atEnd
  else
    let len := (ad.getD position 0).toNat
    if len = 0 then atZero position
    else if position + len ≥ ad.length then atOverrun position
    else
      match atField position len with
      | some result => result
      | none => walk ad atEnd atZero atOverrun atField (position + len + 1)
termination_by ad.length - position
decreasing_by omega

/-- `RemoveTrailingZeros`: the data cut at the first zero length byte. -/
def removeTrailingZeros (ad : List UInt8) : List UInt8 :=
  walk ad ad (fun position => ad.take position) (fun _ => ad) (fun _ _ => none) 0

/-- `IsValid`: the walk ends at the end, at zero padding, or at the quirk. -/
def isValid (ad : List UInt8) : Bool :=
  walk ad true (fun position => (ad.drop (position + 1)).all (· == 0)) (fun position => malformedPacketQuirk ad position)
    (fun _ _ => none) 0

/-- `GetFieldByType`: the position of the data of the first field of `type`
and its length, or `NULL` and length 0. -/
def getFieldByType (ad : List UInt8) (type : UInt8) : Option Nat × Nat :=
  walk ad (none, 0) (fun _ => (none, 0)) (fun _ => (none, 0))
    (fun position len => if ad.getD (position + 1) 0 = type then some (some (position + 2), len - 1) else none) 0

/-! ## AD structures -/

/-- The bytes of an AD structure of the given contents (type and data). -/
def fieldBytes (field : List UInt8) : List UInt8 := UInt8.ofNat field.length :: field

/-- The bytes of a sequence of AD structures. -/
def encodeFields (fields : List (List UInt8)) : List UInt8 := fields.flatMap fieldBytes

/-- Contents an AD structure can hold: a type byte, and a length that fits
the length byte. -/
def FieldFits (field : List UInt8) : Prop := field ≠ [] ∧ field.length < 256

/-- The rest of the data where a walk stops: the end, a zero length byte, or
a field that runs past the end. -/
def Stops (rest : List UInt8) : Prop := rest = [] ∨ rest.headD 0 = 0 ∨ rest.length ≤ (rest.headD 0).toNat

/-- The rest of valid data: zero padding, or the Traxxas field. -/
def ValidRest (rest : List UInt8) : Prop :=
  (∀ byte ∈ rest, byte = 0) ∨
    (rest.headD 0 ≠ 0 ∧ rest.length ≤ (rest.headD 0).toNat ∧ malformedPacketQuirk rest 0 = true)

instance : DecidablePred FieldFits := fun field => inferInstanceAs (Decidable (field ≠ [] ∧ field.length < 256))

instance : DecidablePred Stops := fun rest =>
  inferInstanceAs (Decidable (rest = [] ∨ rest.headD 0 = 0 ∨ rest.length ≤ (rest.headD 0).toNat))

instance : DecidablePred ValidRest := fun rest =>
  inferInstanceAs (Decidable ((∀ byte ∈ rest, byte = 0) ∨
    (rest.headD 0 ≠ 0 ∧ rest.length ≤ (rest.headD 0).toNat ∧ malformedPacketQuirk rest 0 = true)))

@[simp]
theorem length_fieldBytes (field : List UInt8) : (fieldBytes field).length = field.length + 1 := by
  simp [fieldBytes]

@[simp]
theorem encodeFields_nil : encodeFields [] = [] := rfl

@[simp]
theorem encodeFields_cons (field : List UInt8) (fields : List (List UInt8)) :
    encodeFields (field :: fields) = fieldBytes field ++ encodeFields fields := by
  simp [encodeFields]

theorem encodeFields_append (front back : List (List UInt8)) :
    encodeFields (front ++ back) = encodeFields front ++ encodeFields back := by
  simp [encodeFields]

theorem getD_fieldBytes (pre field rest : List UInt8) :
    (pre ++ fieldBytes field ++ rest).getD pre.length 0 = UInt8.ofNat field.length := by
  simp [fieldBytes, List.getD_eq_getElem?_getD]

theorem getD_fieldBytes_type (pre : List UInt8) {field : List UInt8} (rest : List UInt8) (nonempty : field ≠ []) :
    (pre ++ fieldBytes field ++ rest).getD (pre.length + 1) 0 = field.headD 0 := by
  cases field with
  | nil => exact absurd rfl nonempty
  | cons type data => simp [fieldBytes, List.getD_eq_getElem?_getD]

theorem malformedPacketQuirk_append (front rest : List UInt8) :
    malformedPacketQuirk (front ++ rest) front.length = malformedPacketQuirk rest 0 := by
  simp [malformedPacketQuirk, List.drop_length_add_append]

/-! ## The walk, case by case -/

section Walk

variable {ρ : Type} {ad : List UInt8} {atEnd : ρ} {atZero atOverrun : Nat → ρ} {atField : Nat → Nat → Option ρ}

theorem walk_end : walk ad atEnd atZero atOverrun atField ad.length = atEnd := by
  rw [walk, if_pos rfl]

theorem walk_zero {position : Nat} (inside : position < ad.length) (zero : ad.getD position 0 = 0) :
    walk ad atEnd atZero atOverrun atField position = atZero position := by
  have zeroNat : (ad.getD position 0).toNat = 0 := by
    rw [zero]
    rfl
  rw [walk, if_neg (by omega)]
  dsimp only
  rw [if_pos zeroNat]

theorem walk_overrun {position : Nat} (inside : position < ad.length) (nonzero : ad.getD position 0 ≠ 0)
    (overrun : ad.length ≤ position + (ad.getD position 0).toNat) :
    walk ad atEnd atZero atOverrun atField position = atOverrun position := by
  have notZero : (ad.getD position 0).toNat ≠ 0 := fun zero => nonzero (UInt8.toNat_inj.mp zero)
  rw [walk, if_neg (by omega)]
  dsimp only
  rw [if_neg notZero, if_pos overrun]

-- at a whole field, the walk asks atField and goes on to the next field
theorem walk_fieldBytes {pre field rest : List UInt8} (split : ad = pre ++ fieldBytes field ++ rest)
    (fits : FieldFits field) :
    walk ad atEnd atZero atOverrun atField pre.length =
      match atField pre.length field.length with
      | some result => result
      | none => walk ad atEnd atZero atOverrun atField (pre.length + field.length + 1) := by
  have value : (UInt8.ofNat field.length).toNat = field.length := UInt8.toNat_ofNat_of_lt' fits.2
  have nonempty : field.length ≠ 0 := fun empty => fits.1 (List.eq_nil_of_length_eq_zero empty)
  have total : ad.length = pre.length + field.length + 1 + rest.length := by
    rw [split]
    simp
    omega
  have read : ad.getD pre.length 0 = UInt8.ofNat field.length := by
    rw [split]
    exact getD_fieldBytes pre field rest
  rw [walk, if_neg (by omega)]
  dsimp only
  rw [read, value, if_neg nonempty, if_neg (by omega)]

-- a walk over whole fields whose atField goes on passes every one of them
theorem walk_encodeFields {pre : List UInt8} {fields : List (List UInt8)} {rest : List UInt8}
    (split : ad = pre ++ encodeFields fields ++ rest) (fits : ∀ field ∈ fields, FieldFits field)
    (passes : ∀ front field back, fields = front ++ field :: back →
      atField (pre ++ encodeFields front).length field.length = none) :
    walk ad atEnd atZero atOverrun atField pre.length =
      walk ad atEnd atZero atOverrun atField (pre ++ encodeFields fields).length := by
  induction fields generalizing pre with
  | nil => simp
  | cons field fields ih =>
    have here : ad = pre ++ fieldBytes field ++ (encodeFields fields ++ rest) := by
      rw [split]
      simp
    have first : atField pre.length field.length = none := by
      simpa using passes [] field fields rfl
    have later := @ih (pre ++ fieldBytes field) (by rw [split]; simp)
      (fun g member => fits g (List.mem_cons_of_mem _ member))
      (fun front g back parts => by simpa [List.append_assoc] using passes (field :: front) g back (by rw [parts]; rfl))
    have next : pre.length + field.length + 1 = (pre ++ fieldBytes field).length := by
      simp
      omega
    rw [walk_fieldBytes here (fits field List.mem_cons_self), first]
    dsimp only
    rw [next, later]
    simp

-- the walk from the start of the data
theorem walk_encodeFields_start {fields : List (List UInt8)} {rest : List UInt8}
    (split : ad = encodeFields fields ++ rest) (fits : ∀ field ∈ fields, FieldFits field)
    (passes : ∀ front field back, fields = front ++ field :: back →
      atField (encodeFields front).length field.length = none) :
    walk ad atEnd atZero atOverrun atField 0 = walk ad atEnd atZero atOverrun atField (encodeFields fields).length := by
  have walked := @walk_encodeFields ρ ad atEnd atZero atOverrun atField [] fields rest (by simpa using split) fits
    (by simpa using passes)
  simpa using walked

end Walk

/-! ## Every byte string is fields and a stop -/

theorem exists_fields (bytes : List UInt8) :
    ∃ fields rest, (∀ field ∈ fields, FieldFits field) ∧ bytes = encodeFields fields ++ rest ∧ Stops rest := by
  -- by induction on a bound of the length, the first field taken off each time
  suffices bounded : ∀ n (bytes : List UInt8), bytes.length ≤ n →
      ∃ fields rest, (∀ field ∈ fields, FieldFits field) ∧ bytes = encodeFields fields ++ rest ∧ Stops rest from
    bounded _ bytes (Nat.le_refl _)
  intro n
  induction n with
  | zero =>
    intro bytes short
    exact ⟨[], bytes, by simp, rfl, .inl (List.eq_nil_of_length_eq_zero (by omega))⟩
  | succ n ih =>
    intro bytes short
    cases bytes with
    | nil => exact ⟨[], [], by simp, rfl, .inl rfl⟩
    | cons len after =>
      by_cases stops : Stops (len :: after)
      · exact ⟨[], len :: after, by simp, rfl, stops⟩
      · -- a whole field of len bytes is next
        have zero : len ≠ 0 := fun zero => stops (.inr (.inl zero))
        have room : len.toNat ≤ after.length := by
          have := fun overruns => stops (.inr (.inr overruns))
          simp at this
          omega
        have nonzero : len.toNat ≠ 0 := fun zero' => zero (UInt8.toNat_inj.mp zero')
        obtain ⟨fields, rest, fits, split, stops'⟩ := ih (after.drop len.toNat) (by simp only [List.length_cons, List.length_drop] at short ⊢; omega)
        refine ⟨after.take len.toNat :: fields, rest, ?_, ?_, stops'⟩
        · intro field member
          rcases List.mem_cons.mp member with rfl | later
          · refine ⟨?_, ?_⟩
            · intro empty
              have := congrArg List.length empty
              rw [List.length_take, List.length_nil] at this
              omega
            · simp only [List.length_take]
              have := UInt8.toNat_lt len
              omega
          · exact fits field later
        · have header : UInt8.ofNat (after.take len.toNat).length = len := by
            rw [List.length_take, Nat.min_eq_left room, UInt8.ofNat_toNat]
          rw [encodeFields_cons, fieldBytes, header]
          simp only [List.cons_append, List.append_assoc]
          rw [← split, List.take_append_drop]

theorem getD_length_append (front rest : List UInt8) : (front ++ rest).getD front.length 0 = rest.headD 0 := by
  cases rest <;> simp [List.getD_eq_getElem?_getD]

theorem stops_of_validRest {rest : List UInt8} (valid : ValidRest rest) : Stops rest := by
  rcases valid with zeros | ⟨_, overrun, _⟩
  · cases rest with
    | nil => exact .inl rfl
    | cons byte more => exact .inr (.inl (zeros byte List.mem_cons_self))
  · exact .inr (.inr overrun)

/-! ## IsValid -/

-- where the walk stops, the rest decides IsValid
theorem isValid_of_fields {ad : List UInt8} {fields : List (List UInt8)} {rest : List UInt8}
    (fits : ∀ field ∈ fields, FieldFits field) (split : ad = encodeFields fields ++ rest) (stops : Stops rest) :
    isValid ad = true ↔ ValidRest rest := by
  unfold isValid
  rw [walk_encodeFields_start split fits (fun _ _ _ _ => rfl)]
  have read : ad.getD (encodeFields fields).length 0 = rest.headD 0 := by
    rw [split]
    exact getD_length_append _ _
  have total : ad.length = (encodeFields fields).length + rest.length := by
    rw [split, List.length_append]
  cases rest with
  | nil =>
    have ended : (encodeFields fields).length = ad.length := by simp [total]
    rw [ended, walk_end]
    simp [ValidRest]
  | cons byte more =>
    by_cases zero : byte = 0
    · -- zero padding: valid when every byte after it is zero
      rw [walk_zero (by simp [total]) (by rw [read]; exact zero)]
      have after : ad.drop ((encodeFields fields).length + 1) = more := by
        rw [split, List.drop_length_add_append]
        rfl
      rw [after]
      simp [ValidRest, zero]
    · -- a field that runs past the end: valid only as the quirk
      have overrun : ad.length ≤ (encodeFields fields).length + (ad.getD (encodeFields fields).length 0).toNat := by
        rcases stops with empty | zero' | short
        · cases empty
        · exact absurd zero' zero
        · rw [read, total]
          omega
      rw [walk_overrun (by simp [total]) (by rw [read]; exact zero) overrun, split, malformedPacketQuirk_append]
      constructor
      · intro quirk
        exact .inr ⟨zero, by rw [read, total] at overrun; omega, quirk⟩
      · rintro (zeros | ⟨_, _, quirk⟩)
        · exact absurd (zeros byte List.mem_cons_self) zero
        · exact quirk

theorem isValid_iff (ad : List UInt8) :
    isValid ad = true ↔
      ∃ fields rest, (∀ field ∈ fields, FieldFits field) ∧ ad = encodeFields fields ++ rest ∧ ValidRest rest := by
  constructor
  · intro valid
    obtain ⟨fields, rest, fits, split, stops⟩ := exists_fields ad
    exact ⟨fields, rest, fits, split, (isValid_of_fields fits split stops).mp valid⟩
  · rintro ⟨fields, rest, fits, split, validRest⟩
    exact (isValid_of_fields fits split (stops_of_validRest validRest)).mpr validRest

/-! ## GetFieldByType -/

theorem getFieldByType_found {ad : List UInt8} {type : UInt8} {front : List (List UInt8)} {field : List UInt8}
    {back : List (List UInt8)} {rest : List UInt8} (fits : ∀ g ∈ front ++ field :: back, FieldFits g)
    (split : ad = encodeFields (front ++ field :: back) ++ rest) (earlier : ∀ g ∈ front, g.headD 0 ≠ type)
    (typed : field.headD 0 = type) :
    getFieldByType ad type = (some ((encodeFields front).length + 2), field.length - 1) := by
  have frontFits : ∀ g ∈ front, FieldFits g := fun g member => fits g (by simp [member])
  have fieldFits : FieldFits field := fits field (by simp)
  have shape : ad = encodeFields front ++ (fieldBytes field ++ (encodeFields back ++ rest)) := by
    rw [split]
    simp [encodeFields_append]
  have here : ad = encodeFields front ++ fieldBytes field ++ (encodeFields back ++ rest) := by
    rw [shape]
    simp
  -- every field before it has another type
  have passes : ∀ front' g back', front = front' ++ g :: back' →
      (if ad.getD ((encodeFields front').length + 1) 0 = type then
        some (some ((encodeFields front').length + 2), g.length - 1) else none) = none := by
    intro front' g back' parts
    have member : g ∈ front := by
      rw [parts]
      simp
    have at' : ad = encodeFields front' ++ fieldBytes g ++
        (encodeFields back' ++ (fieldBytes field ++ (encodeFields back ++ rest))) := by
      rw [shape, parts]
      simp [encodeFields_append]
    rw [at', getD_fieldBytes_type _ _ (frontFits g member).1, if_neg (earlier g member)]
  have read : ad.getD ((encodeFields front).length + 1) 0 = type := by
    rw [here, getD_fieldBytes_type _ _ fieldFits.1, typed]
  unfold getFieldByType
  rw [walk_encodeFields_start shape frontFits passes, walk_fieldBytes here fieldFits]
  simp only [read, if_true]

theorem getFieldByType_absent {ad : List UInt8} {type : UInt8} {fields : List (List UInt8)} {rest : List UInt8}
    (fits : ∀ g ∈ fields, FieldFits g) (split : ad = encodeFields fields ++ rest) (stops : Stops rest)
    (absent : ∀ g ∈ fields, g.headD 0 ≠ type) : getFieldByType ad type = (none, 0) := by
  have passes : ∀ front g back, fields = front ++ g :: back →
      (if ad.getD ((encodeFields front).length + 1) 0 = type then
        some (some ((encodeFields front).length + 2), g.length - 1) else none) = none := by
    intro front g back parts
    have member : g ∈ fields := by
      rw [parts]
      simp
    have at' : ad = encodeFields front ++ fieldBytes g ++ (encodeFields back ++ rest) := by
      rw [split, parts]
      simp [encodeFields_append]
    rw [at', getD_fieldBytes_type _ _ (fits g member).1, if_neg (absent g member)]
  have read : ad.getD (encodeFields fields).length 0 = rest.headD 0 := by
    rw [split]
    exact getD_length_append _ _
  have total : ad.length = (encodeFields fields).length + rest.length := by
    rw [split, List.length_append]
  unfold getFieldByType
  rw [walk_encodeFields_start split fits passes]
  -- wherever the walk stops, GetFieldByType returns NULL
  cases rest with
  | nil =>
    have ended : (encodeFields fields).length = ad.length := by simp [total]
    rw [ended, walk_end]
  | cons byte more =>
    by_cases zero : byte = 0
    · rw [walk_zero (by simp [total]) (by rw [read]; exact zero)]
    · have overrun : ad.length ≤ (encodeFields fields).length + (ad.getD (encodeFields fields).length 0).toNat := by
        rcases stops with empty | zero' | short
        · cases empty
        · exact absurd zero' zero
        · rw [read, total]
          omega
      rw [walk_overrun (by simp [total]) (by rw [read]; exact zero) overrun]

-- the field found lies inside the data and holds its data bytes
theorem data_of_found {ad : List UInt8} {front : List (List UInt8)} {field : List UInt8}
    {back : List (List UInt8)} {rest : List UInt8} (split : ad = encodeFields (front ++ field :: back) ++ rest)
    (nonempty : field ≠ []) :
    (encodeFields front).length + 2 + (field.length - 1) ≤ ad.length ∧
      (ad.drop ((encodeFields front).length + 2)).take (field.length - 1) = field.tail := by
  have shape : ad = encodeFields front ++ (UInt8.ofNat field.length :: field.headD 0 :: field.tail) ++
      (encodeFields back ++ rest) := by
    rw [split]
    cases field with
    | nil => exact absurd rfl nonempty
    | cons type data => simp [encodeFields_append, fieldBytes]
  have lengths : field.length - 1 = field.tail.length := by simp
  rw [shape, lengths]
  constructor
  · simp
    omega
  · rw [List.append_assoc, List.drop_length_add_append]
    simp

-- the bytes from the data of the found field on: its data, then the fields after it
theorem drop_found (front : List (List UInt8)) {field : List UInt8} (back : List (List UInt8)) (rest : List UInt8)
    (nonempty : field ≠ []) :
    (encodeFields (front ++ field :: back) ++ rest).drop ((encodeFields front).length + 2) =
      field.tail ++ (encodeFields back ++ rest) := by
  cases field with
  | nil => exact absurd rfl nonempty
  | cons type data =>
    have shape : encodeFields (front ++ (type :: data) :: back) ++ rest =
        encodeFields front ++ ([UInt8.ofNat (data.length + 1), type] ++ (data ++ (encodeFields back ++ rest))) := by
      simp [encodeFields_append, fieldBytes]
    rw [shape, List.drop_length_add_append]
    rfl

/-- Either no field has the type, or there is a first one. -/
theorem first_of_type (fields : List (List UInt8)) (type : UInt8) :
    (∀ g ∈ fields, g.headD 0 ≠ type) ∨
      ∃ front field back, fields = front ++ field :: back ∧ (∀ g ∈ front, g.headD 0 ≠ type) ∧ field.headD 0 = type := by
  cases first : fields.find? (fun g => g.headD 0 == type) with
  | none =>
    left
    intro g member
    simpa using List.find?_eq_none.mp first g member
  | some field =>
    right
    obtain ⟨typed, front, back, parts, earlier⟩ := List.find?_eq_some_iff_append.mp first
    exact ⟨front, field, back, parts, fun g member => by simpa using earlier g member, by simpa using typed⟩

/-- Whatever `GetFieldByType` finds lies inside the data, after a length and
a type byte. -/
theorem getFieldByType_inside {ad : List UInt8} {type : UInt8} {offset len : Nat}
    (found : getFieldByType ad type = (some offset, len)) : 2 ≤ offset ∧ offset + len ≤ ad.length := by
  obtain ⟨fields, rest, fits, split, stops⟩ := exists_fields ad
  rcases first_of_type fields type with absent | ⟨front, field, back, parts, earlier, typed⟩
  · rw [getFieldByType_absent fits split stops absent] at found
    cases found
  · rw [parts] at fits split
    rw [getFieldByType_found fits split earlier typed, Prod.mk.injEq, Option.some.injEq] at found
    obtain ⟨rfl, rfl⟩ := found
    exact ⟨by omega, (data_of_found split (fits field (by simp)).1).1⟩

/-! ## RemoveTrailingZeros -/

theorem removeTrailingZeros_fields {ad : List UInt8} {fields : List (List UInt8)} {rest : List UInt8}
    (fits : ∀ field ∈ fields, FieldFits field) (split : ad = encodeFields fields ++ rest) (stops : Stops rest) :
    removeTrailingZeros ad = if rest ≠ [] ∧ rest.headD 0 = 0 then encodeFields fields else ad := by
  have read : ad.getD (encodeFields fields).length 0 = rest.headD 0 := by
    rw [split]
    exact getD_length_append _ _
  have total : ad.length = (encodeFields fields).length + rest.length := by
    rw [split, List.length_append]
  unfold removeTrailingZeros
  rw [walk_encodeFields_start split fits (fun _ _ _ _ => rfl)]
  cases rest with
  | nil =>
    have ended : (encodeFields fields).length = ad.length := by simp [total]
    rw [ended, walk_end]
    simp
  | cons byte more =>
    by_cases zero : byte = 0
    · -- the data is cut at the zero length byte
      rw [walk_zero (by simp [total]) (by rw [read]; exact zero), if_pos ⟨List.cons_ne_nil _ _, zero⟩, split,
        List.take_left]
    · have overrun : ad.length ≤ (encodeFields fields).length + (ad.getD (encodeFields fields).length 0).toNat := by
        rcases stops with empty | zero' | short
        · cases empty
        · exact absurd zero' zero
        · rw [read, total]
          omega
      rw [walk_overrun (by simp [total]) (by rw [read]; exact zero) overrun, if_neg (fun both => zero both.2)]

theorem advertiseDataParser_spec :
    (∀ ad : List UInt8, ∃ fields rest,
      (∀ field ∈ fields, FieldFits field) ∧ ad = encodeFields fields ++ rest ∧ Stops rest) ∧
    (∀ ad : List UInt8, isValid ad = true ↔
      ∃ fields rest, (∀ field ∈ fields, FieldFits field) ∧ ad = encodeFields fields ++ rest ∧ ValidRest rest) ∧
    (∀ (ad : List UInt8) (type : UInt8) (front : List (List UInt8)) (field : List UInt8) (back : List (List UInt8))
      (rest : List UInt8), (∀ g ∈ front ++ field :: back, FieldFits g) →
      ad = encodeFields (front ++ field :: back) ++ rest → (∀ g ∈ front, g.headD 0 ≠ type) → field.headD 0 = type →
        getFieldByType ad type = (some ((encodeFields front).length + 2), field.length - 1) ∧
          (encodeFields front).length + 2 + (field.length - 1) ≤ ad.length ∧
          (ad.drop ((encodeFields front).length + 2)).take (field.length - 1) = field.tail) ∧
    (∀ (ad : List UInt8) (type : UInt8) (fields : List (List UInt8)) (rest : List UInt8),
      (∀ g ∈ fields, FieldFits g) → ad = encodeFields fields ++ rest → Stops rest → (∀ g ∈ fields, g.headD 0 ≠ type) →
        getFieldByType ad type = (none, 0)) ∧
    (∀ (ad : List UInt8) (fields : List (List UInt8)) (rest : List UInt8),
      (∀ g ∈ fields, FieldFits g) → ad = encodeFields fields ++ rest → Stops rest →
        removeTrailingZeros ad = if rest ≠ [] ∧ rest.headD 0 = 0 then encodeFields fields else ad) := by
  refine ⟨exists_fields, isValid_iff, ?_, fun _ _ _ _ fits split stops absent => getFieldByType_absent fits split stops absent,
    fun _ _ _ fits split stops => removeTrailingZeros_fields fits split stops⟩
  intro ad type front field back rest fits split earlier typed
  exact ⟨getFieldByType_found fits split earlier typed,
    data_of_found split (fits field (by simp)).1⟩

-- a flags field then a complete local name "ab": the name's data is found after the flags
theorem advertiseDataParser_spec_name :
    getFieldByType ([0x02, 0x01, 0x06, 0x03, 0x09, 0x61, 0x62]) 0x09 = (some 5, 2) ∧ 5 + 2 ≤ 7 ∧
      (([0x02, 0x01, 0x06, 0x03, 0x09, 0x61, 0x62] : List UInt8).drop 5).take 2 = [0x61, 0x62] := by
  have found := (advertiseDataParser_spec.2.2.1 [0x02, 0x01, 0x06, 0x03, 0x09, 0x61, 0x62] 0x09 [[0x01, 0x06]]
    [0x09, 0x61, 0x62] [] [] (by decide) (by decide) (by decide) (by decide))
  exact found

end Advertising
end BluetoothStack
