import BluetoothStack.Sdp.Defs
import BluetoothStack.Library.ArrayMoves

namespace BluetoothStack
namespace Sdp

open ByteStream ArrayMoves

/-!
# The record store: adding and deleting attributes

A record keeps its attributes in use in the first `num_attributes` slots of a
fixed array, in increasing order of ID, and their values in a pad filled from
the start up to `free_pad_ptr`.  `SDP_AddAttributeToRecord` finds the place of
the ID, deletes an attribute already there, moves the later attributes up one
slot and writes the new one into the slot; only then does it check that the
value fits in the pad.  `SDP_DeleteAttributeFromRecord` moves the later values
down in the pad, the later attributes down in the array, and the values after
the deleted one down by its length.

`SdpRecord.Wf` is the store invariant: the attributes in use are sorted, their
values lie in the filled part of the pad without overlapping, and their
lengths add up to it.  A value that does not fit and is not text is refused
after the array has been moved: the cleared slot stays in the middle of the
attributes and the last attribute falls out of the ones in use
(`sdpAddAttributeToRecord_clearsSlot`), so the refused call leaves a record
that is no longer sorted and has lost an attribute no call named.
-/

instance : Inhabited SdpAttribute := ⟨⟨0, none, 0, 0⟩⟩

/-! ## `SDP_DeleteAttributeFromRecord` -/

/-- Whether a value pointer points past `base` in the pad; `NULL` does not. -/
def pointsAbove (base : Nat) (ptr : Option Nat) : Bool := ptr.any (base < ·)

/-- The first loop of a deletion: each attribute in use whose value lies past
the deleted one's has its value pointer moved down by the deleted length. -/
def lowerValuePtrs (attributes : List SdpAttribute) (num padPtr len : Nat) : List SdpAttribute :=
  attributes.mapIdx fun zz attr =>
    if zz < num ∧ pointsAbove padPtr attr.valuePtr then { attr with valuePtr := attr.valuePtr.map (· - len) }
    else attr

/-- `SDP_DeleteAttributeFromRecord`: the record after the deletion, and whether
an attribute with the ID was in use. -/
def sdpDeleteAttributeFromRecord (rec : SdpRecord) (attrId : Nat) : SdpRecord × Bool :=
  match rec.attrs.findIdx? fun attr => attr.id == attrId with
  | none => (rec, false)
  | some index =>
      let attr := rec.attributes.getD index default
      let padPtr := attr.valuePtr.getD 0
      let len := attr.len
      let attributes :=
        if len ≠ 0 then lowerValuePtrs rec.attributes rec.numAttributes padPtr len else rec.attributes
      let num := rec.numAttributes - 1
      let attributes := shiftDown attributes index (num - index)
      if len ≠ 0 then
        ({ rec with
            numAttributes := num
            attributes := attributes
            attrPad := moveDown rec.attrPad padPtr len (rec.freePadPtr - (padPtr + len))
            freePadPtr := rec.freePadPtr - len }, true)
      else ({ rec with numAttributes := num, attributes := attributes }, true)

/-! ## `SDP_AddAttributeToRecord` -/

/-- The first loop of an addition: the index of the first attribute in use
whose ID is the one added or above it, or the count when there is none. -/
def attrSlot (attrId : Nat) : List SdpAttribute → Nat
  | [] => 0
  | attr :: attrs => if attr.id = attrId ∨ attrId < attr.id then 0 else attrSlot attrId attrs + 1

/-- `SDP_AddAttributeToRecord` with the value at `p_val`: the record after the
call and whether it reports success.  `free_pad_ptr` and `attr_len` are
`uint32_t`, so their sum wraps at `2 ^ 32`. -/
def sdpAddAttributeToRecord (rec : SdpRecord) (attrId attrType attrLen : Nat) (pVal : Nat → UInt8) :
    SdpRecord × Bool :=
  let xx := attrSlot attrId rec.attrs
  -- an attribute with the ID is deleted first; the search stopped at it
  let cleared :=
    if xx < rec.numAttributes ∧ (rec.attributes.getD xx default).id = attrId then
      (sdpDeleteAttributeFromRecord rec attrId).1
    else rec
  if sdpMaxRecAttr ≤ cleared.numAttributes then (cleared, false)
  else
    -- the attributes from the slot on move up one, and the slot is written before the pad is checked
    let attributes :=
      if xx = cleared.numAttributes then cleared.attributes
      else shiftUp cleared.attributes cleared.numAttributes (cleared.numAttributes - xx)
    let slot : SdpAttribute := { attributes.getD xx default with id := attrId, type := attrType, len := attrLen }
    let written := { cleared with attributes := attributes.set xx slot }
    if sdpMaxPadLen ≤ (written.freePadPtr + attrLen) % 2 ^ 32 ∧ sdpMaxPadLen ≤ written.freePadPtr then
      (written, false)
    else
      -- a value past the pad: text is cut at its end with a terminating zero, other values are dropped
      let cut := sdpMaxPadLen ≤ (written.freePadPtr + attrLen) % 2 ^ 32
      let storedLen :=
        if cut then (if attrType = textStrDescType then sdpMaxPadLen - written.freePadPtr else 0) else attrLen
      let value :=
        if cut ∧ attrType = textStrDescType then Function.update pVal (sdpMaxPadLen - written.freePadPtr - 1) 0
        else pVal
      if 0 < storedLen then
        ({ written with
            attributes := attributes.set xx { slot with len := storedLen, valuePtr := some written.freePadPtr }
            attrPad := copyInto written.attrPad written.freePadPtr storedLen value
            freePadPtr := (written.freePadPtr + storedLen) % 2 ^ 32
            numAttributes := written.numAttributes + 1 }, true)
      else if slot.len ≠ 0 then
        -- "if truncate to 0 length, simply don't add": the slot is cleared and the move stays
        ({ written with attributes := attributes.set xx { slot with id := 0, type := 0, len := 0 } }, false)
      else ({ written with numAttributes := written.numAttributes + 1 }, true)

/-- The search of `SDP_AddAttribute`: the first record with the handle gets
the attribute, unless its pad is already full. -/
def addToRecordWithHandle (handle attrId attrType attrLen : Nat) (pVal : Nat → UInt8) :
    List SdpRecord → List SdpRecord × Bool
  | [] => ([], false)
  | rec :: recs =>
      if rec.recordHandle = handle then
        if sdpMaxPadLen ≤ rec.freePadPtr then (rec :: recs, false)
        else
          let added := sdpAddAttributeToRecord rec attrId attrType attrLen pVal
          (added.1 :: recs, added.2)
      else
        let added := addToRecordWithHandle handle attrId attrType attrLen pVal recs
        (rec :: added.1, added.2)

/-- `SDP_AddAttribute` on the records of the database, with `p_val` `NULL` for
`none`. -/
def sdpAddAttribute (db : List SdpRecord) (handle attrId attrType attrLen : Nat) (pVal : Option (Nat → UInt8)) :
    List SdpRecord × Bool :=
  match pVal with
  | none => (db, false)
  | some value => addToRecordWithHandle handle attrId attrType attrLen value db

/-! ## The store invariant -/

/-- Where an attribute's value starts in the pad. -/
def SdpAttribute.start (attr : SdpAttribute) : Nat := attr.valuePtr.getD 0

/-- Two attributes' values do not overlap in the pad. -/
def SdpAttribute.Apart (a b : SdpAttribute) : Prop :=
  a.len = 0 ∨ b.len = 0 ∨ a.start + a.len ≤ b.start ∨ b.start + b.len ≤ a.start

instance : DecidableRel SdpAttribute.Apart := fun a b =>
  inferInstanceAs (Decidable (a.len = 0 ∨ b.len = 0 ∨ a.start + a.len ≤ b.start ∨ b.start + b.len ≤ a.start))

/-- The store invariant of a record: the array has its `SDP_MAX_REC_ATTR`
slots, the attributes in use are sorted by ID, and their values lie without
overlap in the filled part of the pad, whose length they add up to and which
fits in `SDP_MAX_PAD_LEN`. -/
structure SdpRecord.Wf (rec : SdpRecord) : Prop where
  slots : rec.attributes.length = sdpMaxRecAttr
  bounded : rec.numAttributes ≤ sdpMaxRecAttr
  sorted : rec.attrs.Pairwise fun a b => a.id < b.id
  placed : ∀ a ∈ rec.attrs, 0 < a.len → a.valuePtr.isSome ∧ a.start + a.len ≤ rec.freePadPtr
  apart : rec.attrs.Pairwise SdpAttribute.Apart
  filled : (rec.attrs.map SdpAttribute.len).sum = rec.freePadPtr
  padBound : rec.freePadPtr ≤ sdpMaxPadLen

/-! ## Where an attribute goes -/

section Slot

variable {attrId : Nat}

theorem attrSlot_le (attrs : List SdpAttribute) : attrSlot attrId attrs ≤ attrs.length := by
  induction attrs with
  | nil => exact Nat.le_refl 0
  | cons attr attrs ih =>
      rw [attrSlot]
      split_ifs
      · exact Nat.zero_le _
      · rw [List.length_cons]
        omega

/-- Every attribute before the slot has a smaller ID. -/
theorem id_lt_of_lt_attrSlot {attrs : List SdpAttribute} {i : Nat} (before : i < attrSlot attrId attrs)
    (inside : i < attrs.length) : attrs[i].id < attrId := by
  induction attrs generalizing i with
  | nil => cases inside
  | cons attr attrs ih =>
      rw [attrSlot] at before
      split_ifs at before with stop
      · cases before
      · cases i with
        | zero =>
            show attr.id < attrId
            exact Nat.lt_of_not_le fun above => stop (by omega)
        | succ i => exact ih (by omega) (by rw [List.length_cons] at inside; omega)

/-- On sorted attributes, one below the ID puts the slot after the first. -/
theorem attrSlot_pos {attrs : List SdpAttribute} (sorted : attrs.Pairwise fun a b => a.id < b.id)
    (below : ∃ a ∈ attrs, a.id < attrId) : 0 < attrSlot attrId attrs := by
  rcases attrs with _ | ⟨first, attrs⟩
  · obtain ⟨a, member, -⟩ := below
    cases member
  · obtain ⟨a, member, smaller⟩ := below
    have least : first.id ≤ a.id := by
      rcases List.mem_cons.mp member with same | later
      · rw [same]
      · exact Nat.le_of_lt (List.rel_of_pairwise_cons sorted later)
    rw [attrSlot, if_neg (by omega)]
    exact Nat.succ_pos _

/-- One above the ID puts the slot among the attributes. -/
theorem attrSlot_lt {attrs : List SdpAttribute} (above : ∃ a ∈ attrs, attrId < a.id) :
    attrSlot attrId attrs < attrs.length := by
  obtain ⟨a, member, larger⟩ := above
  obtain ⟨i, inside, rfl⟩ := List.getElem_of_mem member
  refine Nat.lt_of_le_of_ne (attrSlot_le attrs) fun all => ?_
  have smaller : attrs[i].id < attrId := id_lt_of_lt_attrSlot (by omega) inside
  omega

end Slot

/-! ## A refused value in the middle of the record -/

section Refused

variable {rec : SdpRecord} {attrId attrType attrLen : Nat} {pVal : Nat → UInt8}

theorem SdpRecord.Wf.attrs_length (wf : rec.Wf) : rec.attrs.length = rec.numAttributes := by
  rw [SdpRecord.attrs, List.length_take, wf.slots]
  exact Nat.min_eq_left wf.bounded

theorem SdpRecord.Wf.getD_attributes (wf : rec.Wf) {i : Nat} (inUse : i < rec.attrs.length) :
    rec.attributes.getD i default = rec.attrs[i] := by
  have inside : i < rec.attributes.length := by
    rw [wf.slots]
    rw [wf.attrs_length] at inUse
    exact Nat.lt_of_lt_of_le inUse wf.bounded
  rw [List.getD_eq_getElem?_getD, List.getElem?_eq_getElem inside, Option.getD_some]
  simp only [SdpRecord.attrs, List.getElem_take]

/-- The slot written for a value that does not fit: the attribute that was in
it, with ID, type and length cleared. -/
def clearedSlot (rec : SdpRecord) (xx : Nat) : SdpAttribute :=
  { rec.attributes.getD xx default with id := 0, type := 0, len := 0 }

/-- A value that is not text, does not fit in the pad and goes before the last
attribute is refused after the attributes from its slot on have moved up and
the slot has been cleared. -/
theorem sdpAddAttributeToRecord_clearsSlot (wf : rec.Wf) (absent : ∀ a ∈ rec.attrs, a.id ≠ attrId)
    (middle : attrSlot attrId rec.attrs < rec.numAttributes) (room : rec.numAttributes < sdpMaxRecAttr)
    (notText : attrType ≠ textStrDescType) (nonempty : 0 < attrLen)
    (long : sdpMaxPadLen ≤ (rec.freePadPtr + attrLen) % 2 ^ 32) (notFull : rec.freePadPtr < sdpMaxPadLen) :
    sdpAddAttributeToRecord rec attrId attrType attrLen pVal =
      ({ rec with
          attributes :=
            (shiftUp rec.attributes rec.numAttributes (rec.numAttributes - attrSlot attrId rec.attrs)).set
              (attrSlot attrId rec.attrs) (clearedSlot rec (attrSlot attrId rec.attrs)) }, false) := by
  have present : (rec.attributes.getD (attrSlot attrId rec.attrs) default).id ≠ attrId := by
    rw [wf.getD_attributes (by rw [wf.attrs_length]; exact middle)]
    exact absent _ (List.getElem_mem _)
  -- the slot keeps the attribute that was in it; only its value pointer survives the clearing
  have kept : (shiftUp rec.attributes rec.numAttributes (rec.numAttributes - attrSlot attrId rec.attrs)).getD
      (attrSlot attrId rec.attrs) default = rec.attributes.getD (attrSlot attrId rec.attrs) default := by
    rw [List.getD_eq_getElem?_getD, List.getD_eq_getElem?_getD,
      shiftUp_getElem? (by omega) (by rw [wf.slots]; exact room), if_neg (by omega)]
  simp only [sdpAddAttributeToRecord, if_neg (show ¬(_ ∧ _) from fun found => present found.2),
    if_neg (show ¬sdpMaxRecAttr ≤ rec.numAttributes by omega), if_neg (Nat.ne_of_lt middle),
    if_neg (show ¬(sdpMaxPadLen ≤ (rec.freePadPtr + attrLen) % 2 ^ 32 ∧ sdpMaxPadLen ≤ rec.freePadPtr) from
      fun full => by omega), if_pos long,
    if_neg notText, Nat.lt_irrefl, if_false, ne_eq, Nat.ne_of_gt nonempty, not_false_eq_true, if_true, kept,
    clearedSlot]

theorem attrs_clearsSlot (wf : rec.Wf) {xx : Nat} (place : xx ≤ rec.numAttributes)
    (room : rec.numAttributes < sdpMaxRecAttr) (b : SdpAttribute) :
    ((shiftUp rec.attributes rec.numAttributes (rec.numAttributes - xx)).set xx b).take rec.numAttributes =
      (rec.attrs.insertIdx xx b).take rec.numAttributes := by
  have moved := take_set_shiftUp b place (show rec.numAttributes < rec.attributes.length by rw [wf.slots]; exact room)
  rw [← SdpRecord.attrs] at moved
  rw [← moved, List.take_take, Nat.min_eq_left (Nat.le_succ _)]

/-- The refused call loses the last attribute in use, when one has a nonzero
ID: the ones in use after it are the cleared slot and attributes before the
last. -/
theorem lost_of_clearsSlot (wf : rec.Wf) {xx : Nat} (place : xx < rec.numAttributes)
    (room : rec.numAttributes < sdpMaxRecAttr) (positive : ∃ a ∈ rec.attrs, 0 < a.id) :
    ∃ lost ∈ rec.attrs,
      lost ∉ ((shiftUp rec.attributes rec.numAttributes (rec.numAttributes - xx)).set xx (clearedSlot rec xx)).take
        rec.numAttributes := by
  have length := wf.attrs_length
  have nonempty : rec.attrs ≠ [] := fun empty => by
    rw [empty, List.length_nil] at length
    omega
  -- the last attribute has the largest ID, so a nonzero one
  have lastPositive : 0 < (rec.attrs.getLast nonempty).id := by
    obtain ⟨a, member, larger⟩ := positive
    obtain ⟨i, inside, rfl⟩ := List.getElem_of_mem member
    rw [List.getLast_eq_getElem nonempty]
    by_cases final : i = rec.attrs.length - 1
    · simp only [final] at larger
      exact larger
    · exact Nat.lt_trans larger (List.pairwise_iff_getElem.mp wf.sorted i _ inside (by omega) (by omega))
  refine ⟨rec.attrs.getLast nonempty, List.getLast_mem nonempty, fun member => ?_⟩
  rw [attrs_clearsSlot wf (Nat.le_of_lt place) room, ← length] at member
  rcases mem_take_insertIdx (by omega) member with same | ⟨j, early, found⟩
  · -- the cleared slot has ID 0
    rw [same] at lastPositive
    exact Nat.lt_irrefl 0 lastPositive
  · -- an attribute before the last has a smaller ID
    obtain ⟨inside, atJ⟩ := List.getElem?_eq_some_iff.mp found
    have increasing := List.pairwise_iff_getElem.mp wf.sorted j (rec.attrs.length - 1) inside (by omega) (by omega)
    rw [atJ, ← List.getLast_eq_getElem nonempty] at increasing
    exact Nat.lt_irrefl _ increasing

/-- Behind the attribute before the slot, the cleared slot breaks the order. -/
theorem not_sorted_of_clearsSlot (wf : rec.Wf) {xx : Nat} (after : 0 < xx) (place : xx < rec.numAttributes)
    (room : rec.numAttributes < sdpMaxRecAttr) :
    ¬(((shiftUp rec.attributes rec.numAttributes (rec.numAttributes - xx)).set xx (clearedSlot rec xx)).take
        rec.numAttributes).Pairwise fun a b => a.id < b.id := by
  intro sorted
  rw [attrs_clearsSlot wf (Nat.le_of_lt place) room] at sorted
  have size : ((rec.attrs.insertIdx xx (clearedSlot rec xx)).take rec.numAttributes).length = rec.numAttributes := by
    rw [List.length_take, List.length_insertIdx_of_le_length (by rw [wf.attrs_length]; omega), wf.attrs_length]
    omega
  have increasing := List.pairwise_iff_getElem.mp sorted (xx - 1) xx (by rw [size]; omega) (by rw [size]; omega)
    (by omega)
  rw [List.getElem_take, List.getElem_take, List.getElem_insertIdx_of_lt (by omega),
    List.getElem_insertIdx_self] at increasing
  exact Nat.not_lt_zero _ increasing

end Refused

/-- A record as `SDP_CreateRecord` and a service name leave it: the record
handle (`ATTR_ID_SERVICE_RECORD_HDL`, four bytes at 0) and the service name
(`ATTR_ID_SERVICE_NAME`, four bytes at 4). -/
def namedRecord : SdpRecord where
  recordHandle := 0x10000
  freePadPtr := 8
  numAttributes := 2
  attributes :=
    ⟨4, some 0, 0x0000, uintDescType⟩ :: ⟨4, some 4, 0x0100, textStrDescType⟩ :: List.replicate 23 default
  attrPad := fun i => [0x00, 0x01, 0x00, 0x00, 0x41, 0x42, 0x43, 0x00].getD i 0

theorem namedRecord_wf : namedRecord.Wf :=
  ⟨by decide, by decide, by decide, by decide, by decide, by decide, by decide⟩

/-- A value that is neither text nor fits in the pad, added to a record that
keeps the store invariant between two of its attributes, is refused and
leaves a record that breaks it: the cleared slot is out of order, and an
attribute the call did not name is no longer in use. -/
theorem sdpAddAttributeToRecord_refused_breaks_store {rec : SdpRecord} {attrId attrType attrLen : Nat}
    {pVal : Nat → UInt8} (wf : rec.Wf) (below : ∃ a ∈ rec.attrs, a.id < attrId)
    (above : ∃ a ∈ rec.attrs, attrId < a.id) (absent : ∀ a ∈ rec.attrs, a.id ≠ attrId)
    (room : rec.numAttributes < sdpMaxRecAttr) (notText : attrType ≠ textStrDescType) (nonempty : 0 < attrLen)
    (long : sdpMaxPadLen ≤ (rec.freePadPtr + attrLen) % 2 ^ 32) (notFull : rec.freePadPtr < sdpMaxPadLen) :
    (sdpAddAttributeToRecord rec attrId attrType attrLen pVal).2 = false ∧
      ¬(sdpAddAttributeToRecord rec attrId attrType attrLen pVal).1.Wf ∧
      ∃ lost ∈ rec.attrs, lost ∉ (sdpAddAttributeToRecord rec attrId attrType attrLen pVal).1.attrs := by
  have middle : attrSlot attrId rec.attrs < rec.numAttributes := wf.attrs_length ▸ attrSlot_lt above
  have after : 0 < attrSlot attrId rec.attrs := attrSlot_pos wf.sorted below
  rw [sdpAddAttributeToRecord_clearsSlot wf absent middle room notText nonempty long notFull]
  refine ⟨rfl, fun broken => not_sorted_of_clearsSlot wf after middle room broken.sorted, ?_⟩
  obtain ⟨a, member, larger⟩ := above
  exact lost_of_clearsSlot wf middle room ⟨a, member, by omega⟩

/-- A protocol descriptor list (`0x0004`) of 592 bytes added to the named
record is refused and leaves it out of order, without its service name. -/
theorem sdpAddAttributeToRecord_refused_breaks_store_namedRecord :
    (sdpAddAttributeToRecord namedRecord 0x0004 dataEleSeqDescType 592 fun _ => 0).2 = false ∧
      ¬(sdpAddAttributeToRecord namedRecord 0x0004 dataEleSeqDescType 592 fun _ => 0).1.Wf ∧
      ∃ lost ∈ namedRecord.attrs,
        lost ∉ (sdpAddAttributeToRecord namedRecord 0x0004 dataEleSeqDescType 592 fun _ => 0).1.attrs :=
  sdpAddAttributeToRecord_refused_breaks_store namedRecord_wf (by decide) (by decide) (by decide) (by decide)
    (by decide) (by decide) (by decide) (by decide)

example : (sdpAddAttributeToRecord namedRecord 0x0004 dataEleSeqDescType 592 fun _ => 0).1.attrs =
    [⟨4, some 0, 0x0000, uintDescType⟩, ⟨0, some 4, 0, 0⟩] := by decide

/-- `SDP_AddAttributeToRecord` is not atomic: a value that is neither text nor
fits in the pad, added before the last attribute of a record that keeps the
store invariant, is refused, and the attributes in use have changed. -/
theorem sdpAddAttributeToRecord_refused_changes_record {rec : SdpRecord} {attrId attrType attrLen : Nat}
    {pVal : Nat → UInt8} (wf : rec.Wf) (above : ∃ a ∈ rec.attrs, attrId < a.id)
    (absent : ∀ a ∈ rec.attrs, a.id ≠ attrId) (room : rec.numAttributes < sdpMaxRecAttr)
    (notText : attrType ≠ textStrDescType) (nonempty : 0 < attrLen)
    (long : sdpMaxPadLen ≤ (rec.freePadPtr + attrLen) % 2 ^ 32) (notFull : rec.freePadPtr < sdpMaxPadLen) :
    (sdpAddAttributeToRecord rec attrId attrType attrLen pVal).2 = false ∧
      (sdpAddAttributeToRecord rec attrId attrType attrLen pVal).1.attrs ≠ rec.attrs := by
  have middle : attrSlot attrId rec.attrs < rec.numAttributes := wf.attrs_length ▸ attrSlot_lt above
  rw [sdpAddAttributeToRecord_clearsSlot wf absent middle room notText nonempty long notFull]
  refine ⟨rfl, fun unchanged => ?_⟩
  obtain ⟨a, member, larger⟩ := above
  obtain ⟨lost, kept, gone⟩ := lost_of_clearsSlot wf middle room ⟨a, member, by omega⟩
  rw [← unchanged] at kept
  exact gone kept

theorem sdpAddAttributeToRecord_refused_changes_record_namedRecord :
    (sdpAddAttributeToRecord namedRecord 0x0004 dataEleSeqDescType 592 fun _ => 0).2 = false ∧
      (sdpAddAttributeToRecord namedRecord 0x0004 dataEleSeqDescType 592 fun _ => 0).1.attrs ≠ namedRecord.attrs :=
  sdpAddAttributeToRecord_refused_changes_record namedRecord_wf (by decide) (by decide) (by decide) (by decide)
    (by decide) (by decide) (by decide)

end Sdp
end BluetoothStack
