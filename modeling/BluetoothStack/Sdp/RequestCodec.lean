import BluetoothStack.Sdp.AttribSeq
import BluetoothStack.Gatt.Defs

namespace BluetoothStack
namespace Sdp

open ByteStream Gatt

/-!
# Request parameters: the client's builders and the server's parsers

A client asks for services by a sequence of UUIDs (`sdpu_build_uuid_seq`) and
for attributes by a sequence of IDs (`sdpu_build_attrib_seq`); the server reads
them back with `sdpu_extract_uid_seq` and `sdpu_extract_attr_seq`.  The two
sides are written apart: the builders always give a sequence a one-byte length
(or a two-byte one past 255 bytes of IDs) and each UUID its shortest size,
while the parsers take any of the sizes the data element format has and stop
at the sixteenth entry.

The parsers are modelled over memory, from a position and the number of
parameter bytes left (`param_len`), and return the entries and the position
after the sequence.  A built sequence placed in memory reads back as the IDs
(or the wildcard range) and the UUIDs' shortest big-endian bytes, consuming
exactly what was built (`sdpuExtractAttrSeq_sdpuBuildAttribSeq`,
`sdpuExtractUidSeq_sdpuBuildUuidSeq`); fifteen IDs are the most a request can
carry.  Whatever the bytes, neither parser reads past `param_len`
(`sdpuExtractAttrSeq_congr`, `sdpuExtractUidSeq_congr`).
-/

/-! ## Constants -/

/-- `UUID_DESC_TYPE`. -/
def uuidDescType : Nat := 3
/-- `MAX_UUIDS_PER_SEQ`. -/
def maxUuidsPerSeq : Nat := 16
/-- `SDP_MAX_ATTR_FILTERS`. -/
def sdpMaxAttrFilters : Nat := 15
/-- `SDP_MAX_UUID_FILTERS`. -/
def sdpMaxUuidFilters : Nat := 3

/-! ## Data element headers -/

/-- The type of a data element descriptor (`descr >> 3`). -/
def descrType (descr : UInt8) : Nat := descr.toNat / 8

/-- The size index of a data element descriptor (`descr & 7`). -/
def descrSize (descr : UInt8) : Nat := descr.toNat % 8

/-- A length field of size index `size` at `p`, read most significant byte
first when `room` bytes are left for it: its value and the position after it. -/
def readSizeField (mem : Nat → UInt8) (size p room : Nat) : Option (Nat × Nat) :=
  if size = sizeInNextByte then
    if room < 1 then none else some ((mem p).toNat, p + 1)
  else if size = sizeInNextWord then
    if room < 2 then none else some (u16beAt mem p, p + 2)
  else if size = sizeInNextLong then
    if room < 4 then none else some (u32beAt mem p, p + 4)
  else none

/-- The length of a data element whose descriptor has size index `size` and
ends before `p`: two or four bytes by the index, sixteen too where the
switch has that case (`sixteen`), or the length field after the descriptor. -/
def elementLen (mem : Nat → UInt8) (sixteen : Bool) (size p room : Nat) : Option (Nat × Nat) :=
  if size = sizeTwoBytes then some (2, p)
  else if size = sizeFourBytes then some (4, p)
  else if sixteen ∧ size = sizeSixteenBytes then some (16, p)
  else readSizeField mem size p room

section Headers

variable {mem mem' : Nat → UInt8}

theorem descrType_ofNat {type size : Nat} (small : size < 8) (fits : type * 8 + size < 256) :
    descrType (UInt8.ofNat (type * 8 + size)) = type := by
  simp only [descrType, UInt8.toNat_ofNat', Nat.mod_eq_of_lt fits]
  omega

theorem descrSize_ofNat {type size : Nat} (small : size < 8) (fits : type * 8 + size < 256) :
    descrSize (UInt8.ofNat (type * 8 + size)) = size := by
  simp only [descrSize, UInt8.toNat_ofNat', Nat.mod_eq_of_lt fits]
  omega

@[simp]
theorem elementLen_two (sixteen : Bool) (p room : Nat) :
    elementLen mem sixteen sizeTwoBytes p room = some (2, p) := rfl

@[simp]
theorem elementLen_four (sixteen : Bool) (p room : Nat) :
    elementLen mem sixteen sizeFourBytes p room = some (4, p) := rfl

@[simp]
theorem elementLen_sixteen (p room : Nat) : elementLen mem true sizeSixteenBytes p room = some (16, p) := rfl

theorem readSizeField_inNextByte {p room : Nat} (roomy : 1 ≤ room) :
    readSizeField mem sizeInNextByte p room = some ((mem p).toNat, p + 1) := by
  rw [readSizeField, if_pos rfl, if_neg (by omega)]

theorem readSizeField_inNextWord {p room : Nat} (roomy : 2 ≤ room) :
    readSizeField mem sizeInNextWord p room = some (u16beAt mem p, p + 2) := by
  rw [readSizeField, if_neg (by decide), if_pos rfl, if_neg (by omega)]

/-- A one-byte length field holding a byte-sized value reads back as it. -/
theorem elementLen_inNextByte {sixteen : Bool} {p room value : Nat} (stored : mem p = UInt8.ofNat value)
    (fits : value < 256) (roomy : 1 ≤ room) :
    elementLen mem sixteen sizeInNextByte p room = some (value, p + 1) := by
  have notFixed : ¬(sixteen = true ∧ sizeInNextByte = sizeSixteenBytes) := fun fixed => by
    cases fixed.2
  rw [elementLen, if_neg (by decide), if_neg (by decide), if_neg notFixed, readSizeField_inNextByte roomy,
    stored, UInt8.toNat_ofNat', Nat.mod_eq_of_lt fits]

/-- A length field lies within the bytes left for it. -/
theorem readSizeField_bounds {size p room value q : Nat} (read : readSizeField mem size p room = some (value, q)) :
    p ≤ q ∧ q ≤ p + room := by
  unfold readSizeField at read
  split_ifs at read <;> cases read <;> omega

theorem elementLen_bounds {sixteen : Bool} {size p room len q : Nat}
    (read : elementLen mem sixteen size p room = some (len, q)) : p ≤ q ∧ q ≤ p + room := by
  unfold elementLen at read
  split_ifs at read
  · cases read
    omega
  · cases read
    omega
  · cases read
    omega
  · exact readSizeField_bounds read

/-- A length field reads only the bytes left for it. -/
theorem readSizeField_congr {size p room : Nat} (agree : ∀ i, p ≤ i → i < p + room → mem i = mem' i) :
    readSizeField mem size p room = readSizeField mem' size p room := by
  unfold readSizeField
  split_ifs
  · rfl
  · rw [agree p (Nat.le_refl p) (by omega)]
  · rfl
  · rw [u16beAt_congr fun i low high => agree i low (by omega)]
  · rfl
  · rw [u32beAt_congr fun i low high => agree i low (by omega)]
  · rfl

theorem elementLen_congr {sixteen : Bool} {size p room : Nat}
    (agree : ∀ i, p ≤ i → i < p + room → mem i = mem' i) :
    elementLen mem sixteen size p room = elementLen mem' sixteen size p room := by
  unfold elementLen
  rw [readSizeField_congr agree]

end Headers

/-! ## `sdpu_extract_attr_seq` -/

/-- One entry of an attribute ID list at `p`, in a list that ends at `pEnd`:
an unsigned integer of two bytes (one ID) or four (a range), and the position
after it. -/
def extractAttrEntry (mem : Nat → UInt8) (pEnd p : Nat) : Option (AttEnt × Nat) :=
  let descr := mem p
  if descrType descr ≠ uintDescType then none
  else
    match elementLen mem false (descrSize descr) (p + 1) (pEnd - (p + 1)) with
    | none => none
    | some (attrLen, p) =>
        if pEnd < p + attrLen then none
        else if attrLen = 2 then some (⟨u16beAt mem p, u16beAt mem p⟩, p + 2)
        else if attrLen = 4 then some (⟨u16beAt mem p, u16beAt mem (p + 2)⟩, p + 4)
        else none

/-- `sdpu_extract_attr_seq` at `p` with `param_len` bytes of parameters left:
the entries and the position after the list. -/
def sdpuExtractAttrSeq (mem : Nat → UInt8) (p paramLen : Nat) : Option (List AttEnt × Nat) :=
  if paramLen < 1 then none
  else
    let descr := mem p
    if descrType descr ≠ dataEleSeqDescType then none
    else
      match readSizeField mem (descrSize descr) (p + 1) (paramLen - 1) with
      | none => none
      | some (listLen, q) =>
          if paramLen - 1 - (q - (p + 1)) < listLen then none
          -- the loop reads entries up to the end of the list; the sixteenth fails it
          else elements (extractAttrEntry mem (q + listLen)) (q + listLen) (maxAttrPerSeq - 1) q

/-! ## `sdpu_extract_uid_seq` -/

/-- An entry of `tSDP_UUID_SEQ`: a UUID's size and its bytes as sent. -/
structure UidEnt where
  len : Nat
  value : List UInt8
deriving DecidableEq, Repr

/-- One UUID of a sequence at `p`, in a sequence that ends at `pSeqEnd`: its
bytes when it has two, four or sixteen of them, and the position after it. -/
def extractUidEntry (mem : Nat → UInt8) (pSeqEnd p : Nat) : Option (UidEnt × Nat) :=
  let descr := mem p
  if descrType descr ≠ uuidDescType then none
  else
    match elementLen mem true (descrSize descr) (p + 1) (pSeqEnd - (p + 1)) with
    | none => none
    | some (uuidLen, p) =>
        if (uuidLen = 2 ∨ uuidLen = 4 ∨ uuidLen = 16) ∧ p + uuidLen ≤ pSeqEnd then
          some (⟨uuidLen, window mem p uuidLen⟩, p + uuidLen)
        else none

/-- `sdpu_extract_uid_seq` at `p` with `param_len` bytes of parameters left:
the UUIDs and the position after the sequence, which must end where its
header says. -/
def sdpuExtractUidSeq (mem : Nat → UInt8) (p paramLen : Nat) : Option (List UidEnt × Nat) :=
  if paramLen < 1 then none
  else
    let descr := mem p
    if descrType descr ≠ dataEleSeqDescType then none
    else
      match elementLen mem true (descrSize descr) (p + 1) (paramLen - 1) with
      | none => none
      | some (seqLen, q) =>
          if paramLen - 1 - (q - (p + 1)) < seqLen then none
          else
            match elements (extractUidEntry mem (q + seqLen)) (q + seqLen) (maxUuidsPerSeq - 1) q with
            | none => none
            | some (uids, r) => if r ≠ q + seqLen then none else some (uids, r)

/-! ## The builders -/

/-- The header of an attribute ID sequence of `xx` bytes. -/
def attribSeqHeader (xx : Nat) : List UInt8 :=
  if 255 < xx then UInt8.ofNat (dataEleSeqDescType * 8 + sizeInNextWord) :: u16be xx
  else [UInt8.ofNat (dataEleSeqDescType * 8 + sizeInNextByte), UInt8.ofNat xx]

/-- One attribute ID as the client sends it. -/
def attrIdElement (attr : Nat) : List UInt8 :=
  UInt8.ofNat (uintDescType * 8 + sizeTwoBytes) :: u16be attr

/-- `sdpu_build_attrib_seq`: the IDs given (`p_attr`), or the wildcard range
`0x0000`-`0xFFFF` for none. -/
def sdpuBuildAttribSeq : Option (List Nat) → List UInt8
  | none => attribSeqHeader 5 ++ UInt8.ofNat (uintDescType * 8 + sizeFourBytes) :: (u16be 0 ++ u16be 0xFFFF)
  | some attrs => attribSeqHeader (attrs.length * 3 % 65536) ++ attrs.flatMap attrIdElement

/-- One UUID of a request at its shortest size. -/
def uuidElement (uuid : Uuid) : List UInt8 :=
  let len := uuid.getShortestRepresentationSize
  if len = 2 then UInt8.ofNat (uuidDescType * 8 + sizeTwoBytes) :: u16be uuid.as16Bit.toNat
  else if len = 4 then UInt8.ofNat (uuidDescType * 8 + sizeFourBytes) :: u32be uuid.as32Bit.toNat
  else if len = 16 then UInt8.ofNat (uuidDescType * 8 + sizeSixteenBytes) :: uuid.to128BitBE
  else []

/-- The loop of `sdpu_build_uuid_seq`: the UUIDs while each fits in the bytes
left (`bytes_left`), and the bytes left after them. -/
def buildUuidElements : List Uuid → Nat → List UInt8 × Nat
  | [], left => ([], left)
  | uuid :: uuids, left =>
      if left < uuid.getShortestRepresentationSize + 1 then ([], left)
      else
        let rest := buildUuidElements uuids (left - (uuid.getShortestRepresentationSize + 1))
        (uuidElement uuid ++ rest.1, rest.2)

/-- `sdpu_build_uuid_seq`: the sequence and the bytes left after it; nothing
is written without room for the header.  The length byte is the low byte of
the length written. -/
def sdpuBuildUuidSeq (uuids : List Uuid) (bytesLeft : Nat) : List UInt8 × Nat :=
  if bytesLeft < 2 then ([], bytesLeft)
  else
    let body := buildUuidElements uuids (bytesLeft - 2)
    (UInt8.ofNat (dataEleSeqDescType * 8 + sizeInNextByte) :: UInt8.ofNat body.1.length :: body.1, body.2)

/-- The byte positions of a UUID are numerals of `Fin 16`. -/
local instance uuidEntNeZero : NeZero 16 := ⟨by decide⟩

/-- The entry a server keeps for a UUID sent at its shortest size: bytes 2
and 3 of a 16-bit UUID, bytes 0 to 3 of a 32-bit one, all sixteen else. -/
def shortestEnt (uuid : Uuid) : UidEnt :=
  let len := uuid.getShortestRepresentationSize
  ⟨len,
    if len = 2 then [uuid.uu 2, uuid.uu 3]
    else if len = 4 then [uuid.uu 0, uuid.uu 1, uuid.uu 2, uuid.uu 3]
    else uuid.to128BitBE⟩

/-! ## Reading back what was built -/

section RoundTrip

variable {mem : Nat → UInt8}

theorem attrIdElement_length (attr : Nat) : (attrIdElement attr).length = 3 := rfl

theorem attrIdElements_length (attrs : List Nat) : (attrs.flatMap attrIdElement).length = attrs.length * 3 := by
  induction attrs with
  | nil => rfl
  | cons attr attrs ih =>
      rw [List.flatMap_cons, List.length_append, ih, attrIdElement_length, List.length_cons]
      omega

/-- An attribute ID placed in a list reads back as the range of that one ID. -/
theorem extractAttrEntry_attrIdElement {attr q pEnd : Nat} (fits : attr < 65536)
    (placed : window mem q (attrIdElement attr).length = attrIdElement attr)
    (inside : q + (attrIdElement attr).length ≤ pEnd) :
    extractAttrEntry mem pEnd q = some (⟨attr, attr⟩, q + (attrIdElement attr).length) := by
  rw [attrIdElement_length] at placed inside ⊢
  obtain ⟨descr, value⟩ := window_eq_cons placed
  have read : u16beAt mem (q + 1) = attr := u16beAt_of_window value fits
  have typed : descrType (mem q) = uintDescType := by
    rw [descr]
    exact descrType_ofNat (by decide) (by decide)
  have sized : descrSize (mem q) = sizeTwoBytes := by
    rw [descr]
    exact descrSize_ofNat (by decide) (by decide)
  simp only [extractAttrEntry, typed, sized, ne_eq, not_true_eq_false, if_false, elementLen_two,
    if_neg (show ¬pEnd < q + 1 + 2 by omega), if_true, read]

/-- The wildcard range placed in a list reads back as itself. -/
theorem extractAttrEntry_wildcard {q pEnd : Nat}
    (placed : window mem q 5 = UInt8.ofNat (uintDescType * 8 + sizeFourBytes) :: (u16be 0 ++ u16be 0xFFFF))
    (inside : q + 5 ≤ pEnd) :
    extractAttrEntry mem pEnd q = some (⟨0, 0xFFFF⟩, q + 5) := by
  obtain ⟨descr, range⟩ := window_eq_cons placed
  obtain ⟨first, last⟩ := window_eq_append (show (u16be 0).length = 2 from rfl)
    (show window mem (q + 1) (2 + 2) = u16be 0 ++ u16be 0xFFFF from range)
  have typed : descrType (mem q) = uintDescType := by
    rw [descr]
    exact descrType_ofNat (by decide) (by decide)
  have sized : descrSize (mem q) = sizeFourBytes := by
    rw [descr]
    exact descrSize_ofNat (by decide) (by decide)
  simp only [extractAttrEntry, typed, sized, ne_eq, not_true_eq_false, if_false, elementLen_four,
    if_neg (show ¬pEnd < q + 1 + 4 by omega), if_neg (show ¬(4 = 2) by decide), if_true,
    u16beAt_of_window first (by decide), u16beAt_of_window last (by decide)]

/-- A list of attribute IDs reads back as their ranges, when there is room for
all of them; one more than the room fails the list. -/
theorem elements_attrIdElements {attrs : List Nat} (fit : ∀ attr ∈ attrs, attr < 65536) {room q : Nat}
    (placed : window mem q (attrs.length * 3) = attrs.flatMap attrIdElement) :
    elements (extractAttrEntry mem (q + attrs.length * 3)) (q + attrs.length * 3) room q =
      if attrs.length ≤ room then some (attrs.map fun attr => ⟨attr, attr⟩, q + attrs.length * 3) else none := by
  rw [← attrIdElements_length] at placed ⊢
  exact elements_encoded attrIdElement (fun attr => (⟨attr, attr⟩ : AttEnt)) attrs (fun _ _ => Nat.succ_pos _)
    (fun attr member _ here inside => extractAttrEntry_attrIdElement (fit attr member) here inside) room q placed rfl

/-- Behind the header of a list of `xx` bytes the parser reads the list's
entries up to its end. -/
theorem sdpuExtractAttrSeq_attribSeqHeader {xx p paramLen : Nat} (fits : xx < 65536)
    (placed : window mem p (attribSeqHeader xx).length = attribSeqHeader xx)
    (within : (attribSeqHeader xx).length + xx ≤ paramLen) :
    sdpuExtractAttrSeq mem p paramLen =
      elements (extractAttrEntry mem (p + (attribSeqHeader xx).length + xx)) (p + (attribSeqHeader xx).length + xx)
        (maxAttrPerSeq - 1) (p + (attribSeqHeader xx).length) := by
  unfold attribSeqHeader at placed within ⊢
  by_cases wide : 255 < xx
  · -- a two-byte length after the descriptor
    rw [if_pos wide] at placed within ⊢
    obtain ⟨descr, field⟩ := window_eq_cons placed
    have typed : descrType (mem p) = dataEleSeqDescType := by
      rw [descr]
      exact descrType_ofNat (by decide) (by decide)
    have sized : descrSize (mem p) = sizeInNextWord := by
      rw [descr]
      exact descrSize_ofNat (by decide) (by decide)
    have read : u16beAt mem (p + 1) = xx := u16beAt_of_window field fits
    simp only [List.length_cons, u16be_length] at within ⊢
    simp only [sdpuExtractAttrSeq, if_neg (show ¬paramLen < 1 by omega), typed, sized, ne_eq, not_true_eq_false,
      if_false, readSizeField_inNextWord (show 2 ≤ paramLen - 1 by omega), read,
      if_neg (show ¬paramLen - 1 - (p + 1 + 2 - (p + 1)) < xx by omega)]
  · -- a one-byte length after the descriptor
    rw [if_neg wide] at placed within ⊢
    obtain ⟨descr, field⟩ := window_eq_cons placed
    obtain ⟨length, -⟩ := window_eq_cons field
    have typed : descrType (mem p) = dataEleSeqDescType := by
      rw [descr]
      exact descrType_ofNat (by decide) (by decide)
    have sized : descrSize (mem p) = sizeInNextByte := by
      rw [descr]
      exact descrSize_ofNat (by decide) (by decide)
    have read : (mem (p + 1)).toNat = xx := by
      rw [length, UInt8.toNat_ofNat', Nat.mod_eq_of_lt (by omega)]
    simp only [List.length_cons, List.length_nil] at within ⊢
    simp only [sdpuExtractAttrSeq, if_neg (show ¬paramLen < 1 by omega), typed, sized, ne_eq, not_true_eq_false,
      if_false, readSizeField_inNextByte (show 1 ≤ paramLen - 1 by omega), read,
      if_neg (show ¬paramLen - 1 - (p + 1 + 1 - (p + 1)) < xx by omega)]

/-- The IDs `sdpu_build_attrib_seq` writes read back as one range for each ID,
in order, up to the end of what was written, when there are fewer than
`MAX_ATTR_PER_SEQ`; with more the list is refused. -/
theorem sdpuExtractAttrSeq_sdpuBuildAttribSeq {attrs : List Nat} {p paramLen : Nat}
    (fit : ∀ attr ∈ attrs, attr < 65536) (short : attrs.length * 3 < 65536)
    (placed : window mem p (sdpuBuildAttribSeq (some attrs)).length = sdpuBuildAttribSeq (some attrs))
    (within : (sdpuBuildAttribSeq (some attrs)).length ≤ paramLen) :
    sdpuExtractAttrSeq mem p paramLen =
      if attrs.length < maxAttrPerSeq then
        some (attrs.map fun attr => ⟨attr, attr⟩, p + (sdpuBuildAttribSeq (some attrs)).length)
      else none := by
  simp only [sdpuBuildAttribSeq, Nat.mod_eq_of_lt short, List.length_append, attrIdElements_length]
    at placed within ⊢
  obtain ⟨header, body⟩ := window_eq_append rfl placed
  rw [sdpuExtractAttrSeq_attribSeqHeader short header (by omega), elements_attrIdElements fit body,
    Nat.add_assoc]
  by_cases few : attrs.length < maxAttrPerSeq
  · rw [if_pos few, if_pos (by unfold maxAttrPerSeq at few ⊢; omega)]
  · rw [if_neg few, if_neg (by unfold maxAttrPerSeq at few ⊢; omega)]

/-- The wildcard list of `sdpu_build_attrib_seq` reads back as the one range
`0x0000`-`0xFFFF`. -/
theorem sdpuExtractAttrSeq_wildcard {p paramLen : Nat}
    (placed : window mem p (sdpuBuildAttribSeq none).length = sdpuBuildAttribSeq none)
    (within : (sdpuBuildAttribSeq none).length ≤ paramLen) :
    sdpuExtractAttrSeq mem p paramLen = some ([⟨0, 0xFFFF⟩], p + (sdpuBuildAttribSeq none).length) := by
  have total : (sdpuBuildAttribSeq none).length = 2 + 5 := rfl
  have headerLength : (attribSeqHeader 5).length = 2 := rfl
  rw [total] at placed within ⊢
  simp only [sdpuBuildAttribSeq] at placed
  obtain ⟨header, range⟩ := window_eq_append headerLength placed
  rw [← headerLength] at header
  rw [sdpuExtractAttrSeq_attribSeqHeader (by decide) header (by omega), headerLength,
    show maxAttrPerSeq - 1 = 14 + 1 from rfl, elements_cons (by omega) (extractAttrEntry_wildcard range (by omega)),
    elements_done (show p + 2 + 5 ≤ p + 2 + 5 from Nat.le_refl _)]
  rfl

example : sdpuExtractAttrSeq (fun i => [0x35, 0x06, 0x09, 0x00, 0x01, 0x09, 0x01, 0x00].getD i 0) 0 8 =
    some ([⟨0x0001, 0x0001⟩, ⟨0x0100, 0x0100⟩], 8) := by decide

theorem u16be_as16Bit (uuid : Uuid) : u16be uuid.as16Bit.toNat = [uuid.uu 2, uuid.uu 3] := by
  have high := (uuid.uu 2).toNat_lt
  have low := (uuid.uu 3).toNat_lt
  simp only [u16be, Uuid.as16Bit, toNat_as16Bit, List.cons.injEq, and_true]
  constructor <;> apply ofNat_eq_of_mod <;> omega

theorem u32be_as32Bit (uuid : Uuid) :
    u32be uuid.as32Bit.toNat = [uuid.uu 0, uuid.uu 1, uuid.uu 2, uuid.uu 3] := by
  have b0 := (uuid.uu 0).toNat_lt
  have b1 := (uuid.uu 1).toNat_lt
  have b2 := (uuid.uu 2).toNat_lt
  have b3 := (uuid.uu 3).toNat_lt
  simp only [u32be, u16be, Uuid.as32Bit, toNat_as32Bit, List.cons_append, List.nil_append, List.cons.injEq, and_true]
  refine ⟨?_, ?_, ?_, ?_⟩ <;> apply ofNat_eq_of_mod <;> omega

theorem shortestEnt_len (uuid : Uuid) : (shortestEnt uuid).len = uuid.getShortestRepresentationSize := rfl

theorem shortestEnt_value_length (uuid : Uuid) : (shortestEnt uuid).value.length = (shortestEnt uuid).len := by
  unfold shortestEnt
  dsimp only
  split_ifs with two four
  · rw [two]
    rfl
  · rw [four]
    rfl
  · have sixteen : uuid.getShortestRepresentationSize = 16 := by
      rcases uuid.getShortestRepresentationSize_cases with size | size | size
      · exact absurd size two
      · exact absurd size four
      · exact size
    rw [sixteen, Uuid.to128BitBE, List.length_ofFn]

/-- A UUID is sent as the descriptor of its shortest size and the bytes the
server keeps for it. -/
theorem uuidElement_eq (uuid : Uuid) :
    uuidElement uuid =
      UInt8.ofNat (uuidDescType * 8 + sizeIndexOf (shortestEnt uuid).len) :: (shortestEnt uuid).value := by
  unfold uuidElement shortestEnt
  dsimp only
  rcases uuid.getShortestRepresentationSize_cases with size | size | size
  · rw [if_pos size, if_pos size, size, u16be_as16Bit]
    rfl
  · rw [if_neg (by omega), if_pos size, if_neg (by omega), if_pos size, size, u32be_as32Bit]
    rfl
  · rw [if_neg (by omega), if_neg (by omega), if_pos size, if_neg (by omega), if_neg (by omega), size]
    rfl

theorem uuidElement_length (uuid : Uuid) : (uuidElement uuid).length = uuid.getShortestRepresentationSize + 1 := by
  rw [uuidElement_eq, List.length_cons, shortestEnt_value_length, shortestEnt_len]

/-- A UUID of two, four or sixteen bytes placed in a sequence reads back as
itself. -/
theorem extractUidEntry_of_placed {q pSeqEnd len : Nat} {bytes : List UInt8}
    (sized : len = 2 ∨ len = 4 ∨ len = 16) (long : bytes.length = len)
    (placed : window mem q (bytes.length + 1) = UInt8.ofNat (uuidDescType * 8 + sizeIndexOf len) :: bytes)
    (inside : q + (bytes.length + 1) ≤ pSeqEnd) :
    extractUidEntry mem pSeqEnd q = some (⟨len, bytes⟩, q + (bytes.length + 1)) := by
  obtain ⟨descr, value⟩ := window_eq_cons placed
  have indexed : sizeIndexOf len < 8 ∧ uuidDescType * 8 + sizeIndexOf len < 256 := by
    rcases sized with size | size | size <;> rw [size] <;> decide
  have typed : descrType (mem q) = uuidDescType := by
    rw [descr]
    exact descrType_ofNat indexed.1 indexed.2
  have sizeIndex : descrSize (mem q) = sizeIndexOf len := by
    rw [descr]
    exact descrSize_ofNat indexed.1 indexed.2
  have length : elementLen mem true (sizeIndexOf len) (q + 1) (pSeqEnd - (q + 1)) = some (len, q + 1) := by
    rcases sized with size | size | size <;> rw [size] <;> rfl
  simp only [extractUidEntry, typed, sizeIndex, ne_eq, not_true_eq_false, if_false, length]
  rw [if_pos ⟨sized, by omega⟩, ← long, value, Nat.add_comm bytes.length 1, Nat.add_assoc]

theorem extractUidEntry_uuidElement {uuid : Uuid} {q pSeqEnd : Nat}
    (placed : window mem q (uuidElement uuid).length = uuidElement uuid)
    (inside : q + (uuidElement uuid).length ≤ pSeqEnd) :
    extractUidEntry mem pSeqEnd q = some (shortestEnt uuid, q + (uuidElement uuid).length) := by
  rw [uuidElement_eq, List.length_cons] at placed inside ⊢
  exact extractUidEntry_of_placed (uuid.getShortestRepresentationSize_cases) (shortestEnt_value_length uuid)
    placed inside

/-- With room for all of them, the loop of `sdpu_build_uuid_seq` writes every
UUID. -/
theorem buildUuidElements_fst {uuids : List Uuid} {left : Nat} (room : 17 * uuids.length ≤ left) :
    (buildUuidElements uuids left).1 = uuids.flatMap uuidElement := by
  induction uuids generalizing left with
  | nil => rfl
  | cons uuid uuids ih =>
      have small : uuid.getShortestRepresentationSize ≤ 16 := by
        rcases uuid.getShortestRepresentationSize_cases with size | size | size <;> omega
      rw [List.length_cons] at room
      rw [buildUuidElements, if_neg (by omega)]
      dsimp only
      rw [List.flatMap_cons, ih]
      omega

theorem flatMap_uuidElement_length (uuids : List Uuid) : (uuids.flatMap uuidElement).length ≤ 17 * uuids.length := by
  induction uuids with
  | nil => exact Nat.le_refl 0
  | cons uuid uuids ih =>
      have small : uuid.getShortestRepresentationSize ≤ 16 := by
        rcases uuid.getShortestRepresentationSize_cases with size | size | size <;> omega
      rw [List.flatMap_cons, List.length_append, uuidElement_length, List.length_cons]
      omega

theorem sdpuBuildUuidSeq_fst {uuids : List Uuid} {bytesLeft : Nat} (room : 2 + 17 * uuids.length ≤ bytesLeft) :
    (sdpuBuildUuidSeq uuids bytesLeft).1 =
      UInt8.ofNat (dataEleSeqDescType * 8 + sizeInNextByte) :: UInt8.ofNat (uuids.flatMap uuidElement).length ::
        uuids.flatMap uuidElement := by
  rw [sdpuBuildUuidSeq, if_neg (by omega)]
  dsimp only
  rw [buildUuidElements_fst (by omega)]

/-- The UUIDs `sdpu_build_uuid_seq` writes read back as the entries of their
shortest sizes, in order, up to the end of what was written, when there are
fewer than `MAX_UUIDS_PER_SEQ` and room for all of them. -/
theorem sdpuExtractUidSeq_sdpuBuildUuidSeq {uuids : List Uuid} {bytesLeft p paramLen : Nat}
    (few : uuids.length < maxUuidsPerSeq) (room : 2 + 17 * uuids.length ≤ bytesLeft)
    (placed : window mem p (sdpuBuildUuidSeq uuids bytesLeft).1.length = (sdpuBuildUuidSeq uuids bytesLeft).1)
    (within : (sdpuBuildUuidSeq uuids bytesLeft).1.length ≤ paramLen) :
    sdpuExtractUidSeq mem p paramLen = some (uuids.map shortestEnt, p + (sdpuBuildUuidSeq uuids bytesLeft).1.length) := by
  have bodyLength := flatMap_uuidElement_length uuids
  have byteSized : (uuids.flatMap uuidElement).length < 256 := by
    unfold maxUuidsPerSeq at few
    omega
  rw [sdpuBuildUuidSeq_fst room] at placed within ⊢
  simp only [List.length_cons] at placed within ⊢
  obtain ⟨descr, rest⟩ := window_eq_cons placed
  obtain ⟨length, body⟩ := window_eq_cons rest
  have typed : descrType (mem p) = dataEleSeqDescType := by
    rw [descr]
    exact descrType_ofNat (by decide) (by decide)
  have sized : descrSize (mem p) = sizeInNextByte := by
    rw [descr]
    exact descrSize_ofNat (by decide) (by decide)
  have read : elementLen mem true sizeInNextByte (p + 1) (paramLen - 1) =
      some ((uuids.flatMap uuidElement).length, p + 1 + 1) :=
    elementLen_inNextByte length byteSized (by omega)
  have entries := elements_encoded uuidElement shortestEnt uuids (fun uuid _ => by rw [uuidElement_length]; omega)
    (fun uuid _ q here inside => extractUidEntry_uuidElement here inside) (maxUuidsPerSeq - 1) (p + 1 + 1) body rfl
  rw [if_pos (by unfold maxUuidsPerSeq at few ⊢; omega)] at entries
  simp only [sdpuExtractUidSeq, if_neg (show ¬paramLen < 1 by omega), typed, sized, ne_eq, not_true_eq_false,
    if_false, read, if_neg (show ¬paramLen - 1 - (p + 1 + 1 - (p + 1)) < (uuids.flatMap uuidElement).length by omega),
    entries, not_true_eq_false, if_false]
  congr 2
  omega

end RoundTrip

/-! ## What the parsers read -/

section Reads

variable {mem mem' : Nat → UInt8}

theorem extractAttrEntry_forward {pEnd p q : Nat} {ent : AttEnt} (read : extractAttrEntry mem pEnd p = some (ent, q)) :
    p ≤ q := by
  unfold extractAttrEntry at read
  dsimp only at read
  split_ifs at read with untyped
  rcases field : elementLen mem false (descrSize (mem p)) (p + 1) (pEnd - (p + 1)) with _ | ⟨attrLen, r⟩
  · rw [field] at read
    cases read
  · have after := (elementLen_bounds field).1
    rw [field] at read
    dsimp only at read
    split_ifs at read <;> cases read <;> omega

/-- An entry reads only the bytes of the list from its position on. -/
theorem extractAttrEntry_congr {pEnd p : Nat} (agree : ∀ i, p ≤ i → i < pEnd → mem i = mem' i) (going : p < pEnd) :
    extractAttrEntry mem pEnd p = extractAttrEntry mem' pEnd p := by
  have descr : mem p = mem' p := agree p (Nat.le_refl p) going
  have field : elementLen mem false (descrSize (mem' p)) (p + 1) (pEnd - (p + 1)) =
      elementLen mem' false (descrSize (mem' p)) (p + 1) (pEnd - (p + 1)) :=
    elementLen_congr fun i low high => agree i (by omega) (by omega)
  unfold extractAttrEntry
  dsimp only
  rw [descr, field]
  split_ifs
  · rfl
  · rcases length : elementLen mem' false (descrSize (mem' p)) (p + 1) (pEnd - (p + 1)) with _ | ⟨attrLen, q⟩
    · rfl
    · have after := (elementLen_bounds length).1
      dsimp only
      split_ifs with short
      · rfl
      · have first : u16beAt mem q = u16beAt mem' q := u16beAt_congr fun i low high => agree i (by omega) (by omega)
        rw [first]
      · have first : u16beAt mem q = u16beAt mem' q := u16beAt_congr fun i low high => agree i (by omega) (by omega)
        have last : u16beAt mem (q + 2) = u16beAt mem' (q + 2) :=
          u16beAt_congr fun i low high => agree i (by omega) (by omega)
        rw [first, last]
      · rfl

/-- `sdpu_extract_attr_seq` reads nothing past the `param_len` bytes of
parameters it is given. -/
theorem sdpuExtractAttrSeq_congr {p paramLen : Nat} (agree : ∀ i, p ≤ i → i < p + paramLen → mem i = mem' i) :
    sdpuExtractAttrSeq mem p paramLen = sdpuExtractAttrSeq mem' p paramLen := by
  unfold sdpuExtractAttrSeq
  by_cases empty : paramLen < 1
  · rw [if_pos empty, if_pos empty]
  · have descr : mem p = mem' p := agree p (Nat.le_refl p) (by omega)
    have field : readSizeField mem (descrSize (mem' p)) (p + 1) (paramLen - 1) =
        readSizeField mem' (descrSize (mem' p)) (p + 1) (paramLen - 1) :=
      readSizeField_congr fun i low high => agree i (by omega) (by omega)
    rw [if_neg empty, if_neg empty]
    dsimp only
    rw [descr, field]
    split_ifs
    · rfl
    · rcases read : readSizeField mem' (descrSize (mem' p)) (p + 1) (paramLen - 1) with _ | ⟨listLen, q⟩
      · rfl
      · have bounds := readSizeField_bounds read
        dsimp only
        split_ifs with long
        · rfl
        · -- the list lies within the parameters, and each entry reads from its position on
          exact elements_congr
            (fun r low high => extractAttrEntry_congr (fun i low' high' => agree i (by omega) (by omega)) high)
            (fun r ent s entry => extractAttrEntry_forward entry) _ q (Nat.le_refl q)

theorem extractUidEntry_forward {pSeqEnd p q : Nat} {ent : UidEnt}
    (read : extractUidEntry mem pSeqEnd p = some (ent, q)) : p ≤ q := by
  unfold extractUidEntry at read
  dsimp only at read
  split_ifs at read with untyped
  rcases field : elementLen mem true (descrSize (mem p)) (p + 1) (pSeqEnd - (p + 1)) with _ | ⟨uuidLen, r⟩
  · rw [field] at read
    cases read
  · have after := (elementLen_bounds field).1
    rw [field] at read
    dsimp only at read
    split_ifs at read
    cases read
    omega

/-- A UUID reads only the bytes of the sequence from its position on. -/
theorem extractUidEntry_congr {pSeqEnd p : Nat} (agree : ∀ i, p ≤ i → i < pSeqEnd → mem i = mem' i)
    (going : p < pSeqEnd) : extractUidEntry mem pSeqEnd p = extractUidEntry mem' pSeqEnd p := by
  have descr : mem p = mem' p := agree p (Nat.le_refl p) going
  have field : elementLen mem true (descrSize (mem' p)) (p + 1) (pSeqEnd - (p + 1)) =
      elementLen mem' true (descrSize (mem' p)) (p + 1) (pSeqEnd - (p + 1)) :=
    elementLen_congr fun i low high => agree i (by omega) (by omega)
  unfold extractUidEntry
  dsimp only
  rw [descr, field]
  split_ifs
  · rfl
  · rcases length : elementLen mem' true (descrSize (mem' p)) (p + 1) (pSeqEnd - (p + 1)) with _ | ⟨uuidLen, q⟩
    · rfl
    · have after := (elementLen_bounds length).1
      dsimp only
      split_ifs with valid
      · have value : window mem q uuidLen = window mem' q uuidLen :=
          window_congr fun i low high => agree i (by omega) (by omega)
        rw [value]
      · rfl

/-- `sdpu_extract_uid_seq` reads nothing past the `param_len` bytes of
parameters it is given. -/
theorem sdpuExtractUidSeq_congr {p paramLen : Nat} (agree : ∀ i, p ≤ i → i < p + paramLen → mem i = mem' i) :
    sdpuExtractUidSeq mem p paramLen = sdpuExtractUidSeq mem' p paramLen := by
  unfold sdpuExtractUidSeq
  by_cases empty : paramLen < 1
  · rw [if_pos empty, if_pos empty]
  · have descr : mem p = mem' p := agree p (Nat.le_refl p) (by omega)
    have field : elementLen mem true (descrSize (mem' p)) (p + 1) (paramLen - 1) =
        elementLen mem' true (descrSize (mem' p)) (p + 1) (paramLen - 1) :=
      elementLen_congr fun i low high => agree i (by omega) (by omega)
    rw [if_neg empty, if_neg empty]
    dsimp only
    rw [descr, field]
    split_ifs
    · rfl
    · rcases read : elementLen mem' true (descrSize (mem' p)) (p + 1) (paramLen - 1) with _ | ⟨seqLen, q⟩
      · rfl
      · have bounds := elementLen_bounds read
        dsimp only
        split_ifs with long
        · rfl
        · have loop : elements (extractUidEntry mem (q + seqLen)) (q + seqLen) (maxUuidsPerSeq - 1) q =
              elements (extractUidEntry mem' (q + seqLen)) (q + seqLen) (maxUuidsPerSeq - 1) q :=
            elements_congr
              (fun r low high => extractUidEntry_congr (fun i low' high' => agree i (by omega) (by omega)) high)
              (fun r ent s entry => extractUidEntry_forward entry) _ q (Nat.le_refl q)
          rw [loop]

end Reads

/-- The request parameters a client builds are the ones the server reads:
up to `SDP_MAX_ATTR_FILTERS` attribute IDs come back as one range for each,
the wildcard list as the full range and up to `SDP_MAX_UUID_FILTERS` UUIDs as
their shortest big-endian bytes, each sequence consuming exactly what was
written; and whatever the bytes, neither parser reads past `param_len`. -/
theorem sdpRequestParameters_roundTrip :
    (∀ (attrs : List Nat) (mem : Nat → UInt8) (p paramLen : Nat),
        attrs.length ≤ sdpMaxAttrFilters → (∀ attr ∈ attrs, attr < 65536) →
        window mem p (sdpuBuildAttribSeq (some attrs)).length = sdpuBuildAttribSeq (some attrs) →
        (sdpuBuildAttribSeq (some attrs)).length ≤ paramLen →
        sdpuExtractAttrSeq mem p paramLen =
          some (attrs.map fun attr => ⟨attr, attr⟩, p + (sdpuBuildAttribSeq (some attrs)).length)) ∧
    (∀ (mem : Nat → UInt8) (p paramLen : Nat),
        window mem p (sdpuBuildAttribSeq none).length = sdpuBuildAttribSeq none →
        (sdpuBuildAttribSeq none).length ≤ paramLen →
        sdpuExtractAttrSeq mem p paramLen = some ([⟨0x0000, 0xFFFF⟩], p + (sdpuBuildAttribSeq none).length)) ∧
    (∀ (uuids : List Uuid) (bytesLeft : Nat) (mem : Nat → UInt8) (p paramLen : Nat),
        uuids.length ≤ sdpMaxUuidFilters → 2 + 17 * uuids.length ≤ bytesLeft →
        window mem p (sdpuBuildUuidSeq uuids bytesLeft).1.length = (sdpuBuildUuidSeq uuids bytesLeft).1 →
        (sdpuBuildUuidSeq uuids bytesLeft).1.length ≤ paramLen →
        sdpuExtractUidSeq mem p paramLen =
          some (uuids.map shortestEnt, p + (sdpuBuildUuidSeq uuids bytesLeft).1.length)) ∧
    (∀ (mem mem' : Nat → UInt8) (p paramLen : Nat), (∀ i, p ≤ i → i < p + paramLen → mem i = mem' i) →
        sdpuExtractAttrSeq mem p paramLen = sdpuExtractAttrSeq mem' p paramLen ∧
          sdpuExtractUidSeq mem p paramLen = sdpuExtractUidSeq mem' p paramLen) := by
  refine ⟨?_, ?_, ?_, ?_⟩
  · intro attrs mem p paramLen few fit placed within
    have short : attrs.length < maxAttrPerSeq := by
      unfold sdpMaxAttrFilters at few
      unfold maxAttrPerSeq
      omega
    rw [sdpuExtractAttrSeq_sdpuBuildAttribSeq fit (by unfold maxAttrPerSeq at short; omega) placed within,
      if_pos short]
  · intro mem p paramLen placed within
    exact sdpuExtractAttrSeq_wildcard placed within
  · intro uuids bytesLeft mem p paramLen few room placed within
    have short : uuids.length < maxUuidsPerSeq := by
      unfold sdpMaxUuidFilters at few
      unfold maxUuidsPerSeq
      omega
    exact sdpuExtractUidSeq_sdpuBuildUuidSeq short room placed within
  · intro mem mem' p paramLen agree
    exact ⟨sdpuExtractAttrSeq_congr agree, sdpuExtractUidSeq_congr agree⟩

end Sdp
end BluetoothStack
