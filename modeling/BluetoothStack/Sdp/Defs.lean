import BluetoothStack.Library.ByteStream

namespace BluetoothStack
namespace Sdp

open ByteStream

/-!
# The SDP database and the data elements of its attributes

A record of the server database (`tSDP_RECORD`) holds an array of attributes
in increasing order of their IDs and a pad of value bytes that the attributes
point into.  The server answers an attribute request with the attribute
entries `sdpu_build_attrib_entry` encodes: the ID as a two-byte unsigned
integer element, then the value's element header and bytes.  Its length,
`sdpu_get_attrib_entry_len`, is computed apart, and the response is cut into
pieces of entries by `sdpu_build_partial_attrib_entry`.

Lengths the code keeps in `uint16_t` are reduced modulo `2 ^ 16` where the
code computes them.
-/

/-! ## Constants -/

/-- `UINT_DESC_TYPE`. -/
def uintDescType : Nat := 1
/-- `TEXT_STR_DESC_TYPE`. -/
def textStrDescType : Nat := 4
/-- `DATA_ELE_SEQ_DESC_TYPE`. -/
def dataEleSeqDescType : Nat := 6
/-- `DATA_ELE_ALT_DESC_TYPE`. -/
def dataEleAltDescType : Nat := 7
/-- `URL_DESC_TYPE`. -/
def urlDescType : Nat := 8

/-- `SIZE_ONE_BYTE`. -/
def sizeOneByte : Nat := 0
/-- `SIZE_TWO_BYTES`. -/
def sizeTwoBytes : Nat := 1
/-- `SIZE_FOUR_BYTES`. -/
def sizeFourBytes : Nat := 2
/-- `SIZE_EIGHT_BYTES`. -/
def sizeEightBytes : Nat := 3
/-- `SIZE_SIXTEEN_BYTES`. -/
def sizeSixteenBytes : Nat := 4
/-- `SIZE_IN_NEXT_BYTE`. -/
def sizeInNextByte : Nat := 5
/-- `SIZE_IN_NEXT_WORD`. -/
def sizeInNextWord : Nat := 6
/-- `SIZE_IN_NEXT_LONG`. -/
def sizeInNextLong : Nat := 7

/-- `SDP_MAX_REC_ATTR`. -/
def sdpMaxRecAttr : Nat := 25
/-- `SDP_MAX_PAD_LEN`. -/
def sdpMaxPadLen : Nat := 600
/-- `SDP_MAX_ATTR_LEN`. -/
def sdpMaxAttrLen : Nat := 400
/-- `MAX_ATTR_PER_SEQ`. -/
def maxAttrPerSeq : Nat := 16
/-- `SDP_CONTINUATION_LEN`. -/
def sdpContinuationLen : Nat := 2
/-- `SDP_MAX_ATTR_RSPHDR_LEN`. -/
def sdpMaxAttrRsphdrLen : Nat := 10
/-- `SDP_MAX_SERVATTR_RSPHDR_LEN`. -/
def sdpMaxServattrRsphdrLen : Nat := 10

/-- `SDP_PDU_ERROR_RESPONSE`. -/
def sdpPduErrorResponse : Nat := 0x01
/-- `SDP_PDU_SERVICE_ATTR_RSP`. -/
def sdpPduServiceAttrRsp : Nat := 0x05
/-- `SDP_PDU_SERVICE_SEARCH_ATTR_RSP`. -/
def sdpPduServiceSearchAttrRsp : Nat := 0x07

/-- `SDP_INVALID_SERV_REC_HDL`. -/
def sdpInvalidServRecHdl : Nat := 0x0002
/-- `SDP_INVALID_REQ_SYNTAX`. -/
def sdpInvalidReqSyntax : Nat := 0x0003
/-- `SDP_INVALID_CONT_STATE`. -/
def sdpInvalidContState : Nat := 0x0005
/-- `SDP_NO_RESOURCES`. -/
def sdpNoResources : Nat := 0x0006
/-- `SDP_ILLEGAL_PARAMETER`. -/
def sdpIllegalParameter : Nat := 0x000B

/-! ## Records -/

/-- `tSDP_ATTRIBUTE`: the value is `len` bytes of the record's pad at
`value_ptr`, which is `NULL` (`none`) in a record that was never given a
value there. -/
structure SdpAttribute where
  len : Nat
  valuePtr : Option Nat
  id : Nat
  type : Nat
deriving DecidableEq, Repr

/-- `tSDP_RECORD`: the attribute array (`attribute`) holds `num_attributes`
entries in use, and `attr_pad` the value bytes up to `free_pad_ptr`. -/
structure SdpRecord where
  recordHandle : Nat
  freePadPtr : Nat
  numAttributes : Nat
  attributes : List SdpAttribute
  attrPad : Nat → UInt8

namespace SdpRecord

/-- The attributes in use. -/
def attrs (rec : SdpRecord) : List SdpAttribute := rec.attributes.take rec.numAttributes

/-- The value bytes of an attribute, as `ARRAY_TO_BE_STREAM` copies them. -/
def valueOf (rec : SdpRecord) (attr : SdpAttribute) : List UInt8 :=
  match attr.valuePtr with
  | none => []
  | some ptr => window rec.attrPad ptr attr.len

end SdpRecord

/-- `sdp_db_find_record`: the first record of the database with the handle. -/
def sdpDbFindRecord (db : List SdpRecord) (handle : Nat) : Option SdpRecord :=
  db.find? fun rec => rec.recordHandle == handle

/-- `sdp_db_find_attr_in_rec`: the first attribute in use whose ID lies in
`[start_attr, end_attr]`.  The code relies on the array being sorted. -/
def sdpDbFindAttrInRec (rec : SdpRecord) (startAttr endAttr : Nat) : Option SdpAttribute :=
  rec.attrs.find? fun attr => decide (startAttr ≤ attr.id) && decide (attr.id ≤ endAttr)

/-! ## Attribute entries -/

/-- The descriptor types whose element header carries the length in the bytes
that follow it. -/
def SdpAttribute.sizedByLength (attr : SdpAttribute) : Bool :=
  attr.type == textStrDescType || attr.type == dataEleSeqDescType || attr.type == dataEleAltDescType ||
    attr.type == urlDescType

/-- The size index of a value of a fixed-size type, `SIZE_IN_NEXT_BYTE` for a
length the index has no code for. -/
def sizeIndexOf (len : Nat) : Nat :=
  if len = 1 then sizeOneByte
  else if len = 2 then sizeTwoBytes
  else if len = 4 then sizeFourBytes
  else if len = 8 then sizeEightBytes
  else if len = 16 then sizeSixteenBytes
  else sizeInNextByte

/-- `sdpu_get_attrib_entry_len`: three bytes of ID, the value's header and its
bytes.  `SDP_MAX_ATTR_LEN` is above `0xFF` and below `0xFFFF`, so the header of
a sized type is two or three bytes. -/
def sdpuGetAttribEntryLen (attr : SdpAttribute) : Nat :=
  if attr.sizedByLength then (3 + (if 0xFF < attr.len then 3 else 2) + attr.len) % 65536
  else (3 + (if sizeIndexOf attr.len = sizeInNextByte then 2 else 1) + attr.len) % 65536

/-- The element header of an attribute's value. -/
def valueHeader (attr : SdpAttribute) : List UInt8 :=
  if attr.sizedByLength then
    if 0xFF < attr.len then UInt8.ofNat (attr.type * 8 + sizeInNextWord) :: u16be attr.len
    else [UInt8.ofNat (attr.type * 8 + sizeInNextByte), UInt8.ofNat attr.len]
  else if sizeIndexOf attr.len = sizeInNextByte then
    [UInt8.ofNat (attr.type * 8 + sizeInNextByte), UInt8.ofNat attr.len]
  else [UInt8.ofNat (attr.type * 8 + sizeIndexOf attr.len)]

/-- `sdpu_build_attrib_entry`: the bytes it writes. -/
def sdpuBuildAttribEntry (rec : SdpRecord) (attr : SdpAttribute) : List UInt8 :=
  UInt8.ofNat (uintDescType * 8 + sizeTwoBytes) :: u16be attr.id ++ valueHeader attr ++ rec.valueOf attr

/-- `sdpu_build_partial_attrib_entry`: the `len` bytes, or fewer at the end of
the entry, from `offset` of the entry, and the offset after them.  The
callers keep `offset` within the entry. -/
def sdpuBuildPartialAttribEntry (rec : SdpRecord) (attr : SdpAttribute) (len offset : Nat) :
    List UInt8 × Nat :=
  let attrLen := sdpuGetAttribEntryLen attr
  let len := if sdpMaxAttrLen < len then sdpMaxAttrLen else len
  let lenToCopy := if attrLen - offset < len then attrLen - offset else len
  (((sdpuBuildAttribEntry rec attr).drop offset).take lenToCopy, offset + lenToCopy)

/-- An attribute the database can hold: its value is in the pad when it has
one, and its length leaves the entry length in 16 bits. -/
def SdpAttribute.Stored (attr : SdpAttribute) : Prop :=
  (attr.len = 0 ∨ attr.valuePtr.isSome) ∧ attr.len < 65530

end Sdp
end BluetoothStack
