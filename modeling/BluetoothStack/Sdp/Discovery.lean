import BluetoothStack.Sdp.RequestCodec
import BluetoothStack.Library.Parsed
import BluetoothStack.Library.Arena

namespace BluetoothStack
namespace Sdp

open ByteStream

/-!
# The client's parser of attribute lists

When a response of the server is complete, `save_attr_seq` reads one
attribute list from it into the discovery database: a sequence of pairs of an
attribute ID and a data element, each element read by `add_attr`.  `add_attr`
reads a descriptor and its size, takes memory for a node from the database,
stores the element's value in it and links it into its parent's chain; a
sequence or alternative takes its node first and reads its children, one
nesting level down, until their bytes reach its end.

The data received is a list of bytes and positions index into it; a read
past its end is a read outside the response, which the model reports
(`Parsed.stray`) instead of inventing the byte.  Every read of `add_attr` is
checked against `p_end` first; the first read of `save_attr_seq` is not.  The
database is its allocator (`mem_free`, a `uint32_t`, and `p_free_mem`), the
records read so far, and the places of its memory the parser writes a node's
fields or value into.  Nodes have the sizes of a 64-bit target.
-/

/-! ## Constants -/

/-- `TWO_COMP_INT_DESC_TYPE`. -/
def twoCompIntDescType : Nat := 2
/-- `BOOLEAN_DESC_TYPE`. -/
def booleanDescType : Nat := 5
/-- `MAX_NEST_LEVELS`. -/
def maxNestLevels : Nat := 5
/-- `SDP_ADDITIONAL_LIST_MASK`, the flag bit of `nest_level`. -/
def sdpAdditionalListMask : Nat := 0x80
/-- `SDP_DISC_ATTR_LEN_MASK`. -/
def sdpDiscAttrLenMask : Nat := 0x0FFF
/-- `ATTR_ID_PROTOCOL_DESC_LIST`. -/
def attrIdProtocolDescList : Nat := 0x0004
/-- `ATTR_ID_ADDITION_PROTO_DESC_LISTS`. -/
def attrIdAdditionProtoDescLists : Nat := 0x000D
/-- `sizeof(tSDP_DISC_ATTR)`: the next pointer, the ID, the length and type,
and the value union at `discAttrValueOffset`. -/
def sizeofDiscAttr : Nat := 24
/-- `offsetof(tSDP_DISC_ATTR, attr_value)`. -/
def discAttrValueOffset : Nat := 16
/-- `sizeof(tSDP_DISC_REC)`. -/
def sizeofDiscRec : Nat := 32
/-- `sdp_base_uuid`, of which a 128-bit UUID is compared from byte 4 on. -/
def sdpBaseUuid : List UInt8 :=
  [0x00, 0x00, 0x00, 0x00, 0x00, 0x00, 0x10, 0x00, 0x80, 0x00, 0x00, 0x80, 0x5F, 0x9B, 0x34, 0xFB]

/-! ## Reads -/

/-- `count` bytes read one by one from `i` of the data received, or `none`
when one of them lies past its end. -/
def readArray (msg : List UInt8) (i : Nat) : Nat → Option (List UInt8)
  | 0 => some []
  | count + 1 => do
      let byte ← msg[i]?
      let rest ← readArray msg (i + 1) count
      return byte :: rest

/-- `BE_STREAM_TO_UINT16` at `i`. -/
def readU16At (msg : List UInt8) (i : Nat) : Option Nat := do
  let high ← msg[i]?
  let low ← msg[i + 1]?
  return readU16be high low

/-- `BE_STREAM_TO_UINT32` at `i`. -/
def readU32At (msg : List UInt8) (i : Nat) : Option Nat := do
  let high ← readU16At msg i
  let low ← readU16At msg (i + 2)
  return 65536 * high + low

/-- `sdpu_get_len_from_type`: the size a descriptor announces and where its
data starts, or `NULL` when its size field would run past `p_end`.
`detectNil` is the flag `stack_sdp_detect_nil_property_type`, under which
the nil descriptor announces no data.  A four-byte size is kept in 16 bits. -/
def sdpuGetLenFromType (detectNil : Bool) (msg : List UInt8) (pEnd : Nat) (type : UInt8) (p : Nat) :
    Parsed (Option (Nat × Nat)) :=
  match type.toNat % 8 with
  | 0 => return some (if detectNil && type == 0 then 0 else 1, p)
  | 1 => return some (2, p)
  | 2 => return some (4, p)
  | 3 => return some (8, p)
  | 4 => return some (16, p)
  | 5 => do
      if pEnd < p + 1 then return none
      let len ← Parsed.ofOption msg[p]?
      return some (len.toNat, p + 1)
  | 6 => do
      if pEnd < p + 2 then return none
      let len ← Parsed.ofOption (readU16At msg p)
      return some (len, p + 2)
  | _ => do
      if pEnd < p + 4 then return none
      let len ← Parsed.ofOption (readU32At msg p)
      return some (len % 65536, p + 4)

/-! ## The discovery database -/

/-- What the value union of a `tSDP_DISC_ATTR` holds. -/
inductive DiscVal where
  | u8 (value : Nat)
  | u16 (value : Nat)
  | u32 (value : Nat)
  | array (bytes : List UInt8)
  | unset
deriving DecidableEq, Repr

/-- The bytes of the value union a value is stored in. -/
def DiscVal.size : DiscVal → Nat
  | .u8 _ => 1
  | .u16 _ => 2
  | .u32 _ => 4
  | .array bytes => bytes.length
  | .unset => 0

/-- A `tSDP_DISC_ATTR` and the attributes chained below it: its ID, its
length and type word, and its value, or the chain `p_sub_attr` starts. -/
inductive DiscAttr where
  | leaf (attrId attrLenType : Nat) (value : DiscVal)
  | list (attrId attrLenType : Nat) (subAttrs : List DiscAttr)
deriving Repr

/-- The fields of `tSDP_DISCOVERY_DB` the parser reads and writes: its free
memory, the records read so far as the chains of their attributes, and the
places of its memory, start and length, the parser has written a node's
fields or value into.  (The pointer writes that link a node into a chain go
into nodes written before.) -/
structure DiscDb where
  memFree : Nat
  pFreeMem : Nat
  records : List (List DiscAttr)
  written : List (Nat × Nat)
  /-- `mem_free` is a `uint32_t`. -/
  memFree_lt : memFree < 2 ^ 32

namespace DiscDb

/-- `p_free_mem += size; mem_free -= size`, with `mem_free` a `uint32_t`. -/
def take (db : DiscDb) (size : Nat) : DiscDb :=
  { db with pFreeMem := db.pFreeMem + size, memFree := (db.memFree + 2 ^ 32 - size) % 2 ^ 32,
            memFree_lt := Nat.mod_lt _ (Nat.two_pow_pos 32) }

/-- A write of `count` bytes at `start`. -/
def write (db : DiscDb) (start count : Nat) : DiscDb :=
  { db with written := db.written ++ [(start, count)] }

/-- The allocator of the database as an arena. -/
def arena (db : DiscDb) : Arena := ⟨db.pFreeMem, db.memFree, db.written⟩

@[simp]
theorem take_arena (db : DiscDb) (size : Nat) : (db.take size).arena = db.arena.take (2 ^ 32) size := rfl

@[simp]
theorem write_arena (db : DiscDb) (start count : Nat) :
    (db.write start count).arena = db.arena.write start count := rfl

@[simp]
theorem write_memFree (db : DiscDb) (start count : Nat) : (db.write start count).memFree = db.memFree := rfl

/-- Taking what is free does not wrap `mem_free`. -/
theorem take_memFree {db : DiscDb} {size : Nat} (enough : size ≤ db.memFree) :
    (db.take size).memFree = db.memFree - size := by
  show (db.memFree + 2 ^ 32 - size) % 2 ^ 32 = db.memFree - size
  have fits := db.memFree_lt
  rw [show db.memFree + 2 ^ 32 - size = (db.memFree - size) + 2 ^ 32 by omega, Nat.add_mod_right]
  exact Nat.mod_eq_of_lt (by omega)

/-- Link an attribute at the end of the chain of the last record. -/
def linkToRecord (db : DiscDb) (attr : DiscAttr) : DiscDb :=
  { db with records := db.records.dropLast ++ [db.records.getLastD [] ++ [attr]] }

@[simp]
theorem linkToRecord_arena (db : DiscDb) (attr : DiscAttr) : (db.linkToRecord attr).arena = db.arena := rfl

end DiscDb

/-- `add_record`: a record with no attributes at the end of the database, or
`NULL` when its node does not fit. -/
def addRecord (db : DiscDb) : Option DiscDb :=
  if db.memFree < sizeofDiscRec then none
  else some { (db.write db.pFreeMem sizeofDiscRec).take sizeofDiscRec with records := db.records ++ [[]] }

/-! ## `add_attr` -/

/-- What `add_attr` reads before it stores anything: the descriptor, where
the element's data starts, its length in 12 bits, and the size of the node it
needs, rounded up to a multiple of four. -/
structure AttrHeader where
  type : UInt8
  data : Nat
  attrLen : Nat
  totalLen : Nat
deriving DecidableEq, Repr

/-- The first part of `add_attr`: the header of the element at `p`, or `NULL`
when it or its data would run past `p_end`. -/
def readAttrHeader (detectNil : Bool) (msg : List UInt8) (pEnd p : Nat) : Parsed (Option AttrHeader) := do
  if pEnd < p + 1 then return none
  let type ← Parsed.ofOption msg[p]?
  let some (attrLen, q) ← sdpuGetLenFromType detectNil msg pEnd type (p + 1) | return none
  if pEnd < q + attrLen then return none
  let attrLen := attrLen &&& sdpDiscAttrLenMask
  let totalLen := if 4 < attrLen then attrLen - 4 + sizeofDiscAttr else sizeofDiscAttr
  if pEnd < q + attrLen then return none
  return some ⟨type, q, attrLen, (totalLen + 3) / 4 * 4⟩

/-- The descriptor type of an element, `(type >> 3) & 0x0f`. -/
def AttrHeader.attrType (h : AttrHeader) : Nat := (h.type.toNat >>> 3) &&& 0x0F

/-- `attr_len_type` as `add_attr` first stores it. -/
def AttrHeader.lenType (h : AttrHeader) : Nat := h.attrLen ||| (h.attrType <<< 12)

/-- What `add_attr` leaves.  `next` is the pointer it returns, `none` for
`NULL`; `linked` is the node it linked into its parent's chain, if any. -/
structure AddAttr where
  next : Option Nat
  db : DiscDb
  linked : Option DiscAttr

/-- The end of `add_attr` for a value stored in the node: the value is
written into the union, the node's memory taken and the node linked. -/
def storeLeaf (db : DiscDb) (h : AttrHeader) (attrId lenType : Nat) (value : DiscVal) (next : Nat) :
    AddAttr :=
  ⟨some next, (db.write (db.pFreeMem + discAttrValueOffset) value.size).take h.totalLen,
    some (.leaf attrId lenType value)⟩

/-- The integer an element of `attr_len` bytes at `p` holds, as `add_attr`
stores an unsigned or two's complement integer, and the position after it. -/
def readIntValue (msg : List UInt8) (attrLen p : Nat) : Parsed (DiscVal × Nat) :=
  if attrLen = 1 then do
    let v ← Parsed.ofOption msg[p]?
    return (.u8 v.toNat, p + 1)
  else if attrLen = 2 then do
    let v ← Parsed.ofOption (readU16At msg p)
    return (.u16 v, p + 2)
  else if attrLen = 4 then do
    let v ← Parsed.ofOption (readU32At msg p)
    return (.u32 v, p + 4)
  else do
    let bytes ← Parsed.ofOption (readArray msg p attrLen)
    return (.array bytes, p + attrLen)

/-- The UUID case of `add_attr`: a 16-bit UUID, a 32-bit one kept in 16 bits
when it fits, and a 128-bit one on the Bluetooth base kept in 16 or 32 bits;
any other length is not stored and the element skipped. -/
def storeUuid (msg : List UInt8) (db : DiscDb) (h : AttrHeader) (attrId : Nat) : Parsed AddAttr := do
  if h.attrLen = 2 then
    let v ← Parsed.ofOption (readU16At msg h.data)
    return storeLeaf db h attrId h.lenType (.u16 v) (h.data + 2)
  else if h.attrLen = 4 then
    let v ← Parsed.ofOption (readU32At msg h.data)
    if v < 0x10000 then return storeLeaf db h attrId (2 ||| (h.attrType <<< 12)) (.u16 v) (h.data + 4)
    else return storeLeaf db h attrId h.lenType (.u32 v) (h.data + 4)
  else if h.attrLen = 16 then
    let tail ← Parsed.ofOption (readArray msg (h.data + 4) 12)
    if tail = sdpBaseUuid.drop 4 then
      let front ← Parsed.ofOption (readArray msg h.data 2)
      if front = [0, 0] then
        let v ← Parsed.ofOption (readU16At msg (h.data + 2))
        return storeLeaf db h attrId (h.lenType &&& 0xF000 ||| 2) (.u16 v) (h.data + 16)
      else
        let v ← Parsed.ofOption (readU32At msg h.data)
        return storeLeaf db h attrId (h.lenType &&& 0xF000 ||| 4) (.u32 v) (h.data + 16)
    else
      let bytes ← Parsed.ofOption (readArray msg h.data 16)
      return storeLeaf db h attrId h.lenType (.array bytes) (h.data + 16)
  else return ⟨some (h.data + h.attrLen), db, none⟩

/-- The cases of `add_attr` for an element that is not a list: its value is
stored in its node, and an element of any other type only takes its node.
`storeLeaf` starts from the database with the node's ID, length and type
written. -/
def storeValue (msg : List UInt8) (db : DiscDb) (h : AttrHeader) (attrId : Nat) : Parsed AddAttr :=
  if h.attrType = uintDescType ∨ h.attrType = twoCompIntDescType then do
    let (value, next) ← readIntValue msg h.attrLen h.data
    return storeLeaf db h attrId h.lenType value next
  else if h.attrType = uuidDescType then storeUuid msg db h attrId
  else if h.attrType = textStrDescType ∨ h.attrType = urlDescType then do
    let bytes ← Parsed.ofOption (readArray msg h.data h.attrLen)
    return storeLeaf db h attrId h.lenType (.array bytes) (h.data + h.attrLen)
  else if h.attrType = booleanDescType then
    if h.attrLen = 1 then do
      let v ← Parsed.ofOption msg[h.data]?
      return storeLeaf db h attrId h.lenType (.u8 v.toNat) (h.data + 1)
    else return ⟨some (h.data + h.attrLen), db, none⟩
  else return storeLeaf db h attrId h.lenType .unset h.data

mutual

/-- `add_attr` on the element at `p`, for at most `fuel` nested calls and
rounds of its loop.  `nestLevel` holds the flag of an additional protocol
descriptor list in its top bit. -/
def addAttr (detectNil : Bool) (msg : List UInt8) (pEnd : Nat) :
    Nat → Nat → DiscDb → Nat → Nat → Parsed AddAttr
  | 0, _, _, _, _ => .outOfFuel
  | fuel + 1, p, db, attrId, nestLevel => do
      let isAdditionalList := nestLevel &&& sdpAdditionalListMask ≠ 0
      let nestLevel := nestLevel &&& (0xFF - sdpAdditionalListMask)
      let some h ← readAttrHeader detectNil msg pEnd p | return ⟨none, db, none⟩
      if db.memFree < h.totalLen then return ⟨none, db, none⟩
      -- `p_attr` is the free memory; its ID, length and type are written first
      let db := db.write db.pFreeMem discAttrValueOffset
      let pAttrEnd := h.data + h.attrLen
      if h.attrType = uintDescType ∧ isAdditionalList ∧ h.attrLen = 2 then
        let id ← Parsed.ofOption (readU16At msg h.data)
        if id = attrIdProtocolDescList then
          -- a protocol descriptor list in an additional list: the next element is its child
          let db := db.take sizeofDiscAttr
          if maxNestLevels ≤ nestLevel then return ⟨some pAttrEnd, db, none⟩
          let child ← addAttr detectNil msg pEnd fuel (h.data + 2) db attrIdProtocolDescList (nestLevel + 1)
          return ⟨child.next, child.db, some (.list attrId h.lenType child.linked.toList)⟩
        -- any other ID falls through to the integer case
        else storeValue msg db h attrId
      else if h.attrType = dataEleSeqDescType ∨ h.attrType = dataEleAltDescType then
        let db := db.take sizeofDiscAttr
        if maxNestLevels ≤ nestLevel then return ⟨some pAttrEnd, db, none⟩
        let nestLevel :=
          if isAdditionalList ∨ attrId = attrIdAdditionProtoDescLists then nestLevel ||| sdpAdditionalListMask
          else nestLevel
        let (next, db, children) ← addChildren detectNil msg pEnd fuel pAttrEnd h.data db (nestLevel + 1) []
        match next with
        | none => return ⟨none, db, none⟩
        | some next => return ⟨some next, db, some (.list attrId h.lenType children)⟩
      else storeValue msg db h attrId

/-- The loop of `add_attr` over the children of a sequence or alternative,
each read against `p_end`, until they reach the sequence's end `pAttrEnd`:
the pointer after them (`none` for `NULL`), the database, and the children
linked so far. -/
def addChildren (detectNil : Bool) (msg : List UInt8) (pEnd : Nat) :
    Nat → Nat → Nat → DiscDb → Nat → List DiscAttr → Parsed (Option Nat × DiscDb × List DiscAttr)
  | 0, _, _, _, _, _ => .outOfFuel
  | fuel + 1, pAttrEnd, p, db, nestLevel, children => do
      if pAttrEnd ≤ p then return (some p, db, children)
      let child ← addAttr detectNil msg pEnd fuel p db 0 nestLevel
      let children := children ++ child.linked.toList
      let some next := child.next | return (none, child.db, children)
      addChildren detectNil msg pEnd fuel pAttrEnd next child.db nestLevel children

end

/-! ## `save_attr_seq` -/

/-- The database after a call of `add_attr` with no parent: the node it
linked, if any, at the end of the record's chain. -/
def AddAttr.linkedDb (added : AddAttr) : DiscDb :=
  match added.linked with
  | some attr => added.db.linkToRecord attr
  | none => added.db

@[simp]
theorem AddAttr.linkedDb_arena (added : AddAttr) : added.linkedDb.arena = added.db.arena := by
  unfold AddAttr.linkedDb
  split
  · rfl
  · rfl

/-- The loop of `save_attr_seq` over the attributes of a list ending at
`pSeqEnd`: each an attribute ID read as a 16-bit unsigned integer, then the
value, read by `add_attr` against the list's end and linked to the record.
The pointer after them, `none` for `NULL`, and the database. -/
def saveAttrLoop (detectNil : Bool) (msg : List UInt8) (pSeqEnd : Nat) :
    Nat → Nat → DiscDb → Parsed (Option Nat × DiscDb)
  | 0, _, _ => .outOfFuel
  | fuel + 1, p, db => do
      if pSeqEnd ≤ p then return (some p, db)
      let type ← Parsed.ofOption msg[p]?
      let some (attrLen, q) ← sdpuGetLenFromType detectNil msg msg.length type (p + 1) | return (none, db)
      if pSeqEnd < q + attrLen then return (none, db)
      if type.toNat >>> 3 ≠ uintDescType ∨ attrLen ≠ 2 then return (none, db)
      let attrId ← Parsed.ofOption (readU16At msg q)
      let added ← addAttr detectNil msg pSeqEnd fuel (q + 2) db attrId 0
      let db := added.linkedDb
      let some next := added.next | return (none, db)
      saveAttrLoop detectNil msg pSeqEnd fuel next db

/-- `save_attr_seq` on the attribute list at `p` of the data received, whose
end is `p_msg_end`: a new record with the list's attributes.  Its first read
is not checked against `p_msg_end`. -/
def saveAttrSeq (detectNil : Bool) (fuel : Nat) (msg : List UInt8) (p : Nat) (db : DiscDb) :
    Parsed (Option Nat × DiscDb) := do
  let type ← Parsed.ofOption msg[p]?
  if type.toNat >>> 3 ≠ dataEleSeqDescType then return (none, db)
  let some (seqLen, q) ← sdpuGetLenFromType detectNil msg msg.length type (p + 1) | return (none, db)
  if msg.length < q + seqLen then return (none, db)
  let some db := addRecord db | return (none, db)
  saveAttrLoop detectNil msg (q + seqLen) fuel q db

/-! ## `process_service_attr_rsp` -/

/-- `SDP_MAX_LIST_BYTE_COUNT`, the size of `rsp_list`. -/
def sdpMaxListByteCount : Nat := 4096
/-- `SDP_MAX_CONTINUATION_LEN`. -/
def sdpMaxContinuationLen : Nat := 16
/-- `SDP_INVALID_PDU_SIZE`. -/
def sdpInvalidPduSize : Nat := 0x0004
/-- `SDP_DB_FULL`. -/
def sdpDbFull : Nat := 0xFFF4

/-- How `process_service_attr_rsp` leaves the connection after a reply. -/
inductive AttrRspStep where
  /-- `sdp_disconnect` with the reason. -/
  | disconnect (reason : Nat)
  /-- A continuation is asked for, the response so far in `rsp_list`. -/
  | continueRequest (rspList : List UInt8)
  /-- The whole response was saved as a record of the database. -/
  | saved (db : DiscDb)

/-- `process_service_attr_rsp` on a reply from its transaction ID on, with the
bytes `rsp_list` holds so far: the part of the attribute list the reply
carries is appended, and when no continuation follows the whole list is saved
by `save_attr_seq` from the start of `rsp_list` to its end.  The copy to the
raw data buffer, which reads only inside the list, is left out. -/
def processServiceAttrRsp (detectNil : Bool) (fuel : Nat) (db : DiscDb) (rspList reply : List UInt8) :
    Parsed AttrRspStep := do
  if reply.length < 4 + 2 then return .disconnect sdpInvalidPduSize
  -- the transaction ID and the parameter length are skipped
  let listByteCount ← Parsed.ofOption (readU16At reply 4)
  if sdpMaxListByteCount < rspList.length + listByteCount then return .disconnect sdpInvalidPduSize
  if reply.length < 6 + listByteCount + 1 then return .disconnect sdpInvalidPduSize
  let rspList := rspList ++ (reply.drop 6).take listByteCount
  let cont ← Parsed.ofOption reply[6 + listByteCount]?
  if cont ≠ 0 then
    if sdpMaxContinuationLen < cont.toNat then return .disconnect sdpInvalidContState
    return .continueRequest rspList
  let (next, db) ← saveAttrSeq detectNil fuel rspList 0 db
  match next with
  | none => return .disconnect sdpDbFull
  | some _ => return .saved db

end Sdp
end BluetoothStack
