import BluetoothStack.Avrcp.ResponseBuilders

namespace BluetoothStack
namespace Avrcp

/-!
# AVRCP requests (packet/avrcp, packet/base/iterator.cc)

A request arrives as a byte string, wrapped in a Packet whose window is the
whole string.  Its accessors walk an Iterator over the window: += and ++
stop at the window's end, and operator* asserts that the iterator is not
at the end, so a getter either reads inside the packet or fires an
assertion, which is none here.  The integers are read byte by byte,
extract least significant byte first and extractBE most significant first.

Each request type has an IsValid that compares the packet's size with its
length fields and its attribute count; an integer difference of two
iterators is an int, converted back to size_t where the code casts it.
A GetFolderItems request that GetFolderItemsRequestBuilder serializes with
fewer than 255 attributes is valid, and its getters return the fields it was
built from.  The builder writes the number of attributes as one byte and
0xFF for none: 255 attributes come back as none.
-/

/-! ## Iterator (packet/base/iterator.cc) -/

/-- An iterator into a packet that is the whole of data: index_ runs from
packet_start_index_ = 0 to packet_end_index_ = data.length. -/
structure Iterator where
  data : List UInt8
  index : Nat

namespace Iterator

/-- packet_end_index_. -/
def stop (it : Iterator) : Nat :=
  it.data.length

/-- operator+ and operator+=: the index moves forward and stops at the end. -/
def plus (it : Iterator) (offset : Nat) : Iterator :=
  { it with index := if it.index + offset > it.stop then it.stop else it.index + offset }

/-- operator++. -/
def increment (it : Iterator) : Iterator :=
  { it with index := if it.index + 1 > it.stop then it.stop else it.index + 1 }

theorem index_increment (it : Iterator) : it.increment.index = min (it.index + 1) it.stop := by
  by_cases past : it.index + 1 > it.stop
  · rw [increment, if_pos past]
    exact (Nat.min_eq_right (Nat.le_of_lt past)).symm
  · rw [increment, if_neg past]
    exact (Nat.min_eq_left (Nat.le_of_not_lt past)).symm

@[simp]
theorem stop_plus (it : Iterator) (offset : Nat) : (it.plus offset).stop = it.stop := rfl

@[simp]
theorem stop_increment (it : Iterator) : it.increment.stop = it.stop := rfl

/-- Two ++ from inside the window bring the iterator nearer its end. -/
theorem stop_sub_increment_increment {it : Iterator} (inside : it.index < it.stop) :
    it.increment.increment.stop - it.increment.increment.index < it.stop - it.index := by
  have first := index_increment it
  have second := index_increment it.increment
  simp only [stop_increment] at second ⊢
  omega

/-- operator*: asserts index_ != packet_end_index_, and get_at_index asserts
that the index is inside the window. -/
def deref (it : Iterator) : Option UInt8 :=
  if it.index ≠ it.stop ∧ it.index < it.stop then it.data[it.index]? else none

/-- The bytes of width reads of *this, each followed by (*this)++. -/
def extractBytes : Nat → Iterator → Option (List UInt8 × Iterator)
  | 0, it => some ([], it)
  | width + 1, it => do
    let byte ← it.deref
    let (bytes, after) ← extractBytes width it.increment
    return (byte :: bytes, after)

/-- extract<T>(): byte i is or-ed in at bit 8i, so the bytes are read least
significant first. -/
def extract (width : Nat) (it : Iterator) : Option (Nat × Iterator) :=
  (extractBytes width it).map fun read => (ByteStream.leValue read.1, read.2)

/-- extractBE<T>(): the bytes read most significant first. -/
def extractBE (width : Nat) (it : Iterator) : Option (Nat × Iterator) :=
  (extractBytes width it).map fun read => (ByteStream.beValue read.1, read.2)

/-- A size_t converted to int: its low 32 bits in two's complement. -/
def sizeToInt (value : Nat) : Int :=
  if value % 2 ^ 32 < 2 ^ 31 then (value % 2 ^ 32 : Nat) else (value % 2 ^ 32 : Nat) - 2 ^ 32

/-- int operator-(const Iterator& itr): index_ - itr.index_ in size_t,
returned as an int. -/
def minus (it other : Iterator) : Int :=
  sizeToInt ((it.index + 2 ^ 64 - other.index) % 2 ^ 64)

/-! ### Reads inside the window -/

theorem plus_of_le {it : Iterator} {offset : Nat} (fits : it.index + offset ≤ it.stop) :
    it.plus offset = ⟨it.data, it.index + offset⟩ := by
  rw [plus, if_neg (Nat.not_lt.2 fits)]

theorem increment_of_lt {it : Iterator} (inside : it.index < it.stop) :
    it.increment = ⟨it.data, it.index + 1⟩ := by
  rw [increment, if_neg (Nat.not_lt.2 inside)]

/-- Below the end operator* reads the byte at the index. -/
theorem deref_of_lt {it : Iterator} (inside : it.index < it.stop) :
    it.deref = some (it.data.getD it.index 0) := by
  have inData : it.index < it.data.length := inside
  rw [deref, if_pos ⟨Nat.ne_of_lt inside, inside⟩, List.getD_eq_getElem?_getD, List.getElem?_eq_getElem inData,
    Option.getD_some]

/-- width reads that fit take the next width bytes and leave the iterator behind them. -/
theorem extractBytes_of_fits {width : Nat} {it : Iterator} (fits : it.index + width ≤ it.stop) :
    it.extractBytes width = some ((it.data.drop it.index).take width, ⟨it.data, it.index + width⟩) := by
  induction width generalizing it with
  | zero => rfl
  | succ width ih =>
    have inside : it.index < it.stop := by omega
    have inData : it.index < it.data.length := inside
    have rest : it.increment.extractBytes width =
        some ((it.data.drop (it.index + 1)).take width, ⟨it.data, it.index + 1 + width⟩) := by
      rw [increment_of_lt inside]
      exact ih (by dsimp only [stop] at fits ⊢; omega)
    rw [extractBytes, deref_of_lt inside, Option.bind_eq_bind, Option.bind_some, rest, List.drop_eq_getElem_cons inData,
      List.getD_eq_getElem?_getD, List.getElem?_eq_getElem inData, Option.getD_some, Nat.add_right_comm]
    rfl

theorem extract_of_fits {width : Nat} {it : Iterator} (fits : it.index + width ≤ it.stop) :
    it.extract width = some (ByteStream.leValue ((it.data.drop it.index).take width), ⟨it.data, it.index + width⟩) := by
  rw [extract, extractBytes_of_fits fits]
  rfl

theorem extractBE_of_fits {width : Nat} {it : Iterator} (fits : it.index + width ≤ it.stop) :
    it.extractBE width = some (ByteStream.beValue ((it.data.drop it.index).take width), ⟨it.data, it.index + width⟩) := by
  rw [extractBE, extractBytes_of_fits fits]
  rfl

/-- end() - it for an iterator at or before the end: the distance, as an int. -/
theorem minus_of_le {data : List UInt8} {k : Nat} (before : k ≤ data.length) :
    minus ⟨data, data.length⟩ ⟨data, k⟩ = sizeToInt (data.length - k) := by
  have wrapped : (data.length + 2 ^ 64 - k) % 2 ^ 64 % 2 ^ 32 = (data.length - k) % 2 ^ 32 := by
    rw [Nat.mod_mod_of_dvd _ (by decide), show data.length + 2 ^ 64 - k = data.length - k + 2 ^ 32 * 2 ^ 32 by omega,
      Nat.add_mul_mod_self_left]
  rw [minus, sizeToInt, sizeToInt, wrapped]

end Iterator

/-- An int converted to size_t. -/
def toSizeT (value : Int) : Nat :=
  (value % 2 ^ 64).toNat

/-- begin() of a packet that wraps data. -/
def packetBegin (data : List UInt8) : Iterator :=
  ⟨data, 0⟩

/-- end(). -/
def packetEnd (data : List UInt8) : Iterator :=
  ⟨data, data.length⟩

/-- The loop `for (i = 0; i < count; i++) list.push_back(it.extractBE<T>())`
of the attribute getters. -/
def extractEachBE (width : Nat) : Nat → Iterator → Option (List Nat × Iterator)
  | 0, it => some ([], it)
  | count + 1, it => do
    let (value, after) ← it.extractBE width
    let (values, last) ← extractEachBE width count after
    return (value :: values, last)

/-! ## avrcp::Packet, BrowsePacket and VendorPacket -/

/-- Packet::kMinSize(): ctype, subunit and opcode. -/
def kPacketMinSize : Nat := 3

namespace AvrcpPacket

def getCType (p : List UInt8) : Option UInt8 :=
  ((packetBegin p).deref).map (· &&& 0x0F)

def getSubunitType (p : List UInt8) : Option UInt8 :=
  (((packetBegin p).plus 1).deref).map fun byte : UInt8 => byte >>> (3 : UInt8)

def getSubunitId (p : List UInt8) : Option UInt8 :=
  (((packetBegin p).plus 1).deref).map (· &&& 0b00000111)

def getOpcode (p : List UInt8) : Option UInt8 :=
  ((packetBegin p).plus 2).deref

end AvrcpPacket

namespace BrowsePacket

def getPdu (p : List UInt8) : Option UInt8 :=
  (packetBegin p).deref

def getLength (p : List UInt8) : Option Nat :=
  (((packetBegin p).plus 1).extractBE 2).map (·.1)

def isValid (p : List UInt8) : Option Bool :=
  if p.length < kBrowseMinSize then some false
  else (getLength p).map fun length => decide (p.length = length + kBrowseMinSize)

end BrowsePacket

namespace VendorPacket

/-- PullCompanyId: three bytes shifted in, most significant first. -/
def pullCompanyId (it : Iterator) : Option Nat :=
  (it.extractBytes 3).map fun read => ByteStream.beValue read.1

def getCompanyId (p : List UInt8) : Option Nat :=
  pullCompanyId ((packetBegin p).plus kPacketMinSize)

def getCommandPdu (p : List UInt8) : Option UInt8 :=
  ((packetBegin p).plus (kPacketMinSize + 3)).deref

def getPacketType (p : List UInt8) : Option UInt8 :=
  ((packetBegin p).plus (kPacketMinSize + 4)).deref

def getParameterLength (p : List UInt8) : Option Nat :=
  (((packetBegin p).plus (kPacketMinSize + 5)).extractBE 2).map (·.1)

/-- The uint16_t parameter length is compared, as an int, with end() - start. -/
def isValid (p : List UInt8) : Option Bool :=
  if p.length < kVendorMinSize then some false
  else
    let start := (packetBegin p).plus kVendorMinSize
    (getParameterLength p).map fun length => decide ((length : Int) = (packetEnd p).minus start)

end VendorPacket

/-! ## The requests -/

namespace GetElementAttributesRequest

def kMinSize : Nat := kVendorMinSize + 9

def getIdentifier (p : List UInt8) : Option Nat :=
  (((packetBegin p).plus kVendorMinSize).extract 8).map (·.1)

def getNumAttributes (p : List UInt8) : Option Nat :=
  (((packetBegin p).plus (kVendorMinSize + 8)).extract 1).map (·.1)

def getAttributesRequested (p : List UInt8) : Option (List Nat) := do
  let (count, it) ← ((packetBegin p).plus (kVendorMinSize + 8)).extract 1
  let (attributes, _) ← extractEachBE 4 count it
  return attributes

def isValid (p : List UInt8) : Option Bool := do
  if !(← VendorPacket.isValid p) then return false
  if p.length < kMinSize then return false
  let count ← getNumAttributes p
  let attrStart := (packetBegin p).plus (kVendorMinSize + 9)
  return decide (count * 4 = toSizeT ((packetEnd p).minus attrStart))

end GetElementAttributesRequest

namespace GetFolderItemsRequest

def kMinSize : Nat := kBrowseMinSize + 10

def getScope (p : List UInt8) : Option UInt8 :=
  ((packetBegin p).plus kBrowseMinSize).deref

def getStartItem (p : List UInt8) : Option Nat :=
  (((packetBegin p).plus (kBrowseMinSize + 1)).extractBE 4).map (·.1)

def getEndItem (p : List UInt8) : Option Nat :=
  (((packetBegin p).plus (kBrowseMinSize + 5)).extractBE 4).map (·.1)

def getNumAttributes (p : List UInt8) : Option UInt8 :=
  ((packetBegin p).plus (kBrowseMinSize + 9)).deref

/-- A count of 0xFF asks for no attributes. -/
def getAttributesRequested (p : List UInt8) : Option (List Nat) := do
  let (count, it) ← ((packetBegin p).plus (kBrowseMinSize + 9)).extract 1
  if count = 0xFF then return []
  let (attributes, _) ← extractEachBE 4 count it
  return attributes

def isValid (p : List UInt8) : Option Bool := do
  if !(← BrowsePacket.isValid p) then return false
  if p.length < kMinSize then return false
  let count ← getNumAttributes p
  if count = 0xFF then return true
  let attrStart := (packetBegin p).plus kMinSize
  return decide (count.toNat * 4 = toSizeT ((packetEnd p).minus attrStart))

end GetFolderItemsRequest

namespace GetItemAttributesRequest

def kMinSize : Nat := kBrowseMinSize + 12

def getScope (p : List UInt8) : Option UInt8 :=
  ((packetBegin p).plus kBrowseMinSize).deref

def getUid (p : List UInt8) : Option Nat :=
  (((packetBegin p).plus (kBrowseMinSize + 1)).extractBE 8).map (·.1)

def getUidCounter (p : List UInt8) : Option Nat :=
  (((packetBegin p).plus (kBrowseMinSize + 9)).extractBE 2).map (·.1)

def getNumAttributes (p : List UInt8) : Option UInt8 :=
  ((packetBegin p).plus (kBrowseMinSize + 11)).deref

def getAttributesRequested (p : List UInt8) : Option (List Nat) := do
  let (count, it) ← ((packetBegin p).plus (kBrowseMinSize + 11)).extract 1
  let (attributes, _) ← extractEachBE 4 count it
  return attributes

/-- The count is checked against size() - kMinSize(), in size_t. -/
def isValid (p : List UInt8) : Option Bool := do
  if !(← BrowsePacket.isValid p) then return false
  if p.length < kMinSize then return false
  let count ← getNumAttributes p
  return decide (count.toNat * 4 = p.length - kMinSize)

end GetItemAttributesRequest

namespace SetPlayerApplicationSettingValueRequest

def kMinSize : Nat := kVendorMinSize + 1

def getNumberOfRequestedAttributes (p : List UInt8) : Option UInt8 :=
  ((packetBegin p).plus kVendorMinSize).deref

/-- for (; it < end(); it++) { push_back(*it); it++; }: every other byte from
the first attribute. -/
def attributesLoop (it : Iterator) : Option (List UInt8) :=
  if it.index < it.stop then
    match it.deref with
    | none => none
    | some attr => (attributesLoop it.increment.increment).map (attr :: ·)
  else some []
termination_by it.stop - it.index
decreasing_by all_goals exact Iterator.stop_sub_increment_increment ‹_›

/-- for (; it < end(); it++) { it++; push_back(*it); }: every other byte from
the first value. -/
def valuesLoop (it : Iterator) : Option (List UInt8) :=
  if it.index < it.stop then
    match it.increment.deref with
    | none => none
    | some value => (valuesLoop it.increment.increment).map (value :: ·)
  else some []
termination_by it.stop - it.index
decreasing_by all_goals exact Iterator.stop_sub_increment_increment ‹_›

def getRequestedAttributes (p : List UInt8) : Option (List UInt8) :=
  attributesLoop ((packetBegin p).plus (kVendorMinSize + 1))

def getRequestedValues (p : List UInt8) : Option (List UInt8) :=
  valuesLoop ((packetBegin p).plus (kVendorMinSize + 1))

def isValid (p : List UInt8) : Option Bool := do
  if !(← VendorPacket.isValid p) then return false
  if p.length < kMinSize then return false
  let count ← getNumberOfRequestedAttributes p
  let attrStart := (packetBegin p).plus (kVendorMinSize + 1)
  return decide (count.toNat * 2 = toSizeT ((packetEnd p).minus attrStart))

end SetPlayerApplicationSettingValueRequest

namespace GetCurrentPlayerApplicationSettingValueRequest

def kMinSize : Nat := kVendorMinSize + 1

def getNumberOfRequestedAttributes (p : List UInt8) : Option UInt8 :=
  ((packetBegin p).plus kVendorMinSize).deref

/-- The loop of GetRequestedAttributes: count extract8 calls. -/
def extractEach8 : Nat → Iterator → Option (List UInt8)
  | 0, _ => some []
  | count + 1, it => do
    let (attr, after) ← it.extract 1
    let attributes ← extractEach8 count after
    return UInt8.ofNat attr :: attributes

def getRequestedAttributes (p : List UInt8) : Option (List UInt8) := do
  let (count, it) ← ((packetBegin p).plus kVendorMinSize).extract 1
  extractEach8 count it

def isValid (p : List UInt8) : Option Bool := do
  if !(← VendorPacket.isValid p) then return false
  if p.length < kMinSize then return false
  let count ← getNumberOfRequestedAttributes p
  let attrStart := (packetBegin p).plus (kVendorMinSize + 1)
  return decide (count.toNat = toSizeT ((packetEnd p).minus attrStart))

end GetCurrentPlayerApplicationSettingValueRequest

namespace ChangePathRequest

def kMinSize : Nat := kBrowseMinSize + 11

def getUidCounter (p : List UInt8) : Option Nat :=
  (((packetBegin p).plus kBrowseMinSize).extractBE 2).map (·.1)

def getDirection (p : List UInt8) : Option UInt8 :=
  ((packetBegin p).plus (kBrowseMinSize + 2)).deref

def getUid (p : List UInt8) : Option Nat :=
  (((packetBegin p).plus (kBrowseMinSize + 3)).extractBE 8).map (·.1)

def isValid (p : List UInt8) : Option Bool := do
  if !(← BrowsePacket.isValid p) then return false
  return decide (p.length = kMinSize)

end ChangePathRequest

namespace SetBrowsedPlayerRequest

def kMinSize : Nat := kBrowseMinSize + 2

def getPlayerId (p : List UInt8) : Option Nat :=
  (((packetBegin p).plus kBrowseMinSize).extractBE 2).map (·.1)

def isValid (p : List UInt8) : Option Bool := do
  if !(← BrowsePacket.isValid p) then return false
  return decide (p.length = kMinSize)

end SetBrowsedPlayerRequest

namespace GetTotalNumberOfItemsRequest

def kMinSize : Nat := kBrowseMinSize + 1

def getScope (p : List UInt8) : Option UInt8 :=
  ((packetBegin p).plus kBrowseMinSize).deref

def isValid (p : List UInt8) : Option Bool := do
  if !(← BrowsePacket.isValid p) then return false
  return decide (p.length = kMinSize)

end GetTotalNumberOfItemsRequest

namespace SetAddressedPlayerRequest

def kMinSize : Nat := kVendorMinSize + 2

def getPlayerId (p : List UInt8) : Option Nat :=
  (((packetBegin p).plus kVendorMinSize).extractBE 2).map (·.1)

def isValid (p : List UInt8) : Option Bool := do
  if !(← VendorPacket.isValid p) then return false
  return decide (p.length = kMinSize)

end SetAddressedPlayerRequest

/-! ## The request builders -/

/-- BrowsePdu::CHANGE_PATH. -/
def kChangePath : Nat := 0x72

namespace GetFolderItemsRequestBuilder

/-- size(): the fixed part and four bytes per attribute. -/
def size (requestedAttrs : List UInt32) : Nat :=
  GetFolderItemsRequest.kMinSize + requestedAttrs.length * 4

/-- Serialize: the number of attributes as one byte, or 0xFF for none. -/
def serialize (scope : UInt8) (startItem endItem : UInt32) (requestedAttrs : List UInt32) : List UInt8 :=
  addPayloadOctets 1 kGetFolderItems ++ addPayloadOctetsBE 2 (size requestedAttrs - kBrowseMinSize) ++
    addPayloadOctets 1 scope.toNat ++ addPayloadOctetsBE 4 startItem.toNat ++ addPayloadOctetsBE 4 endItem.toNat ++
    if requestedAttrs.length = 0 then addPayloadOctets 1 0xFF
    else addPayloadOctets 1 requestedAttrs.length ++ requestedAttrs.flatMap fun attr => addPayloadOctetsBE 4 attr.toNat

end GetFolderItemsRequestBuilder

namespace ChangePathRequestBuilder

def serialize (uidCounter : UInt16) (direction : UInt8) (folderUid : UInt64) : List UInt8 :=
  addPayloadOctets 1 kChangePath ++ addPayloadOctetsBE 2 (ChangePathRequest.kMinSize - kBrowseMinSize) ++
    addPayloadOctetsBE 2 uidCounter.toNat ++ addPayloadOctets 1 direction.toNat ++ addPayloadOctetsBE 8 folderUid.toNat

end ChangePathRequestBuilder

/-! ## Reads at fixed offsets of a packet -/

theorem begin_plus {p : List UInt8} {k : Nat} (fits : k ≤ p.length) : (packetBegin p).plus k = ⟨p, k⟩ := by
  have fromStart : (⟨p, 0⟩ : Iterator).index + k ≤ (⟨p, 0⟩ : Iterator).stop := by
    dsimp only [Iterator.stop]
    omega
  rw [packetBegin, Iterator.plus_of_le fromStart, Nat.zero_add]

theorem deref_at {p : List UInt8} {k : Nat} (inside : k < p.length) :
    ((packetBegin p).plus k).deref = some (p.getD k 0) := by
  rw [begin_plus (Nat.le_of_lt inside)]
  exact Iterator.deref_of_lt inside

theorem extract_at {p : List UInt8} {k width : Nat} (fits : k + width ≤ p.length) :
    ((packetBegin p).plus k).extract width = some (ByteStream.leValue ((p.drop k).take width), ⟨p, k + width⟩) := by
  rw [begin_plus (by omega)]
  exact Iterator.extract_of_fits fits

theorem extractBE_at {p : List UInt8} {k width : Nat} (fits : k + width ≤ p.length) :
    ((packetBegin p).plus k).extractBE width = some (fieldAt p k width, ⟨p, k + width⟩) := by
  rw [begin_plus (by omega)]
  exact Iterator.extractBE_of_fits fits

/-- extract<uint8_t>() is the byte itself. -/
theorem extractByte_at {p : List UInt8} {k : Nat} (inside : k < p.length) :
    ((packetBegin p).plus k).extract 1 = some ((p.getD k 0).toNat, ⟨p, k + 1⟩) := by
  have single : (p.drop k).take 1 = [p.getD k 0] := by
    rw [List.drop_eq_getElem_cons inside, List.take_succ_cons, List.take_zero, List.getD_eq_getElem?_getD,
      List.getElem?_eq_getElem inside, Option.getD_some]
  rw [extract_at inside, single, ByteStream.leValue, ByteStream.leValue, Nat.mul_zero, Nat.add_zero]

/-! ## The headers -/

theorem deref_begin {p : List UInt8} (nonempty : 0 < p.length) : (packetBegin p).deref = some (p.getD 0 0) :=
  Iterator.deref_of_lt nonempty

/-- Within its three bytes every getter of BrowsePacket reads its field. -/
theorem BrowsePacket.header_of_le {p : List UInt8} (long : kBrowseMinSize ≤ p.length) :
    BrowsePacket.getPdu p = some (p.getD 0 0) ∧ BrowsePacket.getLength p = some (fieldAt p 1 2) := by
  unfold kBrowseMinSize at long
  refine ⟨deref_begin (by omega), ?_⟩
  rw [BrowsePacket.getLength, extractBE_at (by omega)]
  rfl

/-! ## The getters of GetFolderItems -/

namespace GetFolderItemsRequest

theorem getters_of_le {p : List UInt8} (long : kMinSize ≤ p.length) :
    getScope p = some (p.getD 3 0) ∧ getStartItem p = some (fieldAt p 4 4) ∧ getEndItem p = some (fieldAt p 8 4) ∧
      getNumAttributes p = some (p.getD 12 0) := by
  unfold kMinSize kBrowseMinSize at long
  refine ⟨deref_at (by unfold kBrowseMinSize; omega), ?_, ?_, deref_at (by unfold kBrowseMinSize; omega)⟩
  · rw [getStartItem, extractBE_at (by unfold kBrowseMinSize; omega)]
    rfl
  · rw [getEndItem, extractBE_at (by unfold kBrowseMinSize; omega)]
    rfl

end GetFolderItemsRequest

/-! ## What the request builders produce -/

/-- A packet whose browse length field counts the bytes behind the header. -/
theorem BrowsePacket.isValid_of_length {p : List UInt8} (long : kBrowseMinSize ≤ p.length)
    (sized : p.length = fieldAt p 1 2 + kBrowseMinSize) : BrowsePacket.isValid p = some true := by
  rw [BrowsePacket.isValid, if_neg (Nat.not_lt.2 long), (BrowsePacket.header_of_le long).2, Option.map_some]
  exact congrArg some (decide_eq_true sized)

theorem toSizeT_sizeToInt_of_lt {distance : Nat} (small : distance < 2 ^ 31) :
    toSizeT (Iterator.sizeToInt distance) = distance := by
  unfold toSizeT Iterator.sizeToInt
  rw [if_pos (by omega)]
  omega

/-- Attributes written most significant byte first behind front are read back,
each as its value. -/
theorem extractEachBE_attributes {front : List UInt8} {start : Nat} (placed : front.length = start)
    (attrs : List UInt32) :
    extractEachBE 4 attrs.length ⟨front ++ attrs.flatMap fun attr => addPayloadOctetsBE 4 attr.toNat, start⟩ =
      some (attrs.map (·.toNat),
        ⟨front ++ attrs.flatMap fun attr => addPayloadOctetsBE 4 attr.toNat, start + attrs.length * 4⟩) := by
  subst placed
  induction attrs generalizing front with
  | nil => rfl
  | cons attr rest ih =>
    have first : fieldAt (front ++ (addPayloadOctetsBE 4 attr.toNat ++
        rest.flatMap fun attr => addPayloadOctetsBE 4 attr.toNat)) front.length 4 = attr.toNat := by
      rw [fieldAt_addPayloadOctetsBE rfl, Nat.mod_eq_of_lt (show attr.toNat < 256 ^ 4 from UInt32.toNat_lt attr)]
    have behind := @ih (front ++ addPayloadOctetsBE 4 attr.toNat)
    rw [List.append_assoc, List.length_append, length_addPayloadOctetsBE] at behind
    have fits : front.length + 4 ≤ (front ++ (addPayloadOctetsBE 4 attr.toNat ++
        rest.flatMap fun attr => addPayloadOctetsBE 4 attr.toNat)).length := by
      simp only [List.length_append, length_addPayloadOctetsBE]
      omega
    rw [List.flatMap_cons, List.length_cons, extractEachBE, Iterator.extractBE_of_fits fits, Option.bind_eq_bind,
      Option.bind_some]
    dsimp only
    rw [behind]
    simp only [List.map_cons, Option.bind_eq_bind, Option.bind_some]
    rw [← fieldAt, first, show front.length + 4 + rest.length * 4 = front.length + (rest.length + 1) * 4 by omega]
    rfl

namespace GetFolderItemsRequestBuilder

theorem length_flatMap_attributes (attrs : List UInt32) :
    (attrs.flatMap fun attr => addPayloadOctetsBE 4 attr.toNat).length = attrs.length * 4 := by
  induction attrs with
  | nil => rfl
  | cons attr rest ih =>
    rw [List.flatMap_cons, List.length_append, ih, length_addPayloadOctetsBE, List.length_cons, Nat.add_one_mul,
      Nat.add_comm]

theorem length_serialize (scope : UInt8) (startItem endItem : UInt32) (requestedAttrs : List UInt32) :
    (serialize scope startItem endItem requestedAttrs).length = size requestedAttrs := by
  unfold size GetFolderItemsRequest.kMinSize kBrowseMinSize
  by_cases empty : requestedAttrs.length = 0
  · rw [serialize, if_pos empty, empty]
    rfl
  · rw [serialize, if_neg empty]
    simp only [List.length_append, length_addPayloadOctets, length_addPayloadOctetsBE, length_flatMap_attributes]
    omega

/-- The fixed fields of the packet, each where GetFolderItemsRequest reads it. -/
theorem fields_serialize (scope : UInt8) (startItem endItem : UInt32) (requestedAttrs : List UInt32) :
    fieldAt (serialize scope startItem endItem requestedAttrs) 1 2 = (size requestedAttrs - kBrowseMinSize) % 2 ^ 16 ∧
      (serialize scope startItem endItem requestedAttrs).getD 3 0 = scope ∧
      fieldAt (serialize scope startItem endItem requestedAttrs) 4 4 = startItem.toNat ∧
      fieldAt (serialize scope startItem endItem requestedAttrs) 8 4 = endItem.toNat := by
  refine ⟨?_, ?_, ?_, ?_⟩
  · rw [show fieldAt (serialize scope startItem endItem requestedAttrs) 1 2 =
      ByteStream.beValue (addPayloadOctetsBE 2 (size requestedAttrs - kBrowseMinSize)) from rfl,
      beValue_addPayloadOctetsBE]
    rfl
  · rw [show (serialize scope startItem endItem requestedAttrs).getD 3 0 = UInt8.ofNat scope.toNat from rfl,
      UInt8.ofNat_toNat]
  · rw [show fieldAt (serialize scope startItem endItem requestedAttrs) 4 4 =
      ByteStream.beValue (addPayloadOctetsBE 4 startItem.toNat) from rfl, beValue_addPayloadOctetsBE,
      Nat.mod_eq_of_lt (show startItem.toNat < 256 ^ 4 from UInt32.toNat_lt startItem)]
  · rw [show fieldAt (serialize scope startItem endItem requestedAttrs) 8 4 =
      ByteStream.beValue (addPayloadOctetsBE 4 endItem.toNat) from rfl, beValue_addPayloadOctetsBE,
      Nat.mod_eq_of_lt (show endItem.toNat < 256 ^ 4 from UInt32.toNat_lt endItem)]

/-- The attribute count byte: 0xFF for none, otherwise the number of attributes cut to a byte. -/
theorem countByte_serialize (scope : UInt8) (startItem endItem : UInt32) (requestedAttrs : List UInt32) :
    (serialize scope startItem endItem requestedAttrs).getD 12 0 =
      if requestedAttrs.length = 0 then 0xFF else UInt8.ofNat requestedAttrs.length := by
  by_cases empty : requestedAttrs.length = 0
  · rw [serialize, if_pos empty, if_pos empty]
    rfl
  · rw [serialize, if_neg empty, if_neg empty]
    rfl

/-- With some attributes the packet is the twelve fixed bytes and the count,
followed by the attributes. -/
theorem serialize_of_ne_nil {scope : UInt8} {startItem endItem : UInt32} {requestedAttrs : List UInt32}
    (nonempty : requestedAttrs.length ≠ 0) :
    serialize scope startItem endItem requestedAttrs =
      (addPayloadOctets 1 kGetFolderItems ++ addPayloadOctetsBE 2 (size requestedAttrs - kBrowseMinSize) ++
        addPayloadOctets 1 scope.toNat ++ addPayloadOctetsBE 4 startItem.toNat ++ addPayloadOctetsBE 4 endItem.toNat ++
        addPayloadOctets 1 requestedAttrs.length) ++
      requestedAttrs.flatMap fun attr => addPayloadOctetsBE 4 attr.toNat := by
  rw [serialize, if_neg nonempty, List.append_assoc _ (addPayloadOctets 1 requestedAttrs.length)]

/-- Up to 255 attributes the packet passes GetFolderItemsRequest::IsValid. -/
theorem isValid_serialize {scope : UInt8} {startItem endItem : UInt32} {requestedAttrs : List UInt32}
    (fits : requestedAttrs.length ≤ 0xFF) :
    GetFolderItemsRequest.isValid (serialize scope startItem endItem requestedAttrs) = some true := by
  have sized := length_serialize scope startItem endItem requestedAttrs
  obtain ⟨lengthField, -, -, -⟩ := fields_serialize scope startItem endItem requestedAttrs
  unfold size GetFolderItemsRequest.kMinSize kBrowseMinSize at sized lengthField
  have long : GetFolderItemsRequest.kMinSize ≤ (serialize scope startItem endItem requestedAttrs).length := by
    unfold GetFolderItemsRequest.kMinSize kBrowseMinSize
    omega
  have browse : BrowsePacket.isValid (serialize scope startItem endItem requestedAttrs) = some true :=
    BrowsePacket.isValid_of_length (by unfold kBrowseMinSize; omega) (by unfold kBrowseMinSize; omega)
  rw [GetFolderItemsRequest.isValid, browse, Option.bind_eq_bind, Option.bind_some,
    if_neg (show ¬((!true) = true) by decide),
    if_neg (Nat.not_lt.2 long), (GetFolderItemsRequest.getters_of_le long).2.2.2, Option.bind_eq_bind,
    Option.bind_some, countByte_serialize]
  by_cases empty : requestedAttrs.length = 0
  · rw [if_pos empty, if_pos rfl]
    rfl
  · -- a count byte other than 0xFF is the count itself, checked against the bytes behind it
    rw [if_neg empty]
    by_cases full : requestedAttrs.length = 0xFF
    · rw [full, if_pos (show UInt8.ofNat 255 = 255 from rfl)]
      rfl
    · have count : (UInt8.ofNat requestedAttrs.length).toNat = requestedAttrs.length := Nat.mod_eq_of_lt (by omega)
      have notFF : UInt8.ofNat requestedAttrs.length ≠ 0xFF := fun same => full (by rw [← count, same]; rfl)
      rw [if_neg notFF]
      dsimp only
      rw [begin_plus long, packetEnd, Iterator.minus_of_le long,
        toSizeT_sizeToInt_of_lt (by unfold GetFolderItemsRequest.kMinSize kBrowseMinSize; omega), count]
      exact congrArg some (decide_eq_true (by unfold GetFolderItemsRequest.kMinSize kBrowseMinSize; omega))

/-- Up to 254 attributes a GetFolderItems request reads back every field the
builder was given. -/
theorem getters_serialize {scope : UInt8} {startItem endItem : UInt32} {requestedAttrs : List UInt32}
    (fewer : requestedAttrs.length < 0xFF) :
    GetFolderItemsRequest.isValid (serialize scope startItem endItem requestedAttrs) = some true ∧
      GetFolderItemsRequest.getScope (serialize scope startItem endItem requestedAttrs) = some scope ∧
      GetFolderItemsRequest.getStartItem (serialize scope startItem endItem requestedAttrs) = some startItem.toNat ∧
      GetFolderItemsRequest.getEndItem (serialize scope startItem endItem requestedAttrs) = some endItem.toNat ∧
      GetFolderItemsRequest.getAttributesRequested (serialize scope startItem endItem requestedAttrs) =
        some (requestedAttrs.map (·.toNat)) := by
  have sized := length_serialize scope startItem endItem requestedAttrs
  obtain ⟨-, scopeByte, startField, endField⟩ := fields_serialize scope startItem endItem requestedAttrs
  unfold size GetFolderItemsRequest.kMinSize kBrowseMinSize at sized
  have long : GetFolderItemsRequest.kMinSize ≤ (serialize scope startItem endItem requestedAttrs).length := by
    unfold GetFolderItemsRequest.kMinSize kBrowseMinSize
    omega
  obtain ⟨readScope, readStart, readEnd, -⟩ := GetFolderItemsRequest.getters_of_le long
  refine ⟨isValid_serialize (Nat.le_of_lt fewer), by rw [readScope, scopeByte], by rw [readStart, startField],
    by rw [readEnd, endField], ?_⟩
  rw [GetFolderItemsRequest.getAttributesRequested, show kBrowseMinSize + 9 = 12 from rfl, extractByte_at (by omega),
    Option.bind_eq_bind, Option.bind_some, countByte_serialize]
  dsimp only
  by_cases empty : requestedAttrs.length = 0
  · rw [if_pos empty, if_pos (show (0xFF : UInt8).toNat = 0xFF from rfl), List.eq_nil_of_length_eq_zero empty]
    rfl
  · -- the count byte is the count, and the attributes stand behind it
    have count : (UInt8.ofNat requestedAttrs.length).toNat = requestedAttrs.length := Nat.mod_eq_of_lt (by omega)
    have placed : (addPayloadOctets 1 kGetFolderItems ++ addPayloadOctetsBE 2 (size requestedAttrs - kBrowseMinSize) ++
        addPayloadOctets 1 scope.toNat ++ addPayloadOctetsBE 4 startItem.toNat ++ addPayloadOctetsBE 4 endItem.toNat ++
        addPayloadOctets 1 requestedAttrs.length).length = 12 + 1 := by
      simp only [List.length_append, length_addPayloadOctets, length_addPayloadOctetsBE]
    rw [if_neg empty, count, if_neg (Nat.ne_of_lt fewer), serialize_of_ne_nil empty, extractEachBE_attributes placed]
    rfl

/-- Two attributes, scope 1, items 0 to 9. -/
theorem getters_serialize_twoAttributes :
    ([1, 2] : List UInt32).length < 0xFF ∧
      GetFolderItemsRequest.isValid (serialize 1 0 9 [1, 2]) = some true ∧
      GetFolderItemsRequest.getScope (serialize 1 0 9 [1, 2]) = some 1 ∧
      GetFolderItemsRequest.getStartItem (serialize 1 0 9 [1, 2]) = some (0 : UInt32).toNat ∧
      GetFolderItemsRequest.getEndItem (serialize 1 0 9 [1, 2]) = some (9 : UInt32).toNat ∧
      GetFolderItemsRequest.getAttributesRequested (serialize 1 0 9 [1, 2]) =
        some (([1, 2] : List UInt32).map (·.toNat)) :=
  ⟨by decide, getters_serialize (by decide)⟩

/-- With 255 attributes the count byte is 0xFF, which GetFolderItemsRequest
reads as no attribute: the packet is valid and its attribute list is empty. -/
theorem serialize_255_attributes_read_as_none {scope : UInt8} {startItem endItem : UInt32}
    {requestedAttrs : List UInt32} (full : requestedAttrs.length = 0xFF) :
    GetFolderItemsRequest.isValid (serialize scope startItem endItem requestedAttrs) = some true ∧
      GetFolderItemsRequest.getAttributesRequested (serialize scope startItem endItem requestedAttrs) = some [] := by
  have sized := length_serialize scope startItem endItem requestedAttrs
  unfold size GetFolderItemsRequest.kMinSize kBrowseMinSize at sized
  refine ⟨isValid_serialize (Nat.le_of_eq full), ?_⟩
  rw [GetFolderItemsRequest.getAttributesRequested, show kBrowseMinSize + 9 = 12 from rfl, extractByte_at (by omega),
    Option.bind_eq_bind, Option.bind_some, countByte_serialize, if_neg (by omega), full]
  rfl

theorem serialize_255_attributes_read_as_none_range :
    ((List.range 255).map UInt32.ofNat).length = 0xFF ∧
      GetFolderItemsRequest.isValid (serialize 0 0 0 ((List.range 255).map UInt32.ofNat)) = some true ∧
      GetFolderItemsRequest.getAttributesRequested (serialize 0 0 0 ((List.range 255).map UInt32.ofNat)) = some [] :=
  ⟨by simp, serialize_255_attributes_read_as_none (by simp)⟩

end GetFolderItemsRequestBuilder

end Avrcp
end BluetoothStack
