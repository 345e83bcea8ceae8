import BluetoothStack.Library.ByteStream
import BluetoothStack.Library.OrderedSet
import BluetoothStack.Library.Simulation

namespace BluetoothStack
namespace Avrcp

open Library

/-!
# AVRCP browsing and vendor response builders (packet/avrcp)

GetFolderItemsResponseBuilder collects media player, folder and media
element items for a Get Folder Items response, admitting an item only while
the packet stays within the browsing MTU; GetElementAttributesResponseBuilder
collects attribute entries, cutting the last one to the MTU.  Both compute
the packet's size() from their fields and Serialize the packet byte by
byte with the legacy PacketBuilder, whose AddPayloadOctetsN writes the low
N bytes of a value least significant first; fields go out through
base::ByteSwap, so most significant first.

size() of the folder items builder counts the UID counter and the number of
items only once there is an item, but the admission test of the first item
adds the item to that size: the first item is admitted when it fits without
those 4 bytes.

The items are structures with the invariants their constructors establish:
names and attribute values cut to MAX_FIELD_LEN, the attribute set of a media
element in increasing attribute order.
-/

/-! ## packet/base/packet_builder.cc -/

/-- AddPayloadOctets(pkt, octets, value): push value & 0xff, shift right by
8, octets times. -/
def addPayloadOctets (octets value : Nat) : List UInt8 :=
  ByteStream.leOctets octets value

/-- AddPayloadOctetsN(pkt, base::ByteSwap(value)): the N bytes of value,
most significant first. -/
def addPayloadOctetsBE (octets value : Nat) : List UInt8 :=
  (addPayloadOctets octets value).reverse

/-! ## avrcp_common.h -/

inductive Status
  | invalidCommand
  | invalidParameter
  | parameterContentError
  | internalError
  | noError
  | uidsChanged
  | reserved
  | invalidDirection
  | notADirectory
  | doesNotExist
  | invalidScope
  | rangeOutOfBounds
  | folderItemNotPlayable
  | mediaInUse
  | nowPlayingListFull
  | searchNotSupported
  | searchInProgress
  | invalidPlayerId
  | playerNotBrowsable
  | playerNotAddressed
  | noValidSearchResults
  | noAvailablePlayers
  | addressedPlayerChanged
  deriving DecidableEq, Repr

/-- The value of enum class Status : uint8_t. -/
def Status.toNat : Status → Nat
  | .invalidCommand => 0x00
  | .invalidParameter => 0x01
  | .parameterContentError => 0x02
  | .internalError => 0x03
  | .noError => 0x04
  | .uidsChanged => 0x05
  | .reserved => 0x06
  | .invalidDirection => 0x07
  | .notADirectory => 0x08
  | .doesNotExist => 0x09
  | .invalidScope => 0x0a
  | .rangeOutOfBounds => 0x0b
  | .folderItemNotPlayable => 0x0c
  | .mediaInUse => 0x0d
  | .nowPlayingListFull => 0x0e
  | .searchNotSupported => 0x0f
  | .searchInProgress => 0x10
  | .invalidPlayerId => 0x11
  | .playerNotBrowsable => 0x12
  | .playerNotAddressed => 0x13
  | .noValidSearchResults => 0x14
  | .noAvailablePlayers => 0x15
  | .addressedPlayerChanged => 0x16

inductive Scope
  | mediaPlayerList
  | vfs
  | search
  | nowPlaying
  deriving DecidableEq, Repr

/-- BrowsePdu::GET_FOLDER_ITEMS. -/
def kGetFolderItems : Nat := 0x71

/-- CType::STABLE, the subunit byte (0x09 << 3) | 0x00 of a vendor packet and
Opcode::VENDOR. -/
def kStableVendorHeader : List UInt8 := [0x0c, 0x48, 0x00]

def kBluetoothCompanyId : Nat := 0x001958

/-- CommandPdu::GET_ELEMENT_ATTRIBUTES. -/
def kGetElementAttributes : Nat := 0x20

/-- PacketType::SINGLE. -/
def kSingle : Nat := 0x00

/-- UTF-8, the character set of every name and value. -/
def kUtf8 : Nat := 0x006a

def kMaxFieldLen : Nat := 100

/-- An attribute and its value; std::string is its bytes.  attr is
attribute_, as attribute is a keyword here. -/
structure AttributeEntry where
  attr : UInt32
  value : List UInt8
  deriving DecidableEq, Repr

namespace AttributeEntry

/-- Attribute, length and character set fields. -/
def kHeaderSize : Nat := 4 + 2 + 2

def size (entry : AttributeEntry) : Nat :=
  kHeaderSize + entry.value.length

/-- resize(new_size): the value is cut so that the entry takes at most
new_size bytes, or to nothing when the header does not fit. -/
def resize (entry : AttributeEntry) (newSize : Nat) : AttributeEntry :=
  let newSize := if newSize < kHeaderSize then 0 else newSize - kHeaderSize
  if entry.value.length > newSize then { entry with value := entry.value.take newSize } else entry

def empty (entry : AttributeEntry) : Bool :=
  entry.value.isEmpty

/-- operator< compares the attributes. -/
def key (entry : AttributeEntry) : Nat :=
  entry.attr.toNat

end AttributeEntry

/-- The values of a media element's attributes after resize(MAX_FIELD_LEN). -/
def kMaxValueLen : Nat := kMaxFieldLen - AttributeEntry.kHeaderSize

structure MediaPlayerItem where
  id : UInt16
  name : List UInt8
  browsable : Bool
  name_short : name.length ≤ kMaxFieldLen

structure FolderItem where
  uid : UInt64
  folderType : UInt8
  isPlayable : Bool
  name : List UInt8
  name_short : name.length ≤ kMaxFieldLen

structure MediaElementItem where
  uid : UInt64
  name : List UInt8
  attributes : List AttributeEntry
  name_short : name.length ≤ kMaxFieldLen
  attributes_sorted : OrderedSet.Sorted AttributeEntry.key attributes
  values_short : ∀ entry ∈ attributes, entry.value.length ≤ kMaxValueLen

namespace MediaPlayerItem

/-- MediaPlayerItem(id, name, browsable): the name is cut to MAX_FIELD_LEN. -/
def make (id : UInt16) (name : List UInt8) (browsable : Bool) : MediaPlayerItem :=
  ⟨id, name.take kMaxFieldLen, browsable, List.length_take_le _ _⟩

def kHeaderSize : Nat :=
  1 + 2 + 2 + 1 + 4 + 1 + 16 + 2 + 2

def size (item : MediaPlayerItem) : Nat :=
  kHeaderSize + item.name.length

end MediaPlayerItem

namespace FolderItem

def make (uid : UInt64) (folderType : UInt8) (isPlayable : Bool) (name : List UInt8) : FolderItem :=
  ⟨uid, folderType, isPlayable, name.take kMaxFieldLen, List.length_take_le _ _⟩

def kHeaderSize : Nat :=
  1 + 2 + 8 + 1 + 1 + 2 + 2

def size (item : FolderItem) : Nat :=
  kHeaderSize + item.name.length

end FolderItem

/-- The value of an entry resized to MAX_FIELD_LEN fits a media element. -/
theorem value_length_resize_le (entry : AttributeEntry) :
    (entry.resize kMaxFieldLen).value.length ≤ kMaxValueLen := by
  dsimp only [AttributeEntry.resize]
  rw [show (if kMaxFieldLen < AttributeEntry.kHeaderSize then 0 else kMaxFieldLen - AttributeEntry.kHeaderSize) =
    kMaxValueLen from rfl]
  split
  · exact List.length_take_le _ _
  · next notLonger => exact Nat.le_of_not_lt notLonger

theorem values_short_foldl_insert (entries : List AttributeEntry) (set : List AttributeEntry)
    (short : ∀ entry ∈ set, entry.value.length ≤ kMaxValueLen) :
    ∀ entry ∈ entries.foldl (fun set val => OrderedSet.insert AttributeEntry.key (val.resize kMaxFieldLen) set) set,
      entry.value.length ≤ kMaxValueLen := by
  induction entries generalizing set with
  | nil => exact short
  | cons val entries ih =>
    refine ih _ fun entry member => ?_
    rcases OrderedSet.mem_insert member with rfl | old
    · exact value_length_resize_le val
    · exact short entry old

theorem sorted_foldl_insert (entries : List AttributeEntry) (set : List AttributeEntry)
    (sorted : OrderedSet.Sorted AttributeEntry.key set) :
    OrderedSet.Sorted AttributeEntry.key
      (entries.foldl (fun set val => OrderedSet.insert AttributeEntry.key (val.resize kMaxFieldLen) set) set) := by
  induction entries generalizing set with
  | nil => exact sorted
  | cons val entries ih => exact ih _ (OrderedSet.insert_sorted sorted)

namespace MediaElementItem

/-- MediaElementItem(uid, name, attributes): the name is cut, and each
attribute, resized to MAX_FIELD_LEN, is inserted into attributes_. -/
def make (uid : UInt64) (name : List UInt8) (attributes : List AttributeEntry) : MediaElementItem :=
  ⟨uid, name.take kMaxFieldLen,
    attributes.foldl (fun set val => OrderedSet.insert AttributeEntry.key (val.resize kMaxFieldLen) set) [],
    List.length_take_le _ _, sorted_foldl_insert attributes [] List.Pairwise.nil,
    values_short_foldl_insert attributes [] fun _ member => nomatch member⟩

def size (item : MediaElementItem) : Nat :=
  1 + 2 + 8 + 1 + 2 + 2 + item.name.length + 1 + (item.attributes.map AttributeEntry.size).sum

end MediaElementItem

inductive MediaListItem
  | player (item : MediaPlayerItem)
  | folder (item : FolderItem)
  | song (item : MediaElementItem)

def MediaListItem.size : MediaListItem → Nat
  | .player item => item.size
  | .folder item => item.size
  | .song item => item.size

/-! ## GetFolderItemsResponseBuilder (get_folder_items.cc) -/

/-- BrowsePacket::kMinSize(): the PDU and the parameter length. -/
def kBrowseMinSize : Nat := 3

structure GetFolderItemsResponseBuilder where
  scope : Scope
  items : List MediaListItem
  status : Status
  uidCounter : UInt16
  mtu : Nat

namespace GetFolderItemsResponseBuilder

def makePlayerListBuilder (status : Status) (uidCounter : UInt16) (mtu : Nat) : GetFolderItemsResponseBuilder :=
  ⟨.mediaPlayerList, [], status, uidCounter, mtu⟩

def makeVFSBuilder (status : Status) (uidCounter : UInt16) (mtu : Nat) : GetFolderItemsResponseBuilder :=
  ⟨.vfs, [], status, uidCounter, mtu⟩

def makeNowPlayingBuilder (status : Status) (uidCounter : UInt16) (mtu : Nat) : GetFolderItemsResponseBuilder :=
  ⟨.nowPlaying, [], status, uidCounter, mtu⟩

/-- size(): the header and the status, and the UID counter, the number of
items and the items only for a NO_ERROR response with an item. -/
def size (b : GetFolderItemsResponseBuilder) : Nat :=
  let len := kBrowseMinSize + 1
  if b.status ≠ .noError ∨ b.items.length = 0 then len
  else len + 2 + 2 + (b.items.map MediaListItem.size).sum

/-- The body the three Add methods share: the scope assertion, then the
admission test against the MTU.  none is the failed assertion. -/
def addItem (allowed : Scope → Bool) (b : GetFolderItemsResponseBuilder) (item : MediaListItem) :
    Option (Bool × GetFolderItemsResponseBuilder) :=
  if !allowed b.scope then none
  else if b.size + item.size > b.mtu then some (false, b)
  else some (true, { b with items := b.items ++ [item] })

def addMediaPlayer (b : GetFolderItemsResponseBuilder) (item : MediaPlayerItem) :
    Option (Bool × GetFolderItemsResponseBuilder) :=
  addItem (fun scope => decide (scope = .mediaPlayerList)) b (.player item)

def addSong (b : GetFolderItemsResponseBuilder) (item : MediaElementItem) :
    Option (Bool × GetFolderItemsResponseBuilder) :=
  addItem (fun scope => decide (scope = .vfs ∨ scope = .nowPlaying)) b (.song item)

def addFolder (b : GetFolderItemsResponseBuilder) (item : FolderItem) :
    Option (Bool × GetFolderItemsResponseBuilder) :=
  addItem (fun scope => decide (scope = .vfs)) b (.folder item)

def pushMediaPlayerItem (item : MediaPlayerItem) : List UInt8 :=
  addPayloadOctets 1 0x01 ++ addPayloadOctetsBE 2 (item.size - 3) ++ addPayloadOctetsBE 2 item.id.toNat ++
    addPayloadOctets 1 0x01 ++ addPayloadOctets 4 0x00000000 ++ addPayloadOctets 1 0x02 ++
    -- the sixteen bytes of the features
    [0x00, 0x00, 0x00, 0x00, 0x00, 0xb7, 0x01] ++ (if item.browsable then [0x0C, 0x1a] else [0x04, 0x00]) ++
    [0x00, 0x00, 0x00, 0x00, 0x00, 0x00, 0x00] ++
    addPayloadOctetsBE 2 kUtf8 ++ addPayloadOctetsBE 2 item.name.length ++ item.name

def pushFolderItem (item : FolderItem) : List UInt8 :=
  addPayloadOctets 1 0x02 ++ addPayloadOctetsBE 2 (item.size - 3) ++ addPayloadOctetsBE 8 item.uid.toNat ++
    addPayloadOctets 1 item.folderType.toNat ++ addPayloadOctets 1 (if item.isPlayable then 0x01 else 0x00) ++
    addPayloadOctetsBE 2 kUtf8 ++ addPayloadOctetsBE 2 item.name.length ++ item.name

/-- One attribute of a media element: attribute, character set, length and
every byte of the value. -/
def pushElementAttribute (entry : AttributeEntry) : List UInt8 :=
  addPayloadOctetsBE 4 entry.attr.toNat ++ addPayloadOctetsBE 2 kUtf8 ++
    addPayloadOctetsBE 2 entry.value.length ++ entry.value

def pushMediaElementItem (item : MediaElementItem) : List UInt8 :=
  addPayloadOctets 1 0x03 ++ addPayloadOctetsBE 2 (item.size - 3) ++ addPayloadOctetsBE 8 item.uid.toNat ++
    addPayloadOctets 1 0x00 ++ addPayloadOctetsBE 2 kUtf8 ++ addPayloadOctetsBE 2 item.name.length ++ item.name ++
    addPayloadOctets 1 item.attributes.length ++ item.attributes.flatMap pushElementAttribute

def pushMediaListItem : MediaListItem → List UInt8
  | .player item => pushMediaPlayerItem item
  | .folder item => pushFolderItem item
  | .song item => pushMediaElementItem item

/-- Serialize: the bytes pushed, and the builder, whose status_ becomes
RANGE_OUT_OF_BOUNDS for a NO_ERROR response without items.  The header's
length is taken from size() before that. -/
def serialize (b : GetFolderItemsResponseBuilder) : List UInt8 × GetFolderItemsResponseBuilder :=
  let header := addPayloadOctets 1 kGetFolderItems ++ addPayloadOctetsBE 2 (b.size - kBrowseMinSize)
  let b' := if b.status = .noError ∧ b.items.length = 0 then { b with status := .rangeOutOfBounds } else b
  let status := header ++ addPayloadOctets 1 b'.status.toNat
  if b'.status ≠ .noError then (status, b')
  else
    (status ++ addPayloadOctetsBE 2 b'.uidCounter.toNat ++ addPayloadOctetsBE 2 b'.items.length ++
      b'.items.flatMap pushMediaListItem, b')

end GetFolderItemsResponseBuilder

/-! ## GetElementAttributesResponseBuilder (get_element_attributes_packet.cc) -/

/-- VendorPacket::kMinSize(): the AVRCP header, the company id, the PDU, the
packet type and the parameter length. -/
def kVendorMinSize : Nat := 3 + 7

structure GetElementAttributesResponseBuilder where
  entries : List AttributeEntry
  mtu : Nat

namespace GetElementAttributesResponseBuilder

def makeBuilder (mtu : Nat) : GetElementAttributesResponseBuilder :=
  ⟨[], mtu⟩

/-- The vendor header and the number of attributes. -/
def kHeaderSize : Nat := kVendorMinSize + 1

def size (b : GetElementAttributesResponseBuilder) : Nat :=
  kHeaderSize + (b.entries.map AttributeEntry.size).sum

/-- AddAttributeEntry(entry): the entry is cut to the space left, computed in
size_t, and an entry left empty is not inserted.  The size of the entry is
returned whether or not std::set::insert keeps it.  none is the failed
assertion of fewer than 0xFF entries. -/
def addAttributeEntry (b : GetElementAttributesResponseBuilder) (entry : AttributeEntry) :
    Option (Nat × GetElementAttributesResponseBuilder) :=
  if ¬ b.entries.length < 0xFF then none
  else
    let remainingSpace := (b.mtu + 2 ^ 64 - b.size) % 2 ^ 64
    let entry := if entry.size > remainingSpace then entry.resize remainingSpace else entry
    if entry.empty then some (0, b)
    else some (entry.size, { b with entries := OrderedSet.insert AttributeEntry.key entry b.entries })

/-- PacketBuilder::PushCompanyId: for a company id below 2^24 the three bytes
of the id, most significant first. -/
def pushCompanyId (companyId : Nat) : List UInt8 :=
  addPayloadOctetsBE 3 companyId

/-- VendorPacketBuilder::PushAttributeValue: the value's length is taken as a
uint16_t, and that many bytes of the value are pushed. -/
def pushAttributeValue (entry : AttributeEntry) : List UInt8 :=
  addPayloadOctetsBE 4 entry.attr.toNat ++ addPayloadOctetsBE 2 kUtf8 ++
    addPayloadOctetsBE 2 entry.value.length ++ entry.value.take (entry.value.length % 2 ^ 16)

def serialize (b : GetElementAttributesResponseBuilder) : List UInt8 :=
  kStableVendorHeader ++ pushCompanyId kBluetoothCompanyId ++ addPayloadOctets 1 kGetElementAttributes ++
    addPayloadOctets 1 kSingle ++ addPayloadOctetsBE 2 (b.size - kVendorMinSize) ++
    addPayloadOctets 1 b.entries.length ++ b.entries.flatMap pushAttributeValue

end GetElementAttributesResponseBuilder

/-! ## Fields -/

@[simp]
theorem length_addPayloadOctets (octets value : Nat) : (addPayloadOctets octets value).length = octets :=
  ByteStream.length_leOctets octets value

@[simp]
theorem length_addPayloadOctetsBE (octets value : Nat) : (addPayloadOctetsBE octets value).length = octets := by
  rw [addPayloadOctetsBE, List.length_reverse, length_addPayloadOctets]

theorem beValue_addPayloadOctetsBE (octets value : Nat) :
    ByteStream.beValue (addPayloadOctetsBE octets value) = value % 256 ^ octets :=
  ByteStream.beValue_reverse_leOctets octets value

/-- The field of width octets at position start, read most significant first. -/
def fieldAt (bytes : List UInt8) (start octets : Nat) : Nat :=
  ByteStream.beValue ((bytes.drop start).take octets)

/-- A byte-swapped field behind start bytes reads back as its value, cut to its width. -/
theorem fieldAt_addPayloadOctetsBE {front rest : List UInt8} {start : Nat} (placed : front.length = start)
    (octets value : Nat) :
    fieldAt (front ++ (addPayloadOctetsBE octets value ++ rest)) start octets = value % 256 ^ octets := by
  rw [fieldAt, List.drop_left' placed, List.take_left' (length_addPayloadOctetsBE octets value),
    beValue_addPayloadOctetsBE]

/-! ## The folder items builder -/

namespace GetFolderItemsResponseBuilder

variable {allowed : Scope → Bool} {b : GetFolderItemsResponseBuilder} {item : MediaListItem}

theorem size_of_not_counted (notCounted : b.status ≠ .noError ∨ b.items = []) : b.size = kBrowseMinSize + 1 := by
  unfold size
  rw [if_pos (by rwa [List.length_eq_zero_iff])]

theorem size_of_counted (noError : b.status = .noError) (nonempty : b.items ≠ []) :
    b.size = kBrowseMinSize + 1 + 2 + 2 + (b.items.map MediaListItem.size).sum := by
  unfold size
  rw [if_neg (by rw [List.length_eq_zero_iff]; exact not_or.2 ⟨not_not.2 noError, nonempty⟩)]

/-- What an appended item adds to size(): nothing unless the status is
NO_ERROR, and with the first item also the UID counter and the number of
items. -/
theorem size_append (b : GetFolderItemsResponseBuilder) (item : MediaListItem) :
    { b with items := b.items ++ [item] }.size =
      if b.status ≠ .noError then b.size else if b.items = [] then b.size + 2 + 2 + item.size else b.size + item.size := by
  by_cases noError : b.status = .noError
  · have counted : { b with items := b.items ++ [item] }.size = _ :=
      size_of_counted (b := { b with items := b.items ++ [item] }) noError (by simp)
    rw [counted, if_neg (not_not.2 noError)]
    by_cases empty : b.items = []
    · rw [if_pos empty, size_of_not_counted (Or.inr empty), empty]
      simp
    · rw [if_neg empty, size_of_counted noError empty, List.map_append, List.sum_append]
      simp [Nat.add_assoc]
  · rw [if_pos noError, size_of_not_counted (b := { b with items := b.items ++ [item] }) (Or.inl noError),
      size_of_not_counted (Or.inl noError)]

/-- The three outcomes of an Add call. -/
theorem addItem_cases {result : Bool × GetFolderItemsResponseBuilder} (added : addItem allowed b item = some result) :
    allowed b.scope = true ∧ ((b.mtu < b.size + item.size ∧ result = (false, b)) ∨
      (b.size + item.size ≤ b.mtu ∧ result = (true, { b with items := b.items ++ [item] }))) := by
  unfold addItem at added
  split at added
  · cases added
  · next scopeOk =>
    refine ⟨by simpa using scopeOk, ?_⟩
    split at added
    · next tooLong => exact Or.inl ⟨tooLong, (Option.some.inj added).symm⟩
    · next fits => exact Or.inr ⟨Nat.le_of_not_lt fits, (Option.some.inj added).symm⟩

/-- The first item is admitted when it fits without the UID counter and the
number of items, which size() then counts. -/
theorem addItem_first (allowedScope : allowed b.scope = true) (noError : b.status = .noError) (empty : b.items = [])
    (fits : kBrowseMinSize + 1 + item.size ≤ b.mtu) :
    addItem allowed b item = some (true, { b with items := b.items ++ [item] }) ∧
      { b with items := b.items ++ [item] }.size = kBrowseMinSize + 1 + 2 + 2 + item.size := by
  have small : b.size = kBrowseMinSize + 1 := size_of_not_counted (Or.inr empty)
  constructor
  · rw [addItem, if_neg (by simp [allowedScope]), if_neg (by omega)]
  · rw [size_append, if_neg (not_not.2 noError), if_pos empty, small]

/-- An item that exactly fills the MTU without those 4 bytes is admitted
first, and the packet is then 4 bytes over the MTU. -/
theorem addItem_first_exceeds (allowedScope : allowed b.scope = true) (noError : b.status = .noError)
    (empty : b.items = []) (exact : b.mtu = kBrowseMinSize + 1 + item.size) :
    ∃ b', addItem allowed b item = some (true, b') ∧ b'.size = b'.mtu + 4 := by
  obtain ⟨admitted, grown⟩ := addItem_first allowedScope noError empty (Nat.le_of_eq exact.symm)
  refine ⟨_, admitted, ?_⟩
  rw [grown]
  dsimp only
  omega

/-- The calls that fill a response. -/
inductive Call
  | addMediaPlayer (item : MediaPlayerItem)
  | addSong (item : MediaElementItem)
  | addFolder (item : FolderItem)

def call (b : GetFolderItemsResponseBuilder) : Call → Option (Bool × GetFolderItemsResponseBuilder)
  | .addMediaPlayer item => b.addMediaPlayer item
  | .addSong item => b.addSong item
  | .addFolder item => b.addFolder item

theorem call_eq_addItem (b : GetFolderItemsResponseBuilder) (c : Call) :
    ∃ allowed item, b.call c = addItem allowed b item := by
  cases c with
  | addMediaPlayer item => exact ⟨fun scope => decide (scope = .mediaPlayerList), .player item, rfl⟩
  | addSong item => exact ⟨fun scope => decide (scope = .vfs ∨ scope = .nowPlaying), .song item, rfl⟩
  | addFolder item => exact ⟨fun scope => decide (scope = .vfs), .folder item, rfl⟩

/-- What holds of every builder that Add calls reach from an empty one: the
packet exceeds the MTU by at most the 4 bytes the first admission leaves out,
and not at all from the second item on. -/
def Bounded (b : GetFolderItemsResponseBuilder) : Prop :=
  b.size ≤ b.mtu + 4 ∧ (2 ≤ b.items.length → b.size ≤ b.mtu)

theorem bounded_of_empty (empty : b.items = []) (room : kBrowseMinSize + 1 ≤ b.mtu) : b.Bounded := by
  have small : b.size = kBrowseMinSize + 1 := size_of_not_counted (Or.inr empty)
  refine ⟨by omega, fun two => ?_⟩
  rw [empty] at two
  exact absurd two (by simp)

theorem addItem_bounded (bounded : b.Bounded) {result : Bool × GetFolderItemsResponseBuilder}
    (added : addItem allowed b item = some result) : result.2.Bounded := by
  obtain ⟨-, ⟨-, rfl⟩ | ⟨fits, rfl⟩⟩ := addItem_cases added
  · exact bounded
  have grown := size_append b item
  by_cases noError : b.status = .noError
  · rw [if_neg (not_not.2 noError)] at grown
    by_cases empty : b.items = []
    · -- the first item: the 4 bytes the admission test left out
      rw [if_pos empty] at grown
      refine ⟨by dsimp only; omega, fun two => absurd two (by simp [empty])⟩
    · rw [if_neg empty] at grown
      exact ⟨by dsimp only; omega, fun _ => by dsimp only; omega⟩
  · rw [if_pos noError] at grown
    exact ⟨by dsimp only; omega, fun _ => by dsimp only; omega⟩

/-- Every run of Add calls from an empty builder keeps it Bounded. -/
theorem run_bounded (empty : b.items = []) (room : kBrowseMinSize + 1 ≤ b.mtu) {calls : List Call}
    {result : List Bool × GetFolderItemsResponseBuilder} (ran : Simulation.run call b calls = some result) :
    result.2.Bounded := by
  refine Simulation.run_invariant Bounded (fun state c outcome bounded stepped => ?_) (bounded_of_empty empty room) ran
  obtain ⟨allowed, item, same⟩ := call_eq_addItem state c
  rw [same] at stepped
  exact addItem_bounded bounded stepped

/-- A player that fills an MTU of 35 without the 4 bytes is admitted and the
packet is 39 bytes; a second player is refused. -/
theorem run_bounded_twoPlayers :
    let b := makePlayerListBuilder .noError 0 35
    let calls := [Call.addMediaPlayer (MediaPlayerItem.make 1 [] true), .addMediaPlayer (MediaPlayerItem.make 2 [] true)]
    b.items = [] ∧ kBrowseMinSize + 1 ≤ b.mtu ∧
      (Simulation.run call b calls).map (fun result => (result.1, result.2.size)) = some ([true, false], 39) ∧
      ∀ result, Simulation.run call b calls = some result → result.2.Bounded := by
  intro b calls
  exact ⟨rfl, by decide, by decide, fun _ ran => run_bounded rfl (by decide) ran⟩

/-- size() leaves out the UID counter and the number of items while there is
no item, and the admission test adds the item to that: in each scope, an item
that fills the MTU exactly without those 4 bytes is admitted first, and the
packet is then 4 bytes longer than the MTU. -/
theorem first_item_exceeds_mtu (uidCounter : UInt16) (player : MediaPlayerItem) (song : MediaElementItem)
    (folder : FolderItem) :
    (∃ b, (makePlayerListBuilder .noError uidCounter (kBrowseMinSize + 1 + player.size)).addMediaPlayer player =
        some (true, b) ∧ b.size = b.mtu + 4) ∧
      (∃ b, (makeNowPlayingBuilder .noError uidCounter (kBrowseMinSize + 1 + song.size)).addSong song =
        some (true, b) ∧ b.size = b.mtu + 4) ∧
      (∃ b, (makeVFSBuilder .noError uidCounter (kBrowseMinSize + 1 + folder.size)).addFolder folder =
        some (true, b) ∧ b.size = b.mtu + 4) :=
  ⟨addItem_first_exceeds rfl rfl rfl rfl, addItem_first_exceeds rfl rfl rfl rfl, addItem_first_exceeds rfl rfl rfl rfl⟩

end GetFolderItemsResponseBuilder

/-! ## The element attributes builder -/

namespace GetElementAttributesResponseBuilder

variable {b : GetElementAttributesResponseBuilder} {entry : AttributeEntry}

/-- What holds of every builder that AddAttributeEntry calls reach from
MakeBuilder(mtu) with mtu at least the header. -/
def Bounded (b : GetElementAttributesResponseBuilder) : Prop :=
  b.size ≤ b.mtu ∧ b.mtu < 2 ^ 64 ∧ OrderedSet.Sorted AttributeEntry.key b.entries ∧ b.entries.length ≤ 0xFF

end GetElementAttributesResponseBuilder

end Avrcp
end BluetoothStack
