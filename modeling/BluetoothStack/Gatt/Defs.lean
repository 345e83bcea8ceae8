import Mathlib.Data.List.Basic
import BluetoothStack.Library.ByteStream
import BluetoothStack.Types.UuidBytes

namespace BluetoothStack
namespace Gatt

open ByteStream

/-!
# The ATT server: opcodes, statuses, UUIDs and the attribute database

The constants of `gatt_api.h`, `gattdefs.h` and `gatt_int.h` that the server
request handlers of `gatt_sr.cc` and `gatt_db.cc` read, the parsing and
building of UUIDs (bluetooth::Uuid of `Types.UuidBytes`), and the
records of the attribute database: `tGATT_ATTR`, `tGATT_SVC_DB` and the
service list `gatt_cb.srv_list_info`.

Opcodes and statuses stay numbers, as in the code, which takes the opcode
from the packet and answers `op_code + 1`.
-/

/-! ## Opcodes (`tGATT_OP_CODE`) -/

def gattRspError : Nat := 0x01
def gattReqMtu : Nat := 0x02
def gattRspMtu : Nat := 0x03
def gattReqFindInfo : Nat := 0x04
def gattReqFindTypeValue : Nat := 0x06
def gattReqReadByType : Nat := 0x08
def gattReqRead : Nat := 0x0A
def gattReqReadBlob : Nat := 0x0C
def gattReqReadMulti : Nat := 0x0E
def gattRspReadMulti : Nat := 0x0F
def gattReqReadByGrpType : Nat := 0x10
def gattReqWrite : Nat := 0x12
def gattReqPrepareWrite : Nat := 0x16
def gattReqExecWrite : Nat := 0x18
def gattRspExecWrite : Nat := 0x19
def gattHandleValueConf : Nat := 0x1E
def gattReqReadMultiVar : Nat := 0x20
def gattRspReadMultiVar : Nat := 0x21
def gattCmdWrite : Nat := 0x52
def gattSignCmdWrite : Nat := 0xD2

/-! ## Statuses (`tGATT_STATUS`) -/

def gattSuccess : Nat := 0x00
def gattInvalidHandle : Nat := 0x01
def gattReadNotPermit : Nat := 0x02
def gattWriteNotPermit : Nat := 0x03
def gattInvalidPdu : Nat := 0x04
def gattInsufAuthentication : Nat := 0x05
def gattReqNotSupported : Nat := 0x06
def gattNotFound : Nat := 0x0a
def gattNotLong : Nat := 0x0b
def gattInsufKeySize : Nat := 0x0c
def gattInvalidAttrLen : Nat := 0x0d
def gattInsufEncryption : Nat := 0x0f
def gattUnsupportGrpType : Nat := 0x10
def gattInsufResource : Nat := 0x11
def gattDatabaseOutOfSync : Nat := 0x12
def gattNoResources : Nat := 0x80
def gattBusy : Nat := 0x84
def gattError : Nat := 0x85
def gattIllegalParameter : Nat := 0x87
def gattPending : Nat := 0x88

/-! ## Limits and sizes -/

/-- `L2CAP_ATT_CID`, the fixed channel of ATT on LE. -/
def l2capAttCid : Nat := 0x0004
/-- `GATT_DEF_BLE_MTU_SIZE`. -/
def gattDefBleMtuSize : Nat := 23
/-- `GATT_MAX_APPS`. -/
def gattMaxApps : Nat := 32
/-- `GATT_MAX_READ_MULTI_HANDLES`. -/
def gattMaxReadMultiHandles : Nat := 10
/-- `GATT_MAX_ATTR_LEN`. -/
def gattMaxAttrLen : Nat := 512
/-- `GATT_AUTH_SIGN_LEN`. -/
def gattAuthSignLen : Nat := 12
/-- `GATT_MTU_REQ_MIN_LEN`. -/
def gattMtuReqMinLen : Nat := 2
/-- `GATT_TRANS_ID_MAX`. -/
def gattTransIdMax : Nat := 0x0fffffff
/-- `GATT_PREP_WRITE_EXEC`. -/
def gattPrepWriteExec : Nat := 0x01
/-- `GATT_INFO_TYPE_PAIR_16` and `GATT_INFO_TYPE_PAIR_128`. -/
def gattInfoTypePair16 : Nat := 0x01
def gattInfoTypePair128 : Nat := 0x02

/-- `GATT_HANDLE_IS_VALID`. -/
def gattHandleIsValid (handle : Nat) : Bool := handle != 0

/-! ## 16-bit UUIDs of `gattdefs.h` -/

def gattUuidPriService : Nat := 0x2800
def gattUuidSecService : Nat := 0x2801
def gattUuidIncludeService : Nat := 0x2802
def gattUuidCharDeclare : Nat := 0x2803
def gattUuidCharExtProp : Nat := 0x2900
def gattUuidCharDescription : Nat := 0x2901
def gattUuidCharClientConfig : Nat := 0x2902
def gattUuidCharSrvrConfig : Nat := 0x2903
def gattUuidCharPresentFormat : Nat := 0x2904
def gattUuidCharAggFormat : Nat := 0x2905
def gattUuidCharValidRange : Nat := 0x2906
def gattUuidDatabaseHash : Nat := 0x2B2A

/-! ## Permissions (`tGATT_PERM`) -/

def gattPermRead : Nat := 1 <<< 0
def gattPermReadEncrypted : Nat := 1 <<< 1
def gattPermReadEncMitm : Nat := 1 <<< 2
def gattPermWrite : Nat := 1 <<< 4
def gattPermWriteEncrypted : Nat := 1 <<< 5
def gattPermWriteEncMitm : Nat := 1 <<< 6
def gattPermWriteSigned : Nat := 1 <<< 7
def gattPermWriteSignedMitm : Nat := 1 <<< 8
def gattPermReadIfEncryptedOrDiscoverable : Nat := 1 <<< 9
def gattEncryptKeySizeMask : Nat := 0xF000

def gattReadAllowed : Nat :=
  gattPermRead ||| gattPermReadEncrypted ||| gattPermReadEncMitm ||| gattPermReadIfEncryptedOrDiscoverable
def gattReadAuthRequired : Nat := gattPermReadEncrypted
def gattReadMitmRequired : Nat := gattPermReadEncMitm
def gattReadEncryptedRequired : Nat := gattPermReadEncrypted ||| gattPermReadEncMitm
def gattWriteAllowed : Nat :=
  gattPermWrite ||| gattPermWriteEncrypted ||| gattPermWriteEncMitm ||| gattPermWriteSigned |||
    gattPermWriteSignedMitm
def gattWriteAuthRequired : Nat := gattPermWriteEncrypted ||| gattPermWriteSigned
def gattWriteMitmRequired : Nat := gattPermWriteEncMitm ||| gattPermWriteSignedMitm
def gattWriteEncryptedPerm : Nat := gattPermWriteEncrypted ||| gattPermWriteEncMitm
def gattWriteSignedPerm : Nat := gattPermWriteSigned ||| gattPermWriteSignedMitm

/-- `perm & mask` is set. -/
def hasPerm (perm mask : Nat) : Bool := perm &&& mask != 0

/-- The minimum key size a permission asks for: the top nibble, plus 6 when
it is not zero. -/
def minKeySize (perm : Nat) : Nat :=
  let size := (perm &&& gattEncryptKeySizeMask) >>> 12
  if size ≠ 0 then size + 6 else size

/-! ## UUIDs -/

/-- `gatt_parse_uuid_from_cmd`: a UUID of `uuidSize` bytes at `p`.  Two and
sixteen bytes are read, 32-bit UUIDs are refused, and no bytes at all leave
the UUID as it was, which the code also reports as success. -/
def gattParseUuidFromCmd (mem : Nat → UInt8) (p uuidSize : Nat) (uuid : Uuid) : Option Uuid :=
  if uuidSize = 2 then some (Uuid.from16Bit (u16leAt mem p).toUInt16)
  else if uuidSize = 16 then some (Uuid.from128BitLE mem p)
  else if uuidSize = 0 then some uuid
  else none

/-- `gatt_build_uuid_to_stream_len`: a 32-bit UUID is sent in 128 bits. -/
def gattBuildUuidToStreamLen (uuid : Uuid) : Nat :=
  if uuid.getShortestRepresentationSize = 4 then 16 else uuid.getShortestRepresentationSize

/-- The bytes `gatt_build_uuid_to_stream` writes: none for the empty UUID. -/
def gattBuildUuidToStream (uuid : Uuid) : List UInt8 :=
  if uuid.isEmpty then []
  else if uuid.getShortestRepresentationSize = 2 then u16le uuid.as16Bit.toNat
  else uuid.to128BitLE

/-! ## The attribute database -/

/-- `bt_gatt_db_attribute_type_t`. -/
inductive GattDbAttributeType where
  | primaryService
  | secondaryService
  | includedService
  | characteristic
  | descriptor
deriving DecidableEq, Repr, Inhabited

/-- `tGATT_ATTR_VALUE`, the union behind the declarations the server answers
itself; each declaration sets the member its kind reads. -/
structure AttrValue where
  uuid : Uuid
  charDeclProperty : Nat
  charValHandle : Nat
  inclSHandle : Nat
  inclEHandle : Nat
  inclServiceType : Uuid
  charExtProp : Nat

instance : Inhabited AttrValue := ⟨⟨Uuid.kEmpty, 0, 0, 0, 0, Uuid.kEmpty, 0⟩⟩

/-- `tGATT_ATTR`. -/
structure Attr where
  handle : Nat
  uuid : Uuid
  permission : Nat
  gattType : GattDbAttributeType
  pValue : Option AttrValue

instance : Inhabited Attr := ⟨⟨0, Uuid.kEmpty, 0, default, none⟩⟩

/-- `tGATT_SRV_LIST_ELEM` with its `tGATT_SVC_DB`: the handle range, whether
it is a primary service, the application that owns it and its attributes in
handle order. -/
structure SrvListElem where
  sHdl : Nat
  eHdl : Nat
  isPrimary : Bool
  gattIf : Nat
  attrList : List Attr

/-- `gatts_get_service_uuid`: the value of the service declaration, the first
attribute. -/
def gattsGetServiceUuid (el : SrvListElem) : Option Uuid :=
  match el.attrList with
  | [] => none
  | attr :: _ => some (attr.pValue.getD default).uuid

/-- `tGATT_SEC_FLAG` with the key size, as `gatt_sr_get_sec_info` reads them
for the peer. -/
structure SecInfo where
  isLinkKeyKnown : Bool
  isLinkKeyAuthed : Bool
  isEncrypted : Bool
  canReadDiscoverableCharacteristics : Bool
  keySize : Nat

end Gatt
end BluetoothStack
