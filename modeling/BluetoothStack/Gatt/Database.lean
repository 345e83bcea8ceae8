import BluetoothStack.Gatt.ServerState

namespace BluetoothStack
namespace Gatt

open ByteStream

/-!
# Reading and writing the attribute database

The functions of `gatt_db.cc` the request handlers call: the readability and
write-permission checks, `read_attr_value`, which answers the declarations
itself and leaves characteristic values and descriptors to the application,
the lookup of an attribute by handle, and the reads by handle and by type.
A value left to the application becomes an application read request
(`gatts_send_app_read_request`), which registers the request as the bearer's
outstanding command when it has no transaction id yet.
-/

/-- `gatts_check_attr_readability`. -/
def gattsCheckAttrReadability (attr : Attr) (readLong : Bool) (sec : SecInfo) : Nat :=
  let perm := attr.permission
  let minKey := minKeySize perm
  if !hasPerm perm gattReadAllowed then gattReadNotPermit
  else if hasPerm perm gattReadAuthRequired && !sec.isLinkKeyKnown && !sec.isEncrypted then
    gattInsufAuthentication
  else if hasPerm perm gattReadMitmRequired && !sec.isLinkKeyAuthed then gattInsufAuthentication
  else if hasPerm perm gattReadEncryptedRequired && !sec.isEncrypted then gattInsufEncryption
  else if hasPerm perm gattReadEncryptedRequired && sec.isEncrypted && decide (sec.keySize < minKey) then
    gattInsufKeySize
  else if hasPerm perm gattPermReadIfEncryptedOrDiscoverable && !sec.canReadDiscoverableCharacteristics &&
      (!sec.isLinkKeyKnown || !sec.isEncrypted) then gattInsufAuthentication
  else if hasPerm perm gattPermReadIfEncryptedOrDiscoverable && !sec.canReadDiscoverableCharacteristics &&
      decide (sec.keySize < minKey) then gattInsufKeySize
  else if readLong && attr.uuid.is16Bit &&
      [gattUuidPriService, gattUuidSecService, gattUuidCharDeclare, gattUuidIncludeService,
        gattUuidCharExtProp, gattUuidCharClientConfig, gattUuidCharSrvrConfig,
        gattUuidCharPresentFormat].contains attr.uuid.as16Bit.toNat then gattNotLong
  else gattSuccess

/-- What `read_attr_value` reports: its status, the bytes it writes at the
cursor, and what it stores in `*p_len`, when it stores anything. -/
structure AttrRead where
  status : Nat
  bytes : List UInt8
  len : Option Nat

/-- `read_attr_value` of `attr`, whose following attribute `next` is the
value of a characteristic declaration.  A declaration is answered from its
value; anything else is left to the application (`GATT_PENDING`). -/
def readAttrValue (attr next : Attr) (readLong : Bool) (mtu : Nat) (sec : SecInfo) : AttrRead :=
  let status := gattsCheckAttrReadability attr readLong sec
  if status ≠ gattSuccess then ⟨status, [], none⟩
  else if !attr.uuid.is16Bit then ⟨gattPending, [], none⟩
  else
    let uuid16 := attr.uuid.as16Bit.toNat
    let value := attr.pValue.getD default
    if uuid16 = gattUuidPriService ∨ uuid16 = gattUuidSecService then
      let len := gattBuildUuidToStreamLen value.uuid
      if mtu < len then ⟨gattNoResources, [], some len⟩
      else ⟨gattSuccess, gattBuildUuidToStream value.uuid, some len⟩
    else if uuid16 = gattUuidCharDeclare then
      let valLen := next.uuid.getShortestRepresentationSize
      let len := if valLen = 2 then 5 else 19
      if mtu < len then ⟨gattNoResources, [], some len⟩
      else
        ⟨gattSuccess, value.charDeclProperty.toUInt8 :: u16le value.charValHandle ++
          (if valLen = 2 then u16le next.uuid.as16Bit.toNat else next.uuid.to128BitLE), some len⟩
    else if uuid16 = gattUuidIncludeService then
      let typed := value.inclServiceType.is16Bit
      let len := if typed then 6 else 4
      if mtu < len then ⟨gattNoResources, [], some len⟩
      else
        ⟨gattSuccess, u16le value.inclSHandle ++ u16le value.inclEHandle ++
          (if typed then u16le value.inclServiceType.as16Bit.toNat else []), some len⟩
    else if uuid16 = gattUuidCharExtProp then
      -- a descriptor added by hand may have no value
      let charExtProp := (attr.pValue.map AttrValue.charExtProp).getD 0
      if mtu < 2 then ⟨gattNoResources, [], some 2⟩ else ⟨gattSuccess, u16le charExtProp, some 2⟩
    else ⟨gattPending, [], none⟩

/-- `find_attr_by_handle` over attributes in handle order, with the attribute
after the one found. -/
def findAttrByHandle : List Attr → Nat → Option (Attr × Attr)
  | [], _ => none
  | attr :: rest, handle =>
      if attr.handle = handle then some (attr, rest.headD default)
      else if handle < attr.handle then none
      else findAttrByHandle rest handle

/-- `gatts_send_app_read_request`: a request without a transaction id is
first registered as the bearer's outstanding command.  The callback goes to
the application of the service holding the handle. -/
def gattsSendAppReadRequest (env : ServerEnv) (state : SrState) (cid opCode handle offset transId : Nat)
    (gattType : GattDbAttributeType) : SrState × Nat :=
  let gattIf := ((gattSrFindIRcbByHandle env handle).map SrvListElem.gattIf).getD 0
  let connId := gattCreateConnId state.tcb.tcbIdx gattIf
  let (tcb, transId) :=
    if transId = 0 then
      let (tcb, transId) := gattSrEnqueueCmd state.tcb cid opCode handle
      (gattSrUpdateCbackCnt tcb cid gattIf true true, transId)
    else (state.tcb, transId)
  let state := { state with tcb := tcb }
  if transId ≠ 0 then
    let data := GattsData.readReq handle offset (opCode == gattReqReadBlob)
    match gattType with
    | .descriptor =>
        ({ state with out := state.out ++ gattSrSendReqCallback env connId transId .readDescriptor data },
          gattPending)
    | .characteristic =>
        ({ state with out := state.out ++ gattSrSendReqCallback env connId transId .readCharacteristic data },
          gattPending)
    | _ => (state, gattError)
  else (state, gattBusy)

/-- `gatts_read_attr_value_by_handle`. -/
def gattsReadAttrValueByHandle (env : ServerEnv) (state : SrState) (cid : Nat) (attrs : List Attr)
    (opCode handle offset mtu transId : Nat) : SrState × AttrRead :=
  match findAttrByHandle attrs handle with
  | none => (state, ⟨gattNotFound, [], none⟩)
  | some (attr, next) =>
      let read := readAttrValue attr next (opCode == gattReqReadBlob) mtu state.tcb.secInfo
      if read.status = gattPending then
        let (state, status) :=
          gattsSendAppReadRequest env state cid opCode attr.handle offset transId attr.gattType
        (state, { read with status := status })
      else (state, read)

/-- `gatts_read_attr_perm_check`. -/
def gattsReadAttrPermCheck (attrs : List Attr) (isLong : Bool) (handle : Nat) (sec : SecInfo) : Nat :=
  match findAttrByHandle attrs handle with
  | none => gattNotFound
  | some (attr, _) => gattsCheckAttrReadability attr isLong sec

/-- The permission `gatts_write_attr_perm_check` checks a write against: for a
write request or command to a signed attribute, the rules for mixed
security. -/
def writePermFor (opCode perm : Nat) : Nat :=
  if (opCode = gattCmdWrite ∨ opCode = gattReqWrite) ∧ hasPerm perm gattWriteSignedPerm then
    if hasPerm perm gattPermWriteSigned ∧ hasPerm perm gattPermWriteEncrypted then gattPermWriteEncrypted
    else if (hasPerm perm gattPermWriteSignedMitm ∧ hasPerm perm gattPermWriteEncrypted) ∨
        (hasPerm perm gattWriteSignedPerm ∧ hasPerm perm gattPermWriteEncMitm) then gattPermWriteEncMitm
    else perm
  else perm

/-- `gatts_write_attr_perm_check` of a write of `len` bytes.  The code first
marks a signed write to an attribute without signed permission as not
permitted, but every branch of the chain after it assigns the status again.
The value pointer the server passes is never NULL, so its check is left
out. -/
def gattsWriteAttrPermCheck (attrs : List Attr) (opCode handle offset len : Nat) (sec : SecInfo) : Nat :=
  match findAttrByHandle attrs handle with
  | none => gattNotFound
  | some (attr, _) =>
      let minKey := minKeySize attr.permission
      let perm := writePermFor opCode attr.permission
      if opCode = gattSignCmdWrite ∧ sec.isEncrypted then gattInvalidPdu
      else if !hasPerm perm gattWriteAllowed then gattWriteNotPermit
      else if hasPerm perm gattWriteAuthRequired ∧ !sec.isLinkKeyKnown then gattInsufAuthentication
      else if hasPerm perm gattWriteMitmRequired ∧ !sec.isLinkKeyAuthed then gattInsufAuthentication
      else if hasPerm perm gattWriteEncryptedPerm ∧ !sec.isEncrypted then gattInsufEncryption
      else if hasPerm perm gattWriteEncryptedPerm ∧ sec.isEncrypted ∧ sec.keySize < minKey then gattInsufKeySize
      else if hasPerm perm gattWriteSignedPerm ∧ opCode ≠ gattSignCmdWrite ∧ !sec.isEncrypted ∧
          !hasPerm perm gattWriteAllowed then gattInsufAuthentication
      else
        -- writable: a characteristic value or a descriptor
        let uuid := attr.uuid
        let configured := uuid.is16Bit ∧ (uuid.as16Bit.toNat = gattUuidCharClientConfig ∨
          uuid.as16Bit.toNat = gattUuidCharSrvrConfig)
        let status :=
          if uuid.isEmpty then gattInvalidPdu
          else if uuid.is16Bit ∧ [gattUuidCharPresentFormat, gattUuidCharExtProp, gattUuidCharAggFormat,
              gattUuidCharValidRange].contains uuid.as16Bit.toNat then gattWriteNotPermit
          else gattSuccess
        if configured then
          if opCode = gattReqPrepareWrite ∧ offset ≠ 0 then gattNotLong
          else if len ≠ 2 then gattInvalidAttrLen
          else gattSuccess
        else status

/-- What `gatts_db_read_attr_value_by_type` carries through its attributes:
the link, the response, the room left in it (`*p_len`), the status so far,
the handle of a failed read (`*p_cur_handle`) and the local `len`. -/
structure ByTypeRead where
  state : SrState
  rsp : Pdu
  pLen : Nat
  status : Nat
  curHandle : Option Nat
  len : Nat

/-- The loop of `gatts_db_read_attr_value_by_type` over the attributes from
cursor `p` of the response: each attribute of the type from `sHandle` adds a
handle and value pair of the length the first pair fixed, until the room, a
read left to the application, or a failed read ends it. -/
def gattsDbReadAttrValueByTypeFrom (env : ServerEnv) (cid opCode sHandle : Nat) (type : Uuid)
    (transId : Nat) : List Attr → Nat → ByTypeRead → ByTypeRead
  | [], _, read => read
  | attr :: rest, p, read =>
      if sHandle ≤ attr.handle ∧ type = attr.uuid then
        if read.pLen ≤ 2 then { read with status := gattNoResources }
        else
          let rsp := read.rsp.write p (u16le attr.handle)
          let value := readAttrValue attr (rest.headD default) false (read.pLen - 2) read.state.tcb.secInfo
          let len := value.len.getD read.len
          let rsp := rsp.write (p + 2) value.bytes
          if value.status = gattPending then
            -- one callback at a time
            let (state, status) := gattsSendAppReadRequest env read.state cid opCode attr.handle 0 transId attr.gattType
            { read with state := state, rsp := rsp, status := status, len := len }
          else if value.status = gattSuccess then
            let rsp := if rsp.offset = 0 then { rsp with offset := len + 2 } else rsp
            if rsp.offset = len + 2 then
              gattsDbReadAttrValueByTypeFrom env cid opCode sHandle type transId rest (p + 2 + value.bytes.length)
                { read with
                  rsp := { rsp with len := rsp.len + (len + 2) }
                  pLen := read.pLen - (len + 2)
                  status := gattSuccess
                  len := len }
            else { read with rsp := rsp, status := gattNoResources, len := len }
          else { read with rsp := rsp, status := value.status, curHandle := some attr.handle, len := len }
      else gattsDbReadAttrValueByTypeFrom env cid opCode sHandle type transId rest p read

/-- `gatts_db_read_attr_value_by_type` on the attributes of one service,
appending to the response from its length. -/
def gattsDbReadAttrValueByType (env : ServerEnv) (state : SrState) (cid : Nat) (attrs : List Attr)
    (opCode : Nat) (rsp : Pdu) (sHandle : Nat) (type : Uuid) (pLen transId : Nat) : ByTypeRead :=
  gattsDbReadAttrValueByTypeFrom env cid opCode sHandle type transId attrs rsp.len
    ⟨state, rsp, pLen, gattNotFound, none, 0⟩

end Gatt
end BluetoothStack
