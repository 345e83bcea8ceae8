import BluetoothStack.Gatt.Database

namespace BluetoothStack
namespace Gatt

open ByteStream

/-!
# The ATT server's request handlers

`gatt_server_handle_client_req` and the handlers of `gatt_sr.cc` it calls,
for a client PDU of `len` bytes after the opcode at `p` of the memory `mem`.
Each handler either answers at once, with an Error Response or the matching
response, or leaves the answer to the application and registers the request
as the bearer's outstanding command; commands and confirmations are not
answered.  The blocks under `GATT_CONFORMANCE_TESTING`, which is `FALSE`,
are left out.
-/

/-! ## Parsing the request -/

/-- What `read_handles` leaves: its status, the handles read, and the length
and cursor after them. -/
structure HandleRange where
  status : Nat
  sHdl : Nat
  eHdl : Nat
  len : Nat
  p : Nat

/-- `read_handles`: the starting and ending handle of a range request. -/
def readHandles (mem : Nat → UInt8) (len p : Nat) : HandleRange :=
  if len < 4 then ⟨gattInvalidPdu, 0, 0, len, p⟩
  else
    let sHdl := u16leAt mem p
    let eHdl := u16leAt mem (p + 2)
    let status :=
      if eHdl < sHdl ∨ !gattHandleIsValid sHdl ∨ !gattHandleIsValid eHdl then gattInvalidHandle else gattSuccess
    ⟨status, sHdl, eHdl, len - 4, p + 4⟩

/-- What `gatts_validate_packet_format` leaves: the handle range and the
attribute type after it. -/
structure PacketFormat where
  range : HandleRange
  uuid : Uuid

/-- `gatts_validate_packet_format`: the handle range, then a type of two bytes
for Find By Type Value and of the rest of the PDU otherwise. -/
def gattsValidatePacketFormat (opCode len : Nat) (mem : Nat → UInt8) (p : Nat) : PacketFormat :=
  let range := readHandles mem len p
  if range.status ≠ gattSuccess then ⟨range, Uuid.kEmpty⟩
  else if range.len < 2 then ⟨{ range with status := gattInvalidPdu }, Uuid.kEmpty⟩
  else
    let uuidLen := if opCode = gattReqFindTypeValue then 2 else range.len
    match gattParseUuidFromCmd mem range.p uuidLen Uuid.kEmpty with
    | none => ⟨{ range with status := gattInvalidPdu }, Uuid.kEmpty⟩
    | some uuid => ⟨{ range with len := range.len - uuidLen, p := range.p + uuidLen }, uuid⟩

/-! ## Discovering services: Read By Group Type and Find By Type Value -/

/-- What `gatt_build_primary_service_rsp` carries through the service list:
the status, the entry length, the response and its write cursor. -/
structure ServiceRspBuild where
  status : Nat
  handleLen : Nat
  msg : Pdu
  p : Nat

/-- The loop of `gatt_build_primary_service_rsp`: each primary service from
`sHdl` to `eHdl`, whose UUID is `value` for Find By Type Value, adds an entry
while entries of one length fit in the payload. -/
def gattBuildPrimaryServiceRspFrom (env : ServerEnv) (payloadSize opCode sHdl eHdl : Nat) (value : Uuid) :
    List SrvListElem → ServiceRspBuild → ServiceRspBuild
  | [], build => build
  | el :: rest, build =>
      if el.sHdl < sHdl ∨ eHdl < el.sHdl ∨ !el.isPrimary then
        gattBuildPrimaryServiceRspFrom env payloadSize opCode sHdl eHdl value rest build
      else
        match gattsGetServiceUuid el with
        | none => gattBuildPrimaryServiceRspFrom env payloadSize opCode sHdl eHdl value rest build
        | some uuid =>
            let handleLen :=
              if opCode = gattReqReadByGrpType then 4 + gattBuildUuidToStreamLen uuid else build.handleLen
            -- the opcode, and for Read By Group Type the entry length, before the first entry
            let build :=
              if build.msg.offset = 0 then
                let msg := build.msg.write build.p [(opCode + 1).toUInt8]
                let build := { build with msg := { msg with len := msg.len + 1, offset := handleLen }, p := build.p + 1 }
                if opCode = gattReqReadByGrpType then
                  let msg := build.msg.write build.p [build.msg.offset.toUInt8]
                  { build with msg := { msg with len := msg.len + 1 }, p := build.p + 1 }
                else build
              else build
            let build := { build with handleLen := handleLen }
            if payloadSize < build.msg.len + build.msg.offset ∨ handleLen ≠ build.msg.offset then build
            else if opCode = gattReqFindTypeValue ∧ value ≠ uuid then
              gattBuildPrimaryServiceRspFrom env payloadSize opCode sHdl eHdl value rest build
            else
              let endHdl :=
                if env.lastServiceHandle ≠ 0 ∧ env.lastServiceHandle = el.sHdl then 0xFFFF else el.eHdl
              let entry := u16le el.sHdl ++ u16le endHdl ++
                (if opCode = gattReqReadByGrpType then gattBuildUuidToStream uuid else [])
              let msg := build.msg.write build.p entry
              gattBuildPrimaryServiceRspFrom env payloadSize opCode sHdl eHdl value rest
                { build with
                  status := gattSuccess
                  msg := { msg with len := msg.len + msg.offset }
                  p := build.p + entry.length }

/-- `gatt_build_primary_service_rsp` into a fresh buffer of the payload
size. -/
def gattBuildPrimaryServiceRsp (env : ServerEnv) (payloadSize opCode sHdl eHdl : Nat) (value : Uuid) :
    ServiceRspBuild :=
  gattBuildPrimaryServiceRspFrom env payloadSize opCode sHdl eHdl value env.srvListInfo
    ⟨gattNotFound, 4, Pdu.alloc payloadSize, 0⟩

/-- `gatts_process_primary_service_req`.  The value of a Find By Type Value is
taken as a UUID; one that is not is refused with `GATT_INVALID_PDU`, and the
handler goes on to build and send its response. -/
def gattsProcessPrimaryServiceReq (env : ServerEnv) (state : SrState) (cid opCode len : Nat)
    (mem : Nat → UInt8) (p : Nat) : SrState :=
  let format := gattsValidatePacketFormat opCode len mem p
  let sHdl := format.range.sHdl
  if format.range.status ≠ gattSuccess then gattSendErrorRsp state cid format.range.status opCode sHdl false
  else if format.uuid ≠ Uuid.from16Bit gattUuidPriService.toUInt16 then
    if opCode = gattReqReadByGrpType then gattSendErrorRsp state cid gattUnsupportGrpType opCode sHdl false
    else gattSendErrorRsp state cid gattNotFound opCode sHdl false
  else
    let (state, value) :=
      if opCode = gattReqFindTypeValue then
        match gattParseUuidFromCmd mem format.range.p format.range.len Uuid.kEmpty with
        | some value => (state, value)
        | none => (gattSendErrorRsp state cid gattInvalidPdu opCode sHdl false, Uuid.kEmpty)
      else (state, Uuid.kEmpty)
    let payloadSize := gattTcbGetPayloadSize state.tcb cid
    if payloadSize = 0 then state
    else
      let build := gattBuildPrimaryServiceRsp env payloadSize opCode sHdl format.range.eHdl value
      if build.status ≠ gattSuccess then gattSendErrorRsp state cid build.status opCode sHdl false
      else attpSendSrMsg state cid (some build.msg)

/-! ## Find Information -/

/-- `gatt_build_find_info_rsp` on one service: the first attribute from
`sHdl` to `eHdl` adds its handle and UUID, in the format the first pair of
the response fixed, when `len` bytes are left for it. -/
def gattBuildFindInfoRsp (sHdl eHdl : Nat) : List Attr → Pdu → Nat → Nat × Pdu × Nat
  | [], msg, len => (gattNotFound, msg, len)
  | attr :: rest, msg, len =>
      if eHdl < attr.handle then (gattNotFound, msg, len)
      else if attr.handle < sHdl then gattBuildFindInfoRsp sHdl eHdl rest msg len
      else
        let uuidLen := attr.uuid.getShortestRepresentationSize
        let msg :=
          if msg.offset = 0 then
            { msg with offset := if uuidLen = 2 then gattInfoTypePair16 else gattInfoTypePair128 }
          else msg
        let pairLen := if msg.offset = gattInfoTypePair16 then 4 else 18
        if len < pairLen then (gattNoResources, msg, len)
        else if msg.offset = gattInfoTypePair16 ∧ uuidLen = 2 then
          let msg := msg.write msg.len (u16le attr.handle ++ u16le attr.uuid.as16Bit.toNat)
          (gattSuccess, { msg with len := msg.len + pairLen }, len - pairLen)
        else if msg.offset = gattInfoTypePair128 ∧ (uuidLen = 16 ∨ uuidLen = 4) then
          let msg := msg.write msg.len (u16le attr.handle ++ attr.uuid.to128BitLE)
          (gattSuccess, { msg with len := msg.len + pairLen }, len - pairLen)
        else (gattNoResources, msg, len)

/-- The loop of `gatts_process_find_info` over the services overlapping the
range; the status of the last one is kept, and a full response ends it. -/
def gattsFindInfoFrom (sHdl eHdl : Nat) : List SrvListElem → Nat × Pdu × Nat → Nat × Pdu × Nat
  | [], found => found
  | el :: rest, (reason, msg, bufLen) =>
      if el.sHdl ≤ eHdl ∧ sHdl ≤ el.eHdl then
        let (reason, msg, bufLen) := gattBuildFindInfoRsp sHdl eHdl el.attrList msg bufLen
        if reason = gattNoResources then (gattSuccess, msg, bufLen)
        else gattsFindInfoFrom sHdl eHdl rest (reason, msg, bufLen)
      else gattsFindInfoFrom sHdl eHdl rest (reason, msg, bufLen)

/-- `gatts_process_find_info`.  The room left, `buf_len`, is a `uint16_t`. -/
def gattsProcessFindInfo (env : ServerEnv) (state : SrState) (cid opCode len : Nat) (mem : Nat → UInt8)
    (p : Nat) : SrState :=
  let range := readHandles mem len p
  if range.status ≠ gattSuccess then gattSendErrorRsp state cid range.status opCode range.sHdl false
  else
    let payloadSize := gattTcbGetPayloadSize state.tcb cid
    if payloadSize = 0 then state
    else
      let msg := (Pdu.alloc payloadSize).write 0 [(opCode + 1).toUInt8]
      let (reason, msg, _) := gattsFindInfoFrom range.sHdl range.eHdl env.srvListInfo
        (gattNotFound, { msg with len := 2 }, (payloadSize + 65534) % 65536)
      let msg := msg.write 1 [msg.offset.toUInt8]
      if reason ≠ gattSuccess then gattSendErrorRsp state cid reason opCode range.sHdl false
      else attpSendSrMsg state cid (some msg)

/-! ## Exchange MTU -/

/-- `gatts_process_mtu_req`: only on the LE fixed channel.  The response
announces the local MTU; every client registration is told the new payload
size. -/
def gattsProcessMtuReq (env : ServerEnv) (state : SrState) (cid len : Nat) (mem : Nat → UInt8) (p : Nat) :
    SrState :=
  if cid ≠ l2capAttCid then gattSendErrorRsp state cid gattReqNotSupported gattReqMtu 0 false
  else if len < gattMtuReqMinLen then gattSendErrorRsp state cid gattInvalidPdu gattReqMtu 0 false
  else
    let mtu := u16leAt mem p
    let payloadSize := if mtu < gattDefBleMtuSize then gattDefBleMtuSize else min mtu (env.localMtu % 65536)
    let state : SrState :=
      ⟨{ state.tcb with payloadSize := payloadSize }, state.out ++ [.setBleDataLength (payloadSize + 4)]⟩
    let state := attpSendSrMsg state cid (some (attpBuildMtuCmd gattRspMtu env.localMtu))
    { state with
      out := state.out ++ env.clRcbInUse.flatMap fun gattIf =>
        gattSrSendReqCallback env (gattCreateConnId state.tcb.tcbIdx gattIf) 0 .mtu (.mtu payloadSize) }

/-! ## Read By Type -/

/-- What the loop of `gatts_process_read_by_type_req` carries: the link, the
status, the response, the room left and the handle an error names. -/
structure ByTypeLoop where
  state : SrState
  reason : Nat
  msg : Pdu
  bufLen : Nat
  sHdl : Nat

/-- The loop of `gatts_process_read_by_type_req` over the services
overlapping the range: each adds the attributes of the type it holds, and a
read that neither succeeds nor finds nothing ends it. -/
def gattsReadByTypeFrom (env : ServerEnv) (cid opCode eHdl : Nat) (uuid : Uuid) :
    List SrvListElem → ByTypeLoop → ByTypeLoop
  | [], loop => loop
  | el :: rest, loop =>
      if el.sHdl ≤ eHdl ∧ loop.sHdl ≤ el.eHdl then
        let read := gattsDbReadAttrValueByType env loop.state cid el.attrList opCode loop.msg loop.sHdl uuid
          loop.bufLen 0
        let ret := read.status
        let reason :=
          if ret ≠ gattNotFound then (if ret = gattNoResources then gattSuccess else ret) else loop.reason
        let loop := { loop with state := read.state, reason := reason, msg := read.rsp, bufLen := read.pLen }
        if ret ≠ gattSuccess ∧ ret ≠ gattNotFound then { loop with sHdl := read.curHandle.getD 0 }
        else gattsReadByTypeFrom env cid opCode eHdl uuid rest loop
      else gattsReadByTypeFrom env cid opCode eHdl uuid rest loop

/-- `gatts_process_read_by_type_req`.  A read left to the application
answers later, and `GATT_BUSY` is not answered either. -/
def gattsProcessReadByTypeReq (env : ServerEnv) (state : SrState) (cid opCode len : Nat) (mem : Nat → UInt8)
    (p : Nat) : SrState :=
  let format := gattsValidatePacketFormat opCode len mem p
  if format.range.status ≠ gattSuccess then
    gattSendErrorRsp state cid format.range.status opCode format.range.sHdl false
  else
    let payloadSize := gattTcbGetPayloadSize state.tcb cid
    if payloadSize = 0 then state
    else
      let msg := (Pdu.alloc payloadSize).write 0 [(opCode + 1).toUInt8]
      let loop := gattsReadByTypeFrom env cid opCode format.range.eHdl format.uuid env.srvListInfo
        ⟨state, gattNotFound, { msg with len := 2 }, (payloadSize + 65534) % 65536, format.range.sHdl⟩
      let msg := loop.msg.write 1 [loop.msg.offset.toUInt8]
      if loop.reason ≠ gattSuccess then
        if loop.reason ≠ gattPending ∧ loop.reason ≠ gattBusy then
          gattSendErrorRsp loop.state cid loop.reason opCode loop.sHdl false
        else loop.state
      else attpSendSrMsg loop.state cid (some msg)

/-! ## Reads and writes of one attribute -/

/-- `gatts_process_write_req` on the attribute `handle` of the service `el`.
The application answers a write it accepts; only requests are refused with
an Error Response.  `len` is a `uint16_t`. -/
def gattsProcessWriteReq (env : ServerEnv) (state : SrState) (cid : Nat) (el : SrvListElem)
    (handle opCode len : Nat) (mem : Nat → UInt8) (p : Nat) (gattType : GattDbAttributeType) : SrState :=
  if opCode = gattReqPrepareWrite ∧ len < 2 then gattSendErrorRsp state cid gattInvalidPdu opCode handle false
  else
    let (offset, isPrep, p, len) :=
      if opCode = gattReqPrepareWrite then (u16leAt mem p, true, p + 2, len - 2) else (0, false, p, len)
    let len := if opCode = gattSignCmdWrite then (len + 65536 - gattAuthSignLen) % 65536 else len
    let needRsp := opCode = gattReqWrite ∨ opCode = gattReqPrepareWrite
    let len := min len gattMaxAttrLen
    let data := GattsData.writeReq handle offset isPrep needRsp (window mem p len)
    let status := gattsWriteAttrPermCheck el.attrList opCode handle offset len state.tcb.secInfo
    let (state, status) :=
      if status = gattSuccess then
        let (tcb, transId) := gattSrEnqueueCmd state.tcb cid opCode handle
        let state := { state with tcb := tcb }
        if transId ≠ 0 then
          let connId := gattCreateConnId tcb.tcbIdx el.gattIf
          match gattType with
          | .descriptor =>
              ({ state with out := state.out ++ gattSrSendReqCallback env connId transId .writeDescriptor data },
                gattPending)
          | .characteristic =>
              ({ state with out := state.out ++ gattSrSendReqCallback env connId transId .writeCharacteristic data },
                gattPending)
          | _ => (state, gattError)
        else (state, gattBusy)
      else (state, status)
    if status ≠ gattPending ∧ status ≠ gattBusy ∧ (opCode = gattReqPrepareWrite ∨ opCode = gattReqWrite) then
      gattSendErrorRsp state cid status opCode handle false
    else state

/-- `gatts_process_read_req` on the attribute `handle` of the service `el`. -/
def gattsProcessReadReq (env : ServerEnv) (state : SrState) (cid : Nat) (el : SrvListElem)
    (opCode handle len : Nat) (mem : Nat → UInt8) (p : Nat) : SrState :=
  let payloadSize := gattTcbGetPayloadSize state.tcb cid
  if payloadSize = 0 then state
  else if opCode = gattReqReadBlob ∧ len < 2 then gattSendErrorRsp state cid gattInvalidPdu opCode 0 false
  else
    let offset := if opCode = gattReqReadBlob then u16leAt mem p else 0
    let msg := (Pdu.alloc payloadSize).write 0 [(opCode + 1).toUInt8]
    let (state, read) :=
      gattsReadAttrValueByHandle env state cid el.attrList opCode handle offset ((payloadSize - 1) % 65536) 0
    let msg := msg.write 1 read.bytes
    let msg := { msg with len := 1 + read.len.getD 0 }
    if read.status ≠ gattSuccess then
      if read.status ≠ gattPending ∧ read.status ≠ gattBusy then
        gattSendErrorRsp state cid read.status opCode handle false
      else state
    else attpSendSrMsg state cid (some msg)

/-- `gatts_process_attribute_req`: the handle, then the read or write of the
attribute, in the first service whose range holds it. -/
def gattsProcessAttributeReq (env : ServerEnv) (state : SrState) (cid opCode len : Nat) (mem : Nat → UInt8)
    (p : Nat) : SrState :=
  let (status, handle, p, len) :=
    if len < 2 then (gattInvalidPdu, 0, p, len) else (gattInvalidHandle, u16leAt mem p, p + 2, len - 2)
  let (state, status) :=
    if gattHandleIsValid handle then
      match env.srvListInfo.find? (fun el => el.sHdl ≤ handle ∧ handle ≤ el.eHdl) with
      | none => (state, status)
      | some el =>
          match el.attrList.find? (fun attr => attr.handle = handle) with
          | none => (state, status)
          | some attr =>
              if opCode = gattReqRead ∨ opCode = gattReqReadBlob then
                (gattsProcessReadReq env state cid el opCode handle len mem p, gattSuccess)
              else if opCode = gattReqWrite ∨ opCode = gattCmdWrite ∨ opCode = gattSignCmdWrite ∨
                  opCode = gattReqPrepareWrite then
                (gattsProcessWriteReq env state cid el handle opCode len mem p attr.gattType, gattSuccess)
              else (state, gattSuccess)
    else (state, status)
  if status ≠ gattSuccess ∧ opCode ≠ gattCmdWrite ∧ opCode ≠ gattSignCmdWrite then
    gattSendErrorRsp state cid status opCode handle false
  else state

/-! ## Handle Value Confirmation -/

/-- `gatt_tcb_find_indicate_handle`: the handle indicated on the bearer,
which is cleared. -/
def gattTcbFindIndicateHandle (tcb : Tcb) (cid : Nat) : Option (Nat × Tcb) :=
  if cid = tcb.attLcid then some (tcb.indicateHandle, { tcb with indicateHandle := 0 })
  else if tcb.eatt then some (tcb.eattIndicateHandle, { tcb with eattIndicateHandle := 0 })
  else none

/-- `gatts_chk_pending_ind`: the first queued indication is sent and taken off
the queue. -/
def gattsChkPendingInd (state : SrState) : SrState :=
  match state.tcb.pendingIndQ with
  | [] => state
  | (connId, handle) :: rest =>
      ⟨{ state.tcb with pendingIndQ := rest }, state.out ++ [.handleValueInd connId handle]⟩

/-- `gatts_proc_ind_ack`: the confirmation of a Service Changed indication is
handled by GATT itself, and reported not to go on to the applications. -/
def gattsProcIndAck (env : ServerEnv) (state : SrState) (ackHandle : Nat) : SrState × Bool :=
  let (state, continueProcessing) :=
    if ackHandle = env.handleOfHR then
      (⟨gattSrUpdateClStatus state.tcb true, state.out ++ [.srvChgIndAck]⟩, false)
    else (state, true)
  (gattsChkPendingInd state, continueProcessing)

/-- The services holding the confirmed handle each get a confirmation
callback with a transaction id of its own. -/
def gattsConfCallbacks (env : ServerEnv) (cid opCode handle : Nat) : List SrvListElem → SrState → SrState
  | [], state => state
  | el :: rest, state =>
      if el.sHdl ≤ handle ∧ handle ≤ el.eHdl then
        let (tcb, transId) := gattSrEnqueueCmd state.tcb cid opCode handle
        let connId := gattCreateConnId tcb.tcbIdx el.gattIf
        gattsConfCallbacks env cid opCode handle rest
          ⟨tcb, state.out ++ gattSrSendReqCallback env connId transId .conf (.handle handle)⟩
      else gattsConfCallbacks env cid opCode handle rest state

/-- `gatts_process_value_conf`; stopping the confirmation timer is not
modelled. -/
def gattsProcessValueConf (env : ServerEnv) (state : SrState) (cid opCode : Nat) : SrState :=
  match gattTcbFindIndicateHandle state.tcb cid with
  | none => state
  | some (handle, tcb) =>
      let (state, continueProcessing) := gattsProcIndAck env { state with tcb := tcb } handle
      if continueProcessing then gattsConfCallbacks env cid opCode handle env.srvListInfo state else state

/-! ## Execute Write -/

/-- The applications with prepared writes each get the execute callback, and
their counts are cleared. -/
def gattExecWriteCallbacks (env : ServerEnv) (transId flag : Nat) : List Nat → SrState → SrState
  | [], state => state
  | i :: rest, state =>
      if state.tcb.prepCnt i ≠ 0 then
        let connId := gattCreateConnId state.tcb.tcbIdx (i + 1)
        gattExecWriteCallbacks env transId flag rest
          ⟨{ state.tcb with prepCnt := Function.update state.tcb.prepCnt i 0 },
            state.out ++ gattSrSendReqCallback env connId transId .writeExec (.execWrite flag)⟩
      else gattExecWriteCallbacks env transId flag rest state

/-- `gatt_process_exec_write_req`: with writes prepared, the applications
answer; without, the server answers at once. -/
def gattProcessExecWriteReq (env : ServerEnv) (state : SrState) (cid opCode len : Nat) (mem : Nat → UInt8)
    (p : Nat) : SrState :=
  if len < 1 then gattSendErrorRsp state cid gattInvalidPdu gattReqExecWrite 0 false
  else
    let flag := (mem p).toNat &&& gattPrepWriteExec
    if !gattSrIsPrepCntZero state.tcb then
      let (tcb, transId) := gattSrEnqueueCmd state.tcb cid opCode 0
      gattExecWriteCallbacks env transId flag (List.range gattMaxApps)
        { state with tcb := gattSrCopyPrepCntToCbackCnt tcb }
    else
      let payloadSize := gattTcbGetPayloadSize state.tcb cid
      attpSendSrMsg state cid (if payloadSize = 0 then none else some attpBuildExecWriteRsp)

/-! ## Read Multiple -/

/-- The loop of `build_read_multi_rsp` over the handles requested and the
values queued for them, in order, with the response and its length so far. -/
def buildReadMultiRspFrom (cmd : SrCmd) (mtu : Nat) : List Nat → List AttrRsp → Pdu × Nat → Pdu × Nat
  | [], _, built => built
  | _ :: _, [], (buf, _) => (buf, gattNotFound)
  | handle :: handles, rsp :: rsps, (buf, status) =>
      let totalLen := buf.len + (if cmd.multiReq.variableLen then 2 else 0)
      if mtu < totalLen then (buf, status)
      else
        let len := min rsp.value.length (mtu - totalLen)
        if totalLen = mtu ∧ 0 < rsp.value.length then (buf, status)
        else
          let buf :=
            if cmd.multiReq.variableLen then { buf.write buf.len (u16le len) with len := buf.len + 2 } else buf
          if rsp.handle = handle then
            let buf := { buf.write buf.len (rsp.value.take len) with len := buf.len + len }
            if len < rsp.value.length then (buf, status)
            else buildReadMultiRspFrom cmd mtu handles rsps (buf, status)
          else (buf, gattNotFound)

/-- `build_read_multi_rsp`: the response from the queued values, kept unless
one was built already. -/
def buildReadMultiRsp (cmd : SrCmd) (mtu : Nat) : SrCmd :=
  if mtu = 0 then { cmd with status := gattIllegalParameter }
  else
    let opCode := if cmd.multiReq.variableLen then gattRspReadMultiVar else gattRspReadMulti
    let buf := { (Pdu.alloc mtu).write 0 [opCode.toUInt8] with len := 1 }
    let (buf, status) :=
      buildReadMultiRspFrom cmd mtu (cmd.multiReq.handles.take cmd.multiReq.numHandles) cmd.multiRspQ
        (buf, cmd.status)
    let cmd := { cmd with status := status }
    if buf.len = 0 then { cmd with status := gattNotFound }
    else if cmd.pRspMsg.isSome then cmd
    else { cmd with pRspMsg := some buf }

/-- `process_read_multi_rsp`: the value is queued; the response is built when
the last one arrives, and any failure ends the read. -/
def processReadMultiRsp (cmd : SrCmd) (status : Nat) (rsp : AttrRsp) (mtu : Nat) : SrCmd × Bool :=
  let cmd := { cmd with multiRspQ := cmd.multiRspQ ++ [rsp], status := status }
  if status = gattSuccess then
    if cmd.multiRspQ.length = cmd.multiReq.numHandles then (buildReadMultiRsp cmd mtu, true) else (cmd, false)
  else (cmd, true)

/-- `gatt_sr_process_app_rsp` for a multiple read, the only request whose
values the server hands itself: once every value has come and no callback
is outstanding, the response or an Error Response is sent and the command
dequeued. -/
def gattSrProcessAppRsp (state : SrState) (gattIf opCode status : Nat) (rsp : AttrRsp) (cid : Nat) : SrState :=
  let payloadSize := gattTcbGetPayloadSize state.tcb cid
  let tcb := gattSrUpdateCbackCnt state.tcb cid gattIf false false
  let (cmd, done) := processReadMultiRsp (tcb.cmdOf cid) status rsp payloadSize
  let state := { state with tcb := tcb.setCmd cid cmd }
  if !done then state
  else if gattSrIsCbackCntZero state.tcb cid then
    let state :=
      match cmd.pRspMsg with
      | some msg =>
          if cmd.status = gattSuccess then
            attpSendSrMsg { state with tcb := state.tcb.setCmd cid { cmd with pRspMsg := none } } cid (some msg)
          else gattSendErrorRsp state cid status opCode cmd.handle false
      | none => gattSendErrorRsp state cid status opCode cmd.handle false
    { state with tcb := gattDequeueSrCmd state.tcb cid }
  else state

/-- What the first loop of `gatt_process_read_multi_req` leaves: the handles
it took, the status, the last handle read and the cursor. -/
structure MultiHandles where
  handles : List Nat
  err : Nat
  handle : Nat

/-- The first loop of `gatt_process_read_multi_req` over the `ll` bytes left
at `p`: up to ten handles, each in a service and readable. -/
def readMultiHandles (env : ServerEnv) (sec : SecInfo) (mem : Nat → UInt8) : Nat → Nat → MultiHandles → MultiHandles
  | ll + 2, p, found =>
      if found.handles.length < gattMaxReadMultiHandles then
        let handle := u16leAt mem p
        match gattSrFindIRcbByHandle env handle with
        | some el =>
            let found := { found with handles := found.handles ++ [handle], handle := handle }
            let err := gattsReadAttrPermCheck el.attrList false handle sec
            if err ≠ gattSuccess then { found with err := err }
            else readMultiHandles env sec mem ll (p + 2) found
        | none => { found with err := gattInvalidHandle, handle := handle }
      else found
  | _, _, found => found

/-- The second loop of `gatt_process_read_multi_req`: each handle is read
under the request's transaction id; a value the server reads itself goes
straight to `gatt_sr_process_app_rsp`. -/
def readMultiValues (env : ServerEnv) (cid opCode transId : Nat) : List Nat → SrState × Nat × Nat → SrState × Nat × Nat
  | [], done => done
  | handle :: handles, (state, _, _) =>
      let el := (gattSrFindIRcbByHandle env handle).getD ⟨0, 0, false, 0, []⟩
      let (state, read) := gattsReadAttrValueByHandle env state cid el.attrList opCode handle 0 gattMaxAttrLen transId
      let state :=
        if read.status = gattSuccess then
          let len := read.len.getD 0
          gattSrProcessAppRsp state el.gattIf opCode gattSuccess ⟨handle, writeBytes (List.replicate len 0) 0 read.bytes⟩ cid
        else state
      readMultiValues env cid opCode transId handles (state, read.status, handle)

/-- `gatt_process_read_multi_req`. -/
def gattProcessReadMultiReq (env : ServerEnv) (state : SrState) (cid opCode len : Nat) (mem : Nat → UInt8)
    (p : Nat) : SrState :=
  let cmd := state.tcb.cmdOf cid
  let found := readMultiHandles env state.tcb.secInfo mem len p ⟨[], gattSuccess, 0⟩
  let cmd := { cmd with
    multiReq := ⟨found.handles.length, found.handles, opCode = gattReqReadMultiVar⟩ }
  let state := { state with tcb := state.tcb.setCmd cid cmd }
  let err := if found.handles.length = 0 then gattInvalidHandle else found.err
  let (state, err, handle) :=
    if err = gattSuccess then
      let (tcb, transId) := gattSrEnqueueCmd state.tcb cid opCode (found.handles.headD 0)
      if transId ≠ 0 then
        readMultiValues env cid opCode transId found.handles
          ({ state with tcb := gattSrResetCbackCnt tcb cid }, err, found.handle)
      else ({ state with tcb := tcb }, gattNoResources, found.handle)
    else (state, err, found.handle)
  if err ≠ gattSuccess ∧ err ≠ gattPending ∧ err ≠ gattBusy then gattSendErrorRsp state cid err opCode handle false
  else state

/-! ## The dispatcher -/

/-- `gatts_process_db_out_of_sync`: a client that may hold a stale database
gets `GATT_DATABASE_OUT_OF_SYNC` for the requests that read it, unless it
reads the database hash, and its commands are dropped.  It returns the link
and whether the PDU is dropped. -/
def gattsProcessDbOutOfSync (env : ServerEnv) (state : SrState) (cid opCode len : Nat) (mem : Nat → UInt8)
    (p : Nat) : SrState × Bool :=
  if gattSrIsClChangeAware state.tcb then (state, false)
  else
    let (shouldIgnore, shouldRsp) :=
      if opCode = gattReqReadByType then
        let format := gattsValidatePacketFormat opCode len mem p
        (!(format.range.status = gattSuccess ∧ format.range.sHdl ≤ env.handleOfDatabaseHash ∧
            env.handleOfDatabaseHash ≤ format.range.eHdl ∧
            format.uuid = Uuid.from16Bit gattUuidDatabaseHash.toUInt16), true)
      else if opCode = gattReqRead then
        (!(2 ≤ len ∧ u16leAt mem p = env.handleOfDatabaseHash), true)
      else if [gattReqReadByGrpType, gattReqFindTypeValue, gattReqFindInfo, gattReqReadBlob, gattReqReadMulti,
          gattReqWrite, gattReqPrepareWrite].contains opCode then (true, true)
      else if opCode = gattCmdWrite ∨ opCode = gattSignCmdWrite then (true, false)
      else (false, true)
    if shouldIgnore then
      let state := if shouldRsp then gattSendErrorRsp state cid gattDatabaseOutOfSync opCode 0 false else state
      ({ state with tcb := gattSrUpdateClStatus state.tcb shouldRsp }, true)
    else (state, false)

/-- The `switch` of `gatt_server_handle_client_req` on the opcode: the
handler of each PDU the server handles, and nothing for the others. -/
def gattServerDispatchReq (env : ServerEnv) (state : SrState) (cid opCode len : Nat) (mem : Nat → UInt8)
    (p : Nat) : SrState :=
  if opCode = gattReqReadByGrpType ∨ opCode = gattReqFindTypeValue then
    gattsProcessPrimaryServiceReq env state cid opCode len mem p
  else if opCode = gattReqFindInfo then gattsProcessFindInfo env state cid opCode len mem p
  else if opCode = gattReqReadByType then gattsProcessReadByTypeReq env state cid opCode len mem p
  else if opCode = gattReqRead ∨ opCode = gattReqReadBlob ∨ opCode = gattReqWrite ∨ opCode = gattCmdWrite ∨
      opCode = gattSignCmdWrite ∨ opCode = gattReqPrepareWrite then
    gattsProcessAttributeReq env state cid opCode len mem p
  else if opCode = gattHandleValueConf then gattsProcessValueConf env state cid opCode
  else if opCode = gattReqMtu then gattsProcessMtuReq env state cid len mem p
  else if opCode = gattReqExecWrite then gattProcessExecWriteReq env state cid opCode len mem p
  else if opCode = gattReqReadMulti ∨ opCode = gattReqReadMultiVar then
    gattProcessReadMultiReq env state cid opCode len mem p
  else state

/-- `gatt_server_handle_client_req`: a client PDU on the bearer `cid` of the
link.  A PDU while a command is outstanding is dropped, unless it is a
confirmation; one that does not fit the payload size is refused when it
expects an answer. -/
def gattServerHandleClientReq (env : ServerEnv) (tcb : Tcb) (cid opCode len : Nat) (mem : Nat → UInt8)
    (p : Nat) : SrState :=
  let state : SrState := ⟨tcb, []⟩
  if !gattSrCmdEmpty tcb cid ∧ opCode ≠ gattHandleValueConf then state
  else if gattTcbGetPayloadSize tcb cid ≤ len then
    if opCode ≠ gattCmdWrite ∧ opCode ≠ gattSignCmdWrite ∧ opCode ≠ gattHandleValueConf then
      gattSendErrorRsp state cid gattInvalidPdu opCode 0 false
    else state
  else
    let (state, ignored) := gattsProcessDbOutOfSync env state cid opCode len mem p
    if ignored then state else gattServerDispatchReq env state cid opCode len mem p

end Gatt
end BluetoothStack
