import BluetoothStack.Gatt.Defs

namespace BluetoothStack
namespace Gatt

open ByteStream

/-!
# The ATT server's state and what it hands on

The part of `tGATT_TCB` the request handlers read and write: the outstanding
server command of each bearer (`tGATT_SR_CMD`), the transaction counter, the
prepared-write and callback counts, the payload sizes and the client's
change-aware status; with `gatt_cb`'s service list and registrations as the
handlers' read-only environment.  The request is taken to arrive on one
bearer, the ATT channel (`att_lcid`) or one EATT channel; for the EATT
channel its `server_outstanding_cmd_` and MTU are fields of the link, as if
`FindEattChannelByCid` always found it.

A handler's effects on the peer and the applications are a list of outputs:
the PDUs given to `attp_send_sr_msg`, the request callbacks of
`gatt_sr_send_req_callback`, and the indications and service-changed
notices of a confirmation.
-/

/-! ## Messages being built -/

/-- A `BT_HDR` being filled: the length and offset fields, and the
`payload_size` bytes the handler allocated (`osi_calloc`, so zero). -/
structure Pdu where
  len : Nat
  offset : Nat
  buf : List UInt8

/-- A fresh buffer of `size` zero bytes. -/
def Pdu.alloc (size : Nat) : Pdu := ⟨0, 0, List.replicate size 0⟩

/-- Bytes written at `pos` of the buffer; writes past its end are lost. -/
def Pdu.write (pdu : Pdu) (pos : Nat) (bytes : List UInt8) : Pdu :=
  { pdu with buf := writeBytes pdu.buf pos bytes }

/-- The bytes the peer receives, as far as the buffer holds them. -/
def Pdu.bytes (pdu : Pdu) : List UInt8 := pdu.buf.take pdu.len

@[simp]
theorem Pdu.len_write (pdu : Pdu) (pos : Nat) (bytes : List UInt8) : (pdu.write pos bytes).len = pdu.len := rfl

@[simp]
theorem Pdu.offset_write (pdu : Pdu) (pos : Nat) (bytes : List UInt8) : (pdu.write pos bytes).offset = pdu.offset :=
  rfl

@[simp]
theorem Pdu.length_buf_write (pdu : Pdu) (pos : Nat) (bytes : List UInt8) :
    (pdu.write pos bytes).buf.length = pdu.buf.length :=
  writeBytes_length pdu.buf pos bytes

/-- `tGATT_READ_MULTI`. -/
structure ReadMulti where
  numHandles : Nat
  handles : List Nat
  variableLen : Bool

/-- One attribute value of `tGATTS_RSP`. -/
structure AttrRsp where
  handle : Nat
  value : List UInt8

/-- `tGATT_SR_CMD`: the request a bearer is answering.  `opCode` is 0 when
there is none. -/
structure SrCmd where
  opCode : Nat
  transId : Nat
  handle : Nat
  status : Nat
  cid : Nat
  cbackCnt : Nat → Nat
  multiReq : ReadMulti
  multiRspQ : List AttrRsp
  pRspMsg : Option Pdu

/-- The command after `memset(p_cmd, 0, sizeof(tGATT_SR_CMD))`. -/
def SrCmd.cleared : SrCmd := ⟨0, 0, 0, 0, 0, fun _ => 0, ⟨0, [], false⟩, [], none⟩

/-- The part of `tGATT_TCB` the server request handlers use. -/
structure Tcb where
  tcbIdx : Nat
  attLcid : Nat
  eatt : Bool
  payloadSize : Nat
  /-- `min(tx_mtu_, rx_mtu_)` of the EATT channel. -/
  eattMtu : Nat
  srCmd : SrCmd
  /-- `server_outstanding_cmd_` of the EATT channel. -/
  eattCmd : SrCmd
  transId : Nat
  prepCnt : Nat → Nat
  indicateHandle : Nat
  eattIndicateHandle : Nat
  robustCachingSupported : Bool
  isRobustCacheChangeAware : Bool
  secInfo : SecInfo
  /-- `pending_ind_q`: the connection and handle of each queued indication. -/
  pendingIndQ : List (Nat × Nat)

/-- What the handlers read of `gatt_cb` and the stack around it. -/
structure ServerEnv where
  srvListInfo : List SrvListElem
  lastServiceHandle : Nat
  handleOfDatabaseHash : Nat
  handleOfHR : Nat
  /-- `gatt_get_local_mtu()`. -/
  localMtu : Nat
  /-- The `gatt_if` of each client registration in use, in `cl_rcb` order. -/
  clRcbInUse : List Nat
  /-- Whether `gatt_get_regcb(gatt_if)` is in use with a request callback. -/
  regInUse : Nat → Bool

/-- `tGATTS_REQ_TYPE`. -/
inductive GattsReqType where
  | readCharacteristic
  | readDescriptor
  | writeCharacteristic
  | writeDescriptor
  | writeExec
  | mtu
  | conf
deriving DecidableEq, Repr

/-- `tGATTS_DATA`, as each request type fills it. -/
inductive GattsData where
  | readReq (handle offset : Nat) (isLong : Bool)
  | writeReq (handle offset : Nat) (isPrep needRsp : Bool) (value : List UInt8)
  | execWrite (flag : Nat)
  | mtu (mtu : Nat)
  | handle (handle : Nat)

/-- What a handler hands on. -/
inductive SrOut where
  /-- `attp_send_sr_msg` on the bearer `cid`. -/
  | pdu (cid : Nat) (msg : Pdu)
  /-- `gatt_sr_send_req_callback` reaching a registered application. -/
  | reqCallback (connId transId : Nat) (type : GattsReqType) (data : GattsData)
  /-- `GATTS_HandleValueIndication` of a queued indication. -/
  | handleValueInd (connId handle : Nat)
  /-- `gatts_proc_srv_chg_ind_ack`. -/
  | srvChgIndAck
  /-- `BTM_SetBleDataLength`. -/
  | setBleDataLength (txPdu : Nat)

/-- The link with what has been handed on so far. -/
structure SrState where
  tcb : Tcb
  out : List SrOut

/-! ## The outstanding command of a bearer -/

namespace Tcb

/-- The `tGATT_SR_CMD` of the bearer `cid`. -/
def cmdOf (tcb : Tcb) (cid : Nat) : SrCmd :=
  if cid = tcb.attLcid then tcb.srCmd else tcb.eattCmd

def setCmd (tcb : Tcb) (cid : Nat) (cmd : SrCmd) : Tcb :=
  if cid = tcb.attLcid then { tcb with srCmd := cmd } else { tcb with eattCmd := cmd }

end Tcb

/-- `GATT_CREATE_CONN_ID`. -/
def gattCreateConnId (tcbIdx gattIf : Nat) : Nat := gattIf * 256 + tcbIdx

/-- `gatt_sr_cmd_empty`. -/
def gattSrCmdEmpty (tcb : Tcb) (cid : Nat) : Bool := (tcb.cmdOf cid).opCode == 0

/-- `gatt_tcb_get_payload_size`. -/
def gattTcbGetPayloadSize (tcb : Tcb) (cid : Nat) : Nat :=
  if !tcb.eatt || cid = tcb.attLcid then tcb.payloadSize else tcb.eattMtu

/-- `gatt_sr_enqueue_cmd`: a request that needs the application's answer
becomes the bearer's outstanding command, when it has none; commands, MTU
requests and confirmations only take a transaction id.  The id is 0 when the
bearer is busy.  `tcb.trans_id` is a `uint32_t`. -/
def gattSrEnqueueCmd (tcb : Tcb) (cid opCode handle : Nat) : Tcb × Nat :=
  let cmd := { tcb.cmdOf cid with cid := cid }
  let tcb := tcb.setCmd cid cmd
  if cmd.opCode = 0 ∨ opCode = gattHandleValueConf then
    let next := (tcb.transId + 1) % 2 ^ 32
    if opCode = gattCmdWrite ∨ opCode = gattSignCmdWrite ∨ opCode = gattReqMtu ∨
        opCode = gattHandleValueConf then
      ({ tcb with transId := next }, next)
    else
      let cmd := { cmd with transId := next, opCode := opCode, handle := handle, status := gattNotFound }
      ({ tcb.setCmd cid cmd with transId := next % gattTransIdMax }, next)
  else (tcb, 0)

/-- `gatt_dequeue_sr_cmd`. -/
def gattDequeueSrCmd (tcb : Tcb) (cid : Nat) : Tcb := tcb.setCmd cid SrCmd.cleared

/-- `gatt_sr_reset_cback_cnt`. -/
def gattSrResetCbackCnt (tcb : Tcb) (cid : Nat) : Tcb :=
  tcb.setCmd cid { tcb.cmdOf cid with cbackCnt := fun _ => 0 }

/-- `gatt_sr_update_cback_cnt`. -/
def gattSrUpdateCbackCnt (tcb : Tcb) (cid gattIf : Nat) (isInc isResetFirst : Bool) : Tcb :=
  let tcb := if isResetFirst then gattSrResetCbackCnt tcb cid else tcb
  let cmd := tcb.cmdOf cid
  let idx := (gattIf + 255) % 256
  let count := cmd.cbackCnt idx
  let count := if isInc then count + 1 else if count ≠ 0 then count - 1 else count
  tcb.setCmd cid { cmd with cbackCnt := Function.update cmd.cbackCnt idx count }

/-- `gatt_sr_is_cback_cnt_zero`. -/
def gattSrIsCbackCntZero (tcb : Tcb) (cid : Nat) : Bool :=
  (List.range gattMaxApps).all fun i => (tcb.cmdOf cid).cbackCnt i == 0

/-- `gatt_sr_is_prep_cnt_zero`. -/
def gattSrIsPrepCntZero (tcb : Tcb) : Bool :=
  (List.range gattMaxApps).all fun i => tcb.prepCnt i == 0

/-- `gatt_sr_copy_prep_cnt_to_cback_cnt`, which writes the ATT bearer's
command whatever the bearer of the request. -/
def gattSrCopyPrepCntToCbackCnt (tcb : Tcb) : Tcb :=
  { tcb with
    srCmd := { tcb.srCmd with
      cbackCnt := fun i => if i < gattMaxApps ∧ tcb.prepCnt i ≠ 0 then 1 else tcb.srCmd.cbackCnt i } }

/-- `gatt_sr_is_cl_change_aware`. -/
def gattSrIsClChangeAware (tcb : Tcb) : Bool :=
  !tcb.robustCachingSupported || tcb.isRobustCacheChangeAware

/-- `gatt_sr_update_cl_status`; storing the database hash is not modelled. -/
def gattSrUpdateClStatus (tcb : Tcb) (chgAware : Bool) : Tcb :=
  if tcb.robustCachingSupported then { tcb with isRobustCacheChangeAware := chgAware } else tcb

/-- `gatt_sr_find_i_rcb_by_handle`: the first service whose range holds the
handle. -/
def gattSrFindIRcbByHandle (env : ServerEnv) (handle : Nat) : Option SrvListElem :=
  env.srvListInfo.find? fun el => el.sHdl ≤ handle ∧ handle ≤ el.eHdl

/-! ## Sending -/

/-- `gatt_sr_send_req_callback`: the callback reaches a registered
application only. -/
def gattSrSendReqCallback (env : ServerEnv) (connId transId : Nat) (type : GattsReqType) (data : GattsData) :
    List SrOut :=
  if env.regInUse (connId / 256) then [.reqCallback connId transId type data] else []

/-- `attp_send_sr_msg`: a message that could not be built is not sent. -/
def attpSendSrMsg (state : SrState) (cid : Nat) : Option Pdu → SrState
  | none => state
  | some msg => { state with out := state.out ++ [.pdu cid { msg with offset := 0 }] }

/-- The message `attp_build_err_cmd` builds. -/
def attpBuildErrCmd (cmdCode errHandle reason : Nat) : Pdu :=
  ⟨5, 0, [gattRspError.toUInt8, cmdCode.toUInt8] ++ u16le errHandle ++ [reason.toUInt8]⟩

/-- The message `attp_build_mtu_cmd` builds. -/
def attpBuildMtuCmd (opCode rxMtu : Nat) : Pdu := ⟨3, 0, opCode.toUInt8 :: u16le rxMtu⟩

/-- The message `attp_build_exec_write_cmd` builds for a response. -/
def attpBuildExecWriteRsp : Pdu := ⟨1, 0, [gattRspExecWrite.toUInt8]⟩

/-- `gatt_send_error_rsp`: `attp_build_sr_msg` refuses a payload size of 0.
With `deq` the bearer's command is dequeued too. -/
def gattSendErrorRsp (state : SrState) (cid errCode opCode handle : Nat) (deq : Bool) : SrState :=
  let payloadSize := gattTcbGetPayloadSize state.tcb cid
  let state := attpSendSrMsg state cid
    (if payloadSize = 0 then none else some (attpBuildErrCmd opCode handle errCode))
  if deq then { state with tcb := gattDequeueSrCmd state.tcb cid } else state

end Gatt
end BluetoothStack
