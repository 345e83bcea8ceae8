import BluetoothStack.L2cap.LeCoc

namespace BluetoothStack
namespace L2cap

open ByteStream

/-!
# LE enhanced credit-based connections: the pending request of a link

An enhanced credit-based connection request opens up to five channels at
once.  While one is outstanding, sent or received, the link control block
holds it in `pending_ecoc_conn_cnt`, the number of channels, and
`pending_ecoc_connection_cids`, the local CID given to each requested channel
(0 for a channel the stack refused).  `L2CA_ConnectCreditBasedReq` fills them
for a local request.  `l2cble_process_sig_cmd` fills them for a peer's
`L2CAP_CMD_CREDIT_BASED_CONN_REQ`, reads them back when the peer answers a
local request with `L2CAP_CMD_CREDIT_BASED_CONN_RES`, and clears them when the
peer refuses the request.

The channel control blocks live in one pool, `l2cb.ccb_pool`; the block at
index `i` has local CID `L2CAP_BASE_APPL_CID + i`.  Free blocks are chained
from `l2cb.p_free_ccb_first`, and the blocks of a link are queued on its
`ccb_queue`.  The model keeps the pool as a list, the free chain and the queue
as lists of indices, and of each block the fields these functions read or
write; a pointer to a block is its index.

An LE signalling packet holds one command.  A handler's `return` ends the
packet's processing with the state as it stands.  `l2c_csm_execute` is
represented by the event it is handed (it ignores a `NULL` block), and the
packets the stack sends by what they carry.  Writing a field of the block a
lookup returned `NULL` for is a fault.  Commands whose handlers neither read
nor write the pending request are passed on as `otherCommand`.
-/

/-- `L2CAP_CREDIT_BASED_MAX_CIDS`, the most channels one request opens. -/
def l2capCreditBasedMaxCids : Nat := 5
/-- `L2CAP_CREDIT_BASED_MIN_MTU`. -/
def l2capCreditBasedMinMtu : Nat := 64
/-- `L2CAP_CREDIT_BASED_MIN_MPS`. -/
def l2capCreditBasedMinMps : Nat := 64
/-- `L2CAP_BASE_APPL_CID`, the local CID of the first block of the pool. -/
def l2capBaseApplCid : Nat := 0x0040
/-- `BT_PSM_EATT`. -/
def btPsmEatt : Nat := 0x0027
/-- `L2CAP_SDU_LENGTH_LE_MAX`. -/
def l2capSduLengthLeMax : Nat := 0xFFFF
/-- `L2CAP_FCR_LE_COC_MODE`. -/
def l2capFcrLeCocMode : Nat := 0x05
/-- `L2CAP_CMD_REJECT`. -/
def l2capCmdReject : Nat := 0x01
/-- `L2CAP_CMD_CREDIT_BASED_CONN_REQ`. -/
def l2capCmdCreditBasedConnReq : Nat := 0x17
/-- `L2CAP_CMD_CREDIT_BASED_CONN_RES`. -/
def l2capCmdCreditBasedConnRes : Nat := 0x18
/-- `L2CAP_CMD_CREDIT_BASED_RECONFIG_REQ`. -/
def l2capCmdCreditBasedReconfigReq : Nat := 0x19
/-- `L2CAP_CMD_REJ_NOT_UNDERSTOOD`. -/
def l2capCmdRejNotUnderstood : Nat := 0

/-- `L2CAP_LE_RESULT_NO_PSM`. -/
def l2capLeResultNoPsm : Nat := 2
/-- `L2CAP_LE_RESULT_NO_RESOURCES`. -/
def l2capLeResultNoResources : Nat := 4
/-- `L2CAP_LE_RESULT_INSUFFICIENT_AUTHENTICATION`. -/
def l2capLeResultInsufficientAuthentication : Nat := 5
/-- `L2CAP_LE_RESULT_INSUFFICIENT_AUTHORIZATION`. -/
def l2capLeResultInsufficientAuthorization : Nat := 6
/-- `L2CAP_LE_RESULT_INSUFFICIENT_ENCRYP`. -/
def l2capLeResultInsufficientEncryp : Nat := 8
/-- `L2CAP_LE_RESULT_SOURCE_CID_ALREADY_ALLOCATED`. -/
def l2capLeResultSourceCidAlreadyAllocated : Nat := 0x0A
/-- `L2CAP_LE_RESULT_UNACCEPTABLE_PARAMETERS`. -/
def l2capLeResultUnacceptableParameters : Nat := 0x0B
/-- `L2CAP_LE_RESULT_INVALID_PARAMETERS`. -/
def l2capLeResultInvalidParameters : Nat := 0x0C
/-- `L2CAP_CONN_NO_PSM`, a BR/EDR result the request handler also sends. -/
def l2capConnNoPsm : Nat := 2

/-- `L2CAP_RECONFIG_SUCCEED`. -/
def l2capReconfigSucceed : Nat := 0
/-- `L2CAP_RECONFIG_REDUCTION_MTU_NO_ALLOWED`. -/
def l2capReconfigReductionMtuNoAllowed : Nat := 1
/-- `L2CAP_RECONFIG_REDUCTION_MPS_NO_ALLOWED`. -/
def l2capReconfigReductionMpsNoAllowed : Nat := 2
/-- `L2CAP_RECONFIG_INVALID_DCID`. -/
def l2capReconfigInvalidDcid : Nat := 3
/-- `L2CAP_RECONFIG_UNACCAPTED_PARAM`. -/
def l2capReconfigUnaccaptedParam : Nat := 4

/-! ## Links, channels and registrations -/

/-- `tL2C_CHNL_STATE`. -/
inductive ChnlState where
  | closed
  | origW4SecComp
  | termW4SecComp
  | w4L2capConnectRsp
  | w4L2caConnectRsp
  | config
  | open_
  | w4L2capDisconnectRsp
  | w4L2caDisconnectRsp
  deriving DecidableEq, Repr, Inhabited

instance : Inhabited LeCfgInfo := ⟨⟨0, 0⟩⟩

/-- The fields of `tL2C_CCB` that the credit-based connection handlers read or
write.  `onLink` says that `p_lcb` is the link modelled; `rcbPsm` is the PSM
of `p_rcb`, `none` for `NULL`; `peerCredits` is `peer_conn_cfg.credits`. -/
structure EcocCcb where
  inUse : Bool
  onLink : Bool
  localId : Nat
  remoteId : Nat
  remoteCid : Nat
  ecoc : Bool
  rcbPsm : Option Nat
  peerConnCfg : LeCfgInfo
  peerCredits : Nat
  localConnCfg : LeCfgInfo
  remoteCreditCount : Nat
  txMps : Nat
  bleSduLength : Nat
  isFirstSeg : Bool
  peerFcrMode : Nat
  chnlState : ChnlState
  deriving DecidableEq, Repr, Inhabited

/-- A BLE registration of `l2cb.ble_rcb_pool`: its PSM and whether it set the
callbacks `pL2CA_CreditBasedConnectInd_Cb` and
`pL2CA_CreditBasedCollisionInd_Cb`. -/
structure Rcb where
  inUse : Bool
  psm : Nat
  creditBasedConnectInd : Bool
  creditBasedCollisionInd : Bool
  deriving DecidableEq, Repr

/-- What the handlers read from outside the link: whether the controller is
up (`BTM_IsDeviceUp`), the BLE registrations, and the controller's LE data
packet length. -/
structure EcocEnv where
  deviceUp : Bool
  bleRcbPool : List Rcb
  leDataPacketLength : Nat
  deriving DecidableEq, Repr

/-- The link control block of one LE link with its pending credit-based
request, and the channel pool it shares with other links.
`pendingEcocConnectionCids` is the five-entry array. -/
structure Lcb where
  ccbPool : List EcocCcb
  freeCcbs : List Nat
  ccbQueue : List Nat
  linkConnected : Bool
  pendingEcocConnCnt : Nat
  pendingEcocConnectionCids : List Nat
  pendingLeadCid : Nat
  pendingL2capResult : Nat
  deriving DecidableEq, Repr

/-- An event handed to the channel state machine by `l2c_csm_execute`, with
the result it reads from `con_info`. -/
inductive CsmEvent where
  | l2capCreditBasedConnectReq
  | l2capCreditBasedConnectRsp (l2capResult : Nat)
  | l2capCreditBasedConnectRspNeg (l2capResult : Nat)
  | l2capCreditBasedReconfigReq (mtu mps : Nat)
  | l2caCreditBasedConnectReq
  deriving DecidableEq, Repr

/-- What the handlers hand on: the Credit Based Connection Response of
`l2cu_reject_credit_based_conn_req` (its channel count and result; the CIDs it
carries are all 0), an event for the block with a local CID, the EATT
collision callback, a Disconnection Request, a Credit Based Reconfiguration
Response, and a command outside the model. -/
inductive SigOut where
  | creditBasedConnRes (remId numOfChannels result : Nat)
  | csmExecute (localCid : Nat) (event : CsmEvent)
  | creditBasedCollisionInd
  | peerDiscReq (localCid : Nat)
  | bleReconfigRsp (remId result : Nat)
  | otherCommand (cmdCode : Nat)
  deriving DecidableEq, Repr

/-- A write through a `NULL` block: the one `l2cu_find_ccb_by_cid` returned for
a local CID, or the one `l2cu_find_ccb_by_remote_cid` returned for a remote
CID. -/
inductive EcocFault where
  | nullCcb (localCid : Nat)
  | nullRemoteCcb (remoteCid : Nat)
  deriving DecidableEq, Repr

/-- The local CID of the block at an index of the pool. -/
def ccbCid (index : Nat) : Nat := l2capBaseApplCid + index

/-- The block a pointer into the pool points at. -/
def Lcb.ccbAt (lcb : Lcb) (index : Nat) : EcocCcb := lcb.ccbPool.getD index default

/-- Writes to the fields of the block at an index. -/
def Lcb.updateCcb (lcb : Lcb) (index : Nat) (update : EcocCcb → EcocCcb) : Lcb :=
  { lcb with ccbPool := lcb.ccbPool.modify index update }

/-- `l2cu_find_ccb_by_cid`: the block a local CID names, if it is in use on
this link. -/
def l2cuFindCcbByCid (lcb : Lcb) (localCid : Nat) : Option Nat :=
  let index := localCid - l2capBaseApplCid
  if l2capBaseApplCid ≤ localCid ∧ index < lcb.ccbPool.length ∧
      ((lcb.ccbAt index).inUse && (lcb.ccbAt index).onLink) = true then
    some index
  else none

/-- `l2cu_find_ccb_by_remote_cid`: the first block of the link's queue that
is in use with this remote CID. -/
def l2cuFindCcbByRemoteCid (lcb : Lcb) (remoteCid : Nat) : Option Nat :=
  lcb.ccbQueue.find? fun index => (lcb.ccbAt index).inUse && (lcb.ccbAt index).remoteCid == remoteCid

/-- `l2cu_find_ble_rcb_by_psm`. -/
def l2cuFindBleRcbByPsm (env : EcocEnv) (psm : Nat) : Option Rcb :=
  env.bleRcbPool.find? fun rcb => rcb.inUse && rcb.psm == psm

/-- The fields `l2cu_allocate_ccb` sets in a block it takes off the free
chain; `local_id` and `remote_cid` keep what `l2cu_release_ccb` left. -/
def EcocCcb.allocate (ccb : EcocCcb) : EcocCcb :=
  { ccb with
    inUse := true
    onLink := true
    rcbPsm := none
    peerFcrMode := 0
    txMps := btDefaultBufferSize - 32
    chnlState := .closed
    ecoc := false }

/-- `l2cu_allocate_ccb (p_lcb, 0, ...)`: the first block of the free chain,
queued on the link.  It has the lowest priority, so `l2cu_enqueue_ccb` puts
it at the end of the queue. -/
def l2cuAllocateCcb (lcb : Lcb) : Option (Nat × Lcb) :=
  match lcb.freeCcbs with
  | [] => none
  | index :: rest =>
      some (index,
        { lcb with
          freeCcbs := rest
          ccbQueue := lcb.ccbQueue ++ [index]
          ccbPool := lcb.ccbPool.modify index EcocCcb.allocate })

/-- `l2c_csm_execute`, which ignores a `NULL` block. -/
def csmExecute (ccb : Option Nat) (event : CsmEvent) : List SigOut :=
  match ccb with
  | some index => [.csmExecute (ccbCid index) event]
  | none => []

/-- `l2cu_reject_credit_based_conn_req`: a Credit Based Connection Response
that refuses every channel. -/
def l2cuRejectCreditBasedConnReq (remId numOfChannels result : Nat) : SigOut :=
  .creditBasedConnRes remId numOfChannels result

/-- `memset (pending_ecoc_connection_cids, 0, L2CAP_CREDIT_BASED_MAX_CIDS)`.
The count is in bytes and the entries are 16-bit, so the first five of the
array's ten bytes are cleared: the first two CIDs and the low byte of the
third (the stack runs little-endian). -/
def clearCidBytes (cids : List Nat) : List Nat :=
  cids.mapIdx fun i cid => if i < 2 then 0 else if i = 2 then cid / 256 * 256 else cid

/-- `num_of_channels = (p_pkt_end - p) / sizeof(uint16_t)`: the number of
16-bit CIDs from the cursor to the end of the packet, kept in a `uint8_t`. -/
def channelCount (pPktEnd p : Nat) : Nat := (pPktEnd - p) / 2 % 256

/-- The parameter check the handlers make of a peer's MTU and MPS. -/
def invalidCreditBasedParams (mtu mps : Nat) : Bool :=
  mtu < l2capCreditBasedMinMtu || mps < l2capCreditBasedMinMps || l2capLeMaxMps < mps

/-- `l2cble_handle_connect_rsp_neg`: every pending channel is told the request
failed, and the pending request is dropped. -/
def l2cbleHandleConnectRspNeg (lcb : Lcb) (l2capResult : Nat) : Lcb × List SigOut :=
  let events := (List.range lcb.pendingEcocConnCnt).flatMap fun i =>
    csmExecute (l2cuFindCcbByCid lcb (lcb.pendingEcocConnectionCids.getD i 0))
      (.l2capCreditBasedConnectRspNeg l2capResult)
  ({ lcb with
      pendingEcocConnCnt := 0
      pendingEcocConnectionCids := clearCidBytes lcb.pendingEcocConnectionCids },
    events)

/-! ## A peer's request: `L2CAP_CMD_CREDIT_BASED_CONN_REQ` -/

/-- What the channel loop of the request handler carries: the link, and the
local CID of the lead channel once `lead_cid_set`. -/
structure ConnReqLoop where
  lcb : Lcb
  lead : Option Nat

/-- The fields the request handler sets in the block of a channel it
accepts. -/
def EcocCcb.acceptPeer (id rcid psm mtu mps initialCredit : Nat) (ccb : EcocCcb) : EcocCcb :=
  { ccb with
    ecoc := true
    remoteId := id
    rcbPsm := some psm
    remoteCid := rcid
    peerConnCfg := ⟨mtu, mps⟩
    peerCredits := initialCredit
    txMps := mps
    bleSduLength := 0
    isFirstSeg := true
    peerFcrMode := l2capFcrLeCocMode }

/-- One round of the channel loop of `L2CAP_CMD_CREDIT_BASED_CONN_REQ`, for the
source CID at `p + 2 i`: a CID already in use on the link, or no free block,
refuses the channel; otherwise a block is taken for it, and the first such
block leads. -/
def creditBasedConnReqChannel (env : EcocEnv) (mem : Nat → UInt8) (p id psm mtu mps initialCredit : Nat)
    (loop : ConnReqLoop) (i : Nat) : ConnReqLoop :=
  let lcb := loop.lcb
  let rcid := u16leAt mem (p + 2 * i)
  match l2cuFindCcbByRemoteCid lcb rcid with
  | some _ =>
      { loop with
        lcb := { lcb with
          pendingEcocConnectionCids := lcb.pendingEcocConnectionCids.set i 0
          pendingL2capResult := l2capLeResultSourceCidAlreadyAllocated } }
  | none =>
      match l2cuAllocateCcb lcb with
      | none =>
          { loop with
            lcb := { lcb with
              pendingEcocConnectionCids := lcb.pendingEcocConnectionCids.set i 0
              pendingL2capResult := l2capLeResultNoResources } }
      | some (index, lcb) =>
          let lcb := lcb.updateCcb index (EcocCcb.acceptPeer id rcid psm mtu mps initialCredit)
          let lcb := { lcb with
            pendingEcocConnectionCids := lcb.pendingEcocConnectionCids.set i (ccbCid index) }
          match loop.lead with
          | some lead => ⟨lcb, some lead⟩
          | none =>
              let lcb := lcb.updateCcb index fun ccb =>
                { ccb with localConnCfg := ⟨l2capSduLengthLeMax, env.leDataPacketLength⟩ }
              ⟨{ lcb with pendingLeadCid := ccbCid index }, some (ccbCid index)⟩

/-- `L2CAP_CMD_CREDIT_BASED_CONN_REQ`, its data from `p`.  The number of
channels is counted from the end of the packet and kept in a `uint8_t`, and
the request is recorded as pending before the checks of the registration's
callback and of the parameters. -/
def creditBasedConnReq (env : EcocEnv) (mem : Nat → UInt8) (pPktEnd p id : Nat) (lcb : Lcb) :
    Lcb × List SigOut :=
  if pPktEnd < p + 10 then (lcb, [])
  else
    let psm := u16leAt mem p
    let mtu := u16leAt mem (p + 2)
    let mps := u16leAt mem (p + 4)
    let initialCredit := u16leAt mem (p + 6)
    let numOfChannels := channelCount pPktEnd (p + 8)
    if l2capCreditBasedMaxCids < numOfChannels then
      (lcb, [l2cuRejectCreditBasedConnReq id l2capCreditBasedMaxCids l2capLeResultInvalidParameters])
    else
      match l2cuFindBleRcbByPsm env psm with
      | none => (lcb, [l2cuRejectCreditBasedConnReq id numOfChannels l2capLeResultNoPsm])
      | some rcb =>
          if 0 < lcb.pendingEcocConnCnt then
            (lcb,
              (if rcb.creditBasedCollisionInd && psm == btPsmEatt then [.creditBasedCollisionInd] else []) ++
                [l2cuRejectCreditBasedConnReq id numOfChannels l2capLeResultNoResources])
          else
            let lcb := { lcb with pendingEcocConnCnt := numOfChannels }
            if !rcb.creditBasedConnectInd then
              (lcb, [l2cuRejectCreditBasedConnReq id numOfChannels l2capConnNoPsm])
            else if invalidCreditBasedParams mtu mps then
              (lcb, [l2cuRejectCreditBasedConnReq id numOfChannels l2capLeResultInvalidParameters])
            else
              let loop := (List.range numOfChannels).foldl
                (creditBasedConnReqChannel env mem (p + 8) id psm mtu mps initialCredit) ⟨lcb, none⟩
              match loop.lead with
              | none =>
                  (loop.lcb, [l2cuRejectCreditBasedConnReq id numOfChannels loop.lcb.pendingL2capResult])
              | some lead => (loop.lcb, [.csmExecute lead .l2capCreditBasedConnectReq])

/-! ## The peer's answer: `L2CAP_CMD_CREDIT_BASED_CONN_RES` -/

/-- What the channel loop of the response handler carries: the link, what
it handed on, and `con_info.l2cap_result`, which a refused channel
overwrites for the channels after it. -/
structure ConnResLoop where
  lcb : Lcb
  out : List SigOut
  l2capResult : Nat

/-- The fields the response handler sets in the block of a channel the peer
accepted. -/
def EcocCcb.acceptedByPeer (mtu mps initialCredit : Nat) (ccb : EcocCcb) : EcocCcb :=
  { ccb with
    txMps := mps
    bleSduLength := 0
    isFirstSeg := true
    peerFcrMode := l2capFcrLeCocMode
    peerConnCfg := ⟨mtu, mps⟩
    peerCredits := initialCredit }

/-- One round of the channel loop of `L2CAP_CMD_CREDIT_BASED_CONN_RES`: the
`i`-th saved local CID and the destination CID at `p + 2 i`.  A destination
CID already in use on the link has that channel disconnected and this one
refused; otherwise the block of the saved CID is looked up and written
without a check. -/
def creditBasedConnResChannel (mem : Nat → UInt8) (p mtu mps initialCredit : Nat) (cids : List Nat)
    (loop : ConnResLoop) (i : Nat) : Except EcocFault ConnResLoop :=
  let lcb := loop.lcb
  let cid := cids.getD i 0
  let rcid := u16leAt mem (p + 2 * i)
  match (if rcid = 0 then none else l2cuFindCcbByRemoteCid lcb rcid) with
  | some duplicate =>
      .ok { loop with
        out := loop.out ++ .peerDiscReq (ccbCid duplicate) ::
          csmExecute (l2cuFindCcbByCid lcb cid)
            (.l2capCreditBasedConnectRspNeg l2capLeResultUnacceptableParameters)
        l2capResult := l2capLeResultUnacceptableParameters }
  | none =>
      match l2cuFindCcbByCid lcb cid with
      | none => .error (.nullCcb cid)
      | some index =>
          let lcb := lcb.updateCcb index fun ccb => { ccb with remoteCid := rcid }
          if rcid = 0 then
            .ok { loop with
              lcb := lcb
              out := loop.out ++ csmExecute (some index) (.l2capCreditBasedConnectRspNeg loop.l2capResult) }
          else
            .ok { loop with
              lcb := lcb.updateCcb index (EcocCcb.acceptedByPeer mtu mps initialCredit)
              out := loop.out ++ csmExecute (some index) (.l2capCreditBasedConnectRsp loop.l2capResult) }

/-- The results with which a peer refuses every channel of a request. -/
def refusesAllChannels (l2capResult : Nat) : Bool :=
  l2capResult == l2capLeResultNoPsm || l2capResult == l2capLeResultInsufficientAuthentication ||
    l2capResult == l2capLeResultInsufficientEncryp || l2capResult == l2capLeResultInsufficientAuthorization ||
    l2capResult == l2capLeResultUnacceptableParameters || l2capResult == l2capLeResultInvalidParameters

/-- `L2CAP_CMD_CREDIT_BASED_CONN_RES`, its data from `p`.  The request it
answers is found by the identifier of a block on the link; the channel count
is taken from the end of the packet and must equal the pending count. -/
def creditBasedConnRes (mem : Nat → UInt8) (pPktEnd p id : Nat) (lcb : Lcb) :
    Except EcocFault (Lcb × List SigOut) :=
  if pPktEnd < p + 8 then .ok (lcb, [])
  else
    match lcb.ccbQueue.find? fun index => (lcb.ccbAt index).localId == id with
    | none => .ok (lcb, [])
    | some _ =>
        let mtu := u16leAt mem p
        let mps := u16leAt mem (p + 2)
        let initialCredit := u16leAt mem (p + 4)
        let l2capResult := u16leAt mem (p + 6)
        if refusesAllChannels l2capResult then .ok (l2cbleHandleConnectRspNeg lcb l2capResult)
        else if invalidCreditBasedParams mtu mps then
          .ok (l2cbleHandleConnectRspNeg lcb l2capLeResultInvalidParameters)
        else
          let numOfChannels := channelCount pPktEnd (p + 8)
          if numOfChannels ≠ lcb.pendingEcocConnCnt then .ok (lcb, [])
          else
            let cleared := { lcb with
              pendingEcocConnCnt := 0
              pendingEcocConnectionCids := List.replicate l2capCreditBasedMaxCids 0 }
            ((List.range numOfChannels).foldlM
                (creditBasedConnResChannel mem (p + 8) mtu mps initialCredit lcb.pendingEcocConnectionCids)
                ⟨cleared, [], l2capResult⟩).map fun loop => (loop.lcb, loop.out)

/-! ## Reconfiguration: `L2CAP_CMD_CREDIT_BASED_RECONFIG_REQ` -/

/-- The first loop of the reconfiguration handler: the result that refuses the
request, if a destination CID names no channel of the link or asks a channel
to shrink. -/
def creditBasedReconfigCheck (mem : Nat → UInt8) (p mtu mps numOfChannels : Nat) (lcb : Lcb) : Option Nat :=
  (List.range numOfChannels).findSome? fun i =>
    match l2cuFindCcbByRemoteCid lcb (u16leAt mem (p + 2 * i)) with
    | none => some l2capReconfigInvalidDcid
    | some index =>
        if mtu < (lcb.ccbAt index).peerConnCfg.mtu then some l2capReconfigReductionMtuNoAllowed
        else if mps < (lcb.ccbAt index).peerConnCfg.mps ∧ 1 < numOfChannels then
          some l2capReconfigReductionMpsNoAllowed
        else none

/-- One round of the second loop of the reconfiguration handler, which looks
the channel up again and stores the new values. -/
def creditBasedReconfigChannel (mem : Nat → UInt8) (p mtu mps : Nat) (state : Lcb × List SigOut) (i : Nat) :
    Except EcocFault (Lcb × List SigOut) :=
  let rcid := u16leAt mem (p + 2 * i)
  match l2cuFindCcbByRemoteCid state.1 rcid with
  | none => .error (.nullRemoteCcb rcid)
  | some index =>
      .ok (state.1.updateCcb index (fun ccb => { ccb with peerConnCfg := ⟨mtu, mps⟩, txMps := mps }),
        state.2 ++ [.csmExecute (ccbCid index) (.l2capCreditBasedReconfigReq mtu mps)])

/-- `L2CAP_CMD_CREDIT_BASED_RECONFIG_REQ`, its data from `p`. -/
def creditBasedReconfigReq (mem : Nat → UInt8) (pPktEnd p id : Nat) (lcb : Lcb) :
    Except EcocFault (Lcb × List SigOut) :=
  if pPktEnd < p + 6 then .ok (lcb, [.bleReconfigRsp id l2capReconfigUnaccaptedParam])
  else
    let mtu := u16leAt mem p
    let mps := u16leAt mem (p + 2)
    if invalidCreditBasedParams mtu mps then
      .ok (lcb, [.bleReconfigRsp id l2capReconfigUnaccaptedParam])
    else
      let numOfChannels := channelCount pPktEnd (p + 4)
      match creditBasedReconfigCheck mem (p + 4) mtu mps numOfChannels lcb with
      | some result => .ok (lcb, [.bleReconfigRsp id result])
      | none =>
          ((List.range numOfChannels).foldlM (creditBasedReconfigChannel mem (p + 4) mtu mps) (lcb, [])).map
            fun state => (state.1, state.2 ++ [.bleReconfigRsp id l2capReconfigSucceed])

/-! ## The command handler -/

/-- `L2CAP_CMD_REJECT`, its data from `p`: a peer that did not understand a
command while a request is pending refuses that request. -/
def cmdReject (mem : Nat → UInt8) (pPktEnd p : Nat) (lcb : Lcb) : Lcb × List SigOut :=
  if pPktEnd < p + 2 then (lcb, [])
  else if u16leAt mem p = l2capCmdRejNotUnderstood ∧ 0 < lcb.pendingEcocConnCnt then
    l2cbleHandleConnectRspNeg lcb l2capLeResultNoPsm
  else (lcb, [])

/-- `l2cble_process_sig_cmd` on the packet of `pkt_len` bytes at `p`: its
command header, then the handler of the command. -/
def l2cbleProcessSigCmd (env : EcocEnv) (mem : Nat → UInt8) (p pktLen : Nat) (lcb : Lcb) :
    Except EcocFault (Lcb × List SigOut) :=
  let pPktEnd := p + pktLen
  if pPktEnd < p + 4 then .ok (lcb, [])
  else
    let cmdCode := (mem p).toNat
    let id := (mem (p + 1)).toNat
    let cmdLen := u16leAt mem (p + 2)
    if pPktEnd < p + 4 + cmdLen then .ok (lcb, [])
    else if cmdCode = l2capCmdReject then .ok (cmdReject mem pPktEnd (p + 4) lcb)
    else if cmdCode = l2capCmdCreditBasedConnReq then .ok (creditBasedConnReq env mem pPktEnd (p + 4) id lcb)
    else if cmdCode = l2capCmdCreditBasedConnRes then creditBasedConnRes mem pPktEnd (p + 4) id lcb
    else if cmdCode = l2capCmdCreditBasedReconfigReq then creditBasedReconfigReq mem pPktEnd (p + 4) id lcb
    else .ok (lcb, [.otherCommand cmdCode])

/-! ## A local request: `L2CA_ConnectCreditBasedReq` -/

/-- The channel loop of `L2CA_ConnectCreditBasedReq`: a block for each channel
until the free chain runs out.  The first block stays closed for the state
machine; the others wait for the peer's response. -/
def allocateRequestedCcbs (psm : Nat) (cfg : LeCfgInfo) (credits : Nat) :
    Nat → List Nat → Lcb → List Nat × Lcb
  | 0, allocated, lcb => (allocated, lcb)
  | remaining + 1, allocated, lcb =>
      match l2cuAllocateCcb lcb with
      | none => (allocated, lcb)
      | some (index, lcb) =>
          let lcb := lcb.updateCcb index fun ccb =>
            { ccb with
              ecoc := true
              localConnCfg := cfg
              remoteCreditCount := credits
              rcbPsm := some psm
              chnlState := if allocated.isEmpty then ccb.chnlState else .w4L2capConnectRsp }
          allocateRequestedCcbs psm cfg credits remaining (allocated ++ [ccbCid index]) lcb

/-- `L2CA_ConnectCreditBasedReq` on this link: the local CIDs of the channels
requested, with the link and what is handed on.  A failed allocation of the
first channel returns no CIDs, a later one ends the loop. -/
def l2caConnectCreditBasedReq (env : EcocEnv) (psm : Nat) (cfg : LeCfgInfo) (credits numberOfChannels : Nat)
    (lcb : Lcb) : List Nat × Lcb × List SigOut :=
  if !env.deviceUp then ([], lcb, [])
  else
    match l2cuFindBleRcbByPsm env psm with
    | none => ([], lcb, [])
    | some _ =>
        if !lcb.linkConnected then ([], lcb, [])
        else if 0 < lcb.pendingEcocConnCnt then ([], lcb, [])
        else
          let numberOfChannels :=
            if l2capCreditBasedMaxCids < numberOfChannels ∨ numberOfChannels = 0 then l2capCreditBasedMaxCids
            else numberOfChannels
          match allocateRequestedCcbs psm cfg credits numberOfChannels [] lcb with
          | ([], lcb) => ([], lcb, [])
          | (primary :: others, lcb) =>
              (primary :: others,
                { lcb with
                  pendingEcocConnectionCids :=
                    (primary :: others) ++ lcb.pendingEcocConnectionCids.drop (others.length + 1)
                  pendingEcocConnCnt := others.length + 1 },
                [.csmExecute primary .l2caCreditBasedConnectReq])

/-! ## Runs -/

/-- What happens on the link: the peer sends a signalling packet, or a local
profile asks for channels. -/
inductive EcocEvent where
  | peerPacket (bytes : List UInt8)
  | localConnect (psm : Nat) (cfg : LeCfgInfo) (credits numberOfChannels : Nat)

/-- The link after one event, with what was handed on. -/
def ecocStep (env : EcocEnv) (lcb : Lcb) : EcocEvent → Except EcocFault (Lcb × List SigOut)
  | .peerPacket bytes => l2cbleProcessSigCmd env (fun i => bytes.getD i 0) 0 bytes.length lcb
  | .localConnect psm cfg credits numberOfChannels =>
      let result := l2caConnectCreditBasedReq env psm cfg credits numberOfChannels lcb
      .ok (result.2.1, result.2.2)

end L2cap
end BluetoothStack
