import BluetoothStack.L2cap.FcrDefs
import BluetoothStack.Library.ByteStream

namespace BluetoothStack
namespace L2cap

open ByteStream

/-!
# Enhanced retransmission mode: the sending side

The functions of `l2c_fcr.cc` that number, segment, queue, retransmit and
release I-frames.  `l2c_fcr_get_next_xmit_sdu_seg` takes the next piece of
the SDU at the head of `xmit_hold_q`, `prepare_I_frame` gives it its control
word, and in ERTM a copy waits in `waiting_for_ack_q` until `process_reqseq`
sees it acknowledged.  `retransmit_i_frames` copies waiting frames into
`retrans_q`, from which the next call of `l2c_fcr_get_next_xmit_sdu_seg`
sends them again.

`l2c_link_check_send_pkts` is the link scheduler.  Called with a buffer it
sends that buffer, which here means recording an S-frame; called with `NULL`
it may let the channel send, which the run semantics of `ErtmWindow` takes as
separate calls of `l2c_fcr_get_next_xmit_sdu_seg`.  `osi_malloc` aborts rather
than return `NULL`, so `l2c_fcr_clone_buf` always succeeds and the
allocation-failure branches after it are unreachable.
-/

/-- `l2c_fcr_clone_buf`: the `noOfBytes` bytes that `memcpy` copies from the
buffer's offset. -/
def l2cFcrCloneBuf (buffer : SduBuffer) (noOfBytes : Nat) : List UInt8 :=
  (List.range' buffer.offset noOfBytes).map buffer.mem

@[simp]
theorem l2cFcrCloneBuf_length (buffer : SduBuffer) (count : Nat) :
    (l2cFcrCloneBuf buffer count).length = count := by
  simp [l2cFcrCloneBuf]

theorem SduBuffer.contents_length (buffer : SduBuffer) : buffer.contents.length = buffer.len := by
  simp [SduBuffer.contents]

/-- Copying no more bytes than the buffer holds takes a prefix of its contents. -/
theorem l2cFcrCloneBuf_eq_take (buffer : SduBuffer) {count : Nat} (fits : count ≤ buffer.len) :
    l2cFcrCloneBuf buffer count = buffer.contents.take count := by
  have split : List.range' buffer.offset buffer.len =
      List.range' buffer.offset count ++ List.range' (buffer.offset + count) (buffer.len - count) := by
    have joined := @List.range'_append buffer.offset count (buffer.len - count) 1
    rw [Nat.one_mul, Nat.add_sub_cancel' fits] at joined
    exact joined.symm
  unfold l2cFcrCloneBuf SduBuffer.contents
  rw [split, List.map_append, List.take_left' (by simp)]

/-- Moving a buffer's offset past its first `count` bytes leaves the rest of
its contents. -/
theorem SduBuffer.contents_skip (buffer : SduBuffer) (count event : Nat) :
    SduBuffer.contents { buffer with
        event := event
        len := buffer.len - count
        offset := buffer.offset + count } = buffer.contents.drop count := by
  simp only [SduBuffer.contents, ← List.map_drop, List.drop_range', Nat.mul_one]

/-- `prepare_I_frame`: the control word of a frame about to be sent.  A new
frame takes `next_tx_seq`, which then advances modulo 64; a retransmitted
copy keeps its TxSeq and loses its old ReqSeq and F bit.  In ERTM the frame
acknowledges everything received so far. -/
def prepareIFrame (ccb : Ccb) (frame : IFrame) (isRetransmission : Bool) : Ccb × IFrame :=
  let fcrb := ccb.fcrb
  let ctrlWord :=
    if isRetransmission then frame.ctrlWord &&& (0xFFFF - (l2capFcrReqSeqBits + l2capFcrFBit))
    else (frame.layerSpecific &&& l2capFcrSegBits) ||| (fcrb.nextTxSeq <<< l2capFcrTxSeqBitsShift)
  let ctrlWord :=
    if ccb.peerModeErtm then
      (if fcrb.sendFRsp then ctrlWord ||| l2capFcrFBit else ctrlWord) |||
        (fcrb.nextSeqExpected <<< l2capFcrReqSeqBitsShift)
    else ctrlWord
  ({ ccb with fcrb := { fcrb with
      sendFRsp := false
      nextTxSeq :=
        if isRetransmission then fcrb.nextTxSeq else (fcrb.nextTxSeq + 1) &&& l2capFcrSeqModulo
      lastAckSent := if ccb.peerModeErtm then fcrb.nextSeqExpected else fcrb.lastAckSent } },
    { frame with ctrlWord := ctrlWord })

/-- The end of `l2c_fcr_get_next_xmit_sdu_seg` for a new segment:
`prepare_I_frame` numbers it and, in ERTM, a copy of it joins
`waiting_for_ack_q`. -/
def sendNewIFrame (ccb : Ccb) (xmit : IFrame) : Option IFrame × Ccb :=
  let prepared := prepareIFrame ccb xmit false
  if ccb.peerModeErtm then
    (some prepared.2, { prepared.1 with fcrb := { prepared.1.fcrb with
        waitingForAckQ := prepared.1.fcrb.waitingForAckQ ++ [prepared.2] } })
  else (some prepared.2, prepared.1)

/-- The test by which the link scheduler lets an ERTM channel send
(`l2cu_get_next_channel_in_rr` for dynamic channels,
`l2cu_get_next_buffer_to_send` for fixed ones): no final response is
awaited, the peer is not busy, and either a retransmission is queued or an
SDU waits while the window is open.  Dynamic channels must also be open;
fixed channels are served without that check, so it is left out here. -/
def ertmReadyToSend (ccb : Ccb) : Bool :=
  !ccb.fcrb.waitAck && !ccb.fcrb.remoteBusy &&
    (!ccb.fcrb.retransQ.isEmpty || (!ccb.xmitHoldQ.isEmpty && !l2cFcrIsFlowControlled ccb))

/-- `l2c_fcr_get_next_xmit_sdu_seg`: the next I-frame to send.  A queued
retransmission goes first.  Otherwise the SDU at the head of `xmit_hold_q` is
sent whole when it fits in `max_pdu`, and else its next `max_pdu` bytes are
copied out; a start frame carries the 2-byte SDU length and so two bytes less
data.  `max_pdu`, `len` and `offset` are 16-bit, so the arithmetic on them is
taken modulo `2^16`.  The callers never call it with an empty `xmit_hold_q`
when `retrans_q` is empty; the model then sends nothing. -/
def l2cFcrGetNextXmitSduSeg (ccb : Ccb) (maxPacketLength : Nat) : Option IFrame × Ccb :=
  match ccb.fcrb.retransQ with
  | frame :: rest =>
      let prepared := prepareIFrame { ccb with fcrb := { ccb.fcrb with retransQ := rest } } frame true
      (some prepared.2, prepared.1)
  | [] =>
      let maxPdu :=
        if l2capMaxHeaderFcs < maxPacketLength ∧ maxPacketLength < ccb.txMps + l2capMaxHeaderFcs then
          maxPacketLength - l2capMaxHeaderFcs
        else ccb.txMps
      match ccb.xmitHoldQ with
      | [] => (none, ccb)
      | buffer :: rest =>
          if maxPdu < buffer.len then
            -- the SDU needs segmentation; `event` tells whether it has started
            let firstSeg := buffer.event == 0
            let maxPdu := if firstSeg then (maxPdu + 65536 - 2) % 65536 else maxPdu
            let data := l2cFcrCloneBuf buffer maxPdu
            let held := { buffer with event := ccb.localCid,
                                      len := (buffer.len + 65536 - maxPdu) % 65536,
                                      offset := (buffer.offset + maxPdu) % 65536 }
            let xmit : IFrame :=
              if firstSeg then
                { ctrlWord := 0, layerSpecific := buffer.layerSpecific ||| l2capFcrStartSdu,
                  info := u16le buffer.len ++ data }
              else
                { ctrlWord := 0, layerSpecific := buffer.layerSpecific ||| l2capFcrContSdu,
                  info := data }
            sendNewIFrame { ccb with xmitHoldQ := held :: rest } xmit
          else
            let sar := if buffer.event != 0 then l2capFcrEndSdu else l2capFcrUnsegSdu
            sendNewIFrame { ccb with xmitHoldQ := rest }
              { ctrlWord := 0, layerSpecific := buffer.layerSpecific ||| sar,
                info := buffer.contents }

/-- `l2c_fcr_send_S_frame`: on an open channel, send an S-frame acknowledging
everything received; a poll starts the wait for a final response. -/
def l2cFcrSendSFrame (ccb : Ccb) (functionCode pfBit : Nat) : Ccb :=
  if !ccb.open_ then ccb
  else
    let fcrb := ccb.fcrb
    let ctrlWord := (functionCode <<< l2capFcrSupShift) ||| l2capFcrSFrameBit |||
      (fcrb.nextSeqExpected <<< l2capFcrReqSeqBitsShift) ||| pfBit
    { ccb with
      fcrb := { fcrb with waitAck := if pfBit == l2capFcrPBit then true else fcrb.waitAck,
                          lastAckSent := fcrb.nextSeqExpected }
      sFramesSent := ccb.sFramesSent ++ [ctrlWord] }

/-- `l2c_fcr_proc_tout`: the retransmission or monitor timer has expired.
When `max_transmit` is set, `num_tries` (a `uint8_t`) counts the poll, and
past `max_transmit` polls the channel is disconnected; otherwise, unless a
reject is outstanding, the peer is polled with an RR. -/
def l2cFcrProcTout (ccb : Ccb) : Ccb :=
  let ccb :=
    if ccb.peerMaxTransmit ≠ 0 then
      { ccb with fcrb := { ccb.fcrb with numTries := (ccb.fcrb.numTries + 1) % 256 } }
    else ccb
  if ccb.peerMaxTransmit ≠ 0 ∧ ccb.peerMaxTransmit < ccb.fcrb.numTries then ccb.disconnect
  else if !ccb.fcrb.srejSent && !ccb.fcrb.rejSent then
    l2cFcrSendSFrame ccb l2capFcrSupRr l2capFcrPBit
  else ccb

/-- `l2c_fcr_proc_ack_tout`: the acknowledgement timer has expired.  An open
channel that is not waiting for a final response acknowledges the frames it
has received since its last acknowledgement. -/
def l2cFcrProcAckTout (ccb : Ccb) : Ccb :=
  if ccb.open_ && !ccb.fcrb.waitAck && ccb.fcrb.lastAckSent != ccb.fcrb.nextSeqExpected then
    l2cFcrSendSFrame ccb l2capFcrSupRr 0
  else ccb

/-- The retry count after a retransmission: `num_tries` is a `uint8_t` and
counts only while frames wait for an acknowledgement. -/
def bumpNumTries (ccb : Ccb) : Ccb :=
  if ccb.fcrb.waitingForAckQ = [] then ccb
  else { ccb with fcrb := { ccb.fcrb with numTries := (ccb.fcrb.numTries + 1) % 256 } }

/-- `retransmit_i_frames`: copy the waiting frame with the given TxSeq, or
every waiting frame for `L2C_FCR_RETX_ALL_PKTS`, into `retrans_q`.  Past
`max_transmit` tries the channel is disconnected instead.  A TxSeq that no
waiting frame carries copies nothing but still counts a try, as the code's
search loop leaves its cursor at the end of the list.  (Retransmitting all
frames also flushes this channel's unsegmented packets from the link's
queue; that queue belongs to the link and is not modelled.) -/
def retransmitIFrames (ccb : Ccb) (txSeq : Nat) : Bool × Ccb :=
  let fcrb := ccb.fcrb
  if fcrb.waitingForAckQ ≠ [] ∧ ccb.peerMaxTransmit ≠ 0 ∧ ccb.peerMaxTransmit ≤ fcrb.numTries then
    (false, ccb.disconnect)
  else if txSeq ≠ l2cFcrRetxAllPkts then
    if fcrb.waitingForAckQ = [] then (true, ccb)
    else
      match fcrb.waitingForAckQ.find? (fun frame => txSeqOf frame.ctrlWord == txSeq) with
      | some frame =>
          (true, bumpNumTries { ccb with fcrb := { fcrb with retransQ := fcrb.retransQ ++ [frame] } })
      | none => (true, bumpNumTries ccb)
  else
    (true, bumpNumTries { ccb with fcrb := { fcrb with retransQ := fcrb.waitingForAckQ } })

/-- `num_bufs_acked = (req_seq - last_rx_ack) & L2CAP_FCR_SEQ_MODULO`.  Both
operands are `uint8_t`, so the `int` difference lies in `(-256, 256)`; adding
256 keeps it non-negative without changing its low six bits. -/
def numBufsAcked (reqSeq lastRxAck : Nat) : Nat :=
  (reqSeq + 256 - lastRxAck) &&& l2capFcrSeqModulo

/-- Whether a control word is an SREJ without the P bit, whose ReqSeq
acknowledges nothing. -/
def isSrejWithoutPoll (ctrlWord : Nat) : Bool :=
  hasBit ctrlWord l2capFcrSFrameBit &&
    (ctrlWord &&& l2capFcrSupBits == l2capFcrSupSrej <<< l2capFcrSupShift) &&
    !hasBit ctrlWord l2capFcrPBit

/-- Whether a waiting frame ends an SDU (unsegmented or end), the frames that
`process_reqseq` counts as fully transmitted SDUs. -/
def endsSdu (frame : IFrame) : Bool :=
  let ls := frame.layerSpecific &&& l2capFcrSarBits
  ls == l2capFcrUnsegSdu || ls == l2capFcrEndSdu

/-- `process_reqseq`: acknowledge the waiting frames up to the frame's
ReqSeq.  A ReqSeq more than the queue length past `last_rx_ack` disconnects
the channel and the frame is dropped (`false`). -/
def processReqseq (ccb : Ccb) (ctrlWord : Nat) : Bool × Ccb :=
  if isSrejWithoutPoll ctrlWord then (true, ccb)
  else
    let fcrb := ccb.fcrb
    let reqSeq := reqSeqOf ctrlWord
    let acked := numBufsAcked reqSeq fcrb.lastRxAck
    if fcrb.waitingForAckQ.length < acked then (false, ccb.disconnect)
    else
      let fullSdusXmitted := (fcrb.waitingForAckQ.take acked).countP endsSdu
      let fcrb := { fcrb with
        lastRxAck := reqSeq
        waitingForAckQ := fcrb.waitingForAckQ.drop acked
        numTries := if acked ≠ 0 then 0 else fcrb.numTries }
      let report :=
        if acked ≠ 0 ∧ ccb.hasTxCompleteCb ∧ fullSdusXmitted ≠ 0 then
          [if fcrb.waitingForAckQ = [] ∧ ccb.xmitHoldQ = [] then 0xFFFF else fullSdusXmitted]
        else []
      (true, { ccb with fcrb := fcrb, txComplete := ccb.txComplete ++ report })

end L2cap
end BluetoothStack
