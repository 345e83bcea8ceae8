import BluetoothStack.L2cap.FcrTx
import BluetoothStack.L2cap.Fcs

namespace BluetoothStack
namespace L2cap

open ByteStream

/-!
# Enhanced retransmission mode: the receiving side

`l2c_fcr_proc_pdu` is the entry point for every frame received on an ERTM
channel.  It checks the length and the FCS, settles a pending poll, lets
`process_reqseq` release acknowledged frames, and hands the frame to
`process_s_frame` or `process_i_frame`.  An I-frame in sequence goes to
`do_sar_reassembly`; one out of sequence is dropped, rejected or held in
`srej_rcv_hold_q`, whose frames are processed again once the selective
reject has cleared.

`process_i_frame` reads the last held frame with `fixed_queue_try_peek_last`
and dereferences the result without a check.  On an empty hold queue that is
a null dereference, which the model returns as `none`; so do the functions
that call it.  The frame that arrives is the buffer's bytes: `header` is the
basic L2CAP header that precedes the buffer's offset and enters the FCS, and
`body` is the `len` bytes from the control word to the end of the frame.
-/

/-- A received ERTM frame. -/
structure RxPdu where
  header : List UInt8
  body : List UInt8

/-- `l2c_fcr_rx_get_fcs`: the FCS of a frame over its header and payload. -/
def l2cFcrRxGetFcs (header payload : List UInt8) : Nat :=
  l2cFcrUpdcrc l2capFcrInitCrc (header ++ payload)

/-- The tail of `do_sar_reassembly` for a start, continuation or end frame:
add `data` to the SDU being received unless that overruns the announced
length, or an end frame leaves it short; an end frame delivers the SDU. -/
def appendSegment (ccb : Ccb) (fcrb : Fcrb) (sdu data : List UInt8) (isEnd : Bool) :
    Bool × Ccb :=
  if fcrb.rxSduLen < sdu.length + data.length then (false, { ccb with fcrb := fcrb })
  else if isEnd && sdu.length + data.length != fcrb.rxSduLen then (false, { ccb with fcrb := fcrb })
  else if isEnd then
    (true, { ccb with fcrb := { fcrb with pRxSdu := none },
                      delivered := ccb.delivered ++ [sdu ++ data] })
  else (true, { ccb with fcrb := { fcrb with pRxSdu := some (sdu ++ data) } })

/-- `do_sar_reassembly`: check the SAR bits against the reassembly state and
add the frame's payload to the SDU being received.  `false` means a SAR
error, on which the caller disconnects.  The call is first recorded in
`sarFrames`. -/
def doSarReassembly (ccb : Ccb) (info : List UInt8) (ctrlWord : Nat) : Bool × Ccb :=
  let ccb := { ccb with sarFrames := ccb.sarFrames ++ [(info, ctrlWord)] }
  let fcrb := ccb.fcrb
  let sarType := sarOf ctrlWord
  if sarType == l2capFcrUnsegSdu then
    if fcrb.pRxSdu.isSome then (false, ccb)
    else (true, { ccb with delivered := ccb.delivered ++ [info] })
  else if sarType == l2capFcrStartSdu then
    if fcrb.pRxSdu.isSome || info.length < l2capSduLenOverhead then (false, ccb)
    else
      let fcrb := { fcrb with rxSduLen := readU16le (info.getD 0 0) (info.getD 1 0) }
      if ccb.maxRxMtu < fcrb.rxSduLen then (false, { ccb with fcrb := fcrb })
      -- the SDU buffer is allocated before the length checks, and kept if they fail
      else appendSegment ccb { fcrb with pRxSdu := some [] } [] (info.drop l2capSduLenOverhead) false
  else
    match fcrb.pRxSdu with
    | none => (false, ccb)
    | some sdu => appendSegment ccb fcrb sdu info (sarType == l2capFcrEndSdu)

/-- The F-bit response to a poll: an SREJ while a selective reject is
outstanding, an RR otherwise. -/
def sendFinalResponse (ccb : Ccb) : Ccb :=
  l2cFcrSendSFrame ccb (if ccb.fcrb.srejSent then l2capFcrSupSrej else l2capFcrSupRr) l2capFcrFBit

/-- `process_s_frame`: act on an RR, REJ, RNR or SREJ, and answer a poll
with the F bit once any retransmission has been queued. -/
def processSFrame (ccb : Ccb) (ctrlWord : Nat) : Ccb :=
  let ccb :=
    if hasBit ctrlWord l2capFcrPBit then
      { ccb with fcrb := { ccb.fcrb with rejSent := false, sendFRsp := true } }
    else ccb
  let setRemoteBusy (busy : Bool) (c : Ccb) : Ccb :=
    { c with fcrb := { c.fcrb with remoteBusy := busy } }
  let outcome :=
    match supOf ctrlWord with
    | 0 =>
        if hasBit ctrlWord l2capFcrFBit || ccb.fcrb.remoteBusy then
          retransmitIFrames (setRemoteBusy false ccb) l2cFcrRetxAllPkts
        else (true, setRemoteBusy false ccb)
    | 1 => retransmitIFrames (setRemoteBusy false ccb) l2cFcrRetxAllPkts
    | 2 => (true, setRemoteBusy true ccb)
    | _ => retransmitIFrames (setRemoteBusy false ccb) (reqSeqOf ctrlWord)
  if outcome.1 && outcome.2.fcrb.sendFRsp then
    let ccb := sendFinalResponse outcome.2
    { ccb with fcrb := { ccb.fcrb with sendFRsp := false } }
  else outcome.2

/-- `num_lost` and `num_to_ack`: `(a - b) & L2CAP_FCR_SEQ_MODULO` on two
`uint8_t` operands, as in `numBufsAcked`. -/
def seqDistance (a b : Nat) : Nat :=
  (a + 256 - b) &&& l2capFcrSeqModulo

/-- The branch of `process_i_frame` for a frame out of sequence.  A frame
more than our window behind is a duplicate and dropped.  During a selective
reject the frame is held if it is the next one after the last held frame and
the hold queue has room, and otherwise marks that more frames were lost.
Else one lost frame is answered by an SREJ, and several by a REJ.  The last
held frame is read with `fixed_queue_try_peek_last` and dereferenced without
a check, so an empty hold queue during a selective reject gives `none`. -/
def processUnexpectedIFrame (ccb : Ccb) (held : HeldFrame) (txSeq : Nat) : Option Ccb :=
  let fcrb := ccb.fcrb
  let numLost := seqDistance txSeq fcrb.nextSeqExpected
  if ccb.ourTxWinSz ≤ numLost then some ccb
  else if fcrb.srejSent then
    match fcrb.srejRcvHoldQ.getLast? with
    | none => none
    | some last =>
        let nextSrej := (last.layerSpecific + 1) &&& l2capFcrSeqModulo
        if txSeq == nextSrej && decide (fcrb.srejRcvHoldQ.length < ccb.ourTxWinSz) then
          some { ccb with fcrb := { fcrb with srejRcvHoldQ := fcrb.srejRcvHoldQ ++ [held] } }
        else some { ccb with fcrb := { fcrb with rejAfterSrej := true } }
  else if fcrb.rejSent then some ccb
  else if 1 < numLost then
    some (l2cFcrSendSFrame { ccb with fcrb := { fcrb with rejSent := true } } l2capFcrSupRej 0)
  else
    some (l2cFcrSendSFrame
      { ccb with fcrb := { fcrb with srejRcvHoldQ := fcrb.srejRcvHoldQ ++ [held],
                                     srejSent := true } }
      l2capFcrSupSrej 0)

/-- The branch of `process_i_frame` for the expected frame: it clears any
reject, advances `next_seq_expected`, goes to reassembly (a SAR error
disconnects the channel), and is acknowledged by an RR at once unless the
acknowledgement may wait: it is delayed, fewer than `max_held_acks` frames
are unacknowledged, data waits to be sent and can carry the acknowledgement,
or frames are held. -/
def processExpectedIFrame (ccb : Ccb) (info : List UInt8) (ctrlWord : Nat) (delayAck : Bool) :
    Ccb :=
  let fcrb := ccb.fcrb
  let ccb := { ccb with fcrb := { fcrb with rejSent := false, srejSent := false,
                                            nextSeqExpected := (txSeqOf ctrlWord + 1) &&& l2capFcrSeqModulo } }
  let reassembly := doSarReassembly ccb info ctrlWord
  if !reassembly.1 then reassembly.2.disconnect
  else
    let ccb := reassembly.2
    let numToAck := seqDistance ccb.fcrb.nextSeqExpected ccb.fcrb.lastAckSent
    let delayAck := delayAck || decide (numToAck < ccb.fcrb.maxHeldAcks)
    if numToAck != 0 && ccb.open_ && !delayAck &&
        (ccb.xmitHoldQ.isEmpty || l2cFcrIsFlowControlled ccb) && ccb.fcrb.srejRcvHoldQ.isEmpty then
      l2cFcrSendSFrame ccb l2capFcrSupRr 0
    else ccb

/-- `process_i_frame`: an I-frame whose ReqSeq has been processed.  `original`
is the control word in the buffer's bytes, which a held frame keeps;
`ctrlWord` is the caller's copy with the F bit possibly cleared.  An F bit
first retransmits every unacknowledged frame (checkpoint recovery). -/
def processIFrame (ccb : Ccb) (original : Nat) (info : List UInt8) (ctrlWord : Nat)
    (delayAck : Bool) : Option Ccb :=
  let recovery :=
    if hasBit ctrlWord l2capFcrFBit then retransmitIFrames ccb l2cFcrRetxAllPkts
    else (true, ccb)
  if !recovery.1 then some recovery.2
  else
    let txSeq := txSeqOf ctrlWord
    if txSeq != recovery.2.fcrb.nextSeqExpected then
      processUnexpectedIFrame recovery.2 { ctrlWord := original, layerSpecific := txSeq, info := info } txSeq
    else some (processExpectedIFrame recovery.2 info ctrlWord delayAck)

/-- After each held frame: more frames lost during the selective reject are
reported by one REJ. -/
def rejectAfterSrej (ccb : Ccb) : Ccb :=
  if ccb.fcrb.rejAfterSrej then
    l2cFcrSendSFrame { ccb with fcrb := { ccb.fcrb with rejAfterSrej := false, rejSent := true } }
      l2capFcrSupRej 0
  else ccb

/-- The drain loop of `l2c_fcr_proc_pdu`: process each held frame again with
its own control word, acknowledging them together afterwards. -/
def drainHeldFrames : Ccb → List HeldFrame → Option Ccb
  | ccb, [] => some ccb
  | ccb, frame :: rest =>
      let processed :=
        if ccb.open_ then processIFrame ccb frame.ctrlWord frame.info frame.ctrlWord true
        else some ccb
      match processed with
      | none => none
      | some ccb => drainHeldFrames (rejectAfterSrej ccb) rest

/-- The poll check of `l2c_fcr_proc_pdu`.  While a poll of ours is
outstanding, a frame without the F bit is dropped (`none`); one with it ends
the wait, and an S-frame then loses its P bit, as P and F exclude each other.
With no poll outstanding the F bit is ignored.  The result is the channel and
the control word that the rest of the function reads. -/
def settlePoll (ccb : Ccb) (ctrlWord : Nat) : Option (Ccb × Nat) :=
  if ccb.fcrb.waitAck then
    if !hasBit ctrlWord l2capFcrFBit then none
    else
      let fcrb := { ccb.fcrb with
        waitAck := false
        numTries := if ccb.fcrb.waitingForAckQ = [] then 0 else ccb.fcrb.numTries }
      some ({ ccb with fcrb := fcrb },
        if hasBit ctrlWord l2capFcrSFrameBit then ctrlWord &&& (0xFFFF - l2capFcrPBit) else ctrlWord)
  else some (ccb, ctrlWord &&& (0xFFFF - l2capFcrFBit))

/-- The end of `l2c_fcr_proc_pdu` on a channel that is still open: once the
selective reject has cleared, the held frames are processed again in order,
and one RR then acknowledges them all. -/
def drainHoldQueue (ccb : Ccb) : Option Ccb :=
  if !ccb.fcrb.srejSent && !ccb.fcrb.srejRcvHoldQ.isEmpty then
    let held := ccb.fcrb.srejRcvHoldQ
    match drainHeldFrames { ccb with fcrb := { ccb.fcrb with srejRcvHoldQ := [] } } held with
    | none => none
    | some ccb =>
        if !ccb.fcrb.rejSent && !ccb.fcrb.srejSent &&
            ccb.fcrb.nextSeqExpected != ccb.fcrb.lastAckSent then
          some (l2cFcrSendSFrame ccb l2capFcrSupRr 0)
        else some ccb
  else some ccb

/-- `l2c_fcr_proc_pdu`. -/
def l2cFcrProcPdu (ccb : Ccb) (pdu : RxPdu) : Option Ccb :=
  let length := pdu.body.length
  if length < l2capFcsLen + l2capFcrOverhead then some ccb
  else
    let payload := pdu.body.take (length - l2capFcsLen)
    let fcs := readU16le (pdu.body.getD (length - 2) 0) (pdu.body.getD (length - 1) 0)
    if l2cFcrRxGetFcs pdu.header payload != fcs then some ccb
    else
      let original := readU16le (payload.getD 0 0) (payload.getD 1 0)
      match settlePoll ccb original with
      | none =>
          -- a poll that arrives while we wait is answered at once
          if hasBit original l2capFcrPBit && hasBit original l2capFcrSFrameBit then
            some (sendFinalResponse ccb)
          else some ccb
      | some (ccb, ctrlWord) =>
          let acknowledged := processReqseq ccb ctrlWord
          if !acknowledged.1 then some acknowledged.2
          else
            let processed :=
              if hasBit ctrlWord l2capFcrSFrameBit then some (processSFrame acknowledged.2 ctrlWord)
              else processIFrame acknowledged.2 original (payload.drop l2capFcrOverhead) ctrlWord false
            match processed with
            | none => none
            | some ccb => if !ccb.open_ then some ccb else drainHoldQueue ccb

/-! ## The FCS of an untampered frame -/

/-- `l2c_fcr_updcrc` is the bit-serial reflected CRC-16 from every 16-bit start
value; and a frame whose last two bytes are the FCS the sender computed over
its header and payload and wrote least significant byte first passes the
check of `l2c_fcr_proc_pdu`: the FCS recomputed over the header and the bytes
before the FCS is the FCS read from the frame. -/
theorem l2cFcrFcs_spec :
    (∀ init, init < 2 ^ 16 → ∀ bytes, l2cFcrUpdcrc init bytes = ReflectedCrc.crc crc16ReflectedPoly init bytes) ∧
      ∀ header payload body : List UInt8, body = payload ++ u16le (l2cFcrTxGetFcs (header ++ payload)) →
        l2cFcrRxGetFcs header (body.take (body.length - l2capFcsLen)) =
          readU16le (body.getD (body.length - 2) 0) (body.getD (body.length - 1) 0) := by
  refine ⟨fun init fits bytes => l2cFcrUpdcrc_eq_crc fits bytes, ?_⟩
  intro header payload body sent
  set fcs := l2cFcrTxGetFcs (header ++ payload)
  have fits : fcs < 65536 := l2cFcrUpdcrc_lt (by decide) _
  have length : body.length = payload.length + 2 := by
    rw [sent, List.length_append, u16le_length]
  have received : body.take (body.length - l2capFcsLen) = payload := by
    rw [length, sent]
    exact List.take_left' rfl
  have low : body.getD (body.length - 2) 0 = UInt8.ofNat fcs := by
    rw [length, sent, Nat.add_sub_cancel, List.getD_append_right _ _ _ _ (Nat.le_refl _), Nat.sub_self]
    rfl
  have high : body.getD (body.length - 1) 0 = UInt8.ofNat (fcs / 256) := by
    have past : payload.length + 2 - 1 - payload.length = 1 := by omega
    rw [length, sent, List.getD_append_right _ _ _ _ (by omega), past]
    rfl
  rw [received, low, high, readU16le_u16le fits]
  rfl

/-- An I-frame with TxSeq 1 and one byte of data: the table-driven FCS of
its header and payload is the bit-serial CRC, and the receiver recomputes the
FCS the sender appended. -/
theorem l2cFcrFcs_spec_iFrame :
    l2capFcrInitCrc < 2 ^ 16 ∧
      l2cFcrUpdcrc l2capFcrInitCrc [0x05, 0x00, 0x40, 0x00, 0x02, 0x00, 0xB1] =
        ReflectedCrc.crc crc16ReflectedPoly l2capFcrInitCrc [0x05, 0x00, 0x40, 0x00, 0x02, 0x00, 0xB1] ∧
      let body := [0x02, 0x00, 0xB1] ++ u16le (l2cFcrTxGetFcs ([0x05, 0x00, 0x40, 0x00] ++ [0x02, 0x00, 0xB1]))
      l2cFcrRxGetFcs [0x05, 0x00, 0x40, 0x00] (body.take (body.length - l2capFcsLen)) =
        readU16le (body.getD (body.length - 2) 0) (body.getD (body.length - 1) 0) :=
  ⟨by decide, l2cFcrFcs_spec.1 l2capFcrInitCrc (by decide) _, l2cFcrFcs_spec.2 _ _ _ rfl⟩

end L2cap
end BluetoothStack
