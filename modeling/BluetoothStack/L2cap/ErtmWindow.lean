import BluetoothStack.L2cap.FcrRx
import BluetoothStack.Library.CyclicWindow

namespace BluetoothStack
namespace L2cap

open CyclicWindow

/-!
# The ERTM send window

In enhanced retransmission mode a channel numbers its I-frames modulo 64 and
keeps each one in `waiting_for_ack_q` until a ReqSeq from the peer
acknowledges it.  This file shows that the channel is a sliding-window
sender in the sense of `CyclicWindow.Window`: along every run of the channel,
whatever frames the peer sends, the waiting frames carry the TxSeqs from
`last_rx_ack` up to `next_tx_seq`, in order.  `process_reqseq` therefore
accepts exactly the ReqSeqs inside that window and releases exactly the
frames before the ReqSeq.

The run semantics `ErtmStep` has one step for each way the code enters the
sending side: the link scheduler calling `l2c_fcr_get_next_xmit_sdu_seg`, a
received frame through `l2c_fcr_proc_pdu`, a retransmission request, and the
two timers.  Every other function reached from these leaves the window alone;
the first part of the file says so function by function, so that the
invariant is proved once for each way the window can change.
-/

/-! ## Control-word arithmetic -/

/-- Masking with `L2CAP_FCR_SEQ_MODULO` reduces modulo 64. -/
theorem and_seqModulo (x : Nat) : x &&& l2capFcrSeqModulo = x % 64 :=
  Nat.and_two_pow_sub_one_eq_mod x 6

theorem txSeqOf_eq (ctrlWord : Nat) : txSeqOf ctrlWord = (ctrlWord >>> 1) % 2 ^ 6 := by
  unfold txSeqOf
  rw [Nat.shiftRight_and_distrib]
  exact Nat.and_two_pow_sub_one_eq_mod _ 6

theorem reqSeqOf_lt (ctrlWord : Nat) : reqSeqOf ctrlWord < 64 := by
  unfold reqSeqOf
  rw [Nat.shiftRight_and_distrib]
  exact Nat.and_lt_two_pow _ (n := 6) (by decide)

theorem txSeqOf_or (a b : Nat) : txSeqOf (a ||| b) = txSeqOf a ||| txSeqOf b := by
  unfold txSeqOf
  rw [Nat.and_or_distrib_right, Nat.shiftRight_or_distrib]

/-- The ReqSeq field lies above the TxSeq field. -/
theorem txSeqOf_shiftLeft_reqSeq (value : Nat) :
    txSeqOf (value <<< l2capFcrReqSeqBitsShift) = 0 := by
  rw [txSeqOf_eq]
  apply Nat.eq_of_testBit_eq
  intro i
  simp only [Nat.testBit_mod_two_pow, Nat.testBit_shiftRight, Nat.testBit_shiftLeft,
    Nat.zero_testBit, l2capFcrReqSeqBitsShift]
  by_cases low : i < 6
  · simp [low]
    omega
  · simp [low]

/-- The SAR field lies above the TxSeq field. -/
theorem txSeqOf_and_segBits (layerSpecific : Nat) :
    txSeqOf (layerSpecific &&& l2capFcrSegBits) = 0 := by
  have disjoint : l2capFcrSegBits &&& l2capFcrTxSeqBits = 0 := by decide
  unfold txSeqOf
  rw [Nat.and_assoc, disjoint, Nat.and_zero, Nat.zero_shiftRight]

theorem txSeqOf_shiftLeft_txSeq (value : Nat) :
    txSeqOf (value <<< l2capFcrTxSeqBitsShift) = value % 64 := by
  rw [txSeqOf_eq, l2capFcrTxSeqBitsShift, Nat.shiftLeft_shiftRight]
  rfl

/-- `num_bufs_acked` is the distance from `last_rx_ack` to the ReqSeq. -/
theorem numBufsAcked_eq_modSub (reqSeq : Nat) {lastRxAck : Nat} (small : lastRxAck < 64) :
    numBufsAcked reqSeq lastRxAck = modSub 64 reqSeq lastRxAck := by
  unfold numBufsAcked modSub
  rw [and_seqModulo, Nat.mod_eq_of_lt small]
  omega

/-! ## The sending side of a channel -/

/-- The TxSeq of a frame, the number under which it waits. -/
def frameTxSeq (frame : IFrame) : Nat :=
  txSeqOf frame.ctrlWord

/-- What the sending side of a channel consists of: the window of sequence
variables and waiting frames, with the negotiated mode and transmit window
that bound it. -/
structure SenderView where
  window : Window IFrame
  peerTxWinSz : Nat
  peerModeErtm : Bool

/-- The sending side of a channel. -/
def Ccb.sender (ccb : Ccb) : SenderView where
  window := ⟨ccb.fcrb.nextTxSeq, ccb.fcrb.lastRxAck, ccb.fcrb.waitingForAckQ⟩
  peerTxWinSz := ccb.peerTxWinSz
  peerModeErtm := ccb.peerModeErtm

/-- The invariant of the sending side: the window is valid for TxSeqs modulo
64, the channel is in ERTM, and the peer's transmit window is smaller than
the sequence space. -/
structure SenderView.Valid (sender : SenderView) : Prop where
  window : sender.window.Valid 64 frameTxSeq
  ertm : sender.peerModeErtm = true
  winSz_lt : sender.peerTxWinSz < 64

/-! ## Functions that leave the sending side alone -/

@[simp]
theorem Ccb.disconnect_sender (ccb : Ccb) : ccb.disconnect.sender = ccb.sender := rfl

/-- A change of the channel record outside the window fields keeps the
sending side. -/
theorem Ccb.sender_with_fcrb (ccb : Ccb) (fcrb : Fcrb)
    (next : fcrb.nextTxSeq = ccb.fcrb.nextTxSeq) (last : fcrb.lastRxAck = ccb.fcrb.lastRxAck)
    (waiting : fcrb.waitingForAckQ = ccb.fcrb.waitingForAckQ) :
    { ccb with fcrb := fcrb }.sender = ccb.sender := by
  simp only [Ccb.sender, next, last, waiting]

@[simp]
theorem l2cFcrSendSFrame_sender (ccb : Ccb) (functionCode pfBit : Nat) :
    (l2cFcrSendSFrame ccb functionCode pfBit).sender = ccb.sender := by
  unfold l2cFcrSendSFrame
  split <;> rfl

@[simp]
theorem bumpNumTries_sender (ccb : Ccb) : (bumpNumTries ccb).sender = ccb.sender := by
  unfold bumpNumTries
  split <;> rfl

@[simp]
theorem retransmitIFrames_sender (ccb : Ccb) (txSeq : Nat) :
    (retransmitIFrames ccb txSeq).2.sender = ccb.sender := by
  unfold retransmitIFrames
  dsimp only
  split
  · rfl
  · split
    · split
      · rfl
      · split <;> exact bumpNumTries_sender _
    · exact bumpNumTries_sender _

@[simp]
theorem l2cFcrProcTout_sender (ccb : Ccb) : (l2cFcrProcTout ccb).sender = ccb.sender := by
  unfold l2cFcrProcTout
  dsimp only
  split_ifs <;> first | rfl | exact l2cFcrSendSFrame_sender _ _ _

@[simp]
theorem l2cFcrProcAckTout_sender (ccb : Ccb) : (l2cFcrProcAckTout ccb).sender = ccb.sender := by
  unfold l2cFcrProcAckTout
  split
  · exact l2cFcrSendSFrame_sender _ _ _
  · rfl

@[simp]
theorem doSarReassembly_sender (ccb : Ccb) (info : List UInt8) (ctrlWord : Nat) :
    (doSarReassembly ccb info ctrlWord).2.sender = ccb.sender := by
  unfold doSarReassembly appendSegment
  dsimp only
  split_ifs
  all_goals first | rfl | split <;> first | rfl | split_ifs <;> rfl

@[simp]
theorem sendFinalResponse_sender (ccb : Ccb) : (sendFinalResponse ccb).sender = ccb.sender :=
  l2cFcrSendSFrame_sender _ _ _

@[simp]
theorem processSFrame_sender (ccb : Ccb) (ctrlWord : Nat) :
    (processSFrame ccb ctrlWord).sender = ccb.sender := by
  unfold processSFrame sendFinalResponse
  dsimp only
  -- each branch is the polled channel, through `retransmit_i_frames` and the F-bit answer
  split <;> split <;> split_ifs <;>
    simp only [Ccb.sender_with_fcrb, l2cFcrSendSFrame_sender, retransmitIFrames_sender]

theorem processUnexpectedIFrame_sender {ccb ccb' : Ccb} {held : HeldFrame} {txSeq : Nat}
    (processed : processUnexpectedIFrame ccb held txSeq = some ccb') : ccb'.sender = ccb.sender := by
  unfold processUnexpectedIFrame at processed
  dsimp only at processed
  split_ifs at processed with duplicate srej rej several
  · cases processed
    rfl
  · split at processed
    · cases processed
    · split_ifs at processed <;> (cases processed; rfl)
  · cases processed
    rfl
  · cases processed
    simp only [l2cFcrSendSFrame_sender]
    rfl
  · cases processed
    simp only [l2cFcrSendSFrame_sender]
    rfl

@[simp]
theorem processExpectedIFrame_sender (ccb : Ccb) (info : List UInt8) (ctrlWord : Nat)
    (delayAck : Bool) : (processExpectedIFrame ccb info ctrlWord delayAck).sender = ccb.sender := by
  unfold processExpectedIFrame
  dsimp only
  split_ifs <;>
    simp only [l2cFcrSendSFrame_sender, doSarReassembly_sender, Ccb.disconnect_sender] <;> rfl

theorem processIFrame_sender {ccb ccb' : Ccb} {original : Nat} {info : List UInt8}
    {ctrlWord : Nat} {delayAck : Bool}
    (processed : processIFrame ccb original info ctrlWord delayAck = some ccb') :
    ccb'.sender = ccb.sender := by
  have recovered : (if hasBit ctrlWord l2capFcrFBit then retransmitIFrames ccb l2cFcrRetxAllPkts
      else (true, ccb)).2.sender = ccb.sender := by
    split
    · exact retransmitIFrames_sender _ _
    · rfl
  unfold processIFrame at processed
  dsimp only at processed
  generalize (if hasBit ctrlWord l2capFcrFBit then retransmitIFrames ccb l2cFcrRetxAllPkts
    else (true, ccb)) = recovery at recovered processed
  split_ifs at processed
  · cases processed
    exact recovered
  · rw [processUnexpectedIFrame_sender processed, recovered]
  · cases processed
    rw [processExpectedIFrame_sender, recovered]

@[simp]
theorem rejectAfterSrej_sender (ccb : Ccb) : (rejectAfterSrej ccb).sender = ccb.sender := by
  unfold rejectAfterSrej
  split
  · exact l2cFcrSendSFrame_sender _ _ _
  · rfl

theorem drainHeldFrames_sender {ccb ccb' : Ccb} {held : List HeldFrame}
    (drained : drainHeldFrames ccb held = some ccb') : ccb'.sender = ccb.sender := by
  induction held generalizing ccb with
  | nil =>
      simp only [drainHeldFrames, Option.some.injEq] at drained
      rw [drained]
  | cons frame rest ih =>
      unfold drainHeldFrames at drained
      dsimp only at drained
      split at drained
      · cases drained
      · rename_i processed
        rw [ih drained, rejectAfterSrej_sender]
        split at processed
        · exact processIFrame_sender processed
        · cases processed
          rfl

theorem drainHoldQueue_sender {ccb ccb' : Ccb} (drained : drainHoldQueue ccb = some ccb') :
    ccb'.sender = ccb.sender := by
  unfold drainHoldQueue at drained
  dsimp only at drained
  split at drained
  · split at drained
    · cases drained
    · rename_i emptied
      have restored := drainHeldFrames_sender emptied
      split at drained <;> cases drained <;> simp only [l2cFcrSendSFrame_sender, restored] <;> rfl
  · cases drained
    rfl

theorem settlePoll_sender {ccb settled : Ccb} {original ctrlWord : Nat}
    (settling : settlePoll ccb original = some (settled, ctrlWord)) :
    settled.sender = ccb.sender := by
  unfold settlePoll at settling
  dsimp only at settling
  split_ifs at settling <;> cases settling <;> rfl

/-! ## How the sending side changes

A received frame reaches the window only through `process_reqseq`, and a
transmission only by appending a newly numbered frame. -/

/-- A received frame changes the sending side only through `process_reqseq`,
applied to the channel as the poll check leaves it. -/
theorem l2cFcrProcPdu_sender {ccb ccb' : Ccb} {pdu : RxPdu}
    (processed : l2cFcrProcPdu ccb pdu = some ccb') :
    ccb'.sender = ccb.sender ∨
      ∃ settled ctrlWord, settled.sender = ccb.sender ∧
        ccb'.sender = (processReqseq settled ctrlWord).2.sender := by
  unfold l2cFcrProcPdu at processed
  dsimp only at processed
  split at processed
  · cases processed
    exact .inl rfl
  split at processed
  · cases processed
    exact .inl rfl
  split at processed
  · left
    split at processed <;> cases processed
    · exact sendFinalResponse_sender _
    · rfl
  rename_i settled ctrlWord settling
  right
  refine ⟨settled, ctrlWord, settlePoll_sender settling, ?_⟩
  split at processed
  · cases processed
    rfl
  split at processed
  · cases processed
  rename_i handledCcb handling
  have handled : handledCcb.sender = (processReqseq settled ctrlWord).2.sender := by
    split at handling
    · cases handling
      exact processSFrame_sender _ _
    · exact processIFrame_sender handling
  rw [← handled]
  split at processed
  · cases processed
    rfl
  · exact drainHoldQueue_sender processed

theorem processReqseq_fst (ccb : Ccb) (ctrlWord : Nat) :
    (processReqseq ccb ctrlWord).1 =
      (isSrejWithoutPoll ctrlWord ||
        decide (numBufsAcked (reqSeqOf ctrlWord) ccb.fcrb.lastRxAck ≤
          ccb.fcrb.waitingForAckQ.length)) := by
  unfold processReqseq
  by_cases srej : isSrejWithoutPoll ctrlWord
  · simp [srej]
  · by_cases short : ccb.fcrb.waitingForAckQ.length <
        numBufsAcked (reqSeqOf ctrlWord) ccb.fcrb.lastRxAck
    · simp [srej, short]
    · simp [srej, short, Nat.le_of_not_lt short]

/-- A frame that `process_reqseq` refuses, or an SREJ without the P bit,
leaves the sending side as it was. -/
theorem processReqseq_sender_of_not_accepted {ccb : Ccb} {ctrlWord : Nat}
    (passed : isSrejWithoutPoll ctrlWord = true ∨ (processReqseq ccb ctrlWord).1 = false) :
    (processReqseq ccb ctrlWord).2.sender = ccb.sender := by
  unfold processReqseq at passed ⊢
  by_cases srej : isSrejWithoutPoll ctrlWord = true
  · rw [if_pos srej]
  rw [if_neg srej] at passed ⊢
  dsimp only at passed ⊢
  by_cases short : ccb.fcrb.waitingForAckQ.length <
      numBufsAcked (reqSeqOf ctrlWord) ccb.fcrb.lastRxAck
  · rw [if_pos short]
    rfl
  · rw [if_neg short] at passed
    simp [srej] at passed

/-- A ReqSeq that `process_reqseq` accepts acknowledges the window up to it. -/
theorem processReqseq_sender_of_accepted {ccb : Ccb} {ctrlWord : Nat}
    (small : ccb.fcrb.lastRxAck < 64) (notSrej : isSrejWithoutPoll ctrlWord = false)
    (accepted : (processReqseq ccb ctrlWord).1 = true) :
    (processReqseq ccb ctrlWord).2.sender =
      { ccb.sender with window := ccb.sender.window.acknowledge 64 (reqSeqOf ctrlWord) } := by
  have srej : ¬isSrejWithoutPoll ctrlWord = true := by simp [notSrej]
  have enough : ¬ccb.fcrb.waitingForAckQ.length <
      numBufsAcked (reqSeqOf ctrlWord) ccb.fcrb.lastRxAck := by
    simpa [processReqseq_fst, notSrej] using accepted
  unfold processReqseq
  rw [if_neg srej]
  dsimp only
  rw [if_neg enough]
  simp only [Ccb.sender, Window.acknowledge, numBufsAcked_eq_modSub _ small]

/-- The frame that `prepare_I_frame` numbers afresh carries `next_tx_seq`. -/
theorem prepareIFrame_txSeq (ccb : Ccb) (frame : IFrame) :
    frameTxSeq (prepareIFrame ccb frame false).2 = ccb.fcrb.nextTxSeq % 64 := by
  have fBit : txSeqOf l2capFcrFBit = 0 := by decide
  unfold prepareIFrame frameTxSeq
  simp only [Bool.false_eq_true, if_false]
  split_ifs <;>
    simp only [txSeqOf_or, txSeqOf_and_segBits, txSeqOf_shiftLeft_txSeq, txSeqOf_shiftLeft_reqSeq,
      fBit, Nat.zero_or, Nat.or_zero]

/-- A retransmitted copy leaves the sending side as it was. -/
@[simp]
theorem prepareIFrame_retransmission_sender (ccb : Ccb) (frame : IFrame) :
    (prepareIFrame ccb frame true).1.sender = ccb.sender := rfl

/-- A new frame in ERTM joins the window under the next TxSeq. -/
theorem sendNewIFrame_sender (ccb : Ccb) (xmit : IFrame) (ertm : ccb.peerModeErtm = true) :
    (sendNewIFrame ccb xmit).2.sender =
      { ccb.sender with window := ccb.sender.window.push 64 (prepareIFrame ccb xmit false).2 } := by
  simp only [sendNewIFrame, ertm, if_true]
  simp [Ccb.sender, Window.push, prepareIFrame, and_seqModulo]

/-- `l2c_fcr_get_next_xmit_sdu_seg` either leaves the sending side as it was
(a retransmission, or nothing to send) or, when no retransmission is queued
and an SDU waits, adds one frame numbered with `next_tx_seq`. -/
theorem l2cFcrGetNextXmitSduSeg_sender (ccb : Ccb) (maxPacketLength : Nat)
    (ertm : ccb.peerModeErtm = true) :
    (l2cFcrGetNextXmitSduSeg ccb maxPacketLength).2.sender = ccb.sender ∨
      ccb.fcrb.retransQ = [] ∧ ccb.xmitHoldQ ≠ [] ∧
        ∃ frame, frameTxSeq frame = ccb.fcrb.nextTxSeq % 64 ∧
          (l2cFcrGetNextXmitSduSeg ccb maxPacketLength).2.sender =
            { ccb.sender with window := ccb.sender.window.push 64 frame } := by
  unfold l2cFcrGetNextXmitSduSeg
  split
  · exact .inl rfl
  rename_i noRetransmission
  dsimp only
  split
  · exact .inl rfl
  rename_i buffer rest queued
  refine .inr ⟨noRetransmission, by simp [queued], ?_⟩
  split_ifs <;> exact ⟨_, prepareIFrame_txSeq _ _, sendNewIFrame_sender _ _ ertm⟩

/-- A retransmission from `retrans_q` leaves the sending side as it was. -/
theorem l2cFcrGetNextXmitSduSeg_resend_sender {ccb : Ccb} (maxPacketLength : Nat)
    (queued : ccb.fcrb.retransQ ≠ []) :
    (l2cFcrGetNextXmitSduSeg ccb maxPacketLength).2.sender = ccb.sender := by
  unfold l2cFcrGetNextXmitSduSeg
  split
  · rfl
  · contradiction

theorem processReqseq_nextTxSeq (ccb : Ccb) (ctrlWord : Nat) :
    (processReqseq ccb ctrlWord).2.fcrb.nextTxSeq = ccb.fcrb.nextTxSeq := by
  unfold processReqseq
  dsimp only
  split_ifs <;> rfl

/-- No received frame changes `next_tx_seq`, whatever it retransmits. -/
theorem l2cFcrProcPdu_nextTxSeq {ccb ccb' : Ccb} {pdu : RxPdu}
    (processed : l2cFcrProcPdu ccb pdu = some ccb') : ccb'.fcrb.nextTxSeq = ccb.fcrb.nextTxSeq := by
  rcases l2cFcrProcPdu_sender processed with same | ⟨settled, ctrlWord, settledSame, acknowledged⟩
  · exact congrArg (·.window.next) same
  · calc ccb'.fcrb.nextTxSeq
        = (processReqseq settled ctrlWord).2.fcrb.nextTxSeq := congrArg (·.window.next) acknowledged
      _ = settled.fcrb.nextTxSeq := processReqseq_nextTxSeq _ _
      _ = ccb.fcrb.nextTxSeq := congrArg (·.window.next) settledSame

/-! ## The invariant along every run -/

/-- The link scheduler sends a new frame only while the window has room. -/
theorem ertmReadyToSend_room {ccb : Ccb} (ready : ertmReadyToSend ccb = true)
    (noRetransmission : ccb.fcrb.retransQ = []) (ertm : ccb.peerModeErtm = true) :
    ccb.fcrb.waitingForAckQ.length < ccb.peerTxWinSz := by
  simp only [ertmReadyToSend, l2cFcrIsFlowControlled, noRetransmission, ertm, List.isEmpty_nil,
    Bool.not_true, Bool.false_or, Bool.true_and, Bool.and_eq_true, Bool.not_eq_true',
    Bool.or_eq_false_iff, decide_eq_false_iff_not, Nat.not_le] at ready
  exact ready.2.2.2

theorem SenderView.Valid.push {sender : SenderView} (valid : sender.Valid) {frame : IFrame}
    (numbered : frameTxSeq frame = sender.window.next % 64)
    (room : sender.window.pending.length < sender.peerTxWinSz) :
    { sender with window := sender.window.push 64 frame }.Valid where
  window := by
    have fits := valid.winSz_lt
    apply valid.window.push _ (by omega)
    rw [numbered, Nat.mod_eq_of_lt valid.window.next_lt]
  ertm := valid.ertm
  winSz_lt := valid.winSz_lt

theorem SenderView.Valid.acknowledge {sender : SenderView} (valid : sender.Valid) {upTo : Nat}
    (inWindow : InClosed 64 sender.window.oldest sender.window.next upTo) (small : upTo < 64) :
    { sender with window := sender.window.acknowledge 64 upTo }.Valid where
  window := valid.window.acknowledge inWindow small
  ertm := valid.ertm
  winSz_lt := valid.winSz_lt

/-- On a valid window `process_reqseq` accepts a ReqSeq exactly when it lies
between `last_rx_ack` and `next_tx_seq`, both included. -/
theorem processReqseq_accepts_iff {ccb : Ccb} (valid : ccb.sender.Valid) {ctrlWord : Nat}
    (notSrej : isSrejWithoutPoll ctrlWord = false) :
    (processReqseq ccb ctrlWord).1 = true ↔
      InClosed 64 ccb.fcrb.lastRxAck ccb.fcrb.nextTxSeq (reqSeqOf ctrlWord) := by
  have small : ccb.fcrb.lastRxAck < 64 := valid.window.oldest_lt
  have length : ccb.fcrb.waitingForAckQ.length =
      modSub 64 ccb.fcrb.nextTxSeq ccb.fcrb.lastRxAck := valid.window.length_eq
  rw [processReqseq_fst, notSrej, Bool.false_or, decide_eq_true_iff,
    numBufsAcked_eq_modSub _ small, length]
  rfl

theorem processReqseq_sender_valid {ccb : Ccb} (valid : ccb.sender.Valid) (ctrlWord : Nat) :
    (processReqseq ccb ctrlWord).2.sender.Valid := by
  cases srej : isSrejWithoutPoll ctrlWord with
  | true =>
      rw [processReqseq_sender_of_not_accepted (.inl srej)]
      exact valid
  | false =>
      cases accepted : (processReqseq ccb ctrlWord).1 with
      | false =>
          rw [processReqseq_sender_of_not_accepted (.inr accepted)]
          exact valid
      | true =>
          rw [processReqseq_sender_of_accepted valid.window.oldest_lt srej accepted]
          exact valid.acknowledge ((processReqseq_accepts_iff valid srej).mp accepted)
            (reqSeqOf_lt ctrlWord)

/-- One step of an ERTM channel.  The link scheduler may call
`l2c_fcr_get_next_xmit_sdu_seg` whenever `ertmReadyToSend` holds; a frame of
any content may arrive (one whose processing dereferences an empty hold queue
ends the run); a retransmission of any TxSeq may be requested; either timer
may expire. -/
inductive ErtmStep : Ccb → Ccb → Prop
  | transmit {ccb : Ccb} (maxPacketLength : Nat) (ready : ertmReadyToSend ccb = true) :
      ErtmStep ccb (l2cFcrGetNextXmitSduSeg ccb maxPacketLength).2
  | receive {ccb ccb' : Ccb} (pdu : RxPdu) (processed : l2cFcrProcPdu ccb pdu = some ccb') :
      ErtmStep ccb ccb'
  | retransmit (ccb : Ccb) (txSeq : Nat) : ErtmStep ccb (retransmitIFrames ccb txSeq).2
  | timeout (ccb : Ccb) : ErtmStep ccb (l2cFcrProcTout ccb)
  | ackTimeout (ccb : Ccb) : ErtmStep ccb (l2cFcrProcAckTout ccb)

/-- A channel entering ERTM: nothing has been sent or acknowledged, as
`l2c_fcr_cleanup` leaves the record, the peer is configured for ERTM, and its
transmit window is smaller than the sequence space, as
`l2c_fcr_adj_our_rsp_options` makes it. -/
structure ErtmInitial (ccb : Ccb) : Prop where
  nextTxSeq_lt : ccb.fcrb.nextTxSeq < 64
  lastRxAck_eq : ccb.fcrb.lastRxAck = ccb.fcrb.nextTxSeq
  waiting_nil : ccb.fcrb.waitingForAckQ = []
  ertm : ccb.peerModeErtm = true
  winSz_lt : ccb.peerTxWinSz < 64

theorem ErtmInitial.sender_valid {ccb : Ccb} (initial : ErtmInitial ccb) : ccb.sender.Valid where
  window := Window.valid_of_pending_nil initial.nextTxSeq_lt initial.lastRxAck_eq initial.waiting_nil
  ertm := initial.ertm
  winSz_lt := initial.winSz_lt

/-- Every step keeps the invariant of the sending side. -/
theorem ErtmStep.sender_valid {ccb ccb' : Ccb} (step : ErtmStep ccb ccb')
    (valid : ccb.sender.Valid) : ccb'.sender.Valid := by
  cases step with
  | transmit maxPacketLength ready =>
      rcases l2cFcrGetNextXmitSduSeg_sender ccb maxPacketLength valid.ertm with
        same | ⟨noRetransmission, -, frame, numbered, pushed⟩
      · rw [same]
        exact valid
      · rw [pushed]
        exact valid.push numbered (ertmReadyToSend_room ready noRetransmission valid.ertm)
  | receive pdu processed =>
      rcases l2cFcrProcPdu_sender processed with same | ⟨settled, ctrlWord, settledSame, acknowledged⟩
      · rw [same]
        exact valid
      · rw [acknowledged]
        exact processReqseq_sender_valid (settledSame ▸ valid) ctrlWord
  | retransmit txSeq =>
      rw [retransmitIFrames_sender]
      exact valid
  | timeout =>
      rw [l2cFcrProcTout_sender]
      exact valid
  | ackTimeout =>
      rw [l2cFcrProcAckTout_sender]
      exact valid

/-- The invariant holds in every state a channel reaches from its start. -/
theorem ertmReachable_sender_valid {init ccb : Ccb} (initial : ErtmInitial init)
    (reachable : Relation.ReflTransGen ErtmStep init ccb) : ccb.sender.Valid := by
  induction reachable with
  | refl => exact initial.sender_valid
  | tail _ step valid => exact step.sender_valid valid

/-! ## What the window gives `process_reqseq` -/

/-- The send window of an ERTM channel and what follows from it for
`process_reqseq` and for retransmissions. -/
structure SendWindowSpec (ccb : Ccb) : Prop where
  /-- The waiting frames carry the TxSeqs from `last_rx_ack` up to
  `next_tx_seq`, in queue order. -/
  txSeqs : ccb.fcrb.waitingForAckQ.map frameTxSeq =
    run 64 ccb.fcrb.lastRxAck (modSub 64 ccb.fcrb.nextTxSeq ccb.fcrb.lastRxAck)
  length_eq : ccb.fcrb.waitingForAckQ.length = modSub 64 ccb.fcrb.nextTxSeq ccb.fcrb.lastRxAck
  /-- Apart from an SREJ without the P bit, a ReqSeq is accepted exactly when
  it lies between `last_rx_ack` and `next_tx_seq`, both included. -/
  accepts_iff : ∀ ctrlWord, isSrejWithoutPoll ctrlWord = false →
    ((processReqseq ccb ctrlWord).1 = true ↔
      InClosed 64 ccb.fcrb.lastRxAck ccb.fcrb.nextTxSeq (reqSeqOf ctrlWord))
  /-- An accepted ReqSeq becomes `last_rx_ack` and releases exactly the
  waiting frames from `last_rx_ack` up to it, which lead the queue. -/
  releases : ∀ ctrlWord, isSrejWithoutPoll ctrlWord = false →
    (processReqseq ccb ctrlWord).1 = true →
      (processReqseq ccb ctrlWord).2.fcrb.lastRxAck = reqSeqOf ctrlWord ∧
      (processReqseq ccb ctrlWord).2.fcrb.waitingForAckQ =
        ccb.fcrb.waitingForAckQ.filter (fun frame =>
          !decide (InHalfOpen 64 ccb.fcrb.lastRxAck (reqSeqOf ctrlWord) (frameTxSeq frame))) ∧
      ccb.fcrb.waitingForAckQ =
        ccb.fcrb.waitingForAckQ.filter (fun frame =>
          decide (InHalfOpen 64 ccb.fcrb.lastRxAck (reqSeqOf ctrlWord) (frameTxSeq frame))) ++
        (processReqseq ccb ctrlWord).2.fcrb.waitingForAckQ
  /-- Retransmissions never change `next_tx_seq`: not a request to
  retransmit, not a resend from `retrans_q`, not any received frame. -/
  retransmit_nextTxSeq : ∀ txSeq,
    (retransmitIFrames ccb txSeq).2.fcrb.nextTxSeq = ccb.fcrb.nextTxSeq
  resend_nextTxSeq : ∀ maxPacketLength, ccb.fcrb.retransQ ≠ [] →
    (l2cFcrGetNextXmitSduSeg ccb maxPacketLength).2.fcrb.nextTxSeq = ccb.fcrb.nextTxSeq
  receive_nextTxSeq : ∀ pdu ccb', l2cFcrProcPdu ccb pdu = some ccb' →
    ccb'.fcrb.nextTxSeq = ccb.fcrb.nextTxSeq

theorem processReqseq_releases {ccb : Ccb} (valid : ccb.sender.Valid) {ctrlWord : Nat}
    (notSrej : isSrejWithoutPoll ctrlWord = false)
    (accepted : (processReqseq ccb ctrlWord).1 = true) :
    (processReqseq ccb ctrlWord).2.fcrb.lastRxAck = reqSeqOf ctrlWord ∧
      (processReqseq ccb ctrlWord).2.fcrb.waitingForAckQ =
        ccb.fcrb.waitingForAckQ.filter (fun frame =>
          !decide (InHalfOpen 64 ccb.fcrb.lastRxAck (reqSeqOf ctrlWord) (frameTxSeq frame))) ∧
      ccb.fcrb.waitingForAckQ =
        ccb.fcrb.waitingForAckQ.filter (fun frame =>
          decide (InHalfOpen 64 ccb.fcrb.lastRxAck (reqSeqOf ctrlWord) (frameTxSeq frame))) ++
        (processReqseq ccb ctrlWord).2.fcrb.waitingForAckQ := by
  have acknowledged := processReqseq_sender_of_accepted valid.window.oldest_lt notSrej accepted
  have pending : (processReqseq ccb ctrlWord).2.fcrb.waitingForAckQ =
      (ccb.sender.window.acknowledge 64 (reqSeqOf ctrlWord)).pending :=
    congrArg (·.window.pending) acknowledged
  obtain ⟨remaining, split⟩ := valid.window.acknowledge_pending (reqSeqOf ctrlWord)
  exact ⟨congrArg (·.window.oldest) acknowledged, pending.trans remaining, pending ▸ split⟩

theorem sendWindowSpec_of_valid {ccb : Ccb} (valid : ccb.sender.Valid) : SendWindowSpec ccb where
  txSeqs := valid.window.labels
  length_eq := valid.window.length_eq
  accepts_iff _ notSrej := processReqseq_accepts_iff valid notSrej
  releases _ notSrej accepted := processReqseq_releases valid notSrej accepted
  retransmit_nextTxSeq txSeq := congrArg (·.window.next) (retransmitIFrames_sender ccb txSeq)
  resend_nextTxSeq maxPacketLength queued :=
    congrArg (·.window.next) (l2cFcrGetNextXmitSduSeg_resend_sender maxPacketLength queued)
  receive_nextTxSeq _ _ processed := l2cFcrProcPdu_nextTxSeq processed

theorem ertm_send_window {init ccb : Ccb} (initial : ErtmInitial init)
    (reachable : Relation.ReflTransGen ErtmStep init ccb) : SendWindowSpec ccb :=
  sendWindowSpec_of_valid (ertmReachable_sender_valid initial reachable)

theorem ertm_send_window_twoFrames :
    let sdu : SduBuffer := { mem := fun i => UInt8.ofNat i, offset := 8, len := 5, event := 0, layerSpecific := 0 }
    let channel : Ccb :=
      { fcrb := Fcrb.cleared, xmitHoldQ := [sdu], txMps := 4, maxRxMtu := 1691,
        peerTxWinSz := l2cFcrAdjOurRspOptions 63 defaultErtmTxWinSz, ourTxWinSz := defaultErtmTxWinSz,
        peerMaxTransmit := 20, peerModeErtm := true, localCid := 0x40, hasTxCompleteCb := true, open_ := true,
        sFramesSent := [], delivered := [], txComplete := [] }
    let sent := (l2cFcrGetNextXmitSduSeg (l2cFcrGetNextXmitSduSeg channel 0).2 0).2
    ErtmInitial channel ∧ Relation.ReflTransGen ErtmStep channel sent ∧ sent.fcrb.waitingForAckQ.length = 2 ∧
      SendWindowSpec sent := by
  intro sdu channel sent
  have initial : ErtmInitial channel := ⟨by decide, rfl, rfl, rfl, by decide⟩
  -- the SDU goes out as a start frame and an end frame
  have first : ertmReadyToSend channel = true := by decide
  have second : ertmReadyToSend (l2cFcrGetNextXmitSduSeg channel 0).2 = true := by decide
  have run : Relation.ReflTransGen ErtmStep channel sent :=
    (Relation.ReflTransGen.single (.transmit 0 first)).tail (.transmit 0 second)
  exact ⟨initial, run, by decide, ertm_send_window initial run⟩

end L2cap
end BluetoothStack
