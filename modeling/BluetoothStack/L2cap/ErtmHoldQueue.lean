import BluetoothStack.L2cap.ErtmWindow
import BluetoothStack.L2cap.ErtmReassembly

namespace BluetoothStack
namespace L2cap

open ByteStream CyclicWindow

/-!
# Enhanced retransmission mode: the selective-reject hold queue

While a selective reject is outstanding (`srej_sent`), `process_i_frame`
holds the frames that follow the lost one in `srej_rcv_hold_q`, and reads the
last of them with `fixed_queue_try_peek_last` to know which frame comes next,
without checking that there is one.  Once the lost frame has arrived,
`l2c_fcr_proc_pdu` takes the queue and processes its frames again.

The invariant (`HoldQueueOk`): during a selective reject the hold queue is
not empty, its frames carry the TxSeqs after `next_seq_expected` one by one,
each the TxSeq of its own control word, and there are no more of them than our
transmit window.  On an open channel between two frames no frame is held
outside a selective reject (`HoldQueueReady`); after the lost frame has been
processed and before the queue is drained the held frames start at
`next_seq_expected` itself (`HoldQueuePending`).  From these: the
dereference is always defined, every held frame is processed as the expected
one, and over a whole run the frames that reach `do_sar_reassembly` carry
consecutive TxSeqs from the first one expected, each once (`Reassembles`).

A channel takes steps only while it is open: `l2cu_disconnect_chnl` releases
it, and `l2c_rcv_acl_data` then drops its frames (`OpenStep`).
-/

/-! ## The receiving side of a channel -/

/-- What `do_sar_reassembly` reads and writes: the announced SDU length, the
SDU being received, the SDUs delivered, the MTU that bounds them, and the
record of the frames it was handed. -/
structure ReassemblyView where
  rxSduLen : Nat
  pRxSdu : Option (List UInt8)
  delivered : List (List UInt8)
  maxRxMtu : Nat
  frames : List (List UInt8 × Nat)

/-- The receiving side of a channel: the next TxSeq expected, the selective
reject and the frames held meanwhile, our transmit window, and reassembly. -/
structure ReceiverView where
  nextSeqExpected : Nat
  srejSent : Bool
  holdQ : List HeldFrame
  ourTxWinSz : Nat
  reassembly : ReassemblyView

/-- The reassembly state of a channel. -/
def Ccb.reassembly (ccb : Ccb) : ReassemblyView :=
  ⟨ccb.fcrb.rxSduLen, ccb.fcrb.pRxSdu, ccb.delivered, ccb.maxRxMtu, ccb.sarFrames⟩

/-- The receiving side of a channel. -/
def Ccb.receiver (ccb : Ccb) : ReceiverView :=
  ⟨ccb.fcrb.nextSeqExpected, ccb.fcrb.srejSent, ccb.fcrb.srejRcvHoldQ, ccb.ourTxWinSz, ccb.reassembly⟩

theorem Ccb.nextSeqExpected_of_receiver {ccb ccb' : Ccb} (same : ccb'.receiver = ccb.receiver) :
    ccb'.fcrb.nextSeqExpected = ccb.fcrb.nextSeqExpected :=
  congrArg (·.nextSeqExpected) same

/-! ## Functions that leave the receiving side alone -/

@[simp]
theorem Ccb.disconnect_receiver (ccb : Ccb) : ccb.disconnect.receiver = ccb.receiver := rfl

/-- A change of the channel record outside the receiving fields keeps the
receiving side. -/
theorem Ccb.receiver_with_fcrb (ccb : Ccb) (fcrb : Fcrb)
    (expected : fcrb.nextSeqExpected = ccb.fcrb.nextSeqExpected) (srej : fcrb.srejSent = ccb.fcrb.srejSent)
    (held : fcrb.srejRcvHoldQ = ccb.fcrb.srejRcvHoldQ) (length : fcrb.rxSduLen = ccb.fcrb.rxSduLen)
    (sdu : fcrb.pRxSdu = ccb.fcrb.pRxSdu) :
    { ccb with fcrb := fcrb }.receiver = ccb.receiver := by
  simp only [Ccb.receiver, Ccb.reassembly, expected, srej, held, length, sdu]

@[simp]
theorem l2cFcrSendSFrame_receiver (ccb : Ccb) (functionCode pfBit : Nat) :
    (l2cFcrSendSFrame ccb functionCode pfBit).receiver = ccb.receiver := by
  unfold l2cFcrSendSFrame
  split <;> rfl

@[simp]
theorem bumpNumTries_receiver (ccb : Ccb) : (bumpNumTries ccb).receiver = ccb.receiver := by
  unfold bumpNumTries
  split <;> rfl

@[simp]
theorem retransmitIFrames_receiver (ccb : Ccb) (txSeq : Nat) :
    (retransmitIFrames ccb txSeq).2.receiver = ccb.receiver := by
  unfold retransmitIFrames
  dsimp only
  split
  · rfl
  · split
    · split
      · rfl
      · split <;> exact bumpNumTries_receiver _
    · exact bumpNumTries_receiver _

/-- `retransmit_i_frames` refuses only by disconnecting the channel. -/
theorem retransmitIFrames_refused {ccb : Ccb} {txSeq : Nat} (refused : (retransmitIFrames ccb txSeq).1 = false) :
    (retransmitIFrames ccb txSeq).2.open_ = false := by
  unfold retransmitIFrames at refused ⊢
  dsimp only at refused ⊢
  split
  · rfl
  · rename_i allowed
    rw [if_neg allowed] at refused
    split at refused
    · split at refused
      · cases refused
      · split at refused <;> cases refused
    · cases refused

@[simp]
theorem processReqseq_receiver (ccb : Ccb) (ctrlWord : Nat) :
    (processReqseq ccb ctrlWord).2.receiver = ccb.receiver := by
  unfold processReqseq
  dsimp only
  split
  · rfl
  · split <;> rfl

@[simp]
theorem sendFinalResponse_receiver (ccb : Ccb) : (sendFinalResponse ccb).receiver = ccb.receiver :=
  l2cFcrSendSFrame_receiver _ _ _

@[simp]
theorem processSFrame_receiver (ccb : Ccb) (ctrlWord : Nat) :
    (processSFrame ccb ctrlWord).receiver = ccb.receiver := by
  unfold processSFrame sendFinalResponse
  dsimp only
  -- each branch is the polled channel, through `retransmit_i_frames` and the F-bit answer
  split <;> split <;> split_ifs <;>
    simp only [Ccb.receiver_with_fcrb, l2cFcrSendSFrame_receiver, retransmitIFrames_receiver]

@[simp]
theorem rejectAfterSrej_receiver (ccb : Ccb) : (rejectAfterSrej ccb).receiver = ccb.receiver := by
  unfold rejectAfterSrej
  split
  · exact l2cFcrSendSFrame_receiver _ _ _
  · rfl

theorem settlePoll_receiver {ccb settled : Ccb} {original ctrlWord : Nat}
    (settling : settlePoll ccb original = some (settled, ctrlWord)) :
    settled.receiver = ccb.receiver := by
  unfold settlePoll at settling
  dsimp only at settling
  split_ifs at settling <;> cases settling <;> rfl

@[simp]
theorem l2cFcrProcTout_receiver (ccb : Ccb) : (l2cFcrProcTout ccb).receiver = ccb.receiver := by
  unfold l2cFcrProcTout
  dsimp only
  split_ifs <;> first | rfl | exact l2cFcrSendSFrame_receiver _ _ _

@[simp]
theorem l2cFcrProcAckTout_receiver (ccb : Ccb) : (l2cFcrProcAckTout ccb).receiver = ccb.receiver := by
  unfold l2cFcrProcAckTout
  split
  · exact l2cFcrSendSFrame_receiver _ _ _
  · rfl

@[simp]
theorem sendNewIFrame_receiver (ccb : Ccb) (xmit : IFrame) :
    (sendNewIFrame ccb xmit).2.receiver = ccb.receiver := by
  unfold sendNewIFrame prepareIFrame
  dsimp only
  split <;> rfl

@[simp]
theorem l2cFcrGetNextXmitSduSeg_receiver (ccb : Ccb) (maxPacketLength : Nat) :
    (l2cFcrGetNextXmitSduSeg ccb maxPacketLength).2.receiver = ccb.receiver := by
  unfold l2cFcrGetNextXmitSduSeg
  split
  · rfl
  dsimp only
  split
  · rfl
  -- a new segment, from the SDU at the head of the queue or the whole of it
  split_ifs <;> simp only [sendNewIFrame_receiver] <;> rfl

/-! ## Reassembly -/

/-- `do_sar_reassembly` changes only the reassembly state. -/
theorem doSarReassembly_receiver (ccb : Ccb) (info : List UInt8) (ctrlWord : Nat) :
    (doSarReassembly ccb info ctrlWord).2.receiver =
      { ccb.receiver with reassembly := (doSarReassembly ccb info ctrlWord).2.reassembly } := by
  unfold doSarReassembly appendSegment
  dsimp only
  split_ifs
  all_goals first | rfl | split <;> first | rfl | split_ifs <;> rfl

/-- `do_sar_reassembly` reads only the reassembly state. -/
theorem doSarReassembly_congr {ccb ccb' : Ccb} (same : ccb.reassembly = ccb'.reassembly)
    (info : List UInt8) (ctrlWord : Nat) :
    (doSarReassembly ccb info ctrlWord).1 = (doSarReassembly ccb' info ctrlWord).1 ∧
      (doSarReassembly ccb info ctrlWord).2.reassembly = (doSarReassembly ccb' info ctrlWord).2.reassembly := by
  simp only [Ccb.reassembly, ReassemblyView.mk.injEq] at same
  rcases same with ⟨length, sdu, delivered, mtu, frames⟩
  unfold doSarReassembly appendSegment
  dsimp only
  -- with the five fields it reads rewritten, both sides take the same branch
  rw [length, sdu, delivered, mtu, frames]
  split_ifs <;> (try split) <;> (try split_ifs) <;>
    exact ⟨rfl, by simp only [Ccb.reassembly, length, sdu]⟩

theorem sarRun_congr {ccb ccb' : Ccb} (same : ccb.reassembly = ccb'.reassembly) (frames : List (List UInt8 × Nat)) :
    (sarRun ccb frames).reassembly = (sarRun ccb' frames).reassembly := by
  induction frames generalizing ccb ccb' with
  | nil => exact same
  | cons frame frames ih => exact ih (doSarReassembly_congr same frame.1 frame.2).2

theorem sarRun_append (ccb : Ccb) (frames more : List (List UInt8 × Nat)) :
    sarRun ccb (frames ++ more) = sarRun (sarRun ccb frames) more :=
  List.foldl_append

/-- `ccb'` follows `ccb` after `frames` were handed to `do_sar_reassembly` in
order: their TxSeqs run on from the one `ccb` expects, `next_seq_expected`
has moved past them, and reassembly is where they leave it. -/
structure Reassembles (ccb ccb' : Ccb) (frames : List (List UInt8 × Nat)) : Prop where
  txSeqs : frames.map (fun frame => txSeqOf frame.2) = run 64 ccb.fcrb.nextSeqExpected frames.length
  expected : ccb'.fcrb.nextSeqExpected = (ccb.fcrb.nextSeqExpected + frames.length) % 64
  reassembly : ccb'.reassembly = (sarRun ccb frames).reassembly

/-- A step that hands no frame to reassembly. -/
theorem Reassembles.none {ccb ccb' : Ccb} (expected_lt : ccb.fcrb.nextSeqExpected < 64)
    (expected : ccb'.fcrb.nextSeqExpected = ccb.fcrb.nextSeqExpected)
    (reassembly : ccb'.reassembly = ccb.reassembly) : Reassembles ccb ccb' [] where
  txSeqs := rfl
  expected := by
    rw [expected]
    exact (Nat.mod_eq_of_lt expected_lt).symm
  reassembly := reassembly

theorem Reassembles.of_receiver {ccb ccb' : Ccb} (expected_lt : ccb.fcrb.nextSeqExpected < 64)
    (same : ccb'.receiver = ccb.receiver) : Reassembles ccb ccb' [] :=
  .none expected_lt (Ccb.nextSeqExpected_of_receiver same) (congrArg (·.reassembly) same)

/-- Frames reassembled one run after another are one run. -/
theorem Reassembles.trans {ccb ccb' ccb'' : Ccb} {frames more : List (List UInt8 × Nat)}
    (first : Reassembles ccb ccb' frames) (second : Reassembles ccb' ccb'' more) :
    Reassembles ccb ccb'' (frames ++ more) where
  txSeqs := by
    rw [List.map_append, first.txSeqs, second.txSeqs, first.expected, List.length_append, run_append]
  expected := by
    rw [second.expected, first.expected, Nat.mod_add_mod, List.length_append, Nat.add_assoc]
  reassembly := by
    rw [second.reassembly, sarRun_append]
    exact sarRun_congr first.reassembly more

/-- A step that leaves the receiving side alone after frames were reassembled. -/
theorem Reassembles.then_same {ccb ccb' ccb'' : Ccb} {frames : List (List UInt8 × Nat)}
    (reassembled : Reassembles ccb ccb' frames) (same : ccb''.receiver = ccb'.receiver) :
    Reassembles ccb ccb'' frames where
  txSeqs := reassembled.txSeqs
  expected := (congrArg (·.nextSeqExpected) same).trans reassembled.expected
  reassembly := (congrArg (·.reassembly) same).trans reassembled.reassembly

/-- A step that leaves the receiving side alone before frames are reassembled. -/
theorem Reassembles.same_then {ccb ccb' ccb'' : Ccb} {frames : List (List UInt8 × Nat)}
    (same : ccb'.receiver = ccb.receiver) (reassembled : Reassembles ccb' ccb'' frames) :
    Reassembles ccb ccb'' frames := by
  have expected := Ccb.nextSeqExpected_of_receiver same
  exact ⟨expected ▸ reassembled.txSeqs, expected ▸ reassembled.expected,
    reassembled.reassembly.trans (sarRun_congr (congrArg (·.reassembly) same) frames)⟩

/-- Within any 64 frames in a row, reassembly sees no TxSeq twice. -/
theorem Reassembles.nodup_window {ccb ccb' : Ccb} {frames : List (List UInt8 × Nat)}
    (reassembled : Reassembles ccb ccb' frames) (start : Nat) :
    (((frames.drop start).take 64).map (fun frame => txSeqOf frame.2)).Nodup := by
  rw [List.map_take, List.map_drop, reassembled.txSeqs, run_drop, run_take]
  exact run_nodup _ (Nat.min_le_left _ _)

/-- The frames of a run are exactly those recorded as handed to
`do_sar_reassembly` along it. -/
theorem Reassembles.sarFrames {ccb ccb' : Ccb} {frames : List (List UInt8 × Nat)}
    (reassembled : Reassembles ccb ccb' frames) : ccb'.sarFrames = ccb.sarFrames ++ frames := by
  rw [← sarRun_sarFrames]
  exact congrArg ReassemblyView.frames reassembled.reassembly

/-! ## The hold queue -/

/-- Held frames carry the TxSeqs from `first` on, one after another, each in
its `layer_specific` word and in its own control word. -/
structure HeldFrom (first : Nat) (held : List HeldFrame) : Prop where
  txSeqs : held.map (·.layerSpecific) = run 64 first held.length
  own : ∀ frame ∈ held, txSeqOf frame.ctrlWord = frame.layerSpecific

theorem HeldFrom.nil (first : Nat) : HeldFrom first [] where
  txSeqs := rfl
  own _ member := nomatch member

theorem heldFrom_mod_iff {first : Nat} {held : List HeldFrame} :
    HeldFrom (first % 64) held ↔ HeldFrom first held := by
  constructor
  · rintro ⟨txSeqs, own⟩
    exact ⟨txSeqs.trans (run_mod 64 first _), own⟩
  · rintro ⟨txSeqs, own⟩
    exact ⟨txSeqs.trans (run_mod 64 first _).symm, own⟩

/-- The first held frame carries `first`, and the others run on from the next. -/
theorem HeldFrom.cons {first : Nat} {frame : HeldFrame} {rest : List HeldFrame}
    (inOrder : HeldFrom first (frame :: rest)) :
    frame.layerSpecific = first % 64 ∧ txSeqOf frame.ctrlWord = frame.layerSpecific ∧
      HeldFrom ((first + 1) % 64) rest := by
  have txSeqs := inOrder.txSeqs
  rw [List.length_cons, run_succ_left, List.map_cons, List.cons.injEq] at txSeqs
  refine ⟨txSeqs.1, inOrder.own frame List.mem_cons_self, txSeqs.2, ?_⟩
  intro other member
  exact inOrder.own other (List.mem_cons_of_mem frame member)

/-- The TxSeq after the last held frame is the one after the whole queue. -/
theorem HeldFrom.next_of_getLast? {first : Nat} {held : List HeldFrame} {last : HeldFrame}
    (inOrder : HeldFrom first held) (isLast : held.getLast? = some last) :
    (last.layerSpecific + 1) % 64 = (first + held.length) % 64 := by
  have nonempty : held ≠ [] := by
    rintro rfl
    cases isLast
  obtain ⟨count, length⟩ := Nat.exists_eq_add_one.mpr (List.length_pos_iff.mpr nonempty)
  have ends := congrArg List.getLast? inOrder.txSeqs
  rw [List.getLast?_map, isLast, length, run_getLast?, Option.map_some, Option.some.injEq] at ends
  rw [ends, Nat.mod_add_mod, length, Nat.add_assoc]

/-- Holding the frame that carries the next TxSeq keeps the queue in order. -/
theorem HeldFrom.push {first : Nat} {held : List HeldFrame} {frame : HeldFrame}
    (inOrder : HeldFrom first held) (labelled : frame.layerSpecific = (first + held.length) % 64)
    (own : txSeqOf frame.ctrlWord = frame.layerSpecific) : HeldFrom first (held ++ [frame]) where
  txSeqs := by
    rw [List.map_append, inOrder.txSeqs, List.length_append, List.length_singleton, run_succ,
      List.map_singleton, labelled]
  own other member := by
    rcases List.mem_append.mp member with old | new
    · exact inOrder.own other old
    · rw [List.mem_singleton.mp new]
      exact own

/-! ## The invariant -/

/-- The hold-queue invariant of the receiving side: `next_seq_expected` is a
TxSeq, during a selective reject the hold queue is not empty and holds the
frames after `next_seq_expected` in order, and it never holds more frames than
our transmit window. -/
structure HoldQueueOk (r : ReceiverView) : Prop where
  expected_lt : r.nextSeqExpected < 64
  nonempty : r.srejSent = true → r.holdQ ≠ []
  consecutive : r.srejSent = true → HeldFrom (r.nextSeqExpected + 1) r.holdQ
  fits : r.holdQ.length ≤ r.ourTxWinSz

/-- Between two frames on an open channel nothing is held outside a selective
reject. -/
structure HoldQueueReady (r : ReceiverView) : Prop extends HoldQueueOk r where
  empty : r.srejSent = false → r.holdQ = []

/-- After the frame that arrived and before the drain loop: once the selective
reject has cleared, the held frames start at the TxSeq expected next. -/
structure HoldQueuePending (r : ReceiverView) : Prop extends HoldQueueOk r where
  inOrder : r.srejSent = false → HeldFrom r.nextSeqExpected r.holdQ

/-- No selective reject and nothing held: a channel as `l2c_fcr_cleanup`
leaves it, and the drain loop once it has taken the queue. -/
structure HoldQueueClear (r : ReceiverView) : Prop where
  expected_lt : r.nextSeqExpected < 64
  cleared : r.srejSent = false
  empty : r.holdQ = []

theorem HoldQueueClear.ready {r : ReceiverView} (clear : HoldQueueClear r) : HoldQueueReady r where
  expected_lt := clear.expected_lt
  nonempty sent := nomatch clear.cleared.symm.trans sent
  consecutive sent := nomatch clear.cleared.symm.trans sent
  fits := by
    rw [clear.empty]
    exact Nat.zero_le _
  empty _ := clear.empty

theorem HoldQueueReady.pending {r : ReceiverView} (ready : HoldQueueReady r) : HoldQueuePending r where
  toHoldQueueOk := ready.toHoldQueueOk
  inOrder cleared := by
    rw [ready.empty cleared]
    exact HeldFrom.nil _

/-- The expected frame clears a selective reject: the frames held during it
then start at the new `next_seq_expected`. -/
theorem HoldQueueReady.advance {r : ReceiverView} (ready : HoldQueueReady r) (reassembly : ReassemblyView) :
    HoldQueuePending { r with nextSeqExpected := (r.nextSeqExpected + 1) % 64, srejSent := false,
                              reassembly := reassembly } where
  expected_lt := Nat.mod_lt _ (by decide)
  nonempty cleared := nomatch cleared
  consecutive cleared := nomatch cleared
  fits := ready.fits
  inOrder _ := by
    cases sent : r.srejSent
    · rw [ready.empty sent]
      exact HeldFrom.nil _
    · exact heldFrom_mod_iff.mpr (ready.consecutive sent)

/-- The invariant of a channel: the hold queue is in order, and on an open
channel it is empty outside a selective reject. -/
structure ReceiverValid (ccb : Ccb) : Prop where
  holdQueue : HoldQueueOk ccb.receiver
  drained : ccb.open_ = true → ccb.fcrb.srejSent = false → ccb.fcrb.srejRcvHoldQ = []

theorem HoldQueueReady.valid {ccb : Ccb} (ready : HoldQueueReady ccb.receiver) : ReceiverValid ccb :=
  ⟨ready.toHoldQueueOk, fun _ => ready.empty⟩

theorem ReceiverValid.ready {ccb : Ccb} (valid : ReceiverValid ccb) (isOpen : ccb.open_ = true) :
    HoldQueueReady ccb.receiver :=
  ⟨valid.holdQueue, valid.drained isOpen⟩

/-- A step that leaves the receiving side of an open channel alone keeps the
invariant and reassembles nothing. -/
theorem HoldQueueReady.unchanged {ccb ccb' : Ccb} (ready : HoldQueueReady ccb.receiver)
    (same : ccb'.receiver = ccb.receiver) : ReceiverValid ccb' ∧ ∃ frames, Reassembles ccb ccb' frames :=
  ⟨HoldQueueReady.valid (same ▸ ready), [], .of_receiver ready.expected_lt same⟩

/-! ## Control words -/

theorem txSeqOf_lt (ctrlWord : Nat) : txSeqOf ctrlWord < 64 := by
  rw [txSeqOf_eq]
  exact Nat.mod_lt _ (by decide)

/-- A mask that keeps the TxSeq field keeps the TxSeq. -/
theorem txSeqOf_and {mask : Nat} (keeps : mask &&& l2capFcrTxSeqBits = l2capFcrTxSeqBits)
    (ctrlWord : Nat) : txSeqOf (ctrlWord &&& mask) = txSeqOf ctrlWord := by
  unfold txSeqOf
  rw [Nat.and_assoc, keeps]

/-- A mask that keeps a flag bit keeps the flag. -/
theorem hasBit_and {mask bit : Nat} (keeps : mask &&& bit = bit) (ctrlWord : Nat) :
    hasBit (ctrlWord &&& mask) bit = hasBit ctrlWord bit := by
  unfold hasBit
  rw [Nat.and_assoc, keeps]

/-- The poll check clears the F bit of an I-frame, never its TxSeq (the P bit
it clears in an S-frame lies in the TxSeq field of an I-frame). -/
theorem settlePoll_txSeq {ccb settled : Ccb} {original ctrlWord : Nat}
    (settling : settlePoll ccb original = some (settled, ctrlWord))
    (iFrame : hasBit ctrlWord l2capFcrSFrameBit = false) : txSeqOf ctrlWord = txSeqOf original := by
  unfold settlePoll at settling
  dsimp only at settling
  split at settling
  · split at settling
    · cases settling
    · cases settling
      by_cases sFrame : hasBit original l2capFcrSFrameBit = true
      · rw [if_pos sFrame, hasBit_and (by decide) original, sFrame] at iFrame
        cases iFrame
      · rw [if_neg sFrame]
  · cases settling
    exact txSeqOf_and (by decide) original

/-- A frame one TxSeq past the expected one is exactly one frame lost. -/
theorem eq_succ_of_seqDistance_le_one {txSeq expected : Nat} (txSeq_lt : txSeq < 64)
    (expected_lt : expected < 64) (unexpected : txSeq ≠ expected)
    (one : seqDistance txSeq expected ≤ 1) : txSeq = (expected + 1) % 64 := by
  unfold seqDistance at one
  rw [and_seqModulo] at one
  omega

/-! ## One frame -/

/-- A frame out of sequence on a channel between two frames: it is dropped,
rejected, or held, and `next_seq_expected` and reassembly stay as they are.
It is held only as the frame after the last held one, or as the first of a
fresh selective reject, which is one frame past the expected one. -/
theorem processUnexpectedIFrame_ready {ccb : Ccb} {txSeq : Nat}
    (ready : HoldQueueReady ccb.receiver) (txSeq_lt : txSeq < 64)
    (unexpected : txSeq ≠ ccb.fcrb.nextSeqExpected) (held : HeldFrame) (labelled : held.layerSpecific = txSeq)
    (own : txSeqOf held.ctrlWord = txSeq) :
    ∃ ccb', processUnexpectedIFrame ccb held txSeq = some ccb' ∧ HoldQueueReady ccb'.receiver ∧
      Reassembles ccb ccb' [] := by
  unfold processUnexpectedIFrame
  dsimp only
  split_ifs with duplicate srej rej several
  · exact ⟨ccb, rfl, ready, .of_receiver ready.expected_lt rfl⟩
  · -- a selective reject is outstanding, so the queue has a last frame
    split
    · rename_i noLast
      exact absurd (List.getLast?_eq_none_iff.mp noLast) (ready.nonempty srej)
    rename_i last isLast
    split_ifs with next
    · rw [Bool.and_eq_true, beq_iff_eq, decide_eq_true_eq] at next
      have labelledNext : held.layerSpecific =
          (ccb.fcrb.nextSeqExpected + 1 + ccb.fcrb.srejRcvHoldQ.length) % 64 := by
        rw [labelled, next.1, and_seqModulo]
        exact (ready.consecutive srej).next_of_getLast? isLast
      refine ⟨_, rfl, ⟨⟨ready.expected_lt, fun _ => ?_, fun _ => ?_, ?_⟩, fun cleared => ?_⟩,
        .none ready.expected_lt rfl rfl⟩
      · exact List.append_ne_nil_of_right_ne_nil _ (List.cons_ne_nil _ _)
      · exact (ready.consecutive srej).push labelledNext (own.trans labelled.symm)
      · show (ccb.fcrb.srejRcvHoldQ ++ [held]).length ≤ ccb.ourTxWinSz
        rw [List.length_append, List.length_singleton]
        exact next.2
      · exact nomatch srej.symm.trans cleared
    · exact ⟨_, rfl, ready, .of_receiver ready.expected_lt rfl⟩
  · exact ⟨ccb, rfl, ready, .of_receiver ready.expected_lt rfl⟩
  · have same := l2cFcrSendSFrame_receiver
      { ccb with fcrb := { ccb.fcrb with rejSent := true } } l2capFcrSupRej 0
    exact ⟨_, rfl, same ▸ ready, .of_receiver ready.expected_lt same⟩
  · -- one frame lost: a fresh selective reject holds the frame that arrived
    have empty : ccb.fcrb.srejRcvHoldQ = [] := ready.empty (Bool.eq_false_iff.mpr srej)
    have first : held.layerSpecific = (ccb.fcrb.nextSeqExpected + 1) % 64 :=
      labelled.trans (eq_succ_of_seqDistance_le_one txSeq_lt ready.expected_lt unexpected
        (Nat.le_of_not_lt several))
    rw [empty, List.nil_append]
    have sent := l2cFcrSendSFrame_receiver
      { ccb with fcrb := { ccb.fcrb with srejRcvHoldQ := [held], srejSent := true } }
      l2capFcrSupSrej 0
    refine ⟨_, rfl, ?_, .none ready.expected_lt (congrArg (·.nextSeqExpected) sent)
      (congrArg (·.reassembly) sent)⟩
    rw [sent]
    refine ⟨⟨ready.expected_lt, fun _ => List.cons_ne_nil _ _, fun _ => ?_, ?_⟩, fun cleared => nomatch cleared⟩
    · exact (HeldFrom.nil _).push first (own.trans labelled.symm)
    · show 1 ≤ ccb.ourTxWinSz
      omega

/-- The expected frame clears the selective reject, moves
`next_seq_expected` past its TxSeq and goes to reassembly; its acknowledgement
and a SAR error leave the receiving side as reassembly leaves it. -/
theorem processExpectedIFrame_receiver (ccb : Ccb) (info : List UInt8) (ctrlWord : Nat)
    (delayAck : Bool) :
    (processExpectedIFrame ccb info ctrlWord delayAck).receiver =
      { ccb.receiver with nextSeqExpected := (txSeqOf ctrlWord + 1) % 64, srejSent := false,
                          reassembly := (doSarReassembly ccb info ctrlWord).2.reassembly } := by
  have acknowledged : (processExpectedIFrame ccb info ctrlWord delayAck).receiver =
      (doSarReassembly
        { ccb with
          fcrb := { ccb.fcrb with rejSent := false, srejSent := false,
                                  nextSeqExpected := (txSeqOf ctrlWord + 1) &&& l2capFcrSeqModulo } }
        info ctrlWord).2.receiver := by
    unfold processExpectedIFrame
    dsimp only
    split_ifs <;> simp only [Ccb.disconnect_receiver, l2cFcrSendSFrame_receiver]
  rw [acknowledged, doSarReassembly_receiver]
  -- reassembly reads none of the fields the expected frame has just set
  dsimp only
  congr 1
  · exact and_seqModulo _
  · refine (doSarReassembly_congr ?_ info ctrlWord).2
    rfl

/-- The expected frame is the one frame it hands to reassembly. -/
theorem processExpectedIFrame_reassembles {ccb : Ccb} (expected_lt : ccb.fcrb.nextSeqExpected < 64)
    {ctrlWord : Nat} (expected : txSeqOf ctrlWord = ccb.fcrb.nextSeqExpected) (info : List UInt8)
    (delayAck : Bool) :
    Reassembles ccb (processExpectedIFrame ccb info ctrlWord delayAck) [(info, ctrlWord)] where
  txSeqs := by
    rw [List.map_singleton, List.length_singleton, run_succ_left, run_zero,
      Nat.mod_eq_of_lt expected_lt, expected]
  expected := by
    have advanced : (processExpectedIFrame ccb info ctrlWord delayAck).fcrb.nextSeqExpected =
        (txSeqOf ctrlWord + 1) % 64 :=
      congrArg (·.nextSeqExpected) (processExpectedIFrame_receiver ccb info ctrlWord delayAck)
    rw [advanced, expected, List.length_singleton]
  reassembly := congrArg (·.reassembly) (processExpectedIFrame_receiver ccb info ctrlWord delayAck)

/-- What `process_i_frame` can do.  Checkpoint recovery leaves the receiving
side alone; then the channel was disconnected by a refused retransmission, or
the frame goes to the unexpected or the expected branch by its TxSeq. -/
theorem processIFrame_cases (ccb : Ccb) (original : Nat) (info : List UInt8) (ctrlWord : Nat)
    (delayAck : Bool) :
    ∃ recovered : Ccb, recovered.receiver = ccb.receiver ∧
      ((recovered.open_ = false ∧ processIFrame ccb original info ctrlWord delayAck = some recovered) ∨
       (txSeqOf ctrlWord ≠ ccb.fcrb.nextSeqExpected ∧
          processIFrame ccb original info ctrlWord delayAck =
            processUnexpectedIFrame recovered ⟨original, txSeqOf ctrlWord, info⟩ (txSeqOf ctrlWord)) ∨
       (txSeqOf ctrlWord = ccb.fcrb.nextSeqExpected ∧
          processIFrame ccb original info ctrlWord delayAck =
            some (processExpectedIFrame recovered info ctrlWord delayAck))) := by
  have recovered : (if hasBit ctrlWord l2capFcrFBit then retransmitIFrames ccb l2cFcrRetxAllPkts
      else (true, ccb)).2.receiver = ccb.receiver := by
    split
    · exact retransmitIFrames_receiver _ _
    · rfl
  have refusal : (if hasBit ctrlWord l2capFcrFBit then retransmitIFrames ccb l2cFcrRetxAllPkts
      else (true, ccb)).1 = false →
        (if hasBit ctrlWord l2capFcrFBit then retransmitIFrames ccb l2cFcrRetxAllPkts
          else (true, ccb)).2.open_ = false := by
    split
    · exact retransmitIFrames_refused
    · intro refused
      cases refused
  unfold processIFrame
  dsimp only
  generalize (if hasBit ctrlWord l2capFcrFBit then retransmitIFrames ccb l2cFcrRetxAllPkts
    else (true, ccb)) = recovery at recovered refusal ⊢
  have expected := Ccb.nextSeqExpected_of_receiver recovered
  refine ⟨recovery.2, recovered, ?_⟩
  split_ifs with refused unexpected
  · exact .inl ⟨refusal (Bool.not_eq_true' recovery.1 ▸ refused), rfl⟩
  · exact .inr (.inl ⟨expected ▸ bne_iff_ne.mp unexpected, rfl⟩)
  · refine .inr (.inr ⟨?_, rfl⟩)
    rw [bne_iff_ne, ne_eq, Decidable.not_not] at unexpected
    exact unexpected.trans expected

/-- A frame that arrives on a channel between two frames: the dereference of
the last held frame is defined, and the frame is held, dropped, rejected or
reassembled as the expected one. -/
theorem processIFrame_pending {ccb : Ccb} (ready : HoldQueueReady ccb.receiver) {original ctrlWord : Nat}
    (masked : txSeqOf original = txSeqOf ctrlWord) (info : List UInt8) (delayAck : Bool) :
    ∃ ccb', processIFrame ccb original info ctrlWord delayAck = some ccb' ∧
      HoldQueuePending ccb'.receiver ∧ ∃ frames, Reassembles ccb ccb' frames := by
  rcases processIFrame_cases ccb original info ctrlWord delayAck with
    ⟨recovered, same, ⟨-, processed⟩ | ⟨unexpected, processed⟩ | ⟨expected, processed⟩⟩
  · exact ⟨recovered, processed, (same ▸ ready).pending, [], .of_receiver ready.expected_lt same⟩
  · rcases processUnexpectedIFrame_ready (same ▸ ready) (txSeqOf_lt ctrlWord)
        ((Ccb.nextSeqExpected_of_receiver same).symm ▸ unexpected) ⟨original, txSeqOf ctrlWord, info⟩
        rfl masked with
      ⟨ccb', processing, readyAfter, none⟩
    exact ⟨ccb', processed.trans processing, readyAfter.pending, [], .same_then same none⟩
  · have expectedAfter : txSeqOf ctrlWord = recovered.fcrb.nextSeqExpected :=
      expected.trans (Ccb.nextSeqExpected_of_receiver same).symm
    refine ⟨_, processed, ?_, _, .same_then same
      (processExpectedIFrame_reassembles (same ▸ ready).expected_lt expectedAfter info delayAck)⟩
    rw [processExpectedIFrame_receiver, same, expected]
    exact ready.advance _

/-- A held frame processed again by the drain loop, which has taken the queue:
it is the expected frame, unless checkpoint recovery disconnects the channel. -/
theorem processIFrame_clear {ccb : Ccb} (clear : HoldQueueClear ccb.receiver) {ctrlWord : Nat}
    (expected : txSeqOf ctrlWord = ccb.fcrb.nextSeqExpected) (original : Nat) (info : List UInt8)
    (delayAck : Bool) :
    ∃ ccb', processIFrame ccb original info ctrlWord delayAck = some ccb' ∧
      HoldQueueClear ccb'.receiver ∧
      (Reassembles ccb ccb' [] ∧ ccb'.open_ = false ∨ Reassembles ccb ccb' [(info, ctrlWord)]) := by
  rcases processIFrame_cases ccb original info ctrlWord delayAck with
    ⟨recovered, same, ⟨closed, processed⟩ | ⟨unexpected, -⟩ | ⟨-, processed⟩⟩
  · exact ⟨recovered, processed, same ▸ clear, .inl ⟨.of_receiver clear.expected_lt same, closed⟩⟩
  · exact absurd expected unexpected
  · have expectedAfter : txSeqOf ctrlWord = recovered.fcrb.nextSeqExpected :=
      expected.trans (Ccb.nextSeqExpected_of_receiver same).symm
    refine ⟨_, processed, ?_, .inr (.same_then same
      (processExpectedIFrame_reassembles (same ▸ clear).expected_lt expectedAfter info delayAck))⟩
    rw [processExpectedIFrame_receiver, same]
    exact ⟨Nat.mod_lt _ (by decide), rfl, clear.empty⟩

/-! ## The drain loop -/

theorem rejectAfterSrej_open (ccb : Ccb) : (rejectAfterSrej ccb).open_ = ccb.open_ := by
  unfold rejectAfterSrej l2cFcrSendSFrame
  split_ifs <;> rfl

/-- The drain loop, started with the queue taken and the frames held in order
from the TxSeq expected, processes each as the expected frame, until the last
or until the channel is disconnected; the queue stays empty throughout. -/
theorem drainHeldFrames_clear (held : List HeldFrame) {ccb : Ccb} (clear : HoldQueueClear ccb.receiver)
    (inOrder : ccb.open_ = true → HeldFrom ccb.fcrb.nextSeqExpected held) :
    ∃ ccb', drainHeldFrames ccb held = some ccb' ∧ HoldQueueClear ccb'.receiver ∧
      ∃ frames, Reassembles ccb ccb' frames := by
  induction held generalizing ccb with
  | nil => exact ⟨ccb, rfl, clear, [], .of_receiver clear.expected_lt rfl⟩
  | cons frame rest ih =>
    by_cases isOpen : ccb.open_ = true
    · -- the frame at the head carries the TxSeq expected, and the others follow it
      rcases (inOrder isOpen).cons with ⟨labelled, own, restInOrder⟩
      have expected : txSeqOf frame.ctrlWord = ccb.fcrb.nextSeqExpected := by
        rw [own, labelled]
        exact Nat.mod_eq_of_lt clear.expected_lt
      rcases processIFrame_clear clear expected frame.ctrlWord frame.info true with
        ⟨processed, processing, clearAfter, outcome⟩
      have step : drainHeldFrames ccb (frame :: rest) = drainHeldFrames (rejectAfterSrej processed) rest := by
        rw [drainHeldFrames, if_pos isOpen, processing]
      have same := rejectAfterSrej_receiver processed
      -- the rest of the loop runs on an open channel only past the frame just reassembled
      have restOrdered : (rejectAfterSrej processed).open_ = true →
          HeldFrom (rejectAfterSrej processed).fcrb.nextSeqExpected rest := by
        intro stillOpen
        rw [rejectAfterSrej_open] at stillOpen
        rw [Ccb.nextSeqExpected_of_receiver same]
        rcases outcome with ⟨-, closed⟩ | reassembled
        · rw [closed] at stillOpen
          cases stillOpen
        · rw [reassembled.expected]
          exact restInOrder
      rcases ih (same ▸ clearAfter) restOrdered with ⟨ccb', drained, clearEnd, frames, reassembledRest⟩
      have first : ∃ done, Reassembles ccb processed done := by
        rcases outcome with ⟨none, -⟩ | one
        · exact ⟨[], none⟩
        · exact ⟨_, one⟩
      rcases first with ⟨done, reassembledFirst⟩
      exact ⟨ccb', step.trans drained, clearEnd, _, reassembledFirst.trans (.same_then same reassembledRest)⟩
    · -- a disconnected channel skips the held frames
      have step : drainHeldFrames ccb (frame :: rest) = drainHeldFrames (rejectAfterSrej ccb) rest := by
        rw [drainHeldFrames, if_neg isOpen]
      have same := rejectAfterSrej_receiver ccb
      have closed : (rejectAfterSrej ccb).open_ = true → HeldFrom (rejectAfterSrej ccb).fcrb.nextSeqExpected rest := by
        intro stillOpen
        rw [rejectAfterSrej_open] at stillOpen
        exact absurd stillOpen isOpen
      rcases ih (same ▸ clear) closed with ⟨ccb', drained, clearEnd, frames, reassembled⟩
      exact ⟨ccb', step.trans drained, clearEnd, frames, .same_then same reassembled⟩

/-- The end of `l2c_fcr_proc_pdu` on an open channel: once the selective
reject has cleared, the held frames are all processed as expected frames, and
nothing is held any more outside a selective reject. -/
theorem drainHoldQueue_ready {ccb : Ccb} (pending : HoldQueuePending ccb.receiver) :
    ∃ ccb', drainHoldQueue ccb = some ccb' ∧ HoldQueueReady ccb'.receiver ∧
      ∃ frames, Reassembles ccb ccb' frames := by
  unfold drainHoldQueue
  by_cases draining : (!ccb.fcrb.srejSent && !ccb.fcrb.srejRcvHoldQ.isEmpty) = true
  · rw [if_pos draining]
    rw [Bool.and_eq_true, Bool.not_eq_true', Bool.not_eq_true'] at draining
    -- the queue is taken before the loop, so the loop starts clear
    have taken : HoldQueueClear { ccb with fcrb := { ccb.fcrb with srejRcvHoldQ := [] } }.receiver :=
      ⟨pending.expected_lt, draining.1, rfl⟩
    rcases drainHeldFrames_clear ccb.fcrb.srejRcvHoldQ taken (fun _ => pending.inOrder draining.1) with
      ⟨drained, looped, clearEnd, frames, reassembled⟩
    have allFrames : Reassembles ccb drained frames := by
      refine (Reassembles.none pending.expected_lt ?_ ?_).trans reassembled <;> rfl
    dsimp only at looped ⊢
    rw [looped]
    dsimp only
    split
    · have sent := l2cFcrSendSFrame_receiver drained l2capFcrSupRr 0
      exact ⟨_, rfl, sent ▸ clearEnd.ready, frames, allFrames.then_same sent⟩
    · exact ⟨drained, rfl, clearEnd.ready, frames, allFrames⟩
  · rw [if_neg draining]
    refine ⟨ccb, rfl, ⟨pending.toHoldQueueOk, fun cleared => ?_⟩, [], .of_receiver pending.expected_lt rfl⟩
    rw [Bool.and_eq_true, Bool.not_eq_true', Bool.not_eq_true'] at draining
    exact List.isEmpty_iff.mp (Bool.eq_true_of_not_eq_false fun held => draining ⟨cleared, held⟩)

/-! ## A received frame -/

/-- The end of `l2c_fcr_proc_pdu`: a channel still open drains the hold queue,
and one that has been disconnected is left as it is. -/
theorem l2cFcrProcPdu_tail {ccb handled : Ccb} (pending : HoldQueuePending handled.receiver)
    {frames : List (List UInt8 × Nat)} (reassembled : Reassembles ccb handled frames) :
    ∃ ccb', (if !handled.open_ then some handled else drainHoldQueue handled) = some ccb' ∧
      ReceiverValid ccb' ∧ ∃ frames, Reassembles ccb ccb' frames := by
  split
  · rename_i closed
    refine ⟨handled, rfl, ⟨pending.toHoldQueueOk, fun reopened => ?_⟩, frames, reassembled⟩
    rw [reopened] at closed
    cases closed
  · rcases drainHoldQueue_ready pending with ⟨ccb', drained, ready, more, reassembledMore⟩
    exact ⟨ccb', drained, ready.valid, _, reassembled.trans reassembledMore⟩

/-- A frame received on an open channel: `l2c_fcr_proc_pdu` never reaches
the undefined dereference, keeps the invariant, and hands reassembly the
frames that follow the one expected. -/
theorem l2cFcrProcPdu_valid {ccb : Ccb} (valid : ReceiverValid ccb) (isOpen : ccb.open_ = true)
    (pdu : RxPdu) :
    ∃ ccb', l2cFcrProcPdu ccb pdu = some ccb' ∧ ReceiverValid ccb' ∧
      ∃ frames, Reassembles ccb ccb' frames := by
  have ready := valid.ready isOpen
  unfold l2cFcrProcPdu
  dsimp only
  -- a frame too short or with a bad FCS is dropped
  split
  · exact ⟨ccb, rfl, ready.unchanged rfl⟩
  split
  · exact ⟨ccb, rfl, ready.unchanged rfl⟩
  split
  · -- a frame dropped while our poll is outstanding; a poll of the peer is answered at once
    split
    · exact ⟨_, rfl, ready.unchanged (sendFinalResponse_receiver ccb)⟩
    · exact ⟨ccb, rfl, ready.unchanged rfl⟩
  rename_i settled ctrlWord settling
  have acknowledged := (processReqseq_receiver settled ctrlWord).trans (settlePoll_receiver settling)
  split
  · exact ⟨_, rfl, ready.unchanged acknowledged⟩
  by_cases sFrame : hasBit ctrlWord l2capFcrSFrameBit = true
  · -- an S-frame leaves the receiving side alone
    rw [if_pos sFrame]
    have handled := (processSFrame_receiver (processReqseq settled ctrlWord).2 ctrlWord).trans acknowledged
    exact l2cFcrProcPdu_tail (handled ▸ ready).pending (.of_receiver ready.expected_lt handled)
  · -- an I-frame is held, dropped, rejected, or reassembled as the expected one
    rw [if_neg sFrame]
    have masked := (settlePoll_txSeq settling (Bool.eq_false_iff.mpr sFrame)).symm
    rcases processIFrame_pending (acknowledged ▸ ready) masked
        ((pdu.body.take (pdu.body.length - l2capFcsLen)).drop l2capFcrOverhead) false with
      ⟨handled, processing, pending, frames, reassembled⟩
    rw [processing]
    exact l2cFcrProcPdu_tail pending (.same_then acknowledged reassembled)

/-! ## Runs of an open channel -/

/-- A step of a channel that is open.  Frames reach `l2c_fcr_proc_pdu` only
on a connected channel, and a disconnected one has been released. -/
def OpenStep (ccb ccb' : Ccb) : Prop :=
  ccb.open_ = true ∧ ErtmStep ccb ccb'

theorem OpenStep.valid {ccb ccb' : Ccb} (step : OpenStep ccb ccb') (valid : ReceiverValid ccb) :
    ReceiverValid ccb' ∧ ∃ frames, Reassembles ccb ccb' frames := by
  rcases step with ⟨isOpen, step⟩
  have ready := valid.ready isOpen
  cases step with
  | transmit maxPacketLength _ => exact ready.unchanged (l2cFcrGetNextXmitSduSeg_receiver ccb maxPacketLength)
  | receive pdu processed =>
    rcases l2cFcrProcPdu_valid valid isOpen pdu with ⟨_, processing, validAfter, reassembled⟩
    rw [processed, Option.some.injEq] at processing
    subst processing
    exact ⟨validAfter, reassembled⟩
  | retransmit txSeq => exact ready.unchanged (retransmitIFrames_receiver ccb txSeq)
  | timeout => exact ready.unchanged (l2cFcrProcTout_receiver ccb)
  | ackTimeout => exact ready.unchanged (l2cFcrProcAckTout_receiver ccb)

/-- The invariant holds along every run of an open channel, and the frames
reassembled over the run follow the first one expected. -/
theorem openRun_valid {init ccb : Ccb} (valid : ReceiverValid init)
    (reachable : Relation.ReflTransGen OpenStep init ccb) :
    ReceiverValid ccb ∧ ∃ frames, Reassembles init ccb frames := by
  induction reachable with
  | refl => exact ⟨valid, [], .of_receiver valid.holdQueue.expected_lt rfl⟩
  | tail _ step ih =>
    rcases ih with ⟨validBefore, frames, reassembled⟩
    rcases step.valid validBefore with ⟨validAfter, more, reassembledMore⟩
    exact ⟨validAfter, _, reassembled.trans reassembledMore⟩

/-- A channel with nothing held, as `l2c_fcr_cleanup` leaves it, starts valid. -/
theorem HoldQueueClear.valid {ccb : Ccb} (clear : HoldQueueClear ccb.receiver) : ReceiverValid ccb :=
  clear.ready.valid

/-- The selective-reject hold queue over every run of a channel that starts
with nothing held: during a selective reject the queue is not empty and holds
the frames after `next_seq_expected` in order, and it never holds more than
our transmit window; a frame received on the open channel never reaches the
undefined dereference of the last held frame; and the frames handed to
`do_sar_reassembly` over the run, as the channel records them, carry the
TxSeqs from the first one expected on, one by one, so that no 64 of them in a
row repeat a TxSeq. -/
theorem ertm_srej_hold_queue {init ccb : Ccb} (fresh : HoldQueueClear init.receiver)
    (reachable : Relation.ReflTransGen OpenStep init ccb) :
    HoldQueueOk ccb.receiver ∧
      (ccb.open_ = true → ∀ pdu, ∃ ccb', l2cFcrProcPdu ccb pdu = some ccb') ∧
      ∃ frames, ccb.sarFrames = init.sarFrames ++ frames ∧
        frames.map (fun frame => txSeqOf frame.2) = run 64 init.fcrb.nextSeqExpected frames.length ∧
        ∀ start, (((frames.drop start).take 64).map (fun frame => txSeqOf frame.2)).Nodup := by
  rcases openRun_valid fresh.valid reachable with ⟨valid, frames, reassembled⟩
  refine ⟨valid.holdQueue, fun isOpen pdu => ?_, frames, reassembled.sarFrames, reassembled.txSeqs,
    reassembled.nodup_window⟩
  rcases l2cFcrProcPdu_valid valid isOpen pdu with ⟨ccb', processed, -⟩
  exact ⟨ccb', processed⟩

/-- An I-frame with the TxSeq, acknowledging nothing, as the peer sends it:
its control word and payload, then the FCS over the basic header and them. -/
def unsegmentedIFrame (txSeq : Nat) (info : List UInt8) : RxPdu :=
  let payload := u16le (txSeq <<< l2capFcrTxSeqBitsShift) ++ info
  ⟨[0x05, 0x00, 0x40, 0x00], payload ++ u16le (l2cFcrTxGetFcs ([0x05, 0x00, 0x40, 0x00] ++ payload))⟩

/-- A lost frame: frame 1 arrives first and is held under a selective reject,
then frame 0 arrives and both go to reassembly, 0 before 1. -/
theorem ertm_srej_hold_queue_lostFrame :
    let channel : Ccb :=
      { fcrb := Fcrb.cleared, xmitHoldQ := [], txMps := 1691, maxRxMtu := 1691, peerTxWinSz := 10,
        ourTxWinSz := defaultErtmTxWinSz, peerMaxTransmit := 20, peerModeErtm := true, localCid := 0x40,
        hasTxCompleteCb := true, open_ := true, sFramesSent := [], delivered := [], txComplete := [] }
    let held := (l2cFcrProcPdu channel (unsegmentedIFrame 1 [0xB1])).getD channel
    let drained := (l2cFcrProcPdu held (unsegmentedIFrame 0 [0xA0])).getD held
    HoldQueueClear channel.receiver ∧ held.fcrb.srejSent = true ∧ held.fcrb.srejRcvHoldQ.length = 1 ∧
      Relation.ReflTransGen OpenStep channel drained ∧ drained.sarFrames.length = 2 ∧
      HoldQueueOk drained.receiver ∧
      (drained.open_ = true → ∀ pdu, ∃ ccb', l2cFcrProcPdu drained pdu = some ccb') ∧
      ∃ frames, drained.sarFrames = channel.sarFrames ++ frames ∧
        frames.map (fun frame => txSeqOf frame.2) = run 64 channel.fcrb.nextSeqExpected frames.length ∧
        ∀ start, (((frames.drop start).take 64).map (fun frame => txSeqOf frame.2)).Nodup := by
  intro channel held drained
  have fresh : HoldQueueClear channel.receiver := ⟨by decide, rfl, rfl⟩
  have first : l2cFcrProcPdu channel (unsegmentedIFrame 1 [0xB1]) = some held :=
    (Option.getD_of_ne_none (Option.ne_none_iff_isSome.mpr (by decide)) channel).symm
  have second : l2cFcrProcPdu held (unsegmentedIFrame 0 [0xA0]) = some drained :=
    (Option.getD_of_ne_none (Option.ne_none_iff_isSome.mpr (by decide)) held).symm
  have run : Relation.ReflTransGen OpenStep channel drained :=
    (Relation.ReflTransGen.single ⟨rfl, .receive _ first⟩).tail ⟨by decide, .receive _ second⟩
  exact ⟨fresh, by decide, by decide, run, by decide, ertm_srej_hold_queue fresh run⟩

end L2cap
end BluetoothStack
