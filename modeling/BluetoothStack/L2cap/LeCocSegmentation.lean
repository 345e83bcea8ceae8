import BluetoothStack.L2cap.LeCoc

namespace BluetoothStack
namespace L2cap

open ByteStream

/-!
# LE credit-based channels: the round trip of an SDU

The sender and the receiver of an LE credit-based channel meet at
`LeSegments`, the shape of the K-frames of one SDU: a first frame holding the
SDU length and as much of the SDU as fits in `mps - 6` bytes, then pieces of
`mps - 4` bytes, the last of them flagged as the last piece.  For every MPS
that `l2c_ble` accepts from a peer, `l2c_lcc_get_next_xmit_sdu_seg` produces
that shape, and `l2c_lcc_proc_pdu` on a receiver using the same MPS and MTU
turns it back into the SDU.  The sender keeps the rest of the SDU in its
buffer by moving the buffer's 16-bit `offset`; an SDU whose bytes reach past
offset 65535 is cut from the wrong bytes once the offset wraps.
-/

/-- `max_pdu`, the bytes a K-frame may carry for the peer's MPS. -/
def leMaxPdu (ccb : LeCcb) : Nat :=
  ccb.peerConnCfg.mps - l2capPktOverhead

/-! ## Well-formed sequences of K-frames -/

/-- `LeContinues maxPdu rest frames`: the frames carry `rest`, what is left of
an SDU after its first K-frame, in pieces of `maxPdu` bytes, and only the
final one is flagged as the last piece. -/
inductive LeContinues (maxPdu : Nat) : List UInt8 → List (KFrame × Bool) → Prop
  | last {rest : List UInt8} {frame : KFrame} : rest.length ≤ maxPdu → frame.info = rest →
      LeContinues maxPdu rest [(frame, true)]
  | cons {rest : List UInt8} {frame : KFrame} {frames : List (KFrame × Bool)} :
      maxPdu < rest.length → frame.info = rest.take maxPdu →
      LeContinues maxPdu (rest.drop maxPdu) frames → LeContinues maxPdu rest ((frame, false) :: frames)

/-- `LeSegments maxPdu sdu frames`: the first K-frame carries the SDU length
and the first `maxPdu - 2` bytes of the SDU, and the rest of the SDU follows
in pieces of `maxPdu` bytes. -/
inductive LeSegments (maxPdu : Nat) (sdu : List UInt8) : List (KFrame × Bool) → Prop
  | single {frame : KFrame} : sdu.length ≤ maxPdu - l2capLccSduLength →
      frame.info = u16le sdu.length ++ sdu → LeSegments maxPdu sdu [(frame, true)]
  | started {frame : KFrame} {frames : List (KFrame × Bool)} :
      maxPdu - l2capLccSduLength < sdu.length →
      frame.info = u16le sdu.length ++ sdu.take (maxPdu - l2capLccSduLength) →
      LeContinues maxPdu (sdu.drop (maxPdu - l2capLccSduLength)) frames →
      LeSegments maxPdu sdu ((frame, false) :: frames)

section Shape

variable {maxPdu : Nat} {sdu rest : List UInt8} {frames : List (KFrame × Bool)}

theorem LeContinues.info_length_le (continues : LeContinues maxPdu rest frames) :
    ∀ sent ∈ frames, sent.1.info.length ≤ maxPdu := by
  induction continues with
  | last fits info =>
      intro sent member
      rw [List.mem_singleton] at member
      rw [member, info]
      exact fits
  | cons longer info _ later =>
      intro sent member
      rcases List.mem_cons.mp member with here | there
      · rw [here, info, List.length_take]
        exact min_le_left _ _
      · exact later sent there

/-- No K-frame carries more than `maxPdu` bytes, the length field included. -/
theorem LeSegments.info_length_le (segments : LeSegments maxPdu sdu frames)
    (room : l2capLccSduLength ≤ maxPdu) : ∀ sent ∈ frames, sent.1.info.length ≤ maxPdu := by
  cases segments with
  | single fits info =>
      intro sent member
      rw [List.mem_singleton] at member
      rw [member, info, List.length_append, u16le_length]
      unfold l2capLccSduLength at fits room
      omega
  | started longer info continues =>
      intro sent member
      rcases List.mem_cons.mp member with here | there
      · rw [here, info, List.length_append, u16le_length, List.length_take]
        unfold l2capLccSduLength at longer room ⊢
        omega
      · exact continues.info_length_le sent there

/-- Only the final K-frame is reported as the last piece. -/
theorem LeContinues.lastPiece (continues : LeContinues maxPdu rest frames) :
    ∃ earlier, frames.map Prod.snd = List.replicate earlier false ++ [true] := by
  induction continues with
  | last => exact ⟨0, rfl⟩
  | cons _ _ _ later =>
      obtain ⟨earlier, flags⟩ := later
      exact ⟨earlier + 1, by rw [List.map_cons, flags]; rfl⟩

theorem LeSegments.lastPiece (segments : LeSegments maxPdu sdu frames) :
    ∃ earlier, frames.map Prod.snd = List.replicate earlier false ++ [true] := by
  cases segments with
  | single => exact ⟨0, rfl⟩
  | started _ _ continues =>
      obtain ⟨earlier, flags⟩ := continues.lastPiece
      exact ⟨earlier + 1, by rw [List.map_cons, flags]; rfl⟩

/-- The continuation frames carry exactly the rest of the SDU. -/
theorem LeContinues.flatten (continues : LeContinues maxPdu rest frames) :
    (frames.map fun sent => sent.1.info).flatten = rest := by
  induction continues with
  | last _ info => simp [info]
  | @cons rest _ _ _ info _ later =>
      rw [List.map_cons, List.flatten_cons, later, info, List.take_append_drop]

/-- The SDU length travels in the first K-frame only; the others carry data. -/
theorem LeSegments.lengthFirst (segments : LeSegments maxPdu sdu frames) :
    ∃ first later, frames = first :: later ∧
      first.1.info = u16le sdu.length ++ sdu.take (maxPdu - l2capLccSduLength) ∧
      (later.map fun sent => sent.1.info).flatten = sdu.drop (maxPdu - l2capLccSduLength) := by
  cases segments with
  | @single frame fits info =>
      refine ⟨(frame, true), [], rfl, ?_, ?_⟩
      · rw [info, List.take_of_length_le fits]
      · rw [List.drop_of_length_le fits]
        rfl
  | @started frame _ _ info continues => exact ⟨(frame, false), _, rfl, info, continues.flatten⟩

end Shape

/-! ## The receiving half -/

/-- A first segment whose length field announces `length` opens a new SDU. -/
theorem l2cLccProcPdu_first {ccb : LeCcb} {length : Nat} {data : List UInt8}
    (first : ccb.isFirstSeg = true)
    (fits : l2capLccSduLength + data.length ≤ ccb.localConnCfg.mps)
    (withinMtu : length ≤ ccb.localConnCfg.mtu) (small : length < 65536)
    (enough : data.length ≤ length) :
    l2cLccProcPdu ccb (u16le length ++ data) =
      appendLeSegment { ccb with bleSdu := some [], bleSduLength := length } [] data := by
  have pduLength : (u16le length ++ data).length = l2capLccSduLength + data.length := by
    simp [l2capLccSduLength]
  have field : readU16le ((u16le length ++ data).getD 0 0) ((u16le length ++ data).getD 1 0) = length := by
    simpa [u16le] using readU16le_u16le small
  have payload : (u16le length ++ data).drop l2capLccSduLength = data := by
    simp [l2capLccSduLength, u16le]
  unfold l2cLccProcPdu
  rw [pduLength, if_neg (by omega), if_pos first,
    if_neg (show ¬l2capLccSduLength + data.length < l2capLccSduLength by omega)]
  dsimp only
  rw [field, payload, if_neg (by omega), if_neg (by omega)]

/-- A continuation that fits in what remains of the SDU in progress is
appended to it. -/
theorem l2cLccProcPdu_continue {ccb : LeCcb} {sdu pdu : List UInt8}
    (notFirst : ccb.isFirstSeg = false) (pending : ccb.bleSdu = some sdu)
    (fits : pdu.length ≤ ccb.localConnCfg.mps) (within : sdu.length + pdu.length ≤ ccb.bleSduLength) :
    l2cLccProcPdu ccb pdu = appendLeSegment ccb sdu pdu := by
  unfold l2cLccProcPdu
  rw [if_neg (by omega), if_neg (by simp [notFirst]), pending]
  dsimp only
  rw [if_neg (by omega)]

/-- The receiver half, for the continuation frames: with the first bytes of
the SDU collected, they complete it and it is passed up. -/
theorem LeContinues.reassemble {maxPdu : Nat} {rest : List UInt8} {frames : List (KFrame × Bool)}
    (continues : LeContinues maxPdu rest frames) :
    ∀ {receiver : LeCcb} {sdu : List UInt8}, receiver.isFirstSeg = false →
      receiver.bleSdu = some sdu → receiver.bleSduLength = sdu.length + rest.length →
      maxPdu ≤ receiver.localConnCfg.mps →
      receivePdus receiver (frames.map fun sent => sent.1.info) =
        { receiver with
          delivered := receiver.delivered ++ [sdu ++ rest]
          isFirstSeg := true
          bleSdu := none
          bleSduLength := 0 } := by
  induction continues with
  | @last rest frame fits info =>
      intro receiver sdu notFirst pending expects room
      have complete : (sdu ++ rest).length = receiver.bleSduLength := by simp [expects]
      rw [List.map_singleton, receivePdus_cons, receivePdus_nil, info,
        l2cLccProcPdu_continue notFirst pending (by omega) (by omega), appendLeSegment_of_eq complete]
  | @cons rest frame frames longer info _ later =>
      intro receiver sdu notFirst pending expects room
      have piece : (rest.take maxPdu).length = maxPdu := List.length_take_of_le longer.le
      have growing : (sdu ++ rest.take maxPdu).length < receiver.bleSduLength := by
        simp only [List.length_append, piece, expects]
        omega
      have continued := @later { receiver with bleSdu := some (sdu ++ rest.take maxPdu), isFirstSeg := false }
        (sdu ++ rest.take maxPdu) rfl rfl (by simp [expects, piece]; omega) room
      rw [List.map_cons, receivePdus_cons, info,
        l2cLccProcPdu_continue notFirst pending (by omega) (by omega), appendLeSegment_of_lt growing,
        continued, List.append_assoc, List.take_append_drop]

/-- The receiver half: a receiver between SDUs, whose MPS admits the frames
and whose MTU admits the SDU, passes up exactly the SDU, once. -/
theorem LeSegments.reassemble {maxPdu : Nat} {sdu : List UInt8} {frames : List (KFrame × Bool)}
    (segments : LeSegments maxPdu sdu frames) (fieldRoom : l2capLccSduLength ≤ maxPdu) {receiver : LeCcb}
    (first : receiver.isFirstSeg = true) (room : maxPdu ≤ receiver.localConnCfg.mps)
    (withinMtu : sdu.length ≤ receiver.localConnCfg.mtu) (small : sdu.length < 65536) :
    receivePdus receiver (frames.map fun sent => sent.1.info) =
      { receiver with
        delivered := receiver.delivered ++ [sdu]
        isFirstSeg := true
        bleSdu := none
        bleSduLength := 0 } := by
  cases segments with
  | single fits info =>
      rw [List.map_singleton, receivePdus_cons, receivePdus_nil, info,
        l2cLccProcPdu_first first (by omega) withinMtu small le_rfl,
        appendLeSegment_of_eq (by simp), List.nil_append]
  | @started frame frames longer info continues =>
      have piece : (sdu.take (maxPdu - l2capLccSduLength)).length = maxPdu - l2capLccSduLength :=
        List.length_take_of_le longer.le
      have growing : ([] ++ sdu.take (maxPdu - l2capLccSduLength)).length < sdu.length := by
        rw [List.nil_append, piece]
        exact longer
      rw [List.map_cons, receivePdus_cons, info,
        l2cLccProcPdu_first first (by rw [piece]; omega) withinMtu small (by rw [piece]; exact longer.le),
        appendLeSegment_of_lt growing,
        @LeContinues.reassemble _ _ _ continues _ ([] ++ sdu.take (maxPdu - l2capLccSduLength)) ?_ ?_ ?_ ?_,
        List.nil_append, List.take_append_drop]
      · rfl
      · rfl
      · simp only [List.nil_append, piece, List.length_drop]
        omega
      · exact room

/-! ## The sending half -/

/-- A channel ready to cut the SDU at the head of its queue: the SDU's 16-bit
`offset` and `len` do not wrap, the channel has its CID, and the peer's MPS is
one that `l2c_ble` accepts. -/
structure LeReadyToSegment (ccb : LeCcb) (buffer : SduBuffer) (rest : List SduBuffer) : Prop where
  queued : ccb.xmitHoldQ = buffer :: rest
  inRange : buffer.offset + buffer.len < 65536
  localCid_ne : ccb.localCid ≠ 0
  mps_ge : l2capLeMinMps ≤ ccb.peerConnCfg.mps
  mps_le : ccb.peerConnCfg.mps ≤ l2capLeMaxMps

/-- `l2c_lcc_get_next_xmit_sdu_seg` on a ready channel, with its 16-bit
arithmetic evaluated: `count` bytes go out, after the SDU length if the SDU is
fresh, and the SDU advances by them unless they were all that was left. -/
theorem LeReadyToSegment.getNext {ccb : LeCcb} {buffer : SduBuffer} {rest : List SduBuffer}
    (ready : LeReadyToSegment ccb buffer rest) (count : Nat)
    (counted : count =
      min buffer.len (if buffer.event = 0 then leMaxPdu ccb - l2capLccSduLength else leMaxPdu ccb)) :
    l2cLccGetNextXmitSduSeg ccb =
      some ({ info := if buffer.event = 0 then u16le buffer.len ++ buffer.contents.take count
                      else buffer.contents.take count
              layerSpecific := buffer.layerSpecific },
            count == buffer.len,
            { ccb with
              xmitHoldQ := if count == buffer.len then rest
                else { buffer with
                       event := ccb.localCid
                       len := buffer.len - count
                       offset := buffer.offset + count } :: rest }) := by
  have mpsBounds := And.intro ready.mps_ge ready.mps_le
  unfold l2capLeMinMps l2capLeMaxMps at mpsBounds
  have maxPdu : (ccb.peerConnCfg.mps + 65536 - l2capPktOverhead) % 65536 = leMaxPdu ccb := by
    unfold leMaxPdu l2capPktOverhead
    omega
  have firstChunk :
      (leMaxPdu ccb + 65536 - l2capLccSduLength) % 65536 = leMaxPdu ccb - l2capLccSduLength := by
    unfold leMaxPdu l2capPktOverhead l2capLccSduLength
    omega
  have fits : count ≤ buffer.len := counted ▸ min_le_left _ _
  have offset : (buffer.offset + count) % 65536 = buffer.offset + count := by
    have := ready.inRange
    omega
  unfold l2cLccGetNextXmitSduSeg
  rw [ready.queued]
  dsimp only
  by_cases fresh : buffer.event = 0
  · rw [if_pos fresh] at counted
    simp only [fresh, beq_self_eq_true, if_true, maxPdu, firstChunk, ← counted,
      l2cFcrCloneBuf_eq_take buffer fits, offset]
  · rw [if_neg fresh] at counted
    simp only [fresh, beq_iff_eq, if_false, maxPdu, ← counted, l2cFcrCloneBuf_eq_take buffer fits,
      offset]

/-- An accepted MPS leaves room for 19 bytes in every K-frame. -/
theorem LeReadyToSegment.maxPdu_ge {ccb : LeCcb} {buffer : SduBuffer} {rest : List SduBuffer}
    (ready : LeReadyToSegment ccb buffer rest) : 19 ≤ leMaxPdu ccb := by
  have accepted := ready.mps_ge
  unfold l2capLeMinMps at accepted
  unfold leMaxPdu l2capPktOverhead
  omega

/-- The SDU left at the head of the queue is ready for the next call. -/
theorem LeReadyToSegment.advance {ccb : LeCcb} {buffer : SduBuffer} {rest : List SduBuffer}
    (ready : LeReadyToSegment ccb buffer rest) {count : Nat} (fits : count ≤ buffer.len) :
    LeReadyToSegment
      { ccb with
        xmitHoldQ := { buffer with
                       event := ccb.localCid
                       len := buffer.len - count
                       offset := buffer.offset + count } :: rest }
      { buffer with event := ccb.localCid, len := buffer.len - count, offset := buffer.offset + count }
      rest where
  queued := rfl
  inRange := by
    have := ready.inRange
    dsimp only
    omega
  localCid_ne := ready.localCid_ne
  mps_ge := ready.mps_ge
  mps_le := ready.mps_le

/-- Once an SDU has started, the sender cuts the rest of it into pieces of
`mps - 4` bytes, flags the final one, and then the SDU leaves the queue. -/
theorem sendLeSdu_continues (fuel : Nat) :
    ∀ {ccb : LeCcb} {buffer : SduBuffer} {rest : List SduBuffer},
      LeReadyToSegment ccb buffer rest → buffer.event ≠ 0 → buffer.len < fuel →
      LeContinues (leMaxPdu ccb) buffer.contents (sendLeSdu fuel ccb).1 ∧
        (sendLeSdu fuel ccb).2.xmitHoldQ = rest := by
  induction fuel with
  | zero =>
      intro ccb buffer rest _ _ short
      exact absurd short (Nat.not_lt_zero _)
  | succ fuel ih =>
      intro ccb buffer rest ready started short
      by_cases fits : buffer.len ≤ leMaxPdu ccb
      · -- the rest fits: the last piece, after which the SDU leaves the queue
        have call := ready.getNext buffer.len (by simp [started, fits])
        simp only [beq_self_eq_true, if_true, started, if_false] at call
        rw [sendLeSdu, call]
        dsimp only
        rw [if_pos rfl]
        refine ⟨.last (by rwa [SduBuffer.contents_length]) ?_, rfl⟩
        rw [← SduBuffer.contents_length buffer, List.take_length]
      · -- a full piece; the rest of the SDU stays at the head of the queue
        have larger : leMaxPdu ccb < buffer.len := Nat.lt_of_not_le fits
        have notLast : (leMaxPdu ccb == buffer.len) = false := by simpa using larger.ne
        have call := ready.getNext (leMaxPdu ccb) (by simp [started, larger.le])
        simp only [notLast, Bool.false_eq_true, if_false, started] at call
        rw [sendLeSdu, call]
        dsimp only
        rw [if_neg (by simp)]
        have room := ready.maxPdu_ge
        obtain ⟨continues, dequeued⟩ := ih (ready.advance larger.le) ready.localCid_ne (by
          dsimp only
          omega)
        refine ⟨.cons (by rwa [SduBuffer.contents_length]) rfl ?_, dequeued⟩
        rwa [← SduBuffer.contents_skip buffer (leMaxPdu ccb) ccb.localCid]

/-- The sending half: for a fresh SDU the K-frames have the shape
`LeSegments`, and then the SDU has left the queue.  A call for each byte of
the SDU is enough. -/
theorem sendLeSdu_segments {ccb : LeCcb} {buffer : SduBuffer} {rest : List SduBuffer}
    (ready : LeReadyToSegment ccb buffer rest) (fresh : buffer.event = 0) {fuel : Nat}
    (enough : buffer.len < fuel) :
    LeSegments (leMaxPdu ccb) buffer.contents (sendLeSdu fuel ccb).1 ∧
      (sendLeSdu fuel ccb).2.xmitHoldQ = rest := by
  obtain ⟨fuel, rfl⟩ : ∃ calls, fuel = calls + 1 := ⟨fuel - 1, by omega⟩
  have firstChunk : 17 ≤ leMaxPdu ccb - l2capLccSduLength := by
    have room := ready.maxPdu_ge
    unfold l2capLccSduLength
    omega
  by_cases fits : buffer.len ≤ leMaxPdu ccb - l2capLccSduLength
  · -- the SDU fits in its first K-frame
    have call := ready.getNext buffer.len (by simp [fresh, fits])
    simp only [beq_self_eq_true, if_true, fresh] at call
    rw [sendLeSdu, call]
    dsimp only
    rw [if_pos rfl]
    refine ⟨.single (by rwa [SduBuffer.contents_length]) ?_, rfl⟩
    rw [SduBuffer.contents_length, ← SduBuffer.contents_length buffer, List.take_length]
  · -- a first K-frame, and the rest of the SDU in continuation frames
    have larger : leMaxPdu ccb - l2capLccSduLength < buffer.len := Nat.lt_of_not_le fits
    have notLast : (leMaxPdu ccb - l2capLccSduLength == buffer.len) = false := by
      simpa using larger.ne
    have call := ready.getNext (leMaxPdu ccb - l2capLccSduLength) (by simp [fresh, larger.le])
    simp only [notLast, Bool.false_eq_true, if_false, fresh, if_true] at call
    rw [sendLeSdu, call]
    dsimp only
    rw [if_neg (by simp)]
    obtain ⟨continues, dequeued⟩ := sendLeSdu_continues fuel (ready.advance larger.le)
      ready.localCid_ne (by
        dsimp only
        omega)
    refine ⟨.started (by rwa [SduBuffer.contents_length]) (by rw [SduBuffer.contents_length]) ?_,
      dequeued⟩
    rwa [← SduBuffer.contents_skip buffer (leMaxPdu ccb - l2capLccSduLength) ccb.localCid]

/-! ## The round trip -/

/-- What the K-frames of one SDU give: the SDU length in the first frame only,
every frame within the peer's MPS with its basic header, the last-piece
report on the final frame only, the SDU gone from the queue, and a receiver
configured with the sender's MPS and MTU passing up exactly the SDU, once. -/
structure LeSduRoundTrip (sender : LeCcb) (buffer : SduBuffer) (rest : List SduBuffer) (fuel : Nat) :
    Prop where
  lengthFirst : ∃ first later, (sendLeSdu fuel sender).1 = first :: later ∧
    first.1.info = u16le buffer.len ++ buffer.contents.take (leMaxPdu sender - l2capLccSduLength) ∧
    (later.map fun sent => sent.1.info).flatten =
      buffer.contents.drop (leMaxPdu sender - l2capLccSduLength)
  withinMps : ∀ sent ∈ (sendLeSdu fuel sender).1,
    sent.1.info.length + l2capPktOverhead ≤ sender.peerConnCfg.mps
  lastPiece : ∃ earlier, (sendLeSdu fuel sender).1.map Prod.snd = List.replicate earlier false ++ [true]
  dequeued : (sendLeSdu fuel sender).2.xmitHoldQ = rest
  delivers : ∀ receiver : LeCcb, receiver.localConnCfg = sender.peerConnCfg → receiver.isFirstSeg = true →
    receivePdus receiver ((sendLeSdu fuel sender).1.map fun sent => sent.1.info) =
      { receiver with
        delivered := receiver.delivered ++ [buffer.contents]
        isFirstSeg := true
        bleSdu := none
        bleSduLength := 0 }

theorem leCoc_segmentation_reassembly {sender : LeCcb} {buffer : SduBuffer} {rest : List SduBuffer}
    {fuel : Nat} {init ccb : LeCcb} (ready : LeReadyToSegment sender buffer rest)
    (fresh : buffer.event = 0) (withinMtu : buffer.len ≤ sender.peerConnCfg.mtu)
    (enough : buffer.len < fuel) (initial : LeRxInitial init)
    (received : Relation.ReflTransGen LeRxStep init ccb) :
    LeSduRoundTrip sender buffer rest fuel ∧ LeReceiverSafe ccb := by
  have small : buffer.len < 65536 := by
    have := ready.inRange
    omega
  have room := ready.maxPdu_ge
  have fieldRoom : l2capLccSduLength ≤ leMaxPdu sender := by
    unfold l2capLccSduLength
    omega
  obtain ⟨segments, dequeued⟩ := sendLeSdu_segments ready fresh enough
  refine ⟨⟨?_, ?_, segments.lastPiece, dequeued, ?_⟩, (leRxReachable_reassembly initial received).receiverSafe⟩
  · rw [← SduBuffer.contents_length buffer]
    exact segments.lengthFirst
  · intro sent member
    have fits := segments.info_length_le fieldRoom sent member
    have accepted := ready.mps_ge
    unfold leMaxPdu at fits
    unfold l2capPktOverhead at fits ⊢
    unfold l2capLeMinMps at accepted
    omega
  · intro receiver sameCfg first
    have mps : leMaxPdu sender ≤ receiver.localConnCfg.mps := by
      rw [sameCfg]
      exact Nat.sub_le _ _
    exact segments.reassemble fieldRoom first mps
      (by rw [SduBuffer.contents_length, sameCfg]; exact withinMtu)
      (by rw [SduBuffer.contents_length]; exact small)

/-- A 40-byte SDU at the smallest MPS goes out as three K-frames, and a
receiver that receives them passes it up. -/
theorem leCoc_segmentation_reassembly_threeFrames :
    let sdu : SduBuffer := { mem := fun i => UInt8.ofNat i, offset := 8, len := 40, event := 0, layerSpecific := 0 }
    let sender : LeCcb :=
      ⟨[sdu], 0x40, ⟨100, l2capLeMinMps⟩, ⟨100, l2capLeMinMps⟩, true, none, 0, true, []⟩
    let received := receivePdus sender ((sendLeSdu 41 sender).1.map fun sent => sent.1.info)
    LeReadyToSegment sender sdu [] ∧ sdu.event = 0 ∧ sdu.len ≤ sender.peerConnCfg.mtu ∧ sdu.len < 41 ∧
      LeRxInitial sender ∧ Relation.ReflTransGen LeRxStep sender received ∧
      (sendLeSdu 41 sender).1.length = 3 ∧ LeSduRoundTrip sender sdu [] 41 ∧ LeReceiverSafe received := by
  intro sdu sender received
  have ready : LeReadyToSegment sender sdu [] := ⟨rfl, by decide, by decide, le_rfl, by decide⟩
  have initial : LeRxInitial sender := ⟨rfl, rfl, rfl⟩
  have run : Relation.ReflTransGen LeRxStep sender received := receivePdus_reachable _ sender
  exact ⟨ready, rfl, by decide, by decide, initial, run, by decide,
    leCoc_segmentation_reassembly ready rfl (by decide) (by decide) initial run⟩

/-- Without the bound on the buffer's offset the round trip fails.  An SDU of
65535 bytes at offset 13 and the largest MPS: the first K-frame carries 65527
bytes and moves the 16-bit offset of the SDU left in the queue past 65535, to
4, so the last K-frame carries the 8 bytes at offset 4 instead of the SDU's
last 8, and the receiver passes up an SDU that ends in them. -/
theorem leCoc_segmentation_offset_wraps :
    let sdu : SduBuffer :=
      { mem := fun i => if i < 65536 then 0 else 1, offset := 13, len := 65535, event := 0, layerSpecific := 0 }
    let sender : LeCcb :=
      ⟨[sdu], 0x40, ⟨65535, l2capLeMaxMps⟩, ⟨65535, l2capLeMaxMps⟩, true, none, 0, true, []⟩
    sdu.event = 0 ∧ sdu.len ≤ sender.peerConnCfg.mtu ∧ l2capLeMinMps ≤ sender.peerConnCfg.mps ∧
      sender.peerConnCfg.mps ≤ l2capLeMaxMps ∧ LeRxInitial sender ∧ 65536 ≤ sdu.offset + sdu.len ∧
      (receivePdus sender ((sendLeSdu 65536 sender).1.map fun sent => sent.1.info)).delivered =
        [sdu.contents.take 65527 ++ List.replicate 8 0] ∧
      ¬LeSduRoundTrip sender sdu [] 65536 := by
  intro sdu sender
  let held : SduBuffer := { sdu with event := 0x40, len := 8, offset := 4 }
  let wrong := l2cFcrCloneBuf sdu 65527 ++ l2cFcrCloneBuf held 8
  -- the first call cuts 65527 bytes and wraps the offset; the second cuts the 8 left
  have first : l2cLccGetNextXmitSduSeg sender =
      some (⟨u16le 65535 ++ l2cFcrCloneBuf sdu 65527, 0⟩, false, { sender with xmitHoldQ := [held] }) := by
    unfold l2cLccGetNextXmitSduSeg
    simp only [sender, sdu, held, l2capLeMaxMps, l2capPktOverhead, l2capLccSduLength]
    simp only [Nat.reduceBEq, if_true, Nat.min_def, Nat.reduceLeDiff, if_false, Nat.reduceAdd, Nat.reduceSub,
      Nat.reduceMod, Bool.false_eq_true]
  have second : l2cLccGetNextXmitSduSeg { sender with xmitHoldQ := [held] } =
      some (⟨l2cFcrCloneBuf held 8, 0⟩, true, { sender with xmitHoldQ := [] }) := by
    unfold l2cLccGetNextXmitSduSeg
    simp only [sender, sdu, held, l2capLeMaxMps, l2capPktOverhead]
    simp only [Nat.reduceBEq, Bool.false_eq_true, if_false, Nat.min_def, Nat.reduceLeDiff, if_true, Nat.reduceAdd,
      Nat.reduceSub, Nat.reduceMod]
  have sent : (sendLeSdu 65536 sender).1 =
      [(⟨u16le 65535 ++ l2cFcrCloneBuf sdu 65527, 0⟩, false), (⟨l2cFcrCloneBuf held 8, 0⟩, true)] := by
    rw [show (65536 : Nat) = 65534 + 1 + 1 from rfl, sendLeSdu, first]
    simp only [Bool.false_eq_true, if_false]
    rw [sendLeSdu, second]
    rfl
  -- the frames are the K-frames of the SDU that `wrong` is
  have wrongLength : wrong.length = 65535 := by simp [wrong]
  have segments : LeSegments (leMaxPdu sender) wrong (sendLeSdu 65536 sender).1 := by
    have firstPiece : leMaxPdu sender - l2capLccSduLength = 65527 := rfl
    rw [sent]
    refine .started (by rw [wrongLength]; decide) ?_ (.last (by simp [wrong, leMaxPdu]; decide) ?_)
    · rw [wrongLength, firstPiece, List.take_left' (l2cFcrCloneBuf_length sdu 65527)]
    · rw [firstPiece, List.drop_left' (l2cFcrCloneBuf_length sdu 65527)]
  have reassembled := segments.reassemble (by decide) (rfl : sender.isFirstSeg = true) (by decide)
    wrongLength.le (by omega)
  have heldBytes : l2cFcrCloneBuf held 8 = List.replicate 8 0 := by decide
  have lastBytes : sdu.contents.drop 65527 = List.replicate 8 1 := by
    rw [← SduBuffer.contents_skip sdu 65527 0x40]
    decide
  refine ⟨rfl, by decide, by decide, le_rfl, ⟨rfl, rfl, rfl⟩, by decide, ?_, ?_⟩
  · rw [reassembled, ← heldBytes, ← l2cFcrCloneBuf_eq_take sdu (by decide)]
    rfl
  · intro roundTrip
    have delivered := congrArg LeCcb.delivered (roundTrip.delivers sender rfl rfl)
    rw [reassembled] at delivered
    have same : wrong = sdu.contents := List.singleton_injective delivered
    have tails := congrArg (List.drop 65527) same
    rw [lastBytes, List.drop_left' (l2cFcrCloneBuf_length sdu 65527), heldBytes] at tails
    exact absurd tails (by decide)

end L2cap
end BluetoothStack
