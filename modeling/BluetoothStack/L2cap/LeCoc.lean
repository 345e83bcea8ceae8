import BluetoothStack.L2cap.FcrTx

namespace BluetoothStack
namespace L2cap

open ByteStream

/-!
# LE credit-based channels: segmentation and reassembly

On an LE connection-oriented channel an SDU travels as K-frames.  The first
K-frame of an SDU begins with the 2-byte SDU length; no frame carries more
than the peer's MPS.  `l2c_lcc_get_next_xmit_sdu_seg` cuts the next K-frame
from the SDU at the head of `xmit_hold_q`, and `l2c_lcc_proc_pdu` collects
received K-frames in `ble_sdu` until `ble_sdu_length` bytes have arrived.

Credits are counted by the link scheduler around these calls
(`l2c_link_get_next_buffer_to_send`, `l2c_rcv_acl_data`) and are not read by
them, so the channel state here leaves them out.  `osi_malloc` aborts rather
than return `NULL`, so the allocation-failure branch of `l2c_lcc_proc_pdu` is
unreachable.
-/

/-- `L2CAP_LE_MIN_MPS`, the smallest MPS that `l2c_ble` accepts from a peer. -/
def l2capLeMinMps : Nat := 23
/-- `L2CAP_LE_MAX_MPS`. -/
def l2capLeMaxMps : Nat := 65533
/-- `L2CAP_LCC_SDU_LENGTH`, the size of the SDU length field. -/
def l2capLccSduLength : Nat := 2

/-- The MTU and MPS of one direction of a channel, from `tL2CAP_LE_CFG_INFO`. -/
structure LeCfgInfo where
  mtu : Nat
  mps : Nat
  deriving DecidableEq, Repr

/-- The fields of `tL2C_CCB` that segmentation and reassembly on an LE
credit-based channel read and write.  `ble_sdu` is the SDU being reassembled,
`NULL` between SDUs; `delivered` records the SDUs passed up by `l2c_csm_execute`
with `L2CEVT_L2CAP_DATA`. -/
structure LeCcb where
  xmitHoldQ : List SduBuffer
  localCid : Nat
  peerConnCfg : LeCfgInfo
  localConnCfg : LeCfgInfo
  isFirstSeg : Bool
  bleSdu : Option (List UInt8)
  bleSduLength : Nat
  open_ : Bool
  delivered : List (List UInt8)

/-- A K-frame as `l2c_lcc_get_next_xmit_sdu_seg` returns it: its information
payload and the packet-boundary setting copied from the SDU.  The basic header
in front of the payload (its length and the peer's CID) is stripped again by
`l2c_rcv_acl_data` before the receiver's `l2c_lcc_proc_pdu` sees the frame. -/
structure KFrame where
  info : List UInt8
  layerSpecific : Nat

/-- `l2cu_disconnect_chnl` on an LE channel. -/
def LeCcb.disconnect (ccb : LeCcb) : LeCcb :=
  { ccb with open_ := false }

/-! ## Sending -/

/-- `l2c_lcc_get_next_xmit_sdu_seg`: the next K-frame of the SDU at the head
of `xmit_hold_q`, and whether it is the last piece of that SDU.  A fresh SDU
(`event` still 0) starts with its length, which takes two bytes of the
`mps - 4` that a frame may carry; after the last piece the SDU leaves the
queue.  `max_pdu` is 16-bit.  The code peeks at the queue without checking it
is empty, which the scheduler never lets happen; the model then returns
`none`. -/
def l2cLccGetNextXmitSduSeg (ccb : LeCcb) : Option (KFrame × Bool × LeCcb) :=
  let maxPdu := (ccb.peerConnCfg.mps + 65536 - l2capPktOverhead) % 65536
  match ccb.xmitHoldQ with
  | [] => none
  | buffer :: rest =>
      let firstPdu := buffer.event == 0
      let noOfBytesToSend :=
        min buffer.len (if firstPdu then (maxPdu + 65536 - l2capLccSduLength) % 65536 else maxPdu)
      let lastPdu := noOfBytesToSend == buffer.len
      let data := l2cFcrCloneBuf buffer noOfBytesToSend
      let held : SduBuffer :=
        { buffer with
          event := ccb.localCid
          len := buffer.len - noOfBytesToSend
          offset := (buffer.offset + noOfBytesToSend) % 65536 }
      let xmit : KFrame :=
        { info := if firstPdu then u16le buffer.len ++ data else data
          layerSpecific := buffer.layerSpecific }
      some (xmit, lastPdu, { ccb with xmitHoldQ := if lastPdu then rest else held :: rest })

/-- Successive calls of `l2c_lcc_get_next_xmit_sdu_seg` for the SDU at the
head of `xmit_hold_q`, as `l2c_link_get_next_buffer_to_send` makes them while
the peer grants credits, up to the one that reports the last piece of the
SDU; each K-frame is listed with that report.  `fuel` bounds the number of
calls. -/
def sendLeSdu : Nat → LeCcb → List (KFrame × Bool) × LeCcb
  | 0, ccb => ([], ccb)
  | fuel + 1, ccb =>
      match l2cLccGetNextXmitSduSeg ccb with
      | none => ([], ccb)
      | some (frame, lastPiece, next) =>
          if lastPiece then ([(frame, true)], next)
          else
            let later := sendLeSdu fuel next
            ((frame, false) :: later.1, later.2)

/-! ## Receiving -/

/-- The end of `l2c_lcc_proc_pdu`: the received bytes are appended to the SDU
being reassembled, which is passed up once it holds `ble_sdu_length` bytes. -/
def appendLeSegment (ccb : LeCcb) (sdu data : List UInt8) : LeCcb :=
  let sdu := sdu ++ data
  if sdu.length = ccb.bleSduLength then
    { ccb with
      delivered := ccb.delivered ++ [sdu]
      isFirstSeg := true
      bleSdu := none
      bleSduLength := 0 }
  else if sdu.length < ccb.bleSduLength then { ccb with bleSdu := some sdu, isFirstSeg := false }
  else { ccb with bleSdu := some sdu }

/-- `l2c_lcc_proc_pdu`: a K-frame larger than the local MPS, or announcing an
SDU longer than the local MTU, disconnects the channel; a first segment too
short for the length field, or holding more than the SDU it announces, is
dropped.  A continuation that overflows the announced length throws the
partial SDU away and disconnects.  `ble_sdu_length - p_data->len` is computed
in `int`, so its comparison is the one of the sum below. -/
def l2cLccProcPdu (ccb : LeCcb) (pdu : List UInt8) : LeCcb :=
  if ccb.localConnCfg.mps < pdu.length then ccb.disconnect
  else if ccb.isFirstSeg then
    if pdu.length < l2capLccSduLength then ccb
    else
      let sduLength := readU16le (pdu.getD 0 0) (pdu.getD 1 0)
      if ccb.localConnCfg.mtu < sduLength then ccb.disconnect
      else
        let data := pdu.drop l2capLccSduLength
        if sduLength < data.length then ccb
        else appendLeSegment { ccb with bleSdu := some [], bleSduLength := sduLength } [] data
  else
    match ccb.bleSdu with
    | none => ccb
    | some sdu =>
        if ccb.bleSduLength < sdu.length + pdu.length then
          LeCcb.disconnect { ccb with isFirstSeg := true, bleSdu := none, bleSduLength := 0 }
        else appendLeSegment ccb sdu pdu

@[simp]
theorem LeCcb.disconnect_localConnCfg (ccb : LeCcb) :
    ccb.disconnect.localConnCfg = ccb.localConnCfg := rfl

@[simp]
theorem LeCcb.disconnect_delivered (ccb : LeCcb) : ccb.disconnect.delivered = ccb.delivered := rfl

@[simp]
theorem LeCcb.disconnect_bleSdu (ccb : LeCcb) : ccb.disconnect.bleSdu = ccb.bleSdu := rfl

@[simp]
theorem LeCcb.disconnect_bleSduLength (ccb : LeCcb) :
    ccb.disconnect.bleSduLength = ccb.bleSduLength := rfl

@[simp]
theorem LeCcb.disconnect_isFirstSeg (ccb : LeCcb) : ccb.disconnect.isFirstSeg = ccb.isFirstSeg := rfl

/-- The SDU length that a received PDU is measured against: the length field
of a first segment, and for a continuation the length that the first segment
of the SDU in progress announced. -/
def announcedLength (ccb : LeCcb) (pdu : List UInt8) : Nat :=
  if ccb.isFirstSeg then readU16le (pdu.getD 0 0) (pdu.getD 1 0) else ccb.bleSduLength

theorem appendLeSegment_of_eq {ccb : LeCcb} {sdu data : List UInt8}
    (complete : (sdu ++ data).length = ccb.bleSduLength) :
    appendLeSegment ccb sdu data =
      { ccb with
        delivered := ccb.delivered ++ [sdu ++ data]
        isFirstSeg := true
        bleSdu := none
        bleSduLength := 0 } := by
  unfold appendLeSegment
  rw [if_pos complete]

theorem appendLeSegment_of_lt {ccb : LeCcb} {sdu data : List UInt8}
    (growing : (sdu ++ data).length < ccb.bleSduLength) :
    appendLeSegment ccb sdu data = { ccb with bleSdu := some (sdu ++ data), isFirstSeg := false } := by
  unfold appendLeSegment
  rw [if_neg growing.ne, if_pos growing]

theorem appendLeSegment_of_gt {ccb : LeCcb} {sdu data : List UInt8}
    (overrun : ccb.bleSduLength < (sdu ++ data).length) :
    appendLeSegment ccb sdu data = { ccb with bleSdu := some (sdu ++ data) } := by
  unfold appendLeSegment
  rw [if_neg overrun.ne', if_neg (Nat.lt_asymm overrun)]

/-- The three outcomes of appending received bytes. -/
theorem appendLeSegment_cases (ccb : LeCcb) (sdu data : List UInt8) :
    ((sdu ++ data).length = ccb.bleSduLength ∧
      appendLeSegment ccb sdu data =
        { ccb with
          delivered := ccb.delivered ++ [sdu ++ data]
          isFirstSeg := true
          bleSdu := none
          bleSduLength := 0 }) ∨
    ((sdu ++ data).length < ccb.bleSduLength ∧
      appendLeSegment ccb sdu data = { ccb with bleSdu := some (sdu ++ data), isFirstSeg := false }) ∨
    (ccb.bleSduLength < (sdu ++ data).length ∧
      appendLeSegment ccb sdu data = { ccb with bleSdu := some (sdu ++ data) }) := by
  rcases lt_trichotomy (sdu ++ data).length ccb.bleSduLength with growing | complete | overrun
  · exact .inr (.inl ⟨growing, appendLeSegment_of_lt growing⟩)
  · exact .inl ⟨complete, appendLeSegment_of_eq complete⟩
  · exact .inr (.inr ⟨overrun, appendLeSegment_of_gt overrun⟩)

/-- Everything one received PDU can do to the channel: nothing, a
disconnection, throwing the partial SDU away, or appending its bytes to a new
SDU of the announced length or to the SDU in progress. -/
theorem l2cLccProcPdu_cases (ccb : LeCcb) (pdu : List UInt8) :
    l2cLccProcPdu ccb pdu = ccb ∨
    l2cLccProcPdu ccb pdu = ccb.disconnect ∨
    (ccb.isFirstSeg = false ∧
      l2cLccProcPdu ccb pdu =
        LeCcb.disconnect { ccb with isFirstSeg := true, bleSdu := none, bleSduLength := 0 }) ∨
    (ccb.isFirstSeg = true ∧ announcedLength ccb pdu ≤ ccb.localConnCfg.mtu ∧
      (pdu.drop l2capLccSduLength).length ≤ announcedLength ccb pdu ∧
      l2cLccProcPdu ccb pdu =
        appendLeSegment { ccb with bleSdu := some [], bleSduLength := announcedLength ccb pdu } []
          (pdu.drop l2capLccSduLength)) ∨
    (∃ sdu, ccb.isFirstSeg = false ∧ ccb.bleSdu = some sdu ∧
      sdu.length + pdu.length ≤ ccb.bleSduLength ∧
      l2cLccProcPdu ccb pdu = appendLeSegment ccb sdu pdu) := by
  unfold l2cLccProcPdu
  dsimp only
  split_ifs with tooLong first short tooLarge overfull
  · exact .inr (.inl rfl)
  · exact .inl rfl
  · exact .inr (.inl rfl)
  · exact .inl rfl
  · -- a first segment that starts a new SDU
    have announced : announcedLength ccb pdu = readU16le (pdu.getD 0 0) (pdu.getD 1 0) := by
      simp [announcedLength, first]
    rw [announced]
    exact .inr (.inr (.inr (.inl ⟨first, by omega, by omega, rfl⟩)))
  · -- a continuation
    have notFirst : ccb.isFirstSeg = false := by simpa using first
    cases pending : ccb.bleSdu with
    | none => exact .inl rfl
    | some sdu =>
        dsimp only
        split_ifs with overflow
        · exact .inr (.inr (.inl ⟨notFirst, rfl⟩))
        · exact .inr (.inr (.inr (.inr ⟨sdu, notFirst, rfl, by omega, rfl⟩)))

/-! ## The receiver stays within the announced SDU -/

/-- The reassembly state that `l2c_lcc_proc_pdu` keeps: an SDU in progress is
shorter than the length its first segment announced, which fits the local
MTU, and an SDU is in progress exactly when the next PDU is not a first
segment. -/
structure LeReassembly (ccb : LeCcb) : Prop where
  shorter : ∀ sdu, ccb.bleSdu = some sdu → sdu.length < ccb.bleSduLength
  withinMtu : ∀ sdu, ccb.bleSdu = some sdu → ccb.bleSduLength ≤ ccb.localConnCfg.mtu
  firstSeg_iff : ccb.isFirstSeg = true ↔ ccb.bleSdu = none

/-- A channel between SDUs, as `l2c_ble` sets it up when the channel opens. -/
structure LeRxInitial (ccb : LeCcb) : Prop where
  firstSeg : ccb.isFirstSeg = true
  noSdu : ccb.bleSdu = none
  noLength : ccb.bleSduLength = 0

theorem LeRxInitial.reassembly {ccb : LeCcb} (initial : LeRxInitial ccb) : LeReassembly ccb where
  shorter sdu pending := by simp [initial.noSdu] at pending
  withinMtu sdu pending := by simp [initial.noSdu] at pending
  firstSeg_iff := by simp [initial.firstSeg, initial.noSdu]

theorem LeReassembly.disconnect {ccb : LeCcb} (inv : LeReassembly ccb) :
    LeReassembly ccb.disconnect where
  shorter := by simpa using inv.shorter
  withinMtu := by simpa using inv.withinMtu
  firstSeg_iff := by simpa using inv.firstSeg_iff

/-- Appending bytes that do not overflow the announced length keeps the
reassembly state, whatever SDU they complete or extend. -/
theorem appendLeSegment_reassembly {ccb : LeCcb} {sdu data : List UInt8}
    (fits : sdu.length + data.length ≤ ccb.bleSduLength)
    (withinMtu : ccb.bleSduLength ≤ ccb.localConnCfg.mtu) :
    LeReassembly (appendLeSegment ccb sdu data) := by
  rcases appendLeSegment_cases ccb sdu data with ⟨-, done⟩ | ⟨growing, more⟩ | ⟨overrun, -⟩
  · rw [done]
    exact ⟨by simp, by simp, by simp⟩
  · rw [more]
    refine ⟨?_, ?_, by simp⟩
    · rintro _ ⟨⟩
      exact growing
    · rintro _ ⟨⟩
      exact withinMtu
  · rw [List.length_append] at overrun
    omega

/-- One received PDU keeps the reassembly state. -/
theorem LeReassembly.procPdu {ccb : LeCcb} (inv : LeReassembly ccb) (pdu : List UInt8) :
    LeReassembly (l2cLccProcPdu ccb pdu) := by
  rcases l2cLccProcPdu_cases ccb pdu with
    same | dropped | ⟨-, reset⟩ | ⟨-, withinMtu, fits, started⟩ | ⟨sdu, -, pending, fits, extended⟩
  · rwa [same]
  · rw [dropped]
    exact inv.disconnect
  · rw [reset]
    exact ⟨by simp [LeCcb.disconnect], by simp [LeCcb.disconnect], by simp [LeCcb.disconnect]⟩
  · rw [started]
    exact appendLeSegment_reassembly (by simpa using fits) withinMtu
  · rw [extended]
    exact appendLeSegment_reassembly fits (inv.withinMtu sdu pending)

/-- A received PDU passes up at most one SDU, and one of the length announced
for it. -/
theorem l2cLccProcPdu_delivered (ccb : LeCcb) (pdu : List UInt8) :
    (l2cLccProcPdu ccb pdu).delivered = ccb.delivered ∨
    ∃ sdu, (l2cLccProcPdu ccb pdu).delivered = ccb.delivered ++ [sdu] ∧
      sdu.length = announcedLength ccb pdu := by
  rcases l2cLccProcPdu_cases ccb pdu with
    same | dropped | ⟨-, reset⟩ | ⟨-, -, -, started⟩ | ⟨sdu, notFirst, -, -, extended⟩
  · exact .inl (by rw [same])
  · exact .inl (by rw [dropped]; rfl)
  · exact .inl (by rw [reset]; rfl)
  · rw [started]
    rcases appendLeSegment_cases { ccb with bleSdu := some [], bleSduLength := announcedLength ccb pdu } []
        (pdu.drop l2capLccSduLength) with ⟨complete, done⟩ | ⟨-, more⟩ | ⟨-, overrun⟩
    · exact .inr ⟨_, by rw [done], complete⟩
    · exact .inl (by rw [more])
    · exact .inl (by rw [overrun])
  · rw [extended]
    have announced : announcedLength ccb pdu = ccb.bleSduLength := by simp [announcedLength, notFirst]
    rcases appendLeSegment_cases ccb sdu pdu with ⟨complete, done⟩ | ⟨-, more⟩ | ⟨-, overrun⟩
    · exact .inr ⟨_, by rw [done], by rw [announced, complete]⟩
    · exact .inl (by rw [more])
    · exact .inl (by rw [overrun])

/-- After a received PDU, an SDU still in progress is measured against the
length that the PDU announced, or that the SDU it continues announced. -/
theorem LeReassembly.procPdu_bleSduLength {ccb : LeCcb} (inv : LeReassembly ccb)
    (pdu : List UInt8) {sdu : List UInt8} (pending : (l2cLccProcPdu ccb pdu).bleSdu = some sdu) :
    (l2cLccProcPdu ccb pdu).bleSduLength = announcedLength ccb pdu := by
  -- where the PDU leaves the channel as it was, no SDU was in progress before a first segment
  have unchanged : ccb.bleSdu = some sdu → ccb.bleSduLength = announcedLength ccb pdu := by
    intro before
    have notFirst : ccb.isFirstSeg = false := by
      cases first : ccb.isFirstSeg
      · rfl
      · simp [inv.firstSeg_iff.mp first] at before
    simp [announcedLength, notFirst]
  rcases l2cLccProcPdu_cases ccb pdu with
    same | dropped | ⟨-, reset⟩ | ⟨-, -, -, started⟩ | ⟨sdu', notFirst, -, -, extended⟩
  · rw [same] at pending ⊢
    exact unchanged pending
  · rw [dropped] at pending ⊢
    exact unchanged pending
  · rw [reset] at pending
    simp [LeCcb.disconnect] at pending
  · rw [started] at pending ⊢
    rcases appendLeSegment_cases { ccb with bleSdu := some [], bleSduLength := announcedLength ccb pdu } []
        (pdu.drop l2capLccSduLength) with ⟨-, done⟩ | ⟨-, more⟩ | ⟨-, overrun⟩
    · simp [done] at pending
    · rw [more]
    · rw [overrun]
  · rw [extended] at pending ⊢
    have announced : announcedLength ccb pdu = ccb.bleSduLength := by simp [announcedLength, notFirst]
    rcases appendLeSegment_cases ccb sdu' pdu with ⟨-, done⟩ | ⟨-, more⟩ | ⟨-, overrun⟩
    · simp [done] at pending
    · rw [more, announced]
    · rw [overrun, announced]

/-- A step of the receiver: `l2c_rcv_acl_data` hands one PDU of the channel
to `l2c_lcc_proc_pdu`. -/
def LeRxStep (ccb ccb' : LeCcb) : Prop :=
  ∃ pdu, ccb' = l2cLccProcPdu ccb pdu

/-- After any sequence of received PDUs the reassembly state holds. -/
theorem leRxReachable_reassembly {init ccb : LeCcb} (initial : LeRxInitial init)
    (reachable : Relation.ReflTransGen LeRxStep init ccb) : LeReassembly ccb := by
  induction reachable with
  | refl => exact initial.reassembly
  | tail _ step inv =>
      obtain ⟨pdu, rfl⟩ := step
      exact inv.procPdu pdu

/-- What the receiver guarantees in every state that a sequence of received
PDUs can reach: an SDU in progress stays within its announced length and the
local MTU, and the next PDU passes up at most one SDU, of the announced
length, or leaves an SDU in progress measured against that length. -/
structure LeReceiverSafe (ccb : LeCcb) : Prop where
  within : ∀ sdu, ccb.bleSdu = some sdu →
    sdu.length ≤ ccb.bleSduLength ∧ ccb.bleSduLength ≤ ccb.localConnCfg.mtu
  delivers : ∀ pdu, (l2cLccProcPdu ccb pdu).delivered = ccb.delivered ∨
    ∃ sdu, (l2cLccProcPdu ccb pdu).delivered = ccb.delivered ++ [sdu] ∧
      sdu.length = announcedLength ccb pdu
  measured : ∀ pdu sdu, (l2cLccProcPdu ccb pdu).bleSdu = some sdu →
    (l2cLccProcPdu ccb pdu).bleSduLength = announcedLength ccb pdu

theorem LeReassembly.receiverSafe {ccb : LeCcb} (inv : LeReassembly ccb) : LeReceiverSafe ccb where
  within sdu pending := ⟨(inv.shorter sdu pending).le, inv.withinMtu sdu pending⟩
  delivers := l2cLccProcPdu_delivered ccb
  measured pdu _ pending := inv.procPdu_bleSduLength pdu pending

/-- Successive calls of `l2c_lcc_proc_pdu` on the PDUs received for the
channel. -/
def receivePdus (ccb : LeCcb) (pdus : List (List UInt8)) : LeCcb :=
  pdus.foldl l2cLccProcPdu ccb

@[simp]
theorem receivePdus_nil (ccb : LeCcb) : receivePdus ccb [] = ccb := rfl

@[simp]
theorem receivePdus_cons (ccb : LeCcb) (pdu : List UInt8) (pdus : List (List UInt8)) :
    receivePdus ccb (pdu :: pdus) = receivePdus (l2cLccProcPdu ccb pdu) pdus := rfl

/-- Receiving PDUs one after the other is a run of the receiver. -/
theorem receivePdus_reachable (pdus : List (List UInt8)) :
    ∀ ccb : LeCcb, Relation.ReflTransGen LeRxStep ccb (receivePdus ccb pdus) := by
  induction pdus with
  | nil => exact fun _ => .refl
  | cons pdu pdus later => exact fun ccb => .head ⟨pdu, rfl⟩ (later _)

end L2cap
end BluetoothStack
