import BluetoothStack.L2cap.ErtmWindow

namespace BluetoothStack
namespace L2cap

open ByteStream

/-!
# ERTM segmentation

An SDU longer than the channel's `tx_mps` leaves the sender in pieces:
`l2c_fcr_get_next_xmit_sdu_seg` cuts a start frame, whose payload begins with
the 2-byte SDU length, then continuation frames, and an end frame; an SDU
that fits goes as one unsegmented frame.  The first segment reserves the 2
length bytes by `max_pdu -= L2CAP_SDU_LEN_OVERHEAD` in 16 bits, so for a
`tx_mps` of 1, which the configuration accepts, the reservation wraps around
and the start frame copies 65535 bytes out of the SDU buffer.
-/

section SendNew

variable (ccb : Ccb) (xmit : IFrame)

@[simp]
theorem sendNewIFrame_fst : (sendNewIFrame ccb xmit).1 = some (prepareIFrame ccb xmit false).2 := by
  unfold sendNewIFrame
  split <;> rfl

@[simp]
theorem sendNewIFrame_xmitHoldQ : (sendNewIFrame ccb xmit).2.xmitHoldQ = ccb.xmitHoldQ := by
  unfold sendNewIFrame
  split <;> rfl

@[simp]
theorem prepareIFrame_info (isRetransmission : Bool) :
    (prepareIFrame ccb xmit isRetransmission).2.info = xmit.info := rfl

end SendNew

/-- What the scheduler's call computes for a channel with no retransmission
queued and an SDU at the head of its queue: with no maximum packet length
given, `max_pdu` is `tx_mps`. -/
theorem l2cFcrGetNextXmitSduSeg_queued {ccb : Ccb} {buffer : SduBuffer} {rest : List SduBuffer}
    (noRetransmission : ccb.fcrb.retransQ = []) (queued : ccb.xmitHoldQ = buffer :: rest) :
    l2cFcrGetNextXmitSduSeg ccb 0 =
      if ccb.txMps < buffer.len then
        let firstSeg := buffer.event == 0
        let maxPdu := if firstSeg then (ccb.txMps + 65536 - 2) % 65536 else ccb.txMps
        sendNewIFrame
          { ccb with xmitHoldQ := { buffer with
              event := ccb.localCid
              len := (buffer.len + 65536 - maxPdu) % 65536
              offset := (buffer.offset + maxPdu) % 65536 } :: rest }
          (if firstSeg then
            { ctrlWord := 0, layerSpecific := buffer.layerSpecific ||| l2capFcrStartSdu,
              info := u16le buffer.len ++ l2cFcrCloneBuf buffer maxPdu }
          else
            { ctrlWord := 0, layerSpecific := buffer.layerSpecific ||| l2capFcrContSdu,
              info := l2cFcrCloneBuf buffer maxPdu })
      else
        sendNewIFrame { ccb with xmitHoldQ := rest }
          { ctrlWord := 0,
            layerSpecific := buffer.layerSpecific |||
              (if buffer.event != 0 then l2capFcrEndSdu else l2capFcrUnsegSdu),
            info := buffer.contents } := by
  unfold l2cFcrGetNextXmitSduSeg
  rw [noRetransmission]
  simp only [Nat.not_lt_zero, false_and, if_false, queued]

/-- A `tx_mps` of 1, which `l2c_fcr_process_peer_cfg_req` accepts from the
peer and `l2cu_adjust_out_mps` keeps, and a 2-byte SDU: `max_pdu -= 2` wraps
to 65535, so the start frame copies 65535 bytes out of a 2-byte buffer and
carries a 65537-byte payload, and the SDU left at the head of the queue has
grown to 3 bytes. -/
theorem l2cFcrGetNextXmitSduSeg_mps_one :
    let sdu : SduBuffer := { mem := fun _ => 0, offset := 8, len := 2, event := 0, layerSpecific := 0 }
    let channel : Ccb :=
      { fcrb := Fcrb.cleared, xmitHoldQ := [sdu], txMps := 1, maxRxMtu := 1691, peerTxWinSz := 10,
        ourTxWinSz := 10, peerMaxTransmit := 20, peerModeErtm := true, localCid := 0x40,
        hasTxCompleteCb := false, open_ := true, sFramesSent := [], delivered := [], txComplete := [] }
    (l2cFcrGetNextXmitSduSeg channel 0).1.map (fun frame => frame.info.length) = some 65537 ∧
      (l2cFcrGetNextXmitSduSeg channel 0).2.xmitHoldQ.map SduBuffer.len = [3] := by
  intro sdu channel
  have larger : channel.txMps < sdu.len := by decide
  have first : (sdu.event == 0) = true := rfl
  rw [l2cFcrGetNextXmitSduSeg_queued (rfl : channel.fcrb.retransQ = []) (rfl : channel.xmitHoldQ = [sdu]),
    if_pos larger]
  simp only [first, if_true, sendNewIFrame_fst, sendNewIFrame_xmitHoldQ, Option.map_some,
    prepareIFrame_info, List.length_append, u16le_length, l2cFcrCloneBuf_length, List.map_cons,
    List.map_nil]
  have mps : channel.txMps = 1 := rfl
  have length : sdu.len = 2 := rfl
  rw [mps, length]
  exact ⟨rfl, rfl⟩

end L2cap
end BluetoothStack
