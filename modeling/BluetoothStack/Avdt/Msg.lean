import Mathlib.Data.List.Basic
import BluetoothStack.L2cap.FcrDefs

namespace BluetoothStack
namespace Avdt

open L2cap (btHdrSize btDefaultBufferSize)

/-!
# AVDTP signalling packets

avdt_msg_send (stack/avdt/avdt_msg.cc) sends the current message of a
channel control block in packets of at most the peer's signalling MTU: one
SINGLE packet when the message fits, and otherwise a START packet, CONT
packets and an END packet.  The loop stops while the channel is congested and
goes on at the next call.  avdt_msg_asmbl on the peer puts the packets back
together in a buffer of BT_DEFAULT_BUFFER_SIZE bytes.

The code computes with peer_mtu in int; the model computes in Nat, which is
the same for every peer MTU of at least 3 (the smallest signalling MTU L2CAP
allows is 48).
-/

def avdtPktTypeSingle : UInt8 := 0
def avdtPktTypeStart : UInt8 := 1
def avdtPktTypeCont : UInt8 := 2
def avdtPktTypeEnd : UInt8 := 3

def avdtLenTypeSingle : Nat := 2
def avdtLenTypeStart : Nat := 3
def avdtLenTypeCont : Nat := 1
def avdtLenTypeEnd : Nat := 1

/-- avdt_msg_pkt_type_len, indexed by packet type. -/
def avdtMsgPktTypeLen (pktType : UInt8) : Nat :=
  if pktType = avdtPktTypeSingle then avdtLenTypeSingle
  else if pktType = avdtPktTypeStart then avdtLenTypeStart
  else if pktType = avdtPktTypeCont then avdtLenTypeCont
  else avdtLenTypeEnd

/-- AVDT_MSG_BLD_HDR. -/
def msgBldHdr (label pktType msg : UInt8) : UInt8 :=
  (label <<< 4) ||| (pktType <<< 2) ||| msg

/-- AVDT_MSG_PRS_PKT_TYPE. -/
def msgPrsPktType (header : UInt8) : UInt8 :=
  (header >>> 2) &&& 0x03

/-! ## Sending -/

/-- The current message of a CCB as avdt_msg_send_cmd or avdt_msg_send_rsp
queued it: the label and message type that AVDT_LAYERSPEC_LABEL and
AVDT_LAYERSPEC_MSG read from layer_specific, the signal id in event, the
payload, and how much of it is sent (offset - AVDT_MSG_OFFSET: zero while the
message is not being fragmented). -/
structure CurrMsg where
  label : UInt8
  msgType : UInt8
  sig : UInt8
  payload : List UInt8
  sent : Nat
  deriving DecidableEq, Repr

namespace CurrMsg

/-- p_curr_msg->len: the bytes not sent yet. -/
def len (msg : CurrMsg) : Nat :=
  msg.payload.length - msg.sent

/-- The header byte of a packet of the message. -/
def header (msg : CurrMsg) (pktType : UInt8) : UInt8 :=
  msgBldHdr msg.label pktType msg.msgType

end CurrMsg

/-- One pass of the loop of avdt_msg_send: the packet written and what is
left of the message (none once curr_msg_len reaches zero, which is after a
SINGLE or an END packet). -/
def sendPacket (peerMtu : Nat) (msg : CurrMsg) : List UInt8 × Option CurrMsg :=
  let rest := msg.payload.drop msg.sent
  if msg.sent = 0 ∧ msg.len ≤ peerMtu - avdtLenTypeSingle then
    (msg.header avdtPktTypeSingle :: msg.sig :: rest, none)
  else if msg.sent = 0 then
    -- the number of subsequent packets, in the code's closed form
    let nosp := (msg.len + avdtLenTypeStart - peerMtu) / (peerMtu - 1) + 2
    let chunk := peerMtu - avdtLenTypeStart
    (msg.header avdtPktTypeStart :: UInt8.ofNat nosp :: msg.sig :: rest.take chunk,
      some { msg with sent := msg.sent + chunk })
  else if peerMtu - avdtLenTypeCont < msg.len then
    let chunk := peerMtu - avdtLenTypeCont
    (msg.header avdtPktTypeCont :: rest.take chunk, some { msg with sent := msg.sent + chunk })
  else
    (msg.header avdtPktTypeEnd :: rest, none)

/-- avdt_msg_send: packets are written while the channel is not congested
and a message is left; the lower layer reports congestion after budget more
writes. -/
def avdtMsgSend (peerMtu : Nat) : Nat → Option CurrMsg → List (List UInt8) × Option CurrMsg
  | 0, curr => ([], curr)
  | _ + 1, none => ([], none)
  | budget + 1, some msg =>
    let (packet, next) := sendPacket peerMtu msg
    let (packets, last) := avdtMsgSend peerMtu budget next
    (packet :: packets, last)

/-- avdt_msg_send called again and again with no new message, as the CCB
does each time congestion clears: each call writes until its budget of
writes before congestion is spent. -/
def avdtMsgSendCalls (peerMtu : Nat) : List Nat → Option CurrMsg → List (List UInt8) × Option CurrMsg
  | [], curr => ([], curr)
  | budget :: budgets, curr =>
    let (packets, next) := avdtMsgSend peerMtu budget curr
    let (more, last) := avdtMsgSendCalls peerMtu budgets next
    (packets ++ more, last)

/-! ## Reassembly -/

/-- A packet as L2CAP hands it up: its bytes, at an offset in its buffer. -/
structure RxPacket where
  offset : Nat
  bytes : List UInt8
  deriving DecidableEq, Repr

/-- The message being reassembled (p_rx_msg): the offset at which the next
fragment is copied, and the message bytes so far, from the header on. -/
structure RxMsg where
  offset : Nat
  data : List UInt8
  deriving DecidableEq, Repr

/-- avdt_msg_asmbl: the message a packet completes, if any, and the
reassembly left in progress.  A START packet has its header byte copied over
its NOSP byte, so that the message reads header, signal id, payload. -/
def avdtMsgAsmbl (rx : Option RxMsg) (packet : RxPacket) : Option (List UInt8) × Option RxMsg :=
  match packet.bytes with
  | [] => (none, rx)
  | header :: _ =>
    let pktType := msgPrsPktType header
    if packet.bytes.length < avdtMsgPktTypeLen pktType then (none, rx)
    -- a new SINGLE or START drops the reassembly in progress
    else if pktType = avdtPktTypeSingle then (some packet.bytes, none)
    else if pktType = avdtPktTypeStart then
      if btDefaultBufferSize < btHdrSize + packet.offset + packet.bytes.length then (none, none)
      else (none, some ⟨packet.offset + packet.bytes.length, header :: packet.bytes.drop 2⟩)
    else
      match rx with
      | none => (none, none)
      | some rx =>
        let fragment := packet.bytes.drop avdtLenTypeCont
        if btDefaultBufferSize - btHdrSize < rx.offset + fragment.length then (none, none)
        else if pktType = avdtPktTypeEnd then (some (rx.data ++ fragment), none)
        else (none, some ⟨rx.offset + fragment.length, rx.data ++ fragment⟩)

/-- The packets fed to avdt_msg_asmbl in turn: what each call returns, and
the reassembly left at the end. -/
def avdtMsgAsmblAll (rx : Option RxMsg) : List RxPacket → List (Option (List UInt8)) × Option RxMsg
  | [] => ([], rx)
  | packet :: packets =>
    let (out, rx) := avdtMsgAsmbl rx packet
    let (outs, last) := avdtMsgAsmblAll rx packets
    (out :: outs, last)

end Avdt
end BluetoothStack
