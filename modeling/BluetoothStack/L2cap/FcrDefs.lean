import Mathlib.Data.List.Basic
import Mathlib.Data.Nat.Bitwise

namespace BluetoothStack
namespace L2cap

/-!
# Enhanced retransmission mode: constants, control words and channel state

The L2CAP flow-control and retransmission code (`l2c_fcr.cc`) drives one
channel control block (`tL2C_CCB`) through its `fcrb` record (`tL2C_FCRB`).
This file fixes the data the rest of the ERTM development reads: the
constants of `l2cdefs.h`, the fields of a 16-bit control word as the code
extracts them, the buffers that sit in the channel's queues, and the parts of
the channel control block that the modelled functions read or write.

Numbers are natural numbers.  Where the code stores a value in a narrow
field, the operation that writes it masks or reduces it exactly as the C
arithmetic does, so a field never holds a value its C type cannot.  Timers
are not state here: starting or stopping them changes no field that any
modelled function reads.
-/

/-! ## Buffers of the stack -/

/-- `BT_HDR_SIZE`, sizeof(BT_HDR): event, len, offset and layer_specific, two
bytes each. -/
def btHdrSize : Nat := 8

/-- `BT_DEFAULT_BUFFER_SIZE` of bt_target.h. -/
def btDefaultBufferSize : Nat := 4096 + 16

/-! ## Constants of `l2cdefs.h` -/

def l2capPktOverhead : Nat := 4
def l2capFcrOverhead : Nat := 2
def l2capFcsLen : Nat := 2
def l2capSduLenOverhead : Nat := 2
def l2capExtControlOverhead : Nat := 4
def l2capMaxHeaderFcs : Nat :=
  l2capPktOverhead + l2capExtControlOverhead + l2capSduLenOverhead + l2capFcsLen

def l2capFcrSeqModulo : Nat := 0x3F
def l2capFcrSFrameBit : Nat := 0x0001
def l2capFcrTxSeqBits : Nat := 0x007E
def l2capFcrTxSeqBitsShift : Nat := 1
def l2capFcrPBit : Nat := 0x0010
def l2capFcrFBit : Nat := 0x0080
def l2capFcrSupBits : Nat := 0x000C
def l2capFcrSupShift : Nat := 2
def l2capFcrReqSeqBits : Nat := 0x3F00
def l2capFcrReqSeqBitsShift : Nat := 8
def l2capFcrSarBits : Nat := 0xC000
def l2capFcrSegBits : Nat := 0xC000

def l2capFcrUnsegSdu : Nat := 0x0000
def l2capFcrStartSdu : Nat := 0x4000
def l2capFcrEndSdu : Nat := 0x8000
def l2capFcrContSdu : Nat := 0xC000

def l2capFcrSupRr : Nat := 0
def l2capFcrSupRej : Nat := 1
def l2capFcrSupRnr : Nat := 2
def l2capFcrSupSrej : Nat := 3

/-- `L2C_FCR_RETX_ALL_PKTS`: the argument of `retransmit_i_frames` that asks
for every unacknowledged frame. -/
def l2cFcrRetxAllPkts : Nat := 0xFF

/-- `kDefaultErtmOptions.tx_win_sz`: our transmit window, to which
`l2c_fcr_adj_our_rsp_options` lowers any larger window the peer asks for. -/
def defaultErtmTxWinSz : Nat := 10

/-- The transmit window that `l2c_fcr_adj_our_rsp_options` leaves in
`peer_cfg`: the peer's request, lowered to ours when it is larger. -/
def l2cFcrAdjOurRspOptions (peerTxWinSz ourTxWinSz : Nat) : Nat :=
  if peerTxWinSz > ourTxWinSz then ourTxWinSz else peerTxWinSz

/-! ## Fields of a control word

Each is the expression the code writes at every place it reads the field. -/

/-- `(ctrl_word & L2CAP_FCR_TX_SEQ_BITS) >> L2CAP_FCR_TX_SEQ_BITS_SHIFT`. -/
def txSeqOf (ctrlWord : Nat) : Nat :=
  (ctrlWord &&& l2capFcrTxSeqBits) >>> l2capFcrTxSeqBitsShift

/-- `(ctrl_word & L2CAP_FCR_REQ_SEQ_BITS) >> L2CAP_FCR_REQ_SEQ_BITS_SHIFT`. -/
def reqSeqOf (ctrlWord : Nat) : Nat :=
  (ctrlWord &&& l2capFcrReqSeqBits) >>> l2capFcrReqSeqBitsShift

/-- `(ctrl_word & L2CAP_FCR_SUP_BITS) >> L2CAP_FCR_SUP_SHIFT`. -/
def supOf (ctrlWord : Nat) : Nat :=
  (ctrlWord &&& l2capFcrSupBits) >>> l2capFcrSupShift

/-- `ctrl_word & L2CAP_FCR_SEG_BITS`, the SAR bits in place. -/
def sarOf (ctrlWord : Nat) : Nat :=
  ctrlWord &&& l2capFcrSegBits

/-- `ctrl_word & bit` tested against zero, as the code tests its flag bits. -/
def hasBit (ctrlWord bit : Nat) : Bool :=
  ctrlWord &&& bit != 0

/-! ## Buffers -/

/-- A `BT_HDR` holding an SDU in `xmit_hold_q`.  Its memory is a function from
byte positions, so that copying more bytes than `len` reads what the memory
holds past the SDU, as `memcpy` does.  `event` is nonzero once segmentation
of the SDU has started. -/
structure SduBuffer where
  mem : Nat → UInt8
  offset : Nat
  len : Nat
  event : Nat
  layerSpecific : Nat

/-- The `len` bytes of a buffer from its `offset`. -/
def SduBuffer.contents (buffer : SduBuffer) : List UInt8 :=
  (List.range' buffer.offset buffer.len).map buffer.mem

/-- An I-frame after `prepare_I_frame`: its control word, the `layer_specific`
word holding its SAR bits, and its information payload (the SDU length field
of a start frame followed by the SDU bytes it carries). -/
structure IFrame where
  ctrlWord : Nat
  layerSpecific : Nat
  info : List UInt8

/-- A received frame whose control word has been read: what
`srej_rcv_hold_q` holds.  `layerSpecific` is the TxSeq the code stores there. -/
structure HeldFrame where
  ctrlWord : Nat
  layerSpecific : Nat
  info : List UInt8

/-! ## Channel state -/

/-- `tL2C_FCRB`, less its two timers. -/
structure Fcrb where
  nextTxSeq : Nat
  lastRxAck : Nat
  nextSeqExpected : Nat
  lastAckSent : Nat
  numTries : Nat
  maxHeldAcks : Nat
  remoteBusy : Bool
  rejSent : Bool
  srejSent : Bool
  waitAck : Bool
  rejAfterSrej : Bool
  sendFRsp : Bool
  rxSduLen : Nat
  pRxSdu : Option (List UInt8)
  waitingForAckQ : List IFrame
  srejRcvHoldQ : List HeldFrame
  retransQ : List IFrame

/-- The record `l2c_fcr_cleanup` leaves when a channel is released
(`memset` to zero), with the three empty queues that `l2cu_allocate_ccb`
creates when the channel is taken again. -/
def Fcrb.cleared : Fcrb where
  nextTxSeq := 0
  lastRxAck := 0
  nextSeqExpected := 0
  lastAckSent := 0
  numTries := 0
  maxHeldAcks := 0
  remoteBusy := false
  rejSent := false
  srejSent := false
  waitAck := false
  rejAfterSrej := false
  sendFRsp := false
  rxSduLen := 0
  pRxSdu := none
  waitingForAckQ := []
  srejRcvHoldQ := []
  retransQ := []

/-- The fields of `tL2C_CCB` that the ERTM functions read or write, and what
they hand to other layers: the S-frames they send, the SDUs they deliver and
the counts they report to `pL2CA_TxComplete_Cb` (registered when
`hasTxCompleteCb`).  `open_` stands for
`in_use && chnl_state == CST_OPEN`; `l2cu_disconnect_chnl` releases the
channel, which clears it.  `sarFrames` records every frame handed to
`do_sar_reassembly`, its payload and control word, in order; the code keeps
no such record, and nothing the channel does reads it. -/
structure Ccb where
  fcrb : Fcrb
  xmitHoldQ : List SduBuffer
  txMps : Nat
  maxRxMtu : Nat
  peerTxWinSz : Nat
  ourTxWinSz : Nat
  peerMaxTransmit : Nat
  peerModeErtm : Bool
  localCid : Nat
  hasTxCompleteCb : Bool
  open_ : Bool
  sFramesSent : List Nat
  delivered : List (List UInt8)
  txComplete : List Nat
  sarFrames : List (List UInt8 × Nat) := []

/-- `l2cu_disconnect_chnl`: the channel is released and takes no further
part in any exchange. -/
def Ccb.disconnect (ccb : Ccb) : Ccb :=
  { ccb with open_ := false }

/-- `l2c_fcr_is_flow_controlled`: in ERTM the peer has flowed us off, or the
transmit window is full. -/
def l2cFcrIsFlowControlled (ccb : Ccb) : Bool :=
  ccb.peerModeErtm && (ccb.fcrb.remoteBusy || decide (ccb.peerTxWinSz ≤ ccb.fcrb.waitingForAckQ.length))

end L2cap
end BluetoothStack
