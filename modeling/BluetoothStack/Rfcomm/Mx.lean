import BluetoothStack.Rfcomm.Frames

namespace BluetoothStack
namespace Rfcomm

open ByteStream

/-!
# RFCOMM multiplexer commands

The messages of the multiplexer control channel (DLCI 0) that
rfc_ts_frames.cc builds, rfc_send_pn, rfc_send_fcon, rfc_send_fcoff,
rfc_send_msc, rfc_send_rls, rfc_send_nsc, rfc_send_rpn and rfc_send_test,
and rfc_process_mx_message, which decodes them on the peer: a type byte with
EA and C/R, a length, and the values of the message.  A builder gives the
bytes it writes at p_buf->offset, which rfc_send_buf_uih then frames;
rfc_process_mx_message reads the information field that rfc_parse_data
leaves in p_buf.

rfc_cb.rfc.rx_frame keeps its union as one record per message: each branch
of the parser writes the fields of its own message, and each handler reads
only those.
-/

def rfcommEaMask : UInt8 := 0x01

def rfcommMxPn : UInt8 := 0x80
def rfcommMxPnLen : Nat := 8
def rfcommMxTest : UInt8 := 0x20
def rfcommMxFcon : UInt8 := 0xA0
def rfcommMxFconLen : Nat := 0
def rfcommMxFcoff : UInt8 := 0x60
def rfcommMxFcoffLen : Nat := 0
def rfcommMxMsc : UInt8 := 0xE0
def rfcommMxMscLenNoBreak : Nat := 2
def rfcommMxMscLenWithBreak : Nat := 3
def rfcommMxNsc : UInt8 := 0x10
def rfcommMxNscLen : Nat := 1
def rfcommMxRpn : UInt8 := 0x90
def rfcommMxRpnReqLen : Nat := 1
def rfcommMxRpnLen : Nat := 8
def rfcommMxRls : UInt8 := 0x50
def rfcommMxRlsLen : Nat := 2

def rfcommPnDlciMask : UInt8 := 0x3F
def rfcommPnFramTypeUih : UInt8 := 0x00
def rfcommPnFrameTypeMask : UInt8 := 0x0F
def rfcommPnConvLayerMask : UInt8 := 0xF0
def rfcommPnPriorityMask : UInt8 := 0x3F
def rfcommPnPriority0 : UInt8 := 0
def rfcommPnKMask : UInt8 := 0x07
def rfcommT1Dsec : UInt8 := 0
def rfcommN2 : UInt8 := 0
def rfcommMinMtu : Nat := 23
def rfcommMaxMtu : Nat := 32767

def rfcommMscFc : UInt8 := 0x02
def rfcommMscRtc : UInt8 := 0x04
def rfcommMscRtr : UInt8 := 0x08
def rfcommMscIc : UInt8 := 0x40
def rfcommMscDv : UInt8 := 0x80
def rfcommMscShiftBreak : UInt8 := 4
def rfcommMscBreakMask : UInt8 := 0xF0
def rfcommMscBreakPresentMask : UInt8 := 0x02

def modemSignalDtrdsr : UInt8 := 0x01
def modemSignalRtscts : UInt8 := 0x02
def modemSignalRi : UInt8 := 0x04
def modemSignalDcd : UInt8 := 0x08

def rfcommRpnBitsMask : UInt8 := 0x03
def rfcommRpnBitsShift : UInt8 := 0
def rfcommRpnStopBitsMask : UInt8 := 0x01
def rfcommRpnStopBitsShift : UInt8 := 2
def rfcommRpnParityMask : UInt8 := 0x01
def rfcommRpnParityShift : UInt8 := 3
def rfcommRpnParityTypeMask : UInt8 := 0x03
def rfcommRpnParityTypeShift : UInt8 := 4
def rfcommFcMask : UInt8 := 0x3F
def rfcommRpnPmMask : Nat := 0x3F7F
def rfcommRlsError : UInt8 := 0x01

/-- RFCOMM_I_CR: the C/R bit of the type byte of an MX message. -/
def rfcommICr (isCommand : Bool) : UInt8 :=
  if isCommand then 0x02 else 0x00

/-! ## Building -/

/-- The type byte and the one-byte length every builder writes first. -/
def mxHeader (isCommand : Bool) (type : UInt8) (len : Nat) : List UInt8 :=
  [rfcommEa ||| rfcommICr isCommand ||| type, rfcommEa ||| UInt8.ofNat (len <<< 1)]

/-- The DLCI byte of MSC, RLS and RPN: EA, C/R and the DLCI. -/
def mxDlciByte (dlci : UInt8) : UInt8 :=
  rfcommEa ||| rfcommCrMask ||| (dlci <<< rfcommShiftDlci)

/-- rfc_send_pn; a response repeats the priority of the PN just received,
which is rfc_cb.rfc.rx_frame.u.pn.priority. -/
def rfcSendPn (dlci : UInt8) (isCommand : Bool) (mtu : Nat) (cl k rxPriority : UInt8) : List UInt8 :=
  mxHeader isCommand rfcommMxPn rfcommMxPnLen ++
    [dlci, rfcommPnFramTypeUih ||| cl, if isCommand then rfcommPnPriority0 else rxPriority, rfcommT1Dsec,
      UInt8.ofNat (mtu &&& 0xFF), UInt8.ofNat (mtu >>> 8), rfcommN2, k]

/-- rfc_send_fcon. -/
def rfcSendFcon (isCommand : Bool) : List UInt8 :=
  mxHeader isCommand rfcommMxFcon rfcommMxFconLen

/-- rfc_send_fcoff. -/
def rfcSendFcoff (isCommand : Bool) : List UInt8 :=
  mxHeader isCommand rfcommMxFcoff rfcommMxFcoffLen

/-- The fields of a tPORT_CTRL that rfc_send_msc reads. -/
structure PortCtrl where
  modemSignal : UInt8
  breakSignal : UInt8
  fc : Bool
  deriving DecidableEq, Repr

/-- The signals byte of an MSC: EA, flow control and the four modem signals. -/
def mscSignalsByte (pars : PortCtrl) : UInt8 :=
  rfcommEa ||| (if pars.fc then rfcommMscFc else 0) |||
    (if pars.modemSignal &&& modemSignalDtrdsr ≠ 0 then rfcommMscRtc else 0) |||
    (if pars.modemSignal &&& modemSignalRtscts ≠ 0 then rfcommMscRtr else 0) |||
    (if pars.modemSignal &&& modemSignalRi ≠ 0 then rfcommMscIc else 0) |||
    (if pars.modemSignal &&& modemSignalDcd ≠ 0 then rfcommMscDv else 0)

/-- rfc_send_msc: the break byte goes only with a break. -/
def rfcSendMsc (dlci : UInt8) (isCommand : Bool) (pars : PortCtrl) : List UInt8 :=
  let len := if pars.breakSignal ≠ 0 then rfcommMxMscLenWithBreak else rfcommMxMscLenNoBreak
  mxHeader isCommand rfcommMxMsc len ++ [mxDlciByte dlci, mscSignalsByte pars] ++
    if pars.breakSignal ≠ 0 then
      [rfcommEa ||| rfcommMscBreakPresentMask ||| (pars.breakSignal <<< rfcommMscShiftBreak)]
    else []

/-- rfc_send_rls. -/
def rfcSendRls (dlci : UInt8) (isCommand : Bool) (status : UInt8) : List UInt8 :=
  mxHeader isCommand rfcommMxRls rfcommMxRlsLen ++ [mxDlciByte dlci, rfcommRlsError ||| status]

/-- The fields of a tPORT_STATE that rfc_send_rpn reads. -/
structure PortState where
  baudRate : UInt8
  byteSize : UInt8
  stopBits : UInt8
  parity : UInt8
  parityType : UInt8
  fcType : UInt8
  xonChar : UInt8
  xoffChar : UInt8
  deriving DecidableEq, Repr

/-- The byte of an RPN that packs data bits, stop bits, parity and parity type. -/
def rpnBitsByte (pars : PortState) : UInt8 :=
  (pars.byteSize <<< rfcommRpnBitsShift) ||| (pars.stopBits <<< rfcommRpnStopBitsShift) |||
    (pars.parity <<< rfcommRpnParityShift) ||| (pars.parityType <<< rfcommRpnParityTypeShift)

/-- rfc_send_rpn: the request form without p_pars, and the full form with the
parameter mask, a uint16_t, low byte first. -/
def rfcSendRpn (dlci : UInt8) (isCommand : Bool) (pars : Option PortState) (mask : Nat) : List UInt8 :=
  match pars with
  | none => mxHeader isCommand rfcommMxRpn rfcommMxRpnReqLen ++ [mxDlciByte dlci]
  | some pars =>
    mxHeader isCommand rfcommMxRpn rfcommMxRpnLen ++
      [mxDlciByte dlci, pars.baudRate, rpnBitsByte pars, pars.fcType, pars.xonChar, pars.xoffChar,
        UInt8.ofNat (mask &&& 0xFF), UInt8.ofNat (mask >>> 8)]

/-- rfc_send_test: the data of p_buf, moved into a new buffer (whose memory is
fresh) when fewer than L2CAP_MIN_OFFSET + RFCOMM_MIN_OFFSET + 2 bytes precede
them, and the type and a one-byte length written in front. -/
def rfcSendTest (isCommand : Bool) (fresh mem : Nat → UInt8) (buf : BtHdr) : (Nat → UInt8) × BtHdr :=
  let room := l2capMinOffset + rfcommMinOffset + 2
  let moved := decide (buf.offset < room)
  let mem := if moved then store fresh room (window mem buf.offset buf.len) else mem
  let buf := if moved then { buf with offset := room } else buf
  let offset := buf.offset - 2
  (store mem offset (mxHeader isCommand rfcommMxTest buf.len), { buf with offset := offset, len := buf.len + 2 })

/-! ## Parsing -/

structure MxPn where
  frameType : UInt8
  convLayer : UInt8
  priority : UInt8
  t1 : UInt8
  mtu : Nat
  n2 : UInt8
  k : UInt8
  deriving DecidableEq, Repr

/-- The data of a TEST: where they start and how many there are. -/
structure MxTest where
  data : Nat
  dataLen : Nat
  deriving DecidableEq, Repr

structure MxMsc where
  signals : UInt8
  breakPresent : UInt8
  breakDuration : UInt8
  deriving DecidableEq, Repr

structure MxNsc where
  ea : UInt8
  cr : UInt8
  type : UInt8
  deriving DecidableEq, Repr

structure MxRpn where
  isRequest : Bool
  baudRate : UInt8
  byteSize : UInt8
  stopBits : UInt8
  parity : UInt8
  parityType : UInt8
  fcType : UInt8
  xonChar : UInt8
  xoffChar : UInt8
  paramMask : Nat
  deriving DecidableEq, Repr

structure MxRls where
  lineStatus : UInt8
  deriving DecidableEq, Repr

/-- The fields of rfc_cb.rfc.rx_frame that rfc_process_mx_message writes. -/
structure MxRxFrame where
  ea : UInt8
  cr : UInt8
  type : UInt8
  dlci : UInt8
  pn : MxPn
  test : MxTest
  msc : MxMsc
  nsc : MxNsc
  rpn : MxRpn
  rls : MxRls
  deriving DecidableEq, Repr

/-- What rfc_process_mx_message does with a message: the handler it calls,
with its arguments, or nothing but freeing it, or an NSC response. -/
inductive MxDispatch where
  | dropped
  | sendNsc
  | pn (isCommand : Bool)
  | test (isCommand : Bool) (buf : BtHdr)
  | fcon (isCommand : Bool)
  | fcoff (isCommand : Bool)
  | msc (isCommand : Bool)
  | nsc
  | rpn (isCommand isRequest : Bool)
  | rls (isCommand : Bool)
  deriving DecidableEq, Repr

/-- A break out of the switch: the message is freed and a command is
answered with rfc_send_nsc. -/
def mxBreak (isCommand : Bool) (rx : MxRxFrame) : MxDispatch × MxRxFrame :=
  (if isCommand then .sendNsc else .dropped, rx)

/-- The check of the DLCI byte of MSC, RPN and RLS: EA and C/R set and a
valid data channel. -/
def mxDlciBad (byte : UInt8) : Bool :=
  byte &&& rfcommEa = 0 || (byte &&& rfcommCrMask) >>> rfcommShiftCr = 0 || byte >>> rfcommShiftDlci = 0 ||
    !rfcommValidDlci (byte >>> rfcommShiftDlci)

/-- The RFCOMM_MX_PN case: length values from p. -/
def rfcMxPn (isCommand : Bool) (rx : MxRxFrame) (mem : Nat → UInt8) (p length : Nat) : MxDispatch × MxRxFrame :=
  if length ≠ rfcommMxPnLen then mxBreak isCommand rx
  else
    let rx := { rx with
      dlci := mem p &&& rfcommPnDlciMask
      pn := {
        frameType := mem (p + 1) &&& rfcommPnFrameTypeMask
        convLayer := mem (p + 1) &&& rfcommPnConvLayerMask
        priority := mem (p + 2) &&& rfcommPnPriorityMask
        t1 := mem (p + 3)
        mtu := (mem (p + 4)).toNat + ((mem (p + 5)).toNat <<< 8)
        n2 := mem (p + 6)
        k := mem (p + 7) &&& rfcommPnKMask } }
    if rx.dlci = 0 ∨ rfcommValidDlci rx.dlci = false ∨ rx.pn.mtu < rfcommMinMtu ∨ rfcommMaxMtu < rx.pn.mtu then
      mxBreak isCommand rx
    else (.pn isCommand, rx)

/-- The RFCOMM_MX_TEST case: p_buf is moved past a type byte and a one-byte
length, whatever the length field was. -/
def rfcMxTest (isCommand : Bool) (rx : MxRxFrame) (p length : Nat) (buf : BtHdr) : MxDispatch × MxRxFrame :=
  if length = 0 then mxBreak isCommand rx
  else (.test isCommand { buf with offset := buf.offset + 2, len := buf.len - 2 }, { rx with test := ⟨p, length⟩ })

/-- The RFCOMM_MX_MSC case: a bad length is dropped without an NSC. -/
def rfcMxMsc (isCommand : Bool) (mxLen : Nat) (rx : MxRxFrame) (mem : Nat → UInt8) (p length : Nat) :
    MxDispatch × MxRxFrame :=
  if length ≠ rfcommMxMscLenWithBreak ∧ length ≠ rfcommMxMscLenNoBreak then (.dropped, rx)
  else
    let rx := { rx with dlci := mem p >>> rfcommShiftDlci }
    if mxDlciBad (mem p) then mxBreak isCommand rx
    else
      let msc : MxMsc :=
        if mxLen = rfcommMxMscLenWithBreak then
          ⟨mem (p + 1), mem (p + 2) &&& rfcommMscBreakPresentMask,
            (mem (p + 2) &&& rfcommMscBreakMask) >>> rfcommMscShiftBreak⟩
        else ⟨mem (p + 1), 0, 0⟩
      (.msc isCommand, { rx with msc := msc })

/-- The RFCOMM_MX_NSC case: taken only as a command. -/
def rfcMxNsc (isCommand : Bool) (rx : MxRxFrame) (mem : Nat → UInt8) (p length : Nat) : MxDispatch × MxRxFrame :=
  if length ≠ rfcommMxNscLen ∨ isCommand = false then mxBreak isCommand rx
  else (.nsc, { rx with nsc := ⟨mem p &&& rfcommEa, (mem p &&& rfcommCrMask) >>> rfcommShiftCr, mem p >>> rfcommShiftDlci⟩ })

/-- The RFCOMM_MX_RPN case: the request form keeps the other RPN fields. -/
def rfcMxRpn (isCommand : Bool) (rx : MxRxFrame) (mem : Nat → UInt8) (p length : Nat) : MxDispatch × MxRxFrame :=
  if length ≠ rfcommMxRpnReqLen ∧ length ≠ rfcommMxRpnLen then mxBreak isCommand rx
  else
    let rx := { rx with dlci := mem p >>> rfcommShiftDlci }
    if mxDlciBad (mem p) then mxBreak isCommand rx
    else
      let isRequest := decide (length = rfcommMxRpnReqLen)
      let rpn : MxRpn :=
        if isRequest then { rx.rpn with isRequest := true }
        else
          ⟨false, mem (p + 1), (mem (p + 2) >>> rfcommRpnBitsShift) &&& rfcommRpnBitsMask,
            (mem (p + 2) >>> rfcommRpnStopBitsShift) &&& rfcommRpnStopBitsMask,
            (mem (p + 2) >>> rfcommRpnParityShift) &&& rfcommRpnParityMask,
            (mem (p + 2) >>> rfcommRpnParityTypeShift) &&& rfcommRpnParityTypeMask,
            mem (p + 3) &&& rfcommFcMask, mem (p + 4), mem (p + 5),
            ((mem (p + 6)).toNat + ((mem (p + 7)).toNat <<< 8)) &&& rfcommRpnPmMask⟩
      (.rpn isCommand isRequest, { rx with rpn := rpn })

/-- The RFCOMM_MX_RLS case: the line status is stored before the DLCI check. -/
def rfcMxRls (isCommand : Bool) (rx : MxRxFrame) (mem : Nat → UInt8) (p length : Nat) : MxDispatch × MxRxFrame :=
  if length ≠ rfcommMxRlsLen then mxBreak isCommand rx
  else
    let rx := { rx with dlci := mem p >>> rfcommShiftDlci, rls := ⟨mem (p + 1) &&& ~~~0x01⟩ }
    if mxDlciBad (mem p) then mxBreak isCommand rx else (.rls isCommand, rx)

/-- The switch of rfc_process_mx_message on the message type; length bytes of
values start at p. -/
def rfcMxSwitch (isCommand : Bool) (mxLen : Nat) (rx : MxRxFrame) (mem : Nat → UInt8) (p length : Nat)
    (buf : BtHdr) : MxDispatch × MxRxFrame :=
  if rx.type = rfcommMxPn then rfcMxPn isCommand rx mem p length
  else if rx.type = rfcommMxTest then rfcMxTest isCommand rx p length buf
  else if rx.type = rfcommMxFcon then
    if length ≠ rfcommMxFconLen then mxBreak isCommand rx else (.fcon isCommand, rx)
  else if rx.type = rfcommMxFcoff then
    if length ≠ rfcommMxFcoffLen then mxBreak isCommand rx else (.fcoff isCommand, rx)
  else if rx.type = rfcommMxMsc then rfcMxMsc isCommand mxLen rx mem p length
  else if rx.type = rfcommMxNsc then rfcMxNsc isCommand rx mem p length
  else if rx.type = rfcommMxRpn then rfcMxRpn isCommand rx mem p length
  else if rx.type = rfcommMxRls then rfcMxRls isCommand rx mem p length
  else mxBreak isCommand rx

/-- rfc_process_mx_message on the information field p_buf holds.  mx_len is a
uint8_t, so a second length byte adds to it modulo 256. -/
def rfcProcessMxMessage (rx : MxRxFrame) (mem : Nat → UInt8) (buf : BtHdr) : MxDispatch × MxRxFrame :=
  let p := buf.offset
  if buf.len < 2 then (.dropped, rx)
  else
    let rx := { rx with
      ea := mem p &&& rfcommEa
      cr := (mem p &&& rfcommCrMask) >>> rfcommShiftCr
      type := mem p &&& ~~~(rfcommCrMask ||| rfcommEaMask) }
    if rx.ea = 0 ∨ buf.len = 0 then (.dropped, rx)
    else
      let isCommand := decide (rx.cr ≠ 0)
      let ea := mem (p + 1) &&& rfcommEa
      let mxLen := mem (p + 1) >>> rfcommShiftLength1
      let length := buf.len - 2
      if ea = 0 ∧ length < 1 then (.dropped, rx)
      else
        let mxLen := if ea = 0 then mxLen + (mem (p + 2) <<< rfcommShiftLength2.toUInt8) else mxLen
        let length := if ea = 0 then length - 1 else length
        let p := if ea = 0 then p + 3 else p + 2
        if mxLen.toNat ≠ length then (.dropped, rx)
        else rfcMxSwitch isCommand mxLen.toNat rx mem p length buf

/-! ## The bytes read back -/

theorem mxTypeByte_fin : ∀ type : Fin 256, ∀ isCommand : Bool,
    UInt8.ofNat type.val &&& (rfcommCrMask ||| rfcommEaMask) = 0 →
    (rfcommEa ||| rfcommICr isCommand ||| UInt8.ofNat type.val) &&& rfcommEa = rfcommEa ∧
      ((rfcommEa ||| rfcommICr isCommand ||| UInt8.ofNat type.val) &&& rfcommCrMask) >>> rfcommShiftCr =
        (if isCommand then 1 else 0) ∧
      (rfcommEa ||| rfcommICr isCommand ||| UInt8.ofNat type.val) &&& ~~~(rfcommCrMask ||| rfcommEaMask) =
        UInt8.ofNat type.val := by
  decide +kernel

/-- EA, the C/R bit and the type read back from the type byte, for every type
whose EA and C/R bits are clear. -/
theorem mxTypeByte_fields (isCommand : Bool) {type : UInt8} (clear : type &&& (rfcommCrMask ||| rfcommEaMask) = 0) :
    (rfcommEa ||| rfcommICr isCommand ||| type) &&& rfcommEa = rfcommEa ∧
      ((rfcommEa ||| rfcommICr isCommand ||| type) &&& rfcommCrMask) >>> rfcommShiftCr = (if isCommand then 1 else 0) ∧
      (rfcommEa ||| rfcommICr isCommand ||| type) &&& ~~~(rfcommCrMask ||| rfcommEaMask) = type := by
  have decoded := mxTypeByte_fin ⟨type.toNat, type.toNat_lt⟩ isCommand (by simpa using clear)
  simpa using decoded

theorem decide_cr_ne_zero (isCommand : Bool) : decide ((if isCommand then (1 : UInt8) else 0) ≠ 0) = isCommand := by
  cases isCommand <;> decide

theorem mxDlciByte_fin : ∀ dlci : Fin 64,
    mxDlciByte (UInt8.ofNat dlci.val) &&& rfcommEa = rfcommEa ∧
      (mxDlciByte (UInt8.ofNat dlci.val) &&& rfcommCrMask) >>> rfcommShiftCr = 1 ∧
      mxDlciByte (UInt8.ofNat dlci.val) >>> rfcommShiftDlci = UInt8.ofNat dlci.val := by
  decide

theorem mxDlciByte_dlci {dlci : UInt8} (small : dlci < 64) : mxDlciByte dlci >>> rfcommShiftDlci = dlci := by
  have decoded := mxDlciByte_fin ⟨dlci.toNat, UInt8.lt_iff_toNat_lt.mp small⟩
  simpa using decoded.2.2

/-- The DLCI byte the builders write passes the check of MSC, RPN and RLS for
every data channel. -/
theorem mxDlciBad_mxDlciByte {dlci : UInt8} (valid : rfcommValidDlci dlci = true) (data : dlci ≠ 0) :
    mxDlciBad (mxDlciByte dlci) = false := by
  have decoded := mxDlciByte_fin ⟨dlci.toNat, UInt8.lt_iff_toNat_lt.mp (rfcommValidDlci_lt valid)⟩
  simp only [UInt8.ofNat_toNat] at decoded
  rcases decoded with ⟨ea, cr, dlciBits⟩
  simp [mxDlciBad, ea, cr, dlciBits, valid, data, show rfcommEa ≠ 0 by decide]

/-- A uint16_t written low byte first reads back. -/
theorem u16Bytes_toNat {value : Nat} (fits : value < 65536) :
    (UInt8.ofNat (value &&& 0xFF)).toNat + ((UInt8.ofNat (value >>> 8)).toNat <<< 8) = value := by
  have low : value &&& 0xFF = value % 256 := Nat.and_two_pow_sub_one_eq_mod value 8
  rw [low, UInt8.toNat_ofNat', UInt8.toNat_ofNat', Nat.shiftRight_eq_div_pow, Nat.shiftLeft_eq]
  omega

theorem mscBreakByte_fin : ∀ duration : Fin 16,
    (rfcommEa ||| rfcommMscBreakPresentMask ||| (UInt8.ofNat duration.val <<< rfcommMscShiftBreak)) &&&
        rfcommMscBreakPresentMask = rfcommMscBreakPresentMask ∧
      ((rfcommEa ||| rfcommMscBreakPresentMask ||| (UInt8.ofNat duration.val <<< rfcommMscShiftBreak)) &&&
        rfcommMscBreakMask) >>> rfcommMscShiftBreak = UInt8.ofNat duration.val := by
  decide

theorem rlsStatus_fin : ∀ status : Fin 256,
    (rfcommRlsError ||| UInt8.ofNat status.val) &&& ~~~0x01 = UInt8.ofNat status.val &&& ~~~0x01 := by
  decide +kernel

theorem rpnBitsByte_fin : ∀ byteSize : Fin 4, ∀ stopBits parity : Fin 2, ∀ parityType : Fin 4,
    let byte := rpnBitsByte ⟨0, UInt8.ofNat byteSize.val, UInt8.ofNat stopBits.val, UInt8.ofNat parity.val,
      UInt8.ofNat parityType.val, 0, 0, 0⟩
    (byte >>> rfcommRpnBitsShift) &&& rfcommRpnBitsMask = UInt8.ofNat byteSize.val ∧
      (byte >>> rfcommRpnStopBitsShift) &&& rfcommRpnStopBitsMask = UInt8.ofNat stopBits.val ∧
      (byte >>> rfcommRpnParityShift) &&& rfcommRpnParityMask = UInt8.ofNat parity.val ∧
      (byte >>> rfcommRpnParityTypeShift) &&& rfcommRpnParityTypeMask = UInt8.ofNat parityType.val := by
  decide

theorem mscBreakByte_fields {duration : UInt8} (short : duration < 16) :
    (rfcommEa ||| rfcommMscBreakPresentMask ||| (duration <<< rfcommMscShiftBreak)) &&& rfcommMscBreakPresentMask =
        rfcommMscBreakPresentMask ∧
      ((rfcommEa ||| rfcommMscBreakPresentMask ||| (duration <<< rfcommMscShiftBreak)) &&& rfcommMscBreakMask) >>>
        rfcommMscShiftBreak = duration := by
  have decoded := mscBreakByte_fin ⟨duration.toNat, UInt8.lt_iff_toNat_lt.mp short⟩
  simpa using decoded

theorem rlsStatus_lineStatus (status : UInt8) : (rfcommRlsError ||| status) &&& ~~~0x01 = status &&& ~~~0x01 := by
  have decoded := rlsStatus_fin ⟨status.toNat, status.toNat_lt⟩
  simpa using decoded

/-- The port settings that fit the bits RPN gives them. -/
def PortState.InRange (pars : PortState) : Prop :=
  pars.byteSize < 4 ∧ pars.stopBits < 2 ∧ pars.parity < 2 ∧ pars.parityType < 4

theorem rpnBitsByte_fields {pars : PortState} (inRange : pars.InRange) :
    (rpnBitsByte pars >>> rfcommRpnBitsShift) &&& rfcommRpnBitsMask = pars.byteSize ∧
      (rpnBitsByte pars >>> rfcommRpnStopBitsShift) &&& rfcommRpnStopBitsMask = pars.stopBits ∧
      (rpnBitsByte pars >>> rfcommRpnParityShift) &&& rfcommRpnParityMask = pars.parity ∧
      (rpnBitsByte pars >>> rfcommRpnParityTypeShift) &&& rfcommRpnParityTypeMask = pars.parityType := by
  rcases inRange with ⟨byteSize, stopBits, parity, parityType⟩
  have decoded := rpnBitsByte_fin ⟨_, UInt8.lt_iff_toNat_lt.mp byteSize⟩ ⟨_, UInt8.lt_iff_toNat_lt.mp stopBits⟩
    ⟨_, UInt8.lt_iff_toNat_lt.mp parity⟩ ⟨_, UInt8.lt_iff_toNat_lt.mp parityType⟩
  simpa [rpnBitsByte] using decoded

/-! ## The header -/

section Header

variable {rx : MxRxFrame} {mem : Nat → UInt8} {buf : BtHdr}

/-- The one-byte length field of the builders: EA set, and the length modulo
128, since len << 1 is cut to a uint8_t. -/
theorem mxLengthByte_fields (len : Nat) :
    (rfcommEa ||| UInt8.ofNat (len <<< 1)) &&& rfcommEa = rfcommEa ∧
      ((rfcommEa ||| UInt8.ofNat (len <<< 1)) >>> rfcommShiftLength1).toNat = len % 128 := by
  have wrapped : UInt8.ofNat (len <<< 1) = UInt8.ofNat ((len % 128) <<< 1) := by
    apply UInt8.toNat_inj.mp
    simp only [UInt8.toNat_ofNat', Nat.shiftLeft_eq]
    omega
  rw [wrapped]
  exact shortLength_fin ⟨len % 128, Nat.mod_lt _ (by decide)⟩

/-- A message whose header holds the body's length: the length field read
back, and the body two bytes in. -/
theorem mxBody_placed {isCommand : Bool} {type : UInt8} {len : Nat} {body : List UInt8} (sized : body.length = len)
    (placed : window mem buf.offset buf.len = mxHeader isCommand type len ++ body) :
    buf.len = 2 + len ∧ window mem buf.offset 2 = mxHeader isCommand type len ∧
      window mem (buf.offset + 2) len = body := by
  subst sized
  have total : buf.len = 2 + body.length := by
    have lengths := congrArg List.length placed
    simp only [window_length, List.length_append, mxHeader, List.length_cons, List.length_nil] at lengths
    omega
  rw [total] at placed
  rcases window_eq_append (show (mxHeader isCommand type body.length).length = 2 from rfl) placed with
    ⟨header, rest⟩
  exact ⟨total, header, rest⟩

/-- rfc_process_mx_message on a message with the header the builders write:
EA, C/R and the type read back, and the switch reached exactly when the
length fits the seven bits of the length byte; otherwise the length read
differs from the one of the buffer and the message is dropped. -/
theorem rfcProcessMxMessage_oneByteLength {isCommand : Bool} {type : UInt8} {len : Nat} {body : List UInt8}
    (clear : type &&& (rfcommCrMask ||| rfcommEaMask) = 0) (sized : body.length = len)
    (placed : window mem buf.offset buf.len = mxHeader isCommand type len ++ body) :
    rfcProcessMxMessage rx mem buf =
      if len % 128 = len then
        rfcMxSwitch isCommand len { rx with ea := rfcommEa, cr := if isCommand then 1 else 0, type := type }
          mem (buf.offset + 2) len buf
      else (.dropped, { rx with ea := rfcommEa, cr := if isCommand then 1 else 0, type := type }) := by
  rcases mxBody_placed sized placed with ⟨total, header, -⟩
  rcases window_eq_cons header with ⟨typeByte, rest⟩
  rcases window_eq_cons rest with ⟨lengthByte, -⟩
  rcases mxTypeByte_fields isCommand clear with ⟨ea, cr, typeBits⟩
  rcases mxLengthByte_fields len with ⟨eal, value⟩
  have eaSet : ¬rfcommEa = 0 := by decide
  have nonempty : ¬buf.len = 0 := by omega
  unfold rfcProcessMxMessage
  dsimp only
  rw [if_neg (by omega), typeByte, lengthByte, ea, cr, typeBits, eal]
  simp only [eaSet, nonempty, or_self, false_and, if_false, value, decide_cr_ne_zero]
  rw [total, Nat.add_sub_cancel_left]
  by_cases fits : len % 128 = len
  · rw [if_neg (not_not.mpr fits), if_pos fits, fits]
  · rw [if_pos fits, if_neg fits]

/-- A message of at most 127 bytes of values goes on to the switch. -/
theorem rfcProcessMxMessage_header {isCommand : Bool} {type : UInt8} {len : Nat} {body : List UInt8}
    (clear : type &&& (rfcommCrMask ||| rfcommEaMask) = 0) (sized : body.length = len) (short : len ≤ 127)
    (placed : window mem buf.offset buf.len = mxHeader isCommand type len ++ body) :
    rfcProcessMxMessage rx mem buf =
      rfcMxSwitch isCommand len { rx with ea := rfcommEa, cr := if isCommand then 1 else 0, type := type }
        mem (buf.offset + 2) len buf := by
  rw [rfcProcessMxMessage_oneByteLength clear sized placed, if_pos (Nat.mod_eq_of_lt (by omega))]

end Header

/-! ## The switch -/

section Switch

variable {isCommand : Bool} {mxLen : Nat} {rx : MxRxFrame} {mem : Nat → UInt8} {p length : Nat} {buf : BtHdr}

theorem rfcMxSwitch_pn (typed : rx.type = rfcommMxPn) :
    rfcMxSwitch isCommand mxLen rx mem p length buf = rfcMxPn isCommand rx mem p length := by
  rw [rfcMxSwitch, if_pos typed]

theorem rfcMxSwitch_test (typed : rx.type = rfcommMxTest) :
    rfcMxSwitch isCommand mxLen rx mem p length buf = rfcMxTest isCommand rx p length buf := by
  simp [rfcMxSwitch, typed, rfcommMxTest, rfcommMxPn]

theorem rfcMxSwitch_msc (typed : rx.type = rfcommMxMsc) :
    rfcMxSwitch isCommand mxLen rx mem p length buf = rfcMxMsc isCommand mxLen rx mem p length := by
  simp [rfcMxSwitch, typed, rfcommMxMsc, rfcommMxPn, rfcommMxTest, rfcommMxFcon, rfcommMxFcoff]

theorem rfcMxSwitch_rpn (typed : rx.type = rfcommMxRpn) :
    rfcMxSwitch isCommand mxLen rx mem p length buf = rfcMxRpn isCommand rx mem p length := by
  simp [rfcMxSwitch, typed, rfcommMxRpn, rfcommMxPn, rfcommMxTest, rfcommMxFcon, rfcommMxFcoff, rfcommMxMsc,
    rfcommMxNsc]

theorem rfcMxSwitch_rls (typed : rx.type = rfcommMxRls) :
    rfcMxSwitch isCommand mxLen rx mem p length buf = rfcMxRls isCommand rx mem p length := by
  simp [rfcMxSwitch, typed, rfcommMxRls, rfcommMxPn, rfcommMxTest, rfcommMxFcon, rfcommMxFcoff, rfcommMxMsc,
    rfcommMxNsc, rfcommMxRpn]

theorem dlciMask_fin : ∀ dlci : Fin 64, UInt8.ofNat dlci.val &&& rfcommPnDlciMask = UInt8.ofNat dlci.val := by
  decide

/-- A PN on a data channel with an MTU in range goes to rfc_process_pn with its
fields under their masks. -/
theorem rfcMxPn_accepted {dlci frameByte priority t1 low high n2 k : UInt8}
    (placed : window mem p rfcommMxPnLen = [dlci, frameByte, priority, t1, low, high, n2, k])
    (valid : rfcommValidDlci dlci = true) (data : dlci ≠ 0)
    (inRange : rfcommMinMtu ≤ low.toNat + (high.toNat <<< 8) ∧ low.toNat + (high.toNat <<< 8) ≤ rfcommMaxMtu) :
    rfcMxPn isCommand rx mem p rfcommMxPnLen =
      (.pn isCommand,
        { rx with
          dlci := dlci
          pn := ⟨frameByte &&& rfcommPnFrameTypeMask, frameByte &&& rfcommPnConvLayerMask,
            priority &&& rfcommPnPriorityMask, t1, low.toNat + (high.toNat <<< 8), n2, k &&& rfcommPnKMask⟩ }) := by
  have masked : dlci &&& rfcommPnDlciMask = dlci := by
    have bits := dlciMask_fin ⟨dlci.toNat, UInt8.lt_iff_toNat_lt.mp (rfcommValidDlci_lt valid)⟩
    simpa using bits
  rcases window_eq_cons placed with ⟨first, -⟩
  unfold rfcMxPn
  simp (disch := decide) only [mem_of_window placed, first, List.getD_cons_succ, List.getD_cons_zero, masked,
    ne_eq, not_true_eq_false, if_false]
  rw [if_neg]
  simp only [data, valid, Bool.true_eq_false, false_or, not_or, not_lt]
  omega

/-- The two bytes of an MSC without a break go to rfc_process_msc. -/
theorem rfcMxMsc_noBreak {dlci signals : UInt8}
    (placed : window mem p rfcommMxMscLenNoBreak = [mxDlciByte dlci, signals])
    (valid : rfcommValidDlci dlci = true) (data : dlci ≠ 0) :
    rfcMxMsc isCommand rfcommMxMscLenNoBreak rx mem p rfcommMxMscLenNoBreak =
      (.msc isCommand, { rx with dlci := dlci, msc := ⟨signals, 0, 0⟩ }) := by
  rcases window_eq_cons placed with ⟨first, -⟩
  unfold rfcMxMsc
  simp (disch := decide) only [mem_of_window placed, first, List.getD_cons_succ, List.getD_cons_zero,
    mxDlciBad_mxDlciByte valid data, mxDlciByte_dlci (rfcommValidDlci_lt valid), ne_eq, not_true_eq_false,
    and_false, Bool.false_eq_true, if_false, show rfcommMxMscLenNoBreak ≠ rfcommMxMscLenWithBreak by decide]

/-- The three bytes of an MSC with a break go to rfc_process_msc. -/
theorem rfcMxMsc_withBreak {dlci signals breakByte : UInt8}
    (placed : window mem p rfcommMxMscLenWithBreak = [mxDlciByte dlci, signals, breakByte])
    (valid : rfcommValidDlci dlci = true) (data : dlci ≠ 0) :
    rfcMxMsc isCommand rfcommMxMscLenWithBreak rx mem p rfcommMxMscLenWithBreak =
      (.msc isCommand,
        { rx with
          dlci := dlci
          msc := ⟨signals, breakByte &&& rfcommMscBreakPresentMask,
            (breakByte &&& rfcommMscBreakMask) >>> rfcommMscShiftBreak⟩ }) := by
  rcases window_eq_cons placed with ⟨first, -⟩
  unfold rfcMxMsc
  simp (disch := decide) only [mem_of_window placed, first, List.getD_cons_succ, List.getD_cons_zero,
    mxDlciBad_mxDlciByte valid data, mxDlciByte_dlci (rfcommValidDlci_lt valid), ne_eq, not_true_eq_false,
    false_and, Bool.false_eq_true, if_false, if_true]

/-- The two bytes of an RLS go to rfc_process_rls, the line status without
its low bit. -/
theorem rfcMxRls_accepted {dlci status : UInt8} (placed : window mem p rfcommMxRlsLen = [mxDlciByte dlci, status])
    (valid : rfcommValidDlci dlci = true) (data : dlci ≠ 0) :
    rfcMxRls isCommand rx mem p rfcommMxRlsLen =
      (.rls isCommand, { rx with dlci := dlci, rls := ⟨status &&& ~~~0x01⟩ }) := by
  rcases window_eq_cons placed with ⟨first, -⟩
  unfold rfcMxRls
  simp (disch := decide) only [mem_of_window placed, first, List.getD_cons_succ, List.getD_cons_zero,
    mxDlciBad_mxDlciByte valid data, mxDlciByte_dlci (rfcommValidDlci_lt valid), ne_eq, not_true_eq_false,
    Bool.false_eq_true, if_false]

/-- An RPN request goes to rfc_process_rpn and keeps the other RPN fields. -/
theorem rfcMxRpn_request {dlci : UInt8} (placed : window mem p rfcommMxRpnReqLen = [mxDlciByte dlci])
    (valid : rfcommValidDlci dlci = true) (data : dlci ≠ 0) :
    rfcMxRpn isCommand rx mem p rfcommMxRpnReqLen =
      (.rpn isCommand true, { rx with dlci := dlci, rpn := { rx.rpn with isRequest := true } }) := by
  rcases window_eq_cons placed with ⟨first, -⟩
  unfold rfcMxRpn
  simp only [first, mxDlciBad_mxDlciByte valid data, mxDlciByte_dlci (rfcommValidDlci_lt valid), ne_eq,
    not_true_eq_false, false_and, Bool.false_eq_true, if_false, decide_true, if_true]

/-- The eight bytes of a full RPN go to rfc_process_rpn, each field under its
mask. -/
theorem rfcMxRpn_full {dlci baud bits fcType xon xoff low high : UInt8}
    (placed : window mem p rfcommMxRpnLen = [mxDlciByte dlci, baud, bits, fcType, xon, xoff, low, high])
    (valid : rfcommValidDlci dlci = true) (data : dlci ≠ 0) :
    rfcMxRpn isCommand rx mem p rfcommMxRpnLen =
      (.rpn isCommand false,
        { rx with
          dlci := dlci
          rpn := ⟨false, baud, (bits >>> rfcommRpnBitsShift) &&& rfcommRpnBitsMask,
            (bits >>> rfcommRpnStopBitsShift) &&& rfcommRpnStopBitsMask,
            (bits >>> rfcommRpnParityShift) &&& rfcommRpnParityMask,
            (bits >>> rfcommRpnParityTypeShift) &&& rfcommRpnParityTypeMask, fcType &&& rfcommFcMask, xon, xoff,
            (low.toNat + (high.toNat <<< 8)) &&& rfcommRpnPmMask⟩ }) := by
  rcases window_eq_cons placed with ⟨first, -⟩
  unfold rfcMxRpn
  simp (disch := decide) only [mem_of_window placed, first, List.getD_cons_succ, List.getD_cons_zero,
    mxDlciBad_mxDlciByte valid data, mxDlciByte_dlci (rfcommValidDlci_lt valid), ne_eq, not_true_eq_false,
    and_false, Bool.false_eq_true, if_false, show rfcommMxRpnLen ≠ rfcommMxRpnReqLen by decide, decide_false]

end Switch

/-! ## Each builder's message read back -/

section RoundTrips

variable {rx : MxRxFrame} {mem : Nat → UInt8} {buf : BtHdr}

/-- A PN that rfc_send_pn writes for a data channel, with an MTU in range,
reaches rfc_process_pn with the DLCI, the MTU and the other fields under
their masks. -/
theorem rfcProcessMxMessage_rfcSendPn {dlci cl k rxPriority : UInt8} {isCommand : Bool} {mtu : Nat}
    (valid : rfcommValidDlci dlci = true) (data : dlci ≠ 0) (inRange : rfcommMinMtu ≤ mtu ∧ mtu ≤ rfcommMaxMtu)
    (placed : window mem buf.offset buf.len = rfcSendPn dlci isCommand mtu cl k rxPriority) :
    rfcProcessMxMessage rx mem buf =
      (.pn isCommand,
        { rx with
          ea := rfcommEa
          cr := if isCommand then 1 else 0
          type := rfcommMxPn
          dlci := dlci
          pn := ⟨cl &&& rfcommPnFrameTypeMask, cl &&& rfcommPnConvLayerMask,
            (if isCommand then rfcommPnPriority0 else rxPriority) &&& rfcommPnPriorityMask, rfcommT1Dsec, mtu,
            rfcommN2, k &&& rfcommPnKMask⟩ }) := by
  have mtuBytes := u16Bytes_toNat (show mtu < 65536 by unfold rfcommMaxMtu at inRange; omega)
  rcases mxBody_placed (by rfl) placed with ⟨-, -, body⟩
  rw [rfcProcessMxMessage_header (by decide) (by rfl) (by decide) placed, rfcMxSwitch_pn rfl,
    rfcMxPn_accepted body valid data (by rw [mtuBytes]; exact inRange), mtuBytes]
  simp [rfcommPnFramTypeUih]

theorem rfcProcessMxMessage_rfcSendPn_dlci2 :
    let idle : MxRxFrame := ⟨0, 0, 0, 0, ⟨0, 0, 0, 0, 0, 0, 0⟩, ⟨0, 0⟩, ⟨0, 0, 0⟩, ⟨0, 0, 0⟩,
      ⟨false, 0, 0, 0, 0, 0, 0, 0, 0, 0⟩, ⟨0⟩⟩
    let frame := rfcSendPn 2 true 127 0xF0 7 0
    rfcProcessMxMessage idle (fun i => frame.getD i 0) ⟨0, frame.length, 0⟩ =
      (.pn true,
        { idle with
          ea := rfcommEa
          cr := 1
          type := rfcommMxPn
          dlci := 2
          pn := ⟨0xF0 &&& rfcommPnFrameTypeMask, 0xF0 &&& rfcommPnConvLayerMask,
            rfcommPnPriority0 &&& rfcommPnPriorityMask, rfcommT1Dsec, 127, rfcommN2, 7 &&& rfcommPnKMask⟩ }) := by
  intro idle frame
  have placed : window (fun i => frame.getD i 0) 0 frame.length = rfcSendPn 2 true 127 0xF0 7 0 := by decide
  exact rfcProcessMxMessage_rfcSendPn (by decide) (by decide) (by decide) placed

/-- An MSC that rfc_send_msc writes for a data channel, with a break of at
most 15, reaches rfc_process_msc with the DLCI, the signals byte and the
break. -/
theorem rfcProcessMxMessage_rfcSendMsc {dlci : UInt8} {isCommand : Bool} {pars : PortCtrl}
    (valid : rfcommValidDlci dlci = true) (data : dlci ≠ 0) (short : pars.breakSignal < 16)
    (placed : window mem buf.offset buf.len = rfcSendMsc dlci isCommand pars) :
    rfcProcessMxMessage rx mem buf =
      (.msc isCommand,
        { rx with
          ea := rfcommEa
          cr := if isCommand then 1 else 0
          type := rfcommMxMsc
          dlci := dlci
          msc := ⟨mscSignalsByte pars, if pars.breakSignal ≠ 0 then rfcommMscBreakPresentMask else 0,
            pars.breakSignal⟩ }) := by
  by_cases noBreak : pars.breakSignal = 0
  · simp only [rfcSendMsc, noBreak, ne_eq, not_true_eq_false, if_false, List.append_nil] at placed
    rcases mxBody_placed (by rfl) placed with ⟨-, -, body⟩
    rw [rfcProcessMxMessage_header (by decide) (by rfl) (by decide) placed, rfcMxSwitch_msc rfl,
      rfcMxMsc_noBreak body valid data]
    simp [noBreak]
  · simp only [rfcSendMsc, noBreak, ne_eq, not_false_eq_true, if_true, List.append_assoc, List.cons_append,
      List.nil_append] at placed
    rcases mxBody_placed (by rfl) placed with ⟨-, -, body⟩
    rcases mscBreakByte_fields short with ⟨present, duration⟩
    rw [rfcProcessMxMessage_header (by decide) (by rfl) (by decide) placed, rfcMxSwitch_msc rfl,
      rfcMxMsc_withBreak body valid data, present, duration]
    simp [noBreak]

theorem rfcProcessMxMessage_rfcSendMsc_break :
    let idle : MxRxFrame := ⟨0, 0, 0, 0, ⟨0, 0, 0, 0, 0, 0, 0⟩, ⟨0, 0⟩, ⟨0, 0, 0⟩, ⟨0, 0, 0⟩,
      ⟨false, 0, 0, 0, 0, 0, 0, 0, 0, 0⟩, ⟨0⟩⟩
    let frame := rfcSendMsc 2 false ⟨0x0F, 5, true⟩
    rfcProcessMxMessage idle (fun i => frame.getD i 0) ⟨0, frame.length, 0⟩ =
      (.msc false,
        { idle with
          ea := rfcommEa
          cr := 0
          type := rfcommMxMsc
          dlci := 2
          msc := ⟨mscSignalsByte ⟨0x0F, 5, true⟩, rfcommMscBreakPresentMask, 5⟩ }) := by
  intro idle frame
  exact rfcProcessMxMessage_rfcSendMsc (by decide) (by decide) (by decide) (by decide)

/-- An RLS that rfc_send_rls writes for a data channel reaches rfc_process_rls
with the status but its low bit. -/
theorem rfcProcessMxMessage_rfcSendRls {dlci status : UInt8} {isCommand : Bool}
    (valid : rfcommValidDlci dlci = true) (data : dlci ≠ 0)
    (placed : window mem buf.offset buf.len = rfcSendRls dlci isCommand status) :
    rfcProcessMxMessage rx mem buf =
      (.rls isCommand,
        { rx with
          ea := rfcommEa
          cr := if isCommand then 1 else 0
          type := rfcommMxRls
          dlci := dlci
          rls := ⟨status &&& ~~~0x01⟩ }) := by
  rcases mxBody_placed (by rfl) placed with ⟨-, -, body⟩
  rw [rfcProcessMxMessage_header (by decide) (by rfl) (by decide) placed, rfcMxSwitch_rls rfl,
    rfcMxRls_accepted body valid data, rlsStatus_lineStatus]

theorem rfcProcessMxMessage_rfcSendRls_overrun :
    let idle : MxRxFrame := ⟨0, 0, 0, 0, ⟨0, 0, 0, 0, 0, 0, 0⟩, ⟨0, 0⟩, ⟨0, 0, 0⟩, ⟨0, 0, 0⟩,
      ⟨false, 0, 0, 0, 0, 0, 0, 0, 0, 0⟩, ⟨0⟩⟩
    let frame := rfcSendRls 2 false 0x03
    rfcProcessMxMessage idle (fun i => frame.getD i 0) ⟨0, frame.length, 0⟩ =
      (.rls false, { idle with ea := rfcommEa, cr := 0, type := rfcommMxRls, dlci := 2, rls := ⟨0x03 &&& ~~~0x01⟩ }) := by
  intro idle frame
  exact rfcProcessMxMessage_rfcSendRls (by decide) (by decide) (by decide)

/-- An RPN that rfc_send_rpn writes for a data channel reaches rfc_process_rpn:
the request form as a request, and the full form with every setting, the
flow control under RFCOMM_FC_MASK and the parameter mask under
RFCOMM_RPN_PM_MASK. -/
theorem rfcProcessMxMessage_rfcSendRpn {dlci : UInt8} {isCommand : Bool} {pars : Option PortState} {mask : Nat}
    (valid : rfcommValidDlci dlci = true) (data : dlci ≠ 0) (fits : mask < 65536)
    (inRange : ∀ state ∈ pars, state.InRange)
    (placed : window mem buf.offset buf.len = rfcSendRpn dlci isCommand pars mask) :
    rfcProcessMxMessage rx mem buf =
      (.rpn isCommand pars.isNone,
        { rx with
          ea := rfcommEa
          cr := if isCommand then 1 else 0
          type := rfcommMxRpn
          dlci := dlci
          rpn :=
            match pars with
            | none => { rx.rpn with isRequest := true }
            | some state =>
              ⟨false, state.baudRate, state.byteSize, state.stopBits, state.parity, state.parityType,
                state.fcType &&& rfcommFcMask, state.xonChar, state.xoffChar, mask &&& rfcommRpnPmMask⟩ }) := by
  cases pars with
  | none =>
    rcases mxBody_placed (by rfl) placed with ⟨-, -, body⟩
    rw [rfcProcessMxMessage_header (by decide) (by rfl) (by decide) placed, rfcMxSwitch_rpn rfl,
      rfcMxRpn_request body valid data]
    rfl
  | some state =>
    rcases mxBody_placed (by rfl) placed with ⟨-, -, body⟩
    rcases rpnBitsByte_fields (inRange state rfl) with ⟨byteSize, stopBits, parity, parityType⟩
    rw [rfcProcessMxMessage_header (by decide) (by rfl) (by decide) placed, rfcMxSwitch_rpn rfl,
      rfcMxRpn_full body valid data, byteSize, stopBits, parity, parityType, u16Bytes_toNat fits]
    rfl

theorem rfcProcessMxMessage_rfcSendRpn_full :
    let idle : MxRxFrame := ⟨0, 0, 0, 0, ⟨0, 0, 0, 0, 0, 0, 0⟩, ⟨0, 0⟩, ⟨0, 0, 0⟩, ⟨0, 0, 0⟩,
      ⟨false, 0, 0, 0, 0, 0, 0, 0, 0, 0⟩, ⟨0⟩⟩
    let frame := rfcSendRpn 2 true (some ⟨7, 3, 0, 1, 2, 0x03, 0x11, 0x13⟩) 0x3F7F
    rfcProcessMxMessage idle (fun i => frame.getD i 0) ⟨0, frame.length, 0⟩ =
      (.rpn true false,
        { idle with
          ea := rfcommEa
          cr := 1
          type := rfcommMxRpn
          dlci := 2
          rpn := ⟨false, 7, 3, 0, 1, 2, 0x03 &&& rfcommFcMask, 0x11, 0x13, 0x3F7F &&& rfcommRpnPmMask⟩ }) := by
  intro idle frame
  have inRange : ∀ state ∈ some (⟨7, 3, 0, 1, 2, 0x03, 0x11, 0x13⟩ : PortState), state.InRange := by
    intro state member
    cases member
    exact ⟨by decide, by decide, by decide, by decide⟩
  exact rfcProcessMxMessage_rfcSendRpn (by decide) (by decide) (by decide) inRange (by decide)

/-- rfc_send_test leaves its header right in front of the data, at least
L2CAP_MIN_OFFSET + RFCOMM_MIN_OFFSET bytes into the buffer. -/
theorem rfcSendTest_layout (isCommand : Bool) (fresh mem : Nat → UInt8) (buf : BtHdr) :
    window (rfcSendTest isCommand fresh mem buf).1 (rfcSendTest isCommand fresh mem buf).2.offset
        (rfcSendTest isCommand fresh mem buf).2.len =
      mxHeader isCommand rfcommMxTest buf.len ++ window mem buf.offset buf.len ∧
    (rfcSendTest isCommand fresh mem buf).2.len = buf.len + 2 ∧
    l2capMinOffset + rfcommMinOffset ≤ (rfcSendTest isCommand fresh mem buf).2.offset := by
  have headerLength : (mxHeader isCommand rfcommMxTest buf.len).length = 2 := rfl
  have framed : ∀ (moved : Nat → UInt8) (offset : Nat), 2 ≤ offset →
      window moved offset buf.len = window mem buf.offset buf.len →
      window (store moved (offset - 2) (mxHeader isCommand rfcommMxTest buf.len)) (offset - 2) (buf.len + 2) =
        mxHeader isCommand rfcommMxTest buf.len ++ window mem buf.offset buf.len := by
    intro moved offset room kept
    rw [Nat.add_comm buf.len 2, ← headerLength, window_store_prefix, headerLength, Nat.sub_add_cancel room, kept]
  unfold rfcSendTest
  by_cases moved : buf.offset < l2capMinOffset + rfcommMinOffset + 2
  · simp only [moved, decide_true, if_true]
    exact ⟨framed _ _ (by omega) (window_store_of_length window_length), trivial, by omega⟩
  · simp only [moved, decide_false, Bool.false_eq_true, if_false]
    exact ⟨framed _ _ (by unfold l2capMinOffset at moved; omega) rfl, trivial, by omega⟩

/-- rfc_send_test writes a one-byte length whatever the length of the data, and
rfc_process_mx_message refuses an empty TEST: a TEST of 128 bytes or more
arrives with the wrong length and is dropped, and an empty TEST command is
answered with an NSC. -/
theorem rfcProcessMxMessage_rfcSendTest_refused (isCommand : Bool) (fresh mem : Nat → UInt8) (buf : BtHdr)
    (rx : MxRxFrame) :
    (128 ≤ buf.len →
      (rfcProcessMxMessage rx (rfcSendTest isCommand fresh mem buf).1 (rfcSendTest isCommand fresh mem buf).2).1 =
        .dropped) ∧
    (buf.len = 0 →
      (rfcProcessMxMessage rx (rfcSendTest isCommand fresh mem buf).1 (rfcSendTest isCommand fresh mem buf).2).1 =
        if isCommand then .sendNsc else .dropped) := by
  rcases rfcSendTest_layout isCommand fresh mem buf with ⟨placed, -, -⟩
  have parsed : rfcProcessMxMessage rx _ _ = _ := rfcProcessMxMessage_oneByteLength (by decide) window_length placed
  constructor
  · intro long
    rw [parsed, if_neg (by omega)]
  · intro empty
    rw [parsed, if_pos (by omega), rfcMxSwitch_test rfl, rfcMxTest, if_pos empty, mxBreak]

/-- The echo of a TEST command of 128 bytes. -/
theorem rfcProcessMxMessage_rfcSendTest_refused_echo :
    (rfcProcessMxMessage ⟨0, 0, 0, 0, ⟨0, 0, 0, 0, 0, 0, 0⟩, ⟨0, 0⟩, ⟨0, 0, 0⟩, ⟨0, 0, 0⟩,
        ⟨false, 0, 0, 0, 0, 0, 0, 0, 0, 0⟩, ⟨0⟩⟩
      (rfcSendTest false (fun _ => 0) (fun _ => 0x5A) ⟨22, 128, 0⟩).1
      (rfcSendTest false (fun _ => 0) (fun _ => 0x5A) ⟨22, 128, 0⟩).2).1 = .dropped :=
  (rfcProcessMxMessage_rfcSendTest_refused false _ _ _ _).1 (by decide)

end RoundTrips

end Rfcomm
end BluetoothStack
