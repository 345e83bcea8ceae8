import Mathlib.Data.Fintype.Card
import BluetoothStack.Library.ByteStream

namespace BluetoothStack
namespace Rfcomm

open ByteStream

/-!
# RFCOMM frames

rfc_send_buf_uih (stack/rfcomm/rfc_ts_frames.cc) puts the TS 07.10 header
in front of a payload already in its buffer: the address with the DLCI and
the C/R bit, the UIH control byte with P/F set when credits go with the
frame, a length field of one byte up to 127 and of two bytes above, and the
credit byte; the FCS over address and control goes after the payload.
rfc_send_credit sends the frame that carries credits and nothing else.
rfc_parse_data on the peer reads the header back, takes the credit byte off
when credit-based flow control is on, checks the length and the FCS, and
reports the frame's type.

Memory is the data area of the BT_HDR, from byte 0, as a function from
positions to bytes; offset and len locate the frame in it.  offset and len
are uint16_t in the code and Nat here: the frames modelled are shorter than
65536 bytes, and every buffer rfc_send_buf_uih gets reserves
RFCOMM_MIN_OFFSET bytes before its payload.
-/

def rfcommEa : UInt8 := 1
def rfcommCrMask : UInt8 := 0x02
def rfcommShiftCr : UInt8 := 1
def rfcommShiftDlci : UInt8 := 2
def rfcommShiftDlci2 : UInt8 := 6
def rfcommPf : UInt8 := 0x10
def rfcommPfMask : UInt8 := 0x10
def rfcommPfOffset : UInt8 := 4
def rfcommShiftLength1 : UInt8 := 1
def rfcommShiftLength2 : Nat := 7

def rfcommSabme : UInt8 := 0x2F
def rfcommUa : UInt8 := 0x63
def rfcommDm : UInt8 := 0x0F
def rfcommDisc : UInt8 := 0x43
def rfcommUih : UInt8 := 0xEF

def rfcommCtrlFrameLen : Nat := 3
def rfcommMinOffset : Nat := 5
def rfcommMxDlci : UInt8 := 0
def rfcommMaxDlci : UInt8 := 61
def l2capMinOffset : Nat := 13

/-- PORT_FC_CREDIT, the flow control of a multiplexer that uses credits. -/
def portFcCredit : UInt8 := 2

/-- RFCOMM_CR: the C/R bit of a frame, set on the initiator's commands and
on the responder's responses. -/
def rfcommCr (initiator isCommand : Bool) : UInt8 :=
  if (initiator && isCommand) || (!initiator && !isCommand) then 2 else 0

/-- RFCOMM_FRAME_IS_RSP. -/
def rfcommFrameIsRsp (initiator : Bool) (cr : UInt8) : Bool :=
  (initiator && cr ≠ 0) || (!initiator && cr = 0)

/-- RFCOMM_FRAME_IS_CMD. -/
def rfcommFrameIsCmd (initiator : Bool) (cr : UInt8) : Bool :=
  (initiator && cr = 0) || (!initiator && cr ≠ 0)

/-- RFCOMM_VALID_DLCI: the multiplexer channel 0, or a data channel of 2 to
RFCOMM_MAX_DLCI. -/
def rfcommValidDlci (dlci : UInt8) : Bool :=
  dlci = 0 || (2 ≤ dlci && dlci ≤ rfcommMaxDlci)

/-! ## The frame check sequence -/

/-- rfc_crctable: the reversed CRC-8 table of TS 07.10, polynomial 0x07. -/
def rfcCrctable : List UInt8 :=
  [0x00, 0x91, 0xE3, 0x72, 0x07, 0x96, 0xE4, 0x75, 0x0E, 0x9F, 0xED, 0x7C, 0x09, 0x98, 0xEA, 0x7B,
    0x1C, 0x8D, 0xFF, 0x6E, 0x1B, 0x8A, 0xF8, 0x69, 0x12, 0x83, 0xF1, 0x60, 0x15, 0x84, 0xF6, 0x67,
    0x38, 0xA9, 0xDB, 0x4A, 0x3F, 0xAE, 0xDC, 0x4D, 0x36, 0xA7, 0xD5, 0x44, 0x31, 0xA0, 0xD2, 0x43,
    0x24, 0xB5, 0xC7, 0x56, 0x23, 0xB2, 0xC0, 0x51, 0x2A, 0xBB, 0xC9, 0x58, 0x2D, 0xBC, 0xCE, 0x5F,
    0x70, 0xE1, 0x93, 0x02, 0x77, 0xE6, 0x94, 0x05, 0x7E, 0xEF, 0x9D, 0x0C, 0x79, 0xE8, 0x9A, 0x0B,
    0x6C, 0xFD, 0x8F, 0x1E, 0x6B, 0xFA, 0x88, 0x19, 0x62, 0xF3, 0x81, 0x10, 0x65, 0xF4, 0x86, 0x17,
    0x48, 0xD9, 0xAB, 0x3A, 0x4F, 0xDE, 0xAC, 0x3D, 0x46, 0xD7, 0xA5, 0x34, 0x41, 0xD0, 0xA2, 0x33,
    0x54, 0xC5, 0xB7, 0x26, 0x53, 0xC2, 0xB0, 0x21, 0x5A, 0xCB, 0xB9, 0x28, 0x5D, 0xCC, 0xBE, 0x2F,
    0xE0, 0x71, 0x03, 0x92, 0xE7, 0x76, 0x04, 0x95, 0xEE, 0x7F, 0x0D, 0x9C, 0xE9, 0x78, 0x0A, 0x9B,
    0xFC, 0x6D, 0x1F, 0x8E, 0xFB, 0x6A, 0x18, 0x89, 0xF2, 0x63, 0x11, 0x80, 0xF5, 0x64, 0x16, 0x87,
    0xD8, 0x49, 0x3B, 0xAA, 0xDF, 0x4E, 0x3C, 0xAD, 0xD6, 0x47, 0x35, 0xA4, 0xD1, 0x40, 0x32, 0xA3,
    0xC4, 0x55, 0x27, 0xB6, 0xC3, 0x52, 0x20, 0xB1, 0xCA, 0x5B, 0x29, 0xB8, 0xCD, 0x5C, 0x2E, 0xBF,
    0x90, 0x01, 0x73, 0xE2, 0x97, 0x06, 0x74, 0xE5, 0x9E, 0x0F, 0x7D, 0xEC, 0x99, 0x08, 0x7A, 0xEB,
    0x8C, 0x1D, 0x6F, 0xFE, 0x8B, 0x1A, 0x68, 0xF9, 0x82, 0x13, 0x61, 0xF0, 0x85, 0x14, 0x66, 0xF7,
    0xA8, 0x39, 0x4B, 0xDA, 0xAF, 0x3E, 0x4C, 0xDD, 0xA6, 0x37, 0x45, 0xD4, 0xA1, 0x30, 0x42, 0xD3,
    0xB4, 0x25, 0x57, 0xC6, 0xB3, 0x22, 0x50, 0xC1, 0xBA, 0x2B, 0x59, 0xC8, 0xBD, 0x2C, 0x5E, 0xCF]

/-- One step of the FCS register over a byte. -/
def crcStep (fcs byte : UInt8) : UInt8 :=
  rfcCrctable.getD (fcs ^^^ byte).toNat 0

/-- The FCS register after the bytes, from 0xFF. -/
def crcRegister (bytes : List UInt8) : UInt8 :=
  bytes.foldl crcStep 0xFF

/-- rfc_calc_fcs: the ones' complement of the register. -/
def rfcCalcFcs (bytes : List UInt8) : UInt8 :=
  0xFF - crcRegister bytes

/-- rfc_check_fcs: the register run on over the received FCS ends at 0xCF. -/
def rfcCheckFcs (bytes : List UInt8) (receivedFcs : UInt8) : Bool :=
  crcStep (crcRegister bytes) receivedFcs = 0xCF

/-! ## Sending -/

/-- The fields of a BT_HDR these functions use. -/
structure BtHdr where
  offset : Nat
  len : Nat
  layerSpecific : Nat
  deriving DecidableEq, Repr

/-- The credits rfc_send_buf_uih sends: the low byte of layer_specific, on a
data channel only. -/
def uihCredits (dlci : UInt8) (layerSpecific : Nat) : UInt8 :=
  if dlci ≠ 0 then UInt8.ofNat layerSpecific else 0

/-- The length field: one byte with EA set for up to 127 bytes, and for more
two bytes, the low seven bits first. -/
def uihLengthField (len : Nat) : List UInt8 :=
  if len ≤ 127 then [rfcommEa ||| UInt8.ofNat (len <<< 1)]
  else [UInt8.ofNat ((len &&& 0x7f) <<< 1), UInt8.ofNat (len >>> rfcommShiftLength2)]

/-- The header of a UIH frame: address, control with P/F when pf holds, the
length field, and the credit byte when pf holds. -/
def uihFrameHeader (address : UInt8) (pf : Bool) (len : Nat) (credit : UInt8) : List UInt8 :=
  [address, rfcommUih ||| (if pf then rfcommPf else 0)] ++ uihLengthField len ++ (if pf then [credit] else [])

/-- The address byte of a frame: EA, the C/R bit and the DLCI. -/
def rfcAddress (cr dlci : UInt8) : UInt8 :=
  rfcommEa ||| cr ||| (dlci <<< rfcommShiftDlci)

/-- rfc_send_buf_uih up to the hand-over to L2CAP: the memory with header and
FCS written around the len payload bytes at offset, and the buffer that now
holds the frame. -/
def rfcSendBufUih (isInitiator : Bool) (dlci : UInt8) (mem : Nat → UInt8) (buf : BtHdr) :
    (Nat → UInt8) × BtHdr :=
  let cr := rfcommCr isInitiator true
  let offset := buf.offset - rfcommCtrlFrameLen
  let offset := if 127 < buf.len then offset - 1 else offset
  let credits := uihCredits dlci buf.layerSpecific
  let offset := if credits ≠ 0 then offset - 1 else offset
  let len := if buf.len ≤ 127 then buf.len + 3 else buf.len + 4
  let len := if credits ≠ 0 then len + 1 else len
  let mem := store mem offset (uihFrameHeader (rfcAddress cr dlci) (credits ≠ 0) buf.len credits)
  let mem := store mem (offset + len) [rfcCalcFcs (window mem offset 2)]
  (mem, { buf with offset := offset, len := len + 1 })

/-- rfc_send_credit into a freshly allocated buffer: a UIH frame with P/F set,
an empty information field and the credit byte. -/
def rfcSendCredit (isInitiator : Bool) (dlci credit : UInt8) (mem : Nat → UInt8) (buf : BtHdr) :
    (Nat → UInt8) × BtHdr :=
  let cr := rfcommCr isInitiator true
  let offset := l2capMinOffset
  let mem := store mem offset [rfcAddress cr dlci, rfcommUih ||| rfcommPf, rfcommEa ||| 0, credit]
  let mem := store mem (offset + 4) [rfcCalcFcs (window mem offset 2)]
  (mem, { buf with offset := offset, len := 5 })

/-! ## Parsing -/

/-- The fields of an MX_FRAME that rfc_parse_data fills. -/
structure MxFrame where
  cr : UInt8
  dlci : UInt8
  type : UInt8
  pf : UInt8
  credit : UInt8
  deriving DecidableEq, Repr

/-- The events rfc_parse_data reports. -/
inductive RfcEvent where
  | sabme
  | ua
  | dm
  | disc
  | uih
  | badFrame
  deriving DecidableEq, Repr

/-- The checks of a SABME, UA, DM or DISC frame: the direction its type
needs, the P/F bit where the type needs it, an empty information field, a
valid DLCI and the FCS over address, control and length. -/
def ctrlFrameAccepted (wrongDirection checkPf : Bool) (frame : MxFrame) (len : Nat) (header : List UInt8)
    (fcs : UInt8) : Bool :=
  !wrongDirection && (!checkPf || frame.pf ≠ 0) && len = 0 && rfcommValidDlci frame.dlci && rfcCheckFcs header fcs

/-- The switch of rfc_parse_data on the frame type, once the length is
checked; start is the first byte of the frame and fcs the byte after its
information field. -/
def rfcFrameEvent (isInitiator : Bool) (frame : MxFrame) (mem : Nat → UInt8) (start len : Nat) (fcs : UInt8) :
    RfcEvent :=
  let ctrl := window mem start rfcommCtrlFrameLen
  if frame.type = rfcommSabme then
    if ctrlFrameAccepted (rfcommFrameIsRsp isInitiator frame.cr) true frame len ctrl fcs then .sabme else .badFrame
  else if frame.type = rfcommUa then
    if ctrlFrameAccepted (rfcommFrameIsCmd isInitiator frame.cr) true frame len ctrl fcs then .ua else .badFrame
  else if frame.type = rfcommDm then
    -- DM alone is accepted whatever its P/F bit
    if ctrlFrameAccepted (rfcommFrameIsCmd isInitiator frame.cr) false frame len ctrl fcs then .dm else .badFrame
  else if frame.type = rfcommDisc then
    if ctrlFrameAccepted (rfcommFrameIsRsp isInitiator frame.cr) true frame len ctrl fcs then .disc else .badFrame
  else if frame.type = rfcommUih then
    -- a UIH in the wrong direction is let through for peers that get the C/R bit wrong
    if !rfcommValidDlci frame.dlci then .badFrame
    else if !rfcCheckFcs (window mem start 2) fcs then .badFrame
    else .uih
  else .badFrame

/-- rfc_parse_data once the header of header bytes and the length len are
read: the credit byte when credit-based flow control is on and a UIH frame on
a data channel has P/F set, the check of the length against the rest of the
buffer, and the switch on the frame type. -/
def rfcParseInfo (isInitiator : Bool) (flow : UInt8) (frame : MxFrame) (mem : Nat → UInt8) (start header len : Nat)
    (buf : BtHdr) : RfcEvent × MxFrame × BtHdr :=
  let buf := { buf with len := buf.len - (header + 1), offset := buf.offset + header }
  let p := start + header
  if flow = portFcCredit ∧ frame.type = rfcommUih ∧ frame.dlci ≠ rfcommMxDlci ∧ frame.pf = 1 then
    if buf.len < 1 then (.badFrame, frame, buf)
    else
      let frame := { frame with credit := mem p }
      let buf := { buf with len := buf.len - 1, offset := buf.offset + 1 }
      if buf.len ≠ len then (.badFrame, frame, buf)
      else (rfcFrameEvent isInitiator frame mem start len (mem (p + 1 + len)), frame, buf)
  else
    let frame := { frame with credit := 0 }
    if buf.len ≠ len then (.badFrame, frame, buf)
    else (rfcFrameEvent isInitiator frame mem start len (mem (p + len)), frame, buf)

/-- rfc_parse_data: the event, the frame fields and the buffer, whose offset
and len are moved onto the information field. -/
def rfcParseData (isInitiator : Bool) (flow : UInt8) (frame : MxFrame) (mem : Nat → UInt8) (buf : BtHdr) :
    RfcEvent × MxFrame × BtHdr :=
  let start := buf.offset
  if buf.len < rfcommCtrlFrameLen then (.badFrame, frame, buf)
  else
    -- RFCOMM_PARSE_CTRL_FIELD reads a second address byte when EA is clear
    let address := mem start
    let ead := address &&& rfcommEa
    let dlci := address >>> rfcommShiftDlci
    let dlci := if ead = 0 then dlci + (mem (start + 1) <<< rfcommShiftDlci2) else dlci
    let frame := { frame with cr := (address &&& rfcommCrMask) >>> rfcommShiftCr, dlci := dlci }
    if ead = 0 then (.badFrame, frame, buf)
    else
      let control := mem (start + 1)
      let frame := { frame with
        type := control &&& ~~~rfcommPfMask
        pf := (control &&& rfcommPfMask) >>> rfcommPfOffset }
      let lengthByte := mem (start + 2)
      let eal := lengthByte &&& rfcommEa
      if eal = 0 ∧ buf.len ≤ rfcommCtrlFrameLen then (.badFrame, frame, buf)
      else
        let len := (lengthByte >>> rfcommShiftLength1).toNat
        let len := if eal = 0 then len + ((mem (start + 3)).toNat <<< rfcommShiftLength2) else len
        let header := if eal = 0 then 4 else 3
        if buf.len < header + 1 then (.badFrame, frame, buf)
        else rfcParseInfo isInitiator flow frame mem start header len buf

/-! ## The frame check sequence checks -/

theorem ones_sub (byte : UInt8) : 0xFF - byte = ~~~byte := by
  apply UInt8.toNat_inj.mp
  have := byte.toNat_lt
  rw [UInt8.toNat_not, UInt8.toNat_sub_of_le _ _ (UInt8.le_iff_toNat_le.mpr (by simp; omega))]
  simp

/-- A byte XOR its ones' complement is all ones. -/
theorem xor_ones_sub (byte : UInt8) : byte ^^^ (0xFF - byte) = 0xFF := by
  rw [ones_sub, UInt8.xor_not, UInt8.xor_self]
  decide

/-- The FCS rfc_calc_fcs computes passes rfc_check_fcs, for every message:
the register run on over its ones' complement is at 0xFF, which the table
maps to 0xCF. -/
theorem rfcCheckFcs_rfcCalcFcs (bytes : List UInt8) : rfcCheckFcs bytes (rfcCalcFcs bytes) = true := by
  rw [rfcCheckFcs, rfcCalcFcs, crcStep, xor_ones_sub]
  decide

/-- A bit mask with the bit of every byte of a list set has the bits of the
start mask and those of the bytes. -/
theorem testBit_foldl_or (bytes : List UInt8) (mask v : Nat) :
    (bytes.foldl (fun mask byte => mask ||| 1 <<< byte.toNat) mask).testBit v = true ↔
      mask.testBit v = true ∨ ∃ byte ∈ bytes, byte.toNat = v := by
  induction bytes generalizing mask with
  | nil => simp
  | cons byte rest ih =>
    rw [List.foldl_cons, ih, Nat.testBit_or, Nat.one_shiftLeft, Nat.testBit_two_pow]
    simp only [Bool.or_eq_true, decide_eq_true_eq, List.mem_cons, exists_eq_or_imp]
    tauto

/-- Every byte value stands in the table: the mask of its entries is full. -/
theorem exists_mem_rfcCrctable (v : Nat) (small : v < 256) : ∃ byte ∈ rfcCrctable, byte.toNat = v := by
  have full : rfcCrctable.foldl (fun mask byte => mask ||| 1 <<< byte.toNat) 0 = 2 ^ 256 - 1 := by
    decide +kernel
  have bit := (testBit_foldl_or rfcCrctable 0 v).mp (by rw [full, Nat.testBit_two_pow_sub_one]; simpa using small)
  simpa using bit

/-- The table is injective on its 256 indices: it takes every one of the 256
byte values, so no two indices share an entry. -/
theorem rfcCrctable_getD_injective {i j : UInt8} (same : rfcCrctable.getD i.toNat 0 = rfcCrctable.getD j.toNat 0) :
    i = j := by
  have length : rfcCrctable.length = 256 := by decide +kernel
  have onto : Function.Surjective fun k : Fin 256 => (⟨(rfcCrctable.getD k 0).toNat, UInt8.toNat_lt _⟩ : Fin 256) := by
    intro v
    obtain ⟨byte, member, value⟩ := exists_mem_rfcCrctable v v.isLt
    obtain ⟨k, inside, atK⟩ := List.getElem_of_mem member
    refine ⟨⟨k, length ▸ inside⟩, Fin.ext ?_⟩
    simp only [List.getD_eq_getElem?_getD, List.getElem?_eq_getElem inside, Option.getD_some, atK, value]
  have sameIndex := Finite.injective_iff_surjective.mpr onto
    (show (⟨(rfcCrctable.getD i.toNat 0).toNat, _⟩ : Fin 256) = ⟨(rfcCrctable.getD j.toNat 0).toNat, _⟩ from
      Fin.ext (congrArg UInt8.toNat same))
  exact UInt8.toNat_inj.mp (congrArg Fin.val sameIndex)

/-- 0xCF stands in the table at index 0xFF only. -/
theorem rfcCrctable_getD_eq_CF (index : UInt8) : rfcCrctable.getD index.toNat 0 = 0xCF ↔ index = 0xFF := by
  have atFF : rfcCrctable.getD (0xFF : UInt8).toNat 0 = 0xCF := by decide
  constructor
  · intro found
    exact rfcCrctable_getD_injective (found.trans atFF.symm)
  · rintro rfl
    exact atFF

/-- rfc_check_fcs accepts exactly the FCS rfc_calc_fcs computes, for every
message and every received byte: the table maps a register XOR its ones'
complement to 0xCF, and no other index. -/
theorem rfcCheckFcs_iff_rfcCalcFcs :
    (∀ (bytes : List UInt8) (fcs : UInt8), rfcCheckFcs bytes fcs = true ↔ fcs = rfcCalcFcs bytes) ∧
      (∀ crc : UInt8, rfcCrctable.getD (crc ^^^ (0xFF - crc)).toNat 0 = 0xCF) ∧
      ∀ i j : UInt8, rfcCrctable.getD i.toNat 0 = rfcCrctable.getD j.toNat 0 → i = j := by
  refine ⟨fun bytes fcs => ?_, fun crc => ?_, fun i j same => rfcCrctable_getD_injective same⟩
  · have complement : crcRegister bytes ^^^ fcs = 0xFF ↔ fcs = 0xFF - crcRegister bytes := by
      conv_lhs => rw [← xor_ones_sub (crcRegister bytes)]
      exact UInt8.xor_right_inj _
    rw [rfcCheckFcs, rfcCalcFcs, crcStep, decide_eq_true_iff, rfcCrctable_getD_eq_CF, complement]
  · rw [xor_ones_sub]
    decide

/-- The SABM on DLCI 0 (the frame F9 03 3F 01 1C F9): over its address,
control and length bytes the FCS is 0x1C, which rfc_check_fcs accepts, and
0x1D it refuses. -/
theorem rfcCheckFcs_iff_rfcCalcFcs_sabm :
    rfcCalcFcs [0x03, 0x3F, 0x01] = 0x1C ∧ rfcCheckFcs [0x03, 0x3F, 0x01] 0x1C = true ∧
      rfcCheckFcs [0x03, 0x3F, 0x01] 0x1D = false := by
  have computed : rfcCalcFcs [0x03, 0x3F, 0x01] = 0x1C := by decide
  refine ⟨computed, (rfcCheckFcs_iff_rfcCalcFcs.1 _ _).mpr computed.symm, ?_⟩
  rw [Bool.eq_false_iff]
  intro accepted
  have other := (rfcCheckFcs_iff_rfcCalcFcs.1 _ _).mp accepted
  rw [computed] at other
  cases other

/-! ## The header fields read back -/

theorem rfcAddress_fin : ∀ dlci : Fin 64, ∀ initiator : Bool,
    rfcAddress (rfcommCr initiator true) (UInt8.ofNat dlci.val) &&& rfcommEa = rfcommEa ∧
      (rfcAddress (rfcommCr initiator true) (UInt8.ofNat dlci.val) &&& rfcommCrMask) >>> rfcommShiftCr =
        (if initiator then 1 else 0) ∧
      rfcAddress (rfcommCr initiator true) (UInt8.ofNat dlci.val) >>> rfcommShiftDlci = UInt8.ofNat dlci.val := by
  decide

/-- The parser reads EA, the C/R bit and the DLCI back from the address byte
of a frame of the initiator or of the responder. -/
theorem rfcAddress_fields (initiator : Bool) {dlci : UInt8} (small : dlci < 64) :
    rfcAddress (rfcommCr initiator true) dlci &&& rfcommEa = rfcommEa ∧
      (rfcAddress (rfcommCr initiator true) dlci &&& rfcommCrMask) >>> rfcommShiftCr = (if initiator then 1 else 0) ∧
      rfcAddress (rfcommCr initiator true) dlci >>> rfcommShiftDlci = dlci := by
  have decoded := rfcAddress_fin ⟨dlci.toNat, UInt8.lt_iff_toNat_lt.mp small⟩ initiator
  simpa using decoded

/-- The type and the P/F bit of a UIH control byte. -/
theorem uihControl_fields (pf : Bool) :
    (rfcommUih ||| (if pf then rfcommPf else 0)) &&& ~~~rfcommPfMask = rfcommUih ∧
      ((rfcommUih ||| (if pf then rfcommPf else 0)) &&& rfcommPfMask) >>> rfcommPfOffset = (if pf then 1 else 0) := by
  cases pf <;> decide

theorem shortLength_fin : ∀ len : Fin 128,
    (rfcommEa ||| UInt8.ofNat (len.val <<< 1)) &&& rfcommEa = rfcommEa ∧
      ((rfcommEa ||| UInt8.ofNat (len.val <<< 1)) >>> rfcommShiftLength1).toNat = len.val := by
  decide

/-- A length of two bytes: EA clear in the first, and the seven low bits and
the high bits read back. -/
theorem longLength_fields {len : Nat} (fits : len < 32768) :
    UInt8.ofNat ((len &&& 0x7f) <<< 1) &&& rfcommEa = 0 ∧
      (UInt8.ofNat ((len &&& 0x7f) <<< 1) >>> rfcommShiftLength1).toNat +
        ((UInt8.ofNat (len >>> rfcommShiftLength2)).toNat <<< rfcommShiftLength2) = len := by
  have low : len &&& 0x7f = len % 128 := Nat.and_two_pow_sub_one_eq_mod len 7
  have doubled : (len % 128) <<< 1 = len % 128 * 2 := Nat.shiftLeft_eq _ _
  have small : len % 128 * 2 < 256 := by omega
  constructor
  · apply UInt8.toNat_inj.mp
    rw [UInt8.toNat_and, low, doubled, UInt8.toNat_ofNat', Nat.mod_eq_of_lt small]
    simp [rfcommEa, Nat.and_one_is_mod]
  · rw [UInt8.toNat_shiftRight, low, doubled, UInt8.toNat_ofNat', Nat.mod_eq_of_lt small, UInt8.toNat_ofNat',
      Nat.shiftRight_eq_div_pow, Nat.shiftLeft_eq, Nat.shiftRight_eq_div_pow]
    simp [rfcommShiftLength1, rfcommShiftLength2]
    omega

/-- A valid DLCI fits in the six bits of the address byte. -/
theorem rfcommValidDlci_lt {dlci : UInt8} (valid : rfcommValidDlci dlci = true) : dlci < 64 := by
  unfold rfcommValidDlci rfcommMaxDlci at valid
  rcases Bool.or_eq_true_iff.mp valid with zero | data
  · rw [of_decide_eq_true zero]
    decide
  · have bounded := (Bool.and_eq_true_iff.mp data).2
    exact UInt8.lt_of_le_of_lt (of_decide_eq_true bounded) (by decide)

/-! ## Parsing a UIH frame -/

section ParseUih

variable {isInitiator : Bool} {frame : MxFrame} {mem : Nat → UInt8} {start header len : Nat} {buf : BtHdr}

theorem rfcFrameEvent_uih (isInitiator : Bool) (len : Nat) {fcs : UInt8} (uih : frame.type = rfcommUih) (valid : rfcommValidDlci frame.dlci = true)
    (checked : rfcCheckFcs (window mem start 2) fcs = true) :
    rfcFrameEvent isInitiator frame mem start len fcs = .uih := by
  unfold rfcFrameEvent
  rw [uih, if_neg (by decide), if_neg (by decide), if_neg (by decide), if_neg (by decide), if_pos rfl]
  simp [valid, checked]

/-- A UIH frame on a data channel with P/F set, under credit-based flow
control: the credit byte is taken off before the information field. -/
theorem rfcParseInfo_credit (uih : frame.type = rfcommUih) (data : frame.dlci ≠ rfcommMxDlci) (pfSet : frame.pf = 1)
    (valid : rfcommValidDlci frame.dlci = true) (total : buf.len = header + 1 + len + 1)
    (checked : rfcCheckFcs (window mem start 2) (mem (start + header + 1 + len)) = true) :
    rfcParseInfo isInitiator portFcCredit frame mem start header len buf =
      (.uih, { frame with credit := mem (start + header) }, { buf with offset := buf.offset + header + 1, len := len }) := by
  unfold rfcParseInfo
  dsimp only
  have event := rfcFrameEvent_uih isInitiator len
    (show ({ frame with credit := mem (start + header) } : MxFrame).type = rfcommUih from uih) valid checked
  rw [if_pos ⟨rfl, uih, data, pfSet⟩, if_neg (by omega), if_neg (by omega), event]
  congr 3
  omega

/-- A UIH frame without P/F: no credit byte. -/
theorem rfcParseInfo_plain (uih : frame.type = rfcommUih) (pfClear : frame.pf ≠ 1)
    (valid : rfcommValidDlci frame.dlci = true) (total : buf.len = header + len + 1)
    (checked : rfcCheckFcs (window mem start 2) (mem (start + header + len)) = true) :
    rfcParseInfo isInitiator portFcCredit frame mem start header len buf =
      (.uih, { frame with credit := 0 }, { buf with offset := buf.offset + header, len := len }) := by
  unfold rfcParseInfo
  dsimp only
  have event := rfcFrameEvent_uih isInitiator len
    (show ({ frame with credit := 0 } : MxFrame).type = rfcommUih from uih) valid checked
  rw [if_neg (fun credit => pfClear credit.2.2.2), if_neg (by omega), event]
  congr 3
  omega

/-- A frame whose address and length field are as the builders write them:
rfc_parse_data reads the C/R bit, the DLCI, the type, P/F and the length, and
goes on to the information field. -/
theorem rfcParseData_header {flow control : UInt8} {initiator : Bool} {dlci : UInt8} (small : dlci < 64)
    (fits : len < 32768) (address : mem buf.offset = rfcAddress (rfcommCr initiator true) dlci)
    (controlByte : mem (buf.offset + 1) = control)
    (lengthBytes : window mem (buf.offset + 2) (uihLengthField len).length = uihLengthField len)
    (room : (uihLengthField len).length + 2 + 1 ≤ buf.len) :
    rfcParseData isInitiator flow frame mem buf =
      rfcParseInfo isInitiator flow
        { frame with
          cr := if initiator then 1 else 0
          dlci := dlci
          type := control &&& ~~~rfcommPfMask
          pf := (control &&& rfcommPfMask) >>> rfcommPfOffset }
        mem buf.offset ((uihLengthField len).length + 2) len buf := by
  rcases rfcAddress_fields initiator small with ⟨ea, cr, dlciBits⟩
  have eaSet : ¬rfcommEa = 0 := by decide
  unfold rfcParseData
  dsimp only
  rw [if_neg (by unfold rfcommCtrlFrameLen; omega), address, controlByte]
  simp only [ea, cr, dlciBits, eaSet, if_false]
  by_cases short : len ≤ 127
  · rw [uihLengthField, if_pos short] at lengthBytes room ⊢
    rcases window_eq_cons lengthBytes with ⟨lengthByte, -⟩
    rcases shortLength_fin ⟨len, by omega⟩ with ⟨eal, value⟩
    rw [lengthByte, eal, value]
    simp only [eaSet, false_and, if_false]
    rw [if_neg (by simp at room; omega)]
    rfl
  · rw [uihLengthField, if_neg short] at lengthBytes room ⊢
    rcases window_eq_cons lengthBytes with ⟨lowByte, rest⟩
    rcases window_eq_cons rest with ⟨highByte, -⟩
    rcases longLength_fields fits with ⟨eal, value⟩
    rw [lowByte, show buf.offset + 2 + 1 = buf.offset + 3 by omega, highByte, eal]
    simp only [List.length_cons, List.length_nil] at room
    simp only [true_and, if_true, value]
    rw [if_neg (by unfold rfcommCtrlFrameLen; omega), if_neg (by omega)]
    rfl

/-- rfc_parse_data under credit-based flow control, on a UIH frame laid out
as rfc_send_buf_uih and rfc_send_credit write it: the header, len bytes of
information and the FCS over address and control.  Either role may receive
it. -/
theorem rfcParseData_uihFrame {initiator pf : Bool} {dlci credit : UInt8} {frameHeader : List UInt8}
    (built : uihFrameHeader (rfcAddress (rfcommCr initiator true) dlci) pf len credit = frameHeader)
    (valid : rfcommValidDlci dlci = true) (data : pf = true → dlci ≠ 0) (fits : len < 32768)
    (placed : window mem buf.offset frameHeader.length = frameHeader) (total : buf.len = frameHeader.length + len + 1)
    (fcs : mem (buf.offset + frameHeader.length + len) = rfcCalcFcs (window mem buf.offset 2)) :
    rfcParseData isInitiator portFcCredit frame mem buf =
      (.uih,
        { frame with
          cr := if initiator then 1 else 0
          dlci := dlci
          type := rfcommUih
          pf := if pf then 1 else 0
          credit := if pf then credit else 0 },
        { buf with offset := buf.offset + frameHeader.length, len := len }) := by
  have small : dlci < 64 := rfcommValidDlci_lt valid
  have checked : rfcCheckFcs (window mem buf.offset 2) (mem (buf.offset + frameHeader.length + len)) = true := by
    rw [fcs]
    exact rfcCheckFcs_rfcCalcFcs _
  subst built
  unfold uihFrameHeader at placed total checked ⊢
  rw [List.length_append] at placed
  rcases window_eq_append rfl placed with ⟨placed, creditBytes⟩
  rw [List.length_append] at placed
  rcases window_eq_append rfl placed with ⟨addressControl, lengthBytes⟩
  rcases window_eq_cons addressControl with ⟨address, rest⟩
  rcases window_eq_cons rest with ⟨controlByte, -⟩
  simp only [List.length_append, List.length_cons, List.length_nil] at total checked creditBytes lengthBytes ⊢
  rw [rfcParseData_header small fits address controlByte lengthBytes (by split at total <;> omega)]
  rcases uihControl_fields pf with ⟨uih, pfBit⟩
  rw [uih, pfBit]
  cases pf with
  | true =>
      simp only [if_true, List.length_singleton] at total checked creditBytes ⊢
      rcases window_eq_cons creditBytes with ⟨creditByte, -⟩
      have shifted : buf.offset + ((uihLengthField len).length + 2) = buf.offset + (0 + 1 + 1 + (uihLengthField len).length) := by
        omega
      rw [rfcParseInfo_credit rfl (data rfl) rfl valid
        (show buf.len = (uihLengthField len).length + 2 + 1 + len + 1 by omega) (by rwa [shifted]), shifted,
        creditByte]
      congr 3
  | false =>
      simp only [Bool.false_eq_true, if_false, List.length_nil] at total checked ⊢
      have shifted : buf.offset + ((uihLengthField len).length + 2) =
          buf.offset + (0 + 1 + 1 + (uihLengthField len).length + 0) := by
        omega
      rw [rfcParseInfo_plain rfl (show (0 : UInt8) ≠ 1 by decide) valid
        (show buf.len = (uihLengthField len).length + 2 + len + 1 by omega) (by rwa [shifted])]
      congr 3

end ParseUih

/-! ## What the parser reads

rfc_parse_data reads the header, the credit byte and the FCS only once the
length checks before each of them have passed, so every byte it reads lies
in the p_buf->len bytes at p_buf->offset. -/

section Reads

variable {isInitiator : Bool} {flow : UInt8} {frame : MxFrame} {mem mem' : Nat → UInt8} {start header len : Nat}
  {buf : BtHdr}

theorem rfcFrameEvent_congr {fcs : UInt8} (agree : ∀ i, start ≤ i → i < start + rfcommCtrlFrameLen → mem i = mem' i) :
    rfcFrameEvent isInitiator frame mem start len fcs = rfcFrameEvent isInitiator frame mem' start len fcs := by
  have pair : window mem start 2 = window mem' start 2 :=
    window_congr (fun i low high => agree i low (by unfold rfcommCtrlFrameLen; omega))
  unfold rfcFrameEvent
  rw [window_congr agree, pair]

theorem rfcParseInfo_congr (agree : ∀ i, start ≤ i → i < start + buf.len → mem i = mem' i)
    (long : rfcommCtrlFrameLen ≤ header) (room : header + 1 ≤ buf.len) :
    rfcParseInfo isInitiator flow frame mem start header len buf =
      rfcParseInfo isInitiator flow frame mem' start header len buf := by
  have event : ∀ frame fcs, rfcFrameEvent isInitiator frame mem start len fcs =
      rfcFrameEvent isInitiator frame mem' start len fcs := fun _ _ =>
    rfcFrameEvent_congr (fun i low high => agree i low (by omega))
  unfold rfcParseInfo
  dsimp only
  by_cases credit : flow = portFcCredit ∧ frame.type = rfcommUih ∧ frame.dlci ≠ rfcommMxDlci ∧ frame.pf = 1
  · rw [if_pos credit, if_pos credit]
    by_cases empty : buf.len - (header + 1) < 1
    · rw [if_pos empty, if_pos empty]
    rw [if_neg empty, if_neg empty, agree (start + header) (by omega) (by omega)]
    by_cases mismatch : buf.len - (header + 1) - 1 ≠ len
    · rw [if_pos mismatch, if_pos mismatch]
    rw [if_neg mismatch, if_neg mismatch, agree (start + header + 1 + len) (by omega) (by omega), event]
  · rw [if_neg credit, if_neg credit]
    by_cases mismatch : buf.len - (header + 1) ≠ len
    · rw [if_pos mismatch, if_pos mismatch]
    rw [if_neg mismatch, if_neg mismatch, agree (start + header + len) (by omega) (by omega), event]

/-- rfc_parse_data reads nothing outside the p_buf->len bytes of the buffer:
two memories that agree there give the same event, frame fields and buffer. -/
theorem rfcParseData_congr (agree : ∀ i, buf.offset ≤ i → i < buf.offset + buf.len → mem i = mem' i) :
    rfcParseData isInitiator flow frame mem buf = rfcParseData isInitiator flow frame mem' buf := by
  unfold rfcParseData
  dsimp only
  by_cases short : buf.len < rfcommCtrlFrameLen
  · rw [if_pos short, if_pos short]
  have three : 3 ≤ buf.len := by unfold rfcommCtrlFrameLen at short; omega
  rw [if_neg short, if_neg short, agree buf.offset (by omega) (by omega),
    agree (buf.offset + 1) (by omega) (by omega), agree (buf.offset + 2) (by omega) (by omega)]
  -- the header is three bytes long, or four when EA of the length byte is clear
  by_cases eal : mem' (buf.offset + 2) &&& rfcommEa = 0
  · by_cases bare : buf.len ≤ rfcommCtrlFrameLen
    · simp only [eal, bare, and_self, if_true]
    have four : 4 ≤ buf.len := by unfold rfcommCtrlFrameLen at bare; omega
    simp only [eal, bare, and_false, if_false, if_true, agree (buf.offset + 3) (by omega) (by omega)]
    split_ifs with ead tooShort
    · rfl
    · rfl
    · exact rfcParseInfo_congr agree (show rfcommCtrlFrameLen ≤ 4 by decide) (by omega)
  · simp only [eal, false_and, if_false]
    split_ifs with ead tooShort
    · rfl
    · rfl
    · exact rfcParseInfo_congr agree (show rfcommCtrlFrameLen ≤ 3 by decide) (by omega)

end Reads

/-! ## The frames the builders write, read back -/

section SendUih

variable {isInitiator : Bool} {dlci : UInt8} {mem : Nat → UInt8} {buf : BtHdr}

/-- A UIH header is three bytes, one more for a length above 127 and one more
for the credit byte. -/
theorem uihFrameHeader_length (address : UInt8) (pf : Bool) (len : Nat) (credit : UInt8) :
    (uihFrameHeader address pf len credit).length = 3 + (if 127 < len then 1 else 0) + (if pf then 1 else 0) := by
  unfold uihFrameHeader uihLengthField
  by_cases short : len ≤ 127
  · have one : ¬127 < len := by omega
    cases pf <;> simp [short, one]
  · have two : 127 < len := by omega
    cases pf <;> simp [short, two]

/-- rfc_send_buf_uih moves offset back by exactly the header it writes, so the
header ends where the payload starts; the payload is left as it is and the FCS
follows it. -/
theorem rfcSendBufUih_layout {frameHeader : List UInt8} {mem' : Nat → UInt8} {out : BtHdr}
    (built : uihFrameHeader (rfcAddress (rfcommCr isInitiator true) dlci) (uihCredits dlci buf.layerSpecific ≠ 0)
      buf.len (uihCredits dlci buf.layerSpecific) = frameHeader)
    (reserved : rfcommMinOffset ≤ buf.offset) (sent : rfcSendBufUih isInitiator dlci mem buf = (mem', out)) :
    out.offset + frameHeader.length = buf.offset ∧ out.len = frameHeader.length + buf.len + 1 ∧
      out.layerSpecific = buf.layerSpecific ∧
      window mem' out.offset frameHeader.length = frameHeader ∧
      window mem' buf.offset buf.len = window mem buf.offset buf.len ∧
      mem' (buf.offset + buf.len) = rfcCalcFcs (window mem' out.offset 2) := by
  have length := uihFrameHeader_length (rfcAddress (rfcommCr isInitiator true) dlci)
    (uihCredits dlci buf.layerSpecific ≠ 0) buf.len (uihCredits dlci buf.layerSpecific)
  simp only [built, decide_eq_true_eq] at length
  unfold rfcSendBufUih at sent
  dsimp only at sent
  rw [built, Prod.mk.injEq] at sent
  rcases sent with ⟨memEq, outEq⟩
  have inFront : out.offset + frameHeader.length = buf.offset := by
    rw [← outEq]
    dsimp only
    unfold rfcommMinOffset at reserved
    unfold rfcommCtrlFrameLen
    split_ifs at length ⊢ <;> omega
  have sized : out.len = frameHeader.length + buf.len + 1 := by
    rw [← outEq]
    dsimp only
    split_ifs at length ⊢ <;> omega
  subst memEq outEq
  exact ⟨inFront, sized, rfl, store_around _ _ rfcCalcFcs inFront (by simpa using sized) (by omega)⟩

/-- The frame rfc_send_buf_uih builds on a valid DLCI, for a payload a
two-byte length can carry, is read back by rfc_parse_data of either role under
credit-based flow control as a UIH frame with its DLCI and credits, and the
buffer is moved back onto the payload. -/
theorem rfcSendBufUih_accepted (receiver : Bool) (frame : MxFrame) (valid : rfcommValidDlci dlci = true)
    (reserved : rfcommMinOffset ≤ buf.offset) (fits : buf.len ≤ 32767) :
    rfcParseData receiver portFcCredit frame (rfcSendBufUih isInitiator dlci mem buf).1
        (rfcSendBufUih isInitiator dlci mem buf).2 =
      (.uih,
        { frame with
          cr := if isInitiator then 1 else 0
          dlci := dlci
          type := rfcommUih
          pf := if uihCredits dlci buf.layerSpecific ≠ 0 then 1 else 0
          credit := uihCredits dlci buf.layerSpecific },
        buf) := by
  generalize sentEq : rfcSendBufUih isInitiator dlci mem buf = sent
  rcases sent with ⟨mem', out⟩
  rcases rfcSendBufUih_layout rfl reserved sentEq with ⟨inFront, total, kept, placed, -, fcs⟩
  -- credits go only with frames of a data channel
  have data : decide (uihCredits dlci buf.layerSpecific ≠ 0) = true → dlci ≠ 0 := by
    intro credited zero
    simp [uihCredits, zero] at credited
  rw [rfcParseData_uihFrame rfl valid data (by omega) placed total (by rw [inFront]; exact fcs), inFront]
  by_cases credited : uihCredits dlci buf.layerSpecific = 0
  · simp [credited, kept]
  · simp [credited, kept]

/-- rfc_send_buf_uih leaves the payload as it is. -/
theorem rfcSendBufUih_payload (reserved : rfcommMinOffset ≤ buf.offset) :
    window (rfcSendBufUih isInitiator dlci mem buf).1 buf.offset buf.len = window mem buf.offset buf.len := by
  generalize sentEq : rfcSendBufUih isInitiator dlci mem buf = sent
  rcases sent with ⟨mem', out⟩
  exact (rfcSendBufUih_layout rfl reserved sentEq).2.2.2.2.1

/-- rfc_send_credit's frame on a data channel: a UIH frame with P/F set and an
empty information field, read back with its credits. -/
theorem rfcSendCredit_accepted (receiver : Bool) (frame : MxFrame) {credit : UInt8}
    (valid : rfcommValidDlci dlci = true) (data : dlci ≠ 0) :
    rfcParseData receiver portFcCredit frame (rfcSendCredit isInitiator dlci credit mem buf).1
        (rfcSendCredit isInitiator dlci credit mem buf).2 =
      (.uih, { frame with cr := if isInitiator then 1 else 0, dlci := dlci, type := rfcommUih, pf := 1, credit := credit },
        { buf with offset := l2capMinOffset + 4, len := 0 }) := by
  have built : uihFrameHeader (rfcAddress (rfcommCr isInitiator true) dlci) true 0 credit =
      [rfcAddress (rfcommCr isInitiator true) dlci, rfcommUih ||| rfcommPf, rfcommEa ||| 0, credit] := rfl
  rcases store_around mem [rfcAddress (rfcommCr isInitiator true) dlci, rfcommUih ||| rfcommPf, rfcommEa ||| 0, credit]
    rfcCalcFcs (show l2capMinOffset + 4 = l2capMinOffset + 4 from rfl) (show 4 = 4 + 0 from rfl) (by simp)
    with ⟨placed, -, fcs⟩
  unfold rfcSendCredit
  refine (rfcParseData_uihFrame built valid (fun _ => data) (by decide) placed rfl fcs).trans ?_
  rfl

end SendUih

/-- UIH framing round trips: a frame rfc_send_buf_uih builds on any valid DLCI
and for any payload up to 32767 bytes, and the credit frame rfc_send_credit
builds on any data channel, are read back by rfc_parse_data of either role
under credit-based flow control with their DLCI and credits, p_buf at the
payload, which is unchanged; and rfc_parse_data reads nothing outside the
p_buf->len bytes of any buffer. -/
theorem rfcParseData_rfcSendBufUih :
    (∀ (sender receiver : Bool) (dlci : UInt8) (mem : Nat → UInt8) (buf : BtHdr) (frame : MxFrame),
        rfcommValidDlci dlci = true → rfcommMinOffset ≤ buf.offset → buf.len ≤ 32767 →
        rfcParseData receiver portFcCredit frame (rfcSendBufUih sender dlci mem buf).1
            (rfcSendBufUih sender dlci mem buf).2 =
          (.uih,
            { frame with
              cr := if sender then 1 else 0
              dlci := dlci
              type := rfcommUih
              pf := if uihCredits dlci buf.layerSpecific ≠ 0 then 1 else 0
              credit := uihCredits dlci buf.layerSpecific },
            buf) ∧
        window (rfcSendBufUih sender dlci mem buf).1 buf.offset buf.len = window mem buf.offset buf.len) ∧
      (∀ (sender receiver : Bool) (dlci credit : UInt8) (mem : Nat → UInt8) (buf : BtHdr) (frame : MxFrame),
        rfcommValidDlci dlci = true → dlci ≠ 0 →
        rfcParseData receiver portFcCredit frame (rfcSendCredit sender dlci credit mem buf).1
            (rfcSendCredit sender dlci credit mem buf).2 =
          (.uih, { frame with cr := if sender then 1 else 0, dlci := dlci, type := rfcommUih, pf := 1, credit := credit },
            { buf with offset := l2capMinOffset + 4, len := 0 })) ∧
      (∀ (isInitiator : Bool) (flow : UInt8) (frame : MxFrame) (mem mem' : Nat → UInt8) (buf : BtHdr),
        (∀ i, buf.offset ≤ i → i < buf.offset + buf.len → mem i = mem' i) →
        rfcParseData isInitiator flow frame mem buf = rfcParseData isInitiator flow frame mem' buf) := by
  refine ⟨?_, ?_, ?_⟩
  · intro sender receiver dlci mem buf frame valid reserved fits
    exact ⟨rfcSendBufUih_accepted receiver frame valid reserved fits, rfcSendBufUih_payload reserved⟩
  · intro sender receiver dlci credit mem buf frame valid data
    exact rfcSendCredit_accepted receiver frame valid data
  · intro isInitiator flow frame mem mem' buf agree
    exact rfcParseData_congr agree

/-- A frame of 200 bytes with credits, from the initiator to the responder:
two length bytes and the credit byte. -/
theorem rfcParseData_rfcSendBufUih_long :
    rfcParseData false portFcCredit ⟨0, 0, 0, 0, 0⟩ (rfcSendBufUih true 2 (fun _ => 0) ⟨rfcommMinOffset, 200, 7⟩).1
        (rfcSendBufUih true 2 (fun _ => 0) ⟨rfcommMinOffset, 200, 7⟩).2 =
      (.uih, ⟨1, 2, rfcommUih, 1, 7⟩, ⟨rfcommMinOffset, 200, 7⟩) := by
  have accepted := (rfcParseData_rfcSendBufUih.1 true false 2 (fun _ => 0) ⟨rfcommMinOffset, 200, 7⟩ ⟨0, 0, 0, 0, 0⟩
    (by decide) (Nat.le_refl _) (by decide)).1
  exact accepted.trans (by decide)

end Rfcomm
end BluetoothStack
