import BluetoothStack.Library.ByteStream
import BluetoothStack.Library.FuelLoop

namespace BluetoothStack
namespace Avdt

open ByteStream FuelLoop

/-!
# AVDTP service capabilities

avdt_msg_bld_cfg (stack/avdt/avdt_msg.cc) writes the service capabilities of
an AvdtpSepConfig as information elements of a category byte, a length byte
and the parameters: media transport, reporting, the codec element, the
content protection element and delay reporting.  avdt_msg_prs_cfg reads the
elements of SET_CONFIGURATION, RECONFIGURE, GET_CAPABILITIES and
GET_ALL_CAPABILITIES messages back: it checks each length against the tables
of the category, sets the category's bit of psc_mask and copies the codec and
content protection information into the fixed-size arrays of the
configuration.

The parser reads memory from p through ByteStream's windows and writes the
arrays through writeInto?, which fails where C would write past the end of an
array.  The null check of p_cfg is left out: the model always has a
configuration to fill.
-/

def avdtCodecSize : Nat := 45
def avdtProtectSize : Nat := 90

def avdtCatTrans : UInt8 := 1
def avdtCatReport : UInt8 := 2
def avdtCatRecov : UInt8 := 3
def avdtCatProtect : UInt8 := 4
def avdtCatHdrcmp : UInt8 := 5
def avdtCatMux : UInt8 := 6
def avdtCatCodec : UInt8 := 7
def avdtCatDelayRpt : UInt8 := 8
def avdtCatMaxCur : UInt8 := avdtCatDelayRpt

def avdtPscTrans : UInt16 := (1 : UInt16) <<< (1 : UInt16)
def avdtPscReport : UInt16 := (1 : UInt16) <<< (2 : UInt16)
def avdtPscProtect : UInt16 := (1 : UInt16) <<< (4 : UInt16)
def avdtPscCodec : UInt16 := (1 : UInt16) <<< (7 : UInt16)
def avdtPscDelayRpt : UInt16 := (1 : UInt16) <<< (8 : UInt16)

def avdtLenCfgMin : Nat := 2

/-- avdt_msg_ie_len_min: AVDT_LEN_TRANS_MIN, _REPORT_, _RECOV_, _PROTECT_,
_HDRCMP_, _MUX_, _CODEC_ and _DELAY_RPT_MIN after the unused entry 0. -/
def avdtMsgIeLenMin : List Nat := [0, 0, 0, 3, 2, 1, 3, 2, 0]

/-- avdt_msg_ie_len_max, in the same order. -/
def avdtMsgIeLenMax : List Nat := [0, 0, 0, 3, 255, 1, 7, 255, 0]

def avdtErrLength : UInt8 := 0x11
def avdtErrCategory : UInt8 := 0x17
def avdtErrPayload : UInt8 := 0x18
def avdtErrRecovType : UInt8 := 0x22
def avdtErrMediaTrans : UInt8 := 0x23
def avdtErrRecovFmt : UInt8 := 0x25
def avdtErrRohcFmt : UInt8 := 0x26
def avdtErrCpFmt : UInt8 := 0x27
def avdtErrMuxFmt : UInt8 := 0x28
def avdtErrService : UInt8 := 0x80

/-- avdt_msg_ie_err, the error of an element whose length is out of range. -/
def avdtMsgIeErr : List UInt8 :=
  [0, avdtErrMediaTrans, avdtErrLength, avdtErrRecovFmt, avdtErrCpFmt, avdtErrRohcFmt, avdtErrMuxFmt,
    avdtErrService, avdtErrService]

def avdtSigGetcap : UInt8 := 2
def avdtSigSetconfig : UInt8 := 3
def avdtSigReconfig : UInt8 := 5
def avdtSigGetAllcap : UInt8 := 12

def avdtRecovRfc2733 : UInt8 := 1
def avdtRecovMrwsMin : UInt8 := 0x01
def avdtRecovMrwsMax : UInt8 := 0x18
def avdtRecovMnmpMin : UInt8 := 0x01
def avdtRecovMnmpMax : UInt8 := 0x18

/-- AvdtpSepConfig (include/avdt_api.h): the information arrays keep their
sizes by their type. -/
structure AvdtpSepConfig where
  codecInfo : Vector UInt8 avdtCodecSize
  protectInfo : Vector UInt8 avdtProtectSize
  numCodec : UInt8
  numProtect : UInt8
  pscMask : UInt16
  recovType : UInt8
  recovMrws : UInt8
  recovMnmp : UInt8
  hdrcmpMask : UInt8
  deriving DecidableEq, Repr

/-- The configuration AvdtpSepConfig() constructs and Reset() restores. -/
def AvdtpSepConfig.zero : AvdtpSepConfig :=
  ⟨Vector.replicate _ 0, Vector.replicate _ 0, 0, 0, 0, 0, 0, 0, 0⟩

/-! ## Building -/

/-- An element with no parameters, written when its bit of psc_mask is set. -/
def bldFlagElement (pscMask bit : UInt16) (cat : UInt8) : List UInt8 :=
  if pscMask &&& bit ≠ 0 then [cat, 0] else []

/-- The codec or the content protection element, written when there is one:
the category and then info[0] + 1 bytes of the array, from its length byte
on and at most the whole array (len is a uint8_t, so info[0] + 1 wraps at
255). -/
def bldInfoElement (count cat : UInt8) (info : List UInt8) (size : Nat) : List UInt8 :=
  if count ≠ 0 then cat :: info.take (min (info.headD 0 + 1).toNat size) else []

/-- avdt_msg_bld_cfg: the bytes written from *p. -/
def avdtMsgBldCfg (cfg : AvdtpSepConfig) : List UInt8 :=
  bldFlagElement cfg.pscMask avdtPscTrans avdtCatTrans ++
    bldFlagElement cfg.pscMask avdtPscReport avdtCatReport ++
    bldInfoElement cfg.numCodec avdtCatCodec cfg.codecInfo.toList avdtCodecSize ++
    bldInfoElement cfg.numProtect avdtCatProtect cfg.protectInfo.toList avdtProtectSize ++
    bldFlagElement cfg.pscMask avdtPscDelayRpt avdtCatDelayRpt

/-! ## Parsing -/

/-- What avdt_msg_prs_cfg keeps from one element to the next: the
configuration it fills, the last category read (returned in p_elem) and
protect_offset.  The guard on the content protection copy keeps
protect_offset at most AVDT_PROTECT_SIZE, so that the uint8_t never wraps. -/
structure PrsCfgState where
  cfg : AvdtpSepConfig
  elem : UInt8
  protectOffset : Nat
  deriving DecidableEq, Repr

/-- The flow of one element: past it by the given number of parameter bytes,
or out of the loop with an error code. -/
abbrev PrsCfgFlow := Flow (Nat × PrsCfgState) (UInt8 × PrsCfgState)

/-- The recovery element (its length is 3 by the tables). -/
def prsRecov (mem : Nat → UInt8) (pEnd p : Nat) (s : PrsCfgState) : PrsCfgFlow :=
  if pEnd - p < 3 then .exit (avdtErrPayload, s)
  else
    let cfg := { s.cfg with recovType := mem p, recovMrws := mem (p + 1), recovMnmp := mem (p + 2) }
    let s := { s with cfg := cfg }
    if cfg.recovType ≠ avdtRecovRfc2733 then .exit (avdtErrRecovType, s)
    else if cfg.recovMrws < avdtRecovMrwsMin ∨ avdtRecovMrwsMax < cfg.recovMrws ∨
        cfg.recovMnmp < avdtRecovMnmpMin ∨ avdtRecovMnmpMax < cfg.recovMnmp then
      .exit (avdtErrRecovFmt, s)
    else .next (3, s)

/-- The content protection element: its length and parameters are appended
to protect_info while they fit, and skipped otherwise. -/
def prsProtect (mem : Nat → UInt8) (pEnd p : Nat) (elemLen : UInt8) (s : PrsCfgState) : Option PrsCfgFlow :=
  let s := { s with cfg := { s.cfg with pscMask := s.cfg.pscMask &&& ~~~avdtPscProtect } }
  if pEnd < p + elemLen.toNat then some (.exit (avdtErrLength, s))
  else if elemLen.toNat + s.protectOffset < avdtProtectSize then do
    let info ← writeInto? s.cfg.protectInfo s.protectOffset [elemLen]
    let info ← writeInto? info (s.protectOffset + 1) (window mem p elemLen.toNat)
    some (.next (elemLen.toNat,
      { s with
        cfg := { s.cfg with numProtect := s.cfg.numProtect + 1, protectInfo := info }
        protectOffset := s.protectOffset + 1 + elemLen.toNat }))
  else some (.next (elemLen.toNat, s))

/-- The header compression element (its length is 1 by the tables). -/
def prsHdrcmp (mem : Nat → UInt8) (pEnd p : Nat) (s : PrsCfgState) : PrsCfgFlow :=
  if pEnd - p < 1 then .exit (avdtErrPayload, s)
  else .next (1, { s with cfg := { s.cfg with hdrcmpMask := mem p } })

/-- The codec element: its length goes to codec_info[0] and at most
AVDT_CODEC_SIZE - 1 parameter bytes after it; p moves past all of them. -/
def prsCodec (mem : Nat → UInt8) (pEnd p : Nat) (elemLen : UInt8) (s : PrsCfgState) : Option PrsCfgFlow :=
  let s := { s with cfg := { s.cfg with pscMask := s.cfg.pscMask &&& ~~~avdtPscCodec } }
  let tmp := if avdtCodecSize ≤ elemLen.toNat then avdtCodecSize - 1 else elemLen.toNat
  if pEnd < p + tmp then some (.exit (avdtErrLength, s))
  else do
    let info ← writeInto? s.cfg.codecInfo 0 [elemLen]
    let info ← writeInto? info 1 (window mem p tmp)
    some (.next (elemLen.toNat, { s with cfg := { s.cfg with numCodec := s.cfg.numCodec + 1, codecInfo := info } }))

/-- The body of the loop of avdt_msg_prs_cfg once the category s.elem and the
length elemLen are read, with p at the first parameter byte. -/
def prsCfgElement (mem : Nat → UInt8) (pEnd : Nat) (sigId : UInt8) (p : Nat) (elemLen : UInt8)
    (s : PrsCfgState) : Option PrsCfgFlow :=
  let elem := s.elem
  if elem = 0 ∨ avdtCatMaxCur < elem then
    -- a category newer than this code: refused in a configuration, skipped in capabilities
    if sigId = avdtSigSetconfig ∨ sigId = avdtSigReconfig then some (.exit (avdtErrCategory, s))
    else some (.next (elemLen.toNat, s))
  else if avdtMsgIeLenMax.getD elem.toNat 0 < elemLen.toNat ∨ elemLen.toNat < avdtMsgIeLenMin.getD elem.toNat 0 then
    some (.exit (avdtMsgIeErr.getD elem.toNat 0, s))
  else
    let s := { s with cfg := { s.cfg with pscMask := s.cfg.pscMask ||| 1 <<< elem.toUInt16 } }
    if elem = avdtCatRecov then some (prsRecov mem pEnd p s)
    else if elem = avdtCatProtect then prsProtect mem pEnd p elemLen s
    else if elem = avdtCatHdrcmp then some (prsHdrcmp mem pEnd p s)
    else if elem = avdtCatCodec then prsCodec mem pEnd p elemLen s
    else if elem = avdtCatDelayRpt then some (.next (0, s))
    else some (.next (elemLen.toNat, s))

/-- The loop of avdt_msg_prs_cfg from p to pEnd: the error code and the state
it leaves with, or none where a copy would write past an array. -/
def prsCfgLoop (mem : Nat → UInt8) (pEnd : Nat) (sigId : UInt8) (p : Nat) (s : PrsCfgState) :
    Option (UInt8 × PrsCfgState) :=
  if p < pEnd then
    if pEnd - p < avdtLenCfgMin then some (avdtErrPayload, s)
    else
      match prsCfgElement mem pEnd sigId (p + 2) (mem (p + 1)) { s with elem := mem p } with
      | none => none
      | some (.exit result) => some result
      | some (.next (advance, s)) => prsCfgLoop mem pEnd sigId (p + 2 + advance) s
  else some (0, s)
termination_by pEnd - p

/-- avdt_msg_prs_cfg on the len bytes at p: the error code, the element
returned in p_elem and the configuration filled. -/
def avdtMsgPrsCfg (cfg : AvdtpSepConfig) (mem : Nat → UInt8) (p len : Nat) (sigId : UInt8) :
    Option (UInt8 × UInt8 × AvdtpSepConfig) :=
  let s : PrsCfgState := ⟨{ cfg with pscMask := 0, numCodec := 0, numProtect := 0 }, 0, 0⟩
  (prsCfgLoop mem (p + len) sigId p s).map fun result => (result.1, result.2.elem, result.2.cfg)

/-! ## One element at a time -/

section Loop

variable {mem : Nat → UInt8} {pEnd : Nat} {sigId : UInt8} {p : Nat} {s : PrsCfgState}

theorem prsCfgLoop_done (stop : pEnd ≤ p) : prsCfgLoop mem pEnd sigId p s = some (0, s) := by
  rw [prsCfgLoop, if_neg (by omega)]

theorem prsCfgLoop_short (going : p < pEnd) (short : pEnd < p + avdtLenCfgMin) :
    prsCfgLoop mem pEnd sigId p s = some (avdtErrPayload, s) := by
  rw [prsCfgLoop, if_pos going, if_pos (by omega)]

/-- With room for a category and a length, the loop goes as the element does. -/
theorem prsCfgLoop_element (room : p + avdtLenCfgMin ≤ pEnd) :
    prsCfgLoop mem pEnd sigId p s =
      match prsCfgElement mem pEnd sigId (p + 2) (mem (p + 1)) { s with elem := mem p } with
      | none => none
      | some (.exit result) => some result
      | some (.next (advance, s)) => prsCfgLoop mem pEnd sigId (p + 2 + advance) s := by
  rw [prsCfgLoop, if_pos (by unfold avdtLenCfgMin at room; omega), if_neg (by omega)]

theorem prsCfgLoop_next {advance : Nat} {s' : PrsCfgState} (room : p + avdtLenCfgMin ≤ pEnd)
    (step : prsCfgElement mem pEnd sigId (p + 2) (mem (p + 1)) { s with elem := mem p } = some (.next (advance, s'))) :
    prsCfgLoop mem pEnd sigId p s = prsCfgLoop mem pEnd sigId (p + 2 + advance) s' := by
  rw [prsCfgLoop_element room, step]

end Loop

/-! ## Every copy stays inside its array -/

section Safety

variable {mem : Nat → UInt8} {pEnd p : Nat} {elemLen : UInt8} {s : PrsCfgState}

theorem prsProtect_isSome : (prsProtect mem pEnd p elemLen s).isSome := by
  unfold prsProtect
  dsimp only
  split_ifs with spills fits
  · rfl
  · -- the length byte at protect_offset, then the parameters after it
    rcases writeInto?_of_fits s.cfg.protectInfo (show s.protectOffset + [elemLen].length ≤ avdtProtectSize by
      simp only [List.length_singleton]; omega) with ⟨info, wrote, -⟩
    rcases writeInto?_of_fits info (show s.protectOffset + 1 + (window mem p elemLen.toNat).length ≤ avdtProtectSize by
      rw [window_length]; omega) with ⟨info', wrote', -⟩
    simp [wrote, wrote']
  · rfl

theorem prsCodec_isSome : (prsCodec mem pEnd p elemLen s).isSome := by
  unfold prsCodec
  dsimp only
  generalize tmpEq : (if avdtCodecSize ≤ elemLen.toNat then avdtCodecSize - 1 else elemLen.toNat) = tmp
  have small : tmp ≤ avdtCodecSize - 1 := by
    rw [← tmpEq]
    split <;> omega
  split_ifs with spills
  · rfl
  · rcases writeInto?_of_fits s.cfg.codecInfo (show 0 + [elemLen].length ≤ avdtCodecSize by
      rw [List.length_singleton]; decide) with ⟨info, wrote, -⟩
    rcases writeInto?_of_fits info (show 1 + (window mem p tmp).length ≤ avdtCodecSize by
      rw [window_length]; unfold avdtCodecSize at small ⊢; omega) with ⟨info', wrote', -⟩
    simp [wrote, wrote']

theorem prsCfgElement_isSome {sigId : UInt8} : (prsCfgElement mem pEnd sigId p elemLen s).isSome := by
  unfold prsCfgElement
  dsimp only
  split_ifs <;> simp [prsProtect_isSome, prsCodec_isSome]

theorem prsCfgLoop_isSome {sigId : UInt8} : (prsCfgLoop mem pEnd sigId p s).isSome := by
  fun_induction prsCfgLoop mem pEnd sigId p s with
  | case2 p s _ _ failed => exact absurd failed (Option.ne_none_iff_isSome.mpr prsCfgElement_isSome)
  | case4 _ _ _ _ _ _ _ ih => exact ih
  | _ => rfl

end Safety

/-! ## What the parser reads -/

section Reads

variable {mem mem' : Nat → UInt8} {pEnd p : Nat} {elemLen : UInt8} {s : PrsCfgState}

theorem prsRecov_congr (agree : ∀ i, p ≤ i → i < pEnd → mem i = mem' i) :
    prsRecov mem pEnd p s = prsRecov mem' pEnd p s := by
  unfold prsRecov
  by_cases short : pEnd - p < 3
  · rw [if_pos short, if_pos short]
  · rw [if_neg short, if_neg short, agree p (by omega) (by omega), agree (p + 1) (by omega) (by omega),
      agree (p + 2) (by omega) (by omega)]

theorem prsHdrcmp_congr (agree : ∀ i, p ≤ i → i < pEnd → mem i = mem' i) :
    prsHdrcmp mem pEnd p s = prsHdrcmp mem' pEnd p s := by
  unfold prsHdrcmp
  by_cases short : pEnd - p < 1
  · rw [if_pos short, if_pos short]
  · rw [if_neg short, if_neg short, agree p (by omega) (by omega)]

theorem prsProtect_congr (agree : ∀ i, p ≤ i → i < pEnd → mem i = mem' i) :
    prsProtect mem pEnd p elemLen s = prsProtect mem' pEnd p elemLen s := by
  unfold prsProtect
  by_cases spills : pEnd < p + elemLen.toNat
  · simp only [if_pos spills]
  · have same : window mem p elemLen.toNat = window mem' p elemLen.toNat :=
      window_congr fun i low high => agree i low (by omega)
    simp only [if_neg spills, same]

theorem prsCodec_congr (agree : ∀ i, p ≤ i → i < pEnd → mem i = mem' i) :
    prsCodec mem pEnd p elemLen s = prsCodec mem' pEnd p elemLen s := by
  unfold prsCodec
  dsimp only
  generalize (if avdtCodecSize ≤ elemLen.toNat then avdtCodecSize - 1 else elemLen.toNat) = tmp
  by_cases spills : pEnd < p + tmp
  · simp only [if_pos spills]
  · have same : window mem p tmp = window mem' p tmp :=
      window_congr fun i low high => agree i low (by omega)
    simp only [if_neg spills, same]

theorem prsCfgElement_congr {sigId : UInt8} (agree : ∀ i, p ≤ i → i < pEnd → mem i = mem' i) :
    prsCfgElement mem pEnd sigId p elemLen s = prsCfgElement mem' pEnd sigId p elemLen s := by
  unfold prsCfgElement
  simp only [prsRecov_congr agree, prsProtect_congr agree, prsHdrcmp_congr agree, prsCodec_congr agree]

/-- The element the loop reads at p, with its category and length. -/
theorem prsCfgElement_at_congr {sigId : UInt8} (room : p + avdtLenCfgMin ≤ pEnd)
    (agree : ∀ i, p ≤ i → i < pEnd → mem i = mem' i) :
    prsCfgElement mem' pEnd sigId (p + 2) (mem' (p + 1)) { s with elem := mem' p } =
      prsCfgElement mem pEnd sigId (p + 2) (mem (p + 1)) { s with elem := mem p } := by
  unfold avdtLenCfgMin at room
  rw [← agree p (by omega) (by omega), ← agree (p + 1) (by omega) (by omega),
    prsCfgElement_congr fun i low high => agree i (by omega) high]

/-- The loop reads nothing outside the bytes from p to pEnd. -/
theorem prsCfgLoop_congr {sigId : UInt8} (agree : ∀ i, p ≤ i → i < pEnd → mem i = mem' i) :
    prsCfgLoop mem pEnd sigId p s = prsCfgLoop mem' pEnd sigId p s := by
  fun_induction prsCfgLoop mem pEnd sigId p s with
  | case1 p s going short => rw [prsCfgLoop_short going (by omega)]
  | case2 p s going long failed =>
      rw [prsCfgLoop_element (by omega), prsCfgElement_at_congr (by omega) agree, failed]
  | case3 p s going long result left =>
      rw [prsCfgLoop_element (by omega), prsCfgElement_at_congr (by omega) agree, left]
  | case4 p s going long advance s' next ih =>
      rw [ih fun i low high => agree i (by omega) high]
      exact (prsCfgLoop_next (by omega) ((prsCfgElement_at_congr (by omega) agree).trans next)).symm
  | case5 p s stop => rw [prsCfgLoop_done (by omega)]

end Reads

/-- avdt_msg_prs_cfg returns for every input, and no copy it makes writes
past codec_info or protect_info. -/
theorem avdtMsgPrsCfg_isSome (cfg : AvdtpSepConfig) (mem : Nat → UInt8) (p len : Nat) (sigId : UInt8) :
    (avdtMsgPrsCfg cfg mem p len sigId).isSome := by
  rw [avdtMsgPrsCfg, Option.isSome_map]
  exact prsCfgLoop_isSome

/-- avdt_msg_prs_cfg reads nothing but the len bytes from p. -/
theorem avdtMsgPrsCfg_congr (cfg : AvdtpSepConfig) {mem mem' : Nat → UInt8} {p len : Nat} (sigId : UInt8)
    (agree : ∀ i, p ≤ i → i < p + len → mem i = mem' i) :
    avdtMsgPrsCfg cfg mem p len sigId = avdtMsgPrsCfg cfg mem' p len sigId := by
  rw [avdtMsgPrsCfg, avdtMsgPrsCfg, prsCfgLoop_congr agree]

/-! ## The elements avdt_msg_bld_cfg writes -/

namespace PrsCfgState

/-- The state after an element with no parameters. -/
def flagged (s : PrsCfgState) (cat : UInt8) : PrsCfgState :=
  { s with elem := cat, cfg := { s.cfg with pscMask := s.cfg.pscMask ||| 1 <<< cat.toUInt16 } }

/-- The state after a codec element copied into info. -/
def withCodec (s : PrsCfgState) (info : Vector UInt8 avdtCodecSize) : PrsCfgState :=
  { s with
    elem := avdtCatCodec
    cfg := { s.cfg with
      pscMask := (s.cfg.pscMask ||| 1 <<< avdtCatCodec.toUInt16) &&& ~~~avdtPscCodec
      numCodec := s.cfg.numCodec + 1
      codecInfo := info } }

/-- The state after a content protection element of length len copied into info. -/
def withProtect (s : PrsCfgState) (len : UInt8) (info : Vector UInt8 avdtProtectSize) : PrsCfgState :=
  { s with
    elem := avdtCatProtect
    cfg := { s.cfg with
      pscMask := (s.cfg.pscMask ||| 1 <<< avdtCatProtect.toUInt16) &&& ~~~avdtPscProtect
      numProtect := s.cfg.numProtect + 1
      protectInfo := info }
    protectOffset := s.protectOffset + 1 + len.toNat }

end PrsCfgState

section Elements

variable {mem : Nat → UInt8} {pEnd : Nat} {sigId : UInt8} {p : Nat} {s : PrsCfgState}

theorem prsCfgElement_flag {cat : UInt8} (flag : cat = avdtCatTrans ∨ cat = avdtCatReport ∨ cat = avdtCatDelayRpt) :
    prsCfgElement mem pEnd sigId p 0 { s with elem := cat } = some (.next (0, s.flagged cat)) := by
  rcases flag with rfl | rfl | rfl <;> rfl

/-- A codec element with its parameters inside the message and shorter than
codec_info is copied whole. -/
theorem prsCodec_of_fits (mem : Nat → UInt8) (s : PrsCfgState) {len : UInt8} (fits : len.toNat < avdtCodecSize) (room : p + len.toNat ≤ pEnd) :
    ∃ info : Vector UInt8 avdtCodecSize,
      info.toList = len :: window mem p len.toNat ++ s.cfg.codecInfo.toList.drop (len.toNat + 1) ∧
      prsCodec mem pEnd p len s =
        some (.next (len.toNat, { s with cfg := { s.cfg with
          pscMask := s.cfg.pscMask &&& ~~~avdtPscCodec
          numCodec := s.cfg.numCodec + 1
          codecInfo := info } })) := by
  rcases writeInto?_pair s.cfg.codecInfo len (show 0 + 1 + (window mem p len.toNat).length ≤ avdtCodecSize by
    rw [window_length]; omega) with ⟨info, infoList, wrote⟩
  refine ⟨info, ?_, ?_⟩
  · rw [infoList, window_length]
    simp [Nat.add_comm]
  · unfold prsCodec
    simp only [if_neg (show ¬avdtCodecSize ≤ len.toNat by omega), if_neg (show ¬pEnd < p + len.toNat by omega)]
    exact wrote _

theorem prsCfgElement_codec (mem : Nat → UInt8) (sigId : UInt8) (s : PrsCfgState) {len : UInt8} (short : 2 ≤ len.toNat)
    (fits : len.toNat < avdtCodecSize) (room : p + len.toNat ≤ pEnd) :
    ∃ info : Vector UInt8 avdtCodecSize,
      info.toList = len :: window mem p len.toNat ++ s.cfg.codecInfo.toList.drop (len.toNat + 1) ∧
      prsCfgElement mem pEnd sigId p len { s with elem := avdtCatCodec } = some (.next (len.toNat, s.withCodec info)) := by
  rcases prsCodec_of_fits mem
    { s with elem := avdtCatCodec, cfg := { s.cfg with pscMask := s.cfg.pscMask ||| 1 <<< avdtCatCodec.toUInt16 } }
    fits room with ⟨info, infoList, parsed⟩
  refine ⟨info, infoList, ?_⟩
  have known : ¬(avdtCatCodec = 0 ∨ avdtCatMaxCur < avdtCatCodec) := by decide
  have inRange : ¬(avdtMsgIeLenMax.getD avdtCatCodec.toNat 0 < len.toNat ∨
      len.toNat < avdtMsgIeLenMin.getD avdtCatCodec.toNat 0) := by
    have := len.toNat_lt
    simp only [avdtMsgIeLenMax, avdtMsgIeLenMin, avdtCatCodec]
    simp
    omega
  unfold prsCfgElement
  dsimp only
  rw [if_neg known, if_neg inRange, if_neg (by decide : avdtCatCodec ≠ avdtCatRecov),
    if_neg (by decide : avdtCatCodec ≠ avdtCatProtect), if_neg (by decide : avdtCatCodec ≠ avdtCatHdrcmp),
    if_pos rfl]
  exact parsed

/-- A content protection element inside the message that fits after
protect_offset is appended to protect_info. -/
theorem prsProtect_of_fits (mem : Nat → UInt8) (s : PrsCfgState) {len : UInt8}
    (fits : len.toNat + s.protectOffset < avdtProtectSize) (room : p + len.toNat ≤ pEnd) :
    ∃ info : Vector UInt8 avdtProtectSize,
      info.toList = s.cfg.protectInfo.toList.take s.protectOffset ++ len :: window mem p len.toNat ++
        s.cfg.protectInfo.toList.drop (s.protectOffset + 1 + len.toNat) ∧
      prsProtect mem pEnd p len s =
        some (.next (len.toNat, { s with
          cfg := { s.cfg with
            pscMask := s.cfg.pscMask &&& ~~~avdtPscProtect
            numProtect := s.cfg.numProtect + 1
            protectInfo := info }
          protectOffset := s.protectOffset + 1 + len.toNat })) := by
  rcases writeInto?_pair s.cfg.protectInfo len (show s.protectOffset + 1 + (window mem p len.toNat).length ≤
    avdtProtectSize by rw [window_length]; omega) with ⟨info, infoList, wrote⟩
  refine ⟨info, ?_, ?_⟩
  · rw [infoList, window_length]
  · unfold prsProtect
    simp only [if_neg (show ¬pEnd < p + len.toNat by omega), if_pos fits]
    exact wrote _

theorem prsCfgElement_protect (mem : Nat → UInt8) (sigId : UInt8) (s : PrsCfgState) {len : UInt8} (short : 2 ≤ len.toNat)
    (fits : len.toNat + s.protectOffset < avdtProtectSize) (room : p + len.toNat ≤ pEnd) :
    ∃ info : Vector UInt8 avdtProtectSize,
      info.toList = s.cfg.protectInfo.toList.take s.protectOffset ++ len :: window mem p len.toNat ++
        s.cfg.protectInfo.toList.drop (s.protectOffset + 1 + len.toNat) ∧
      prsCfgElement mem pEnd sigId p len { s with elem := avdtCatProtect } =
        some (.next (len.toNat, s.withProtect len info)) := by
  rcases prsProtect_of_fits mem
    { s with elem := avdtCatProtect, cfg := { s.cfg with pscMask := s.cfg.pscMask ||| 1 <<< avdtCatProtect.toUInt16 } }
    fits room with ⟨info, infoList, parsed⟩
  refine ⟨info, infoList, ?_⟩
  have known : ¬(avdtCatProtect = 0 ∨ avdtCatMaxCur < avdtCatProtect) := by decide
  have inRange : ¬(avdtMsgIeLenMax.getD avdtCatProtect.toNat 0 < len.toNat ∨
      len.toNat < avdtMsgIeLenMin.getD avdtCatProtect.toNat 0) := by
    have := len.toNat_lt
    simp only [avdtMsgIeLenMax, avdtMsgIeLenMin, avdtCatProtect]
    simp
    omega
  unfold prsCfgElement
  dsimp only
  rw [if_neg known, if_neg inRange, if_neg (by decide : avdtCatProtect ≠ avdtCatRecov), if_pos rfl]
  exact parsed

/-- The loop over a media transport, reporting or delay reporting element
of avdt_msg_bld_cfg, present or not. -/
theorem prsCfgLoop_bldFlagElement {pscMask bit : UInt16} {cat : UInt8}
    (flag : cat = avdtCatTrans ∨ cat = avdtCatReport ∨ cat = avdtCatDelayRpt)
    (placed : window mem p (bldFlagElement pscMask bit cat).length = bldFlagElement pscMask bit cat)
    (room : p + (bldFlagElement pscMask bit cat).length ≤ pEnd) :
    prsCfgLoop mem pEnd sigId p s =
      prsCfgLoop mem pEnd sigId (p + (bldFlagElement pscMask bit cat).length)
        (if pscMask &&& bit ≠ 0 then s.flagged cat else s) := by
  unfold bldFlagElement at placed room ⊢
  by_cases set : pscMask &&& bit ≠ 0
  · simp only [if_pos set, List.length_cons, List.length_nil] at placed room ⊢
    rcases window_eq_cons placed with ⟨first, rest⟩
    rcases window_eq_cons rest with ⟨second, -⟩
    have step : prsCfgElement mem pEnd sigId (p + 2) (mem (p + 1)) { s with elem := mem p } =
        some (.next (0, s.flagged cat)) := by
      rw [first, second]
      exact prsCfgElement_flag flag
    exact prsCfgLoop_next (by unfold avdtLenCfgMin; omega) step
  · simp only [if_neg set, List.length_nil, Nat.add_zero]

/-- A codec or content protection element whose length byte is below the
array's size: the category, the length byte and that many bytes after it. -/
theorem bldInfoElement_of_fits {count cat : UInt8} {size : Nat} {info : Vector UInt8 size} (nonempty : 0 < size)
    (small : size ≤ 256) (present : count ≠ 0) (fits : info[0].toNat + 1 < size) :
    bldInfoElement count cat info.toList size = cat :: info[0] :: info.toList.tail.take info[0].toNat := by
  have wraps : (info[0] + 1).toNat = info[0].toNat + 1 := by
    rw [UInt8.toNat_add, UInt8.toNat_one]
    exact Nat.mod_eq_of_lt (by omega)
  rw [bldInfoElement, if_pos present, toList_eq_cons_getElem info nonempty, List.headD_cons, wraps,
    Nat.min_eq_left (by omega), List.take_succ_cons, List.tail_cons]

/-- The loop over the codec element of avdt_msg_bld_cfg, present or not:
codec_info is copied back when its length byte is at least
AVDT_LEN_CODEC_MIN and below AVDT_CODEC_SIZE - 1. -/
theorem prsCfgLoop_bldCodecElement (sigId : UInt8) (s : PrsCfgState) {count : UInt8} {info : Vector UInt8 avdtCodecSize}
    (short : count ≠ 0 → 2 ≤ info[0].toNat ∧ info[0].toNat + 1 ≤ avdtCodecSize - 1)
    (placed : window mem p (bldInfoElement count avdtCatCodec info.toList avdtCodecSize).length =
      bldInfoElement count avdtCatCodec info.toList avdtCodecSize)
    (room : p + (bldInfoElement count avdtCatCodec info.toList avdtCodecSize).length ≤ pEnd) :
    ∃ copied : Vector UInt8 avdtCodecSize,
      (count ≠ 0 → copied.toList.take (info[0].toNat + 1) = info.toList.take (info[0].toNat + 1)) ∧
      prsCfgLoop mem pEnd sigId p s =
        prsCfgLoop mem pEnd sigId (p + (bldInfoElement count avdtCatCodec info.toList avdtCodecSize).length)
          (if count ≠ 0 then s.withCodec copied else s) := by
  by_cases present : count ≠ 0
  · rcases short present with ⟨long, fits⟩
    rw [bldInfoElement_of_fits (by decide) (by decide) present (by omega)] at placed room ⊢
    simp only [List.length_cons, List.length_take, List.length_tail, Vector.length_toList] at placed room ⊢
    rw [Nat.min_eq_left (by unfold avdtCodecSize at fits ⊢; omega)] at placed room ⊢
    rcases window_eq_cons placed with ⟨first, rest⟩
    rcases window_eq_cons rest with ⟨second, params⟩
    rcases prsCfgElement_codec mem sigId s long (by omega) (show p + 1 + 1 + info[0].toNat ≤ pEnd by omega)
      with ⟨copied, copiedList, parsed⟩
    refine ⟨copied, fun _ => ?_, ?_⟩
    · have length : (info.toList.tail.take info[0].toNat).length = info[0].toNat := by
        simp only [List.length_take, List.length_tail, Vector.length_toList]
        unfold avdtCodecSize at fits ⊢
        omega
      rw [copiedList, params, toList_eq_cons_getElem info (by decide)]
      simp [length]
    · have step : prsCfgElement mem pEnd sigId (p + 2) (mem (p + 1)) { s with elem := mem p } =
          some (.next (info[0].toNat, s.withCodec copied)) := by
        rw [first, second]
        exact parsed
      rw [if_pos present, prsCfgLoop_next (by unfold avdtLenCfgMin; omega) step]
      congr 1
      omega
  · refine ⟨s.cfg.codecInfo, fun absent => absurd absent present, ?_⟩
    rw [bldInfoElement, if_neg present, if_neg present, List.length_nil, Nat.add_zero]

/-- The loop over the content protection element of avdt_msg_bld_cfg,
present or not, as the first one: protect_info is copied back when its
length byte is at least AVDT_LEN_PROTECT_MIN and below AVDT_PROTECT_SIZE - 1. -/
theorem prsCfgLoop_bldProtectElement (sigId : UInt8) (s : PrsCfgState) {count : UInt8} {info : Vector UInt8 avdtProtectSize}
    (start : s.protectOffset = 0)
    (short : count ≠ 0 → 2 ≤ info[0].toNat ∧ info[0].toNat + 1 < avdtProtectSize)
    (placed : window mem p (bldInfoElement count avdtCatProtect info.toList avdtProtectSize).length =
      bldInfoElement count avdtCatProtect info.toList avdtProtectSize)
    (room : p + (bldInfoElement count avdtCatProtect info.toList avdtProtectSize).length ≤ pEnd) :
    ∃ copied : Vector UInt8 avdtProtectSize,
      (count ≠ 0 → copied.toList.take (info[0].toNat + 1) = info.toList.take (info[0].toNat + 1)) ∧
      prsCfgLoop mem pEnd sigId p s =
        prsCfgLoop mem pEnd sigId (p + (bldInfoElement count avdtCatProtect info.toList avdtProtectSize).length)
          (if count ≠ 0 then s.withProtect info[0] copied else s) := by
  by_cases present : count ≠ 0
  · rcases short present with ⟨long, fits⟩
    rw [bldInfoElement_of_fits (by decide) (by decide) present fits] at placed room ⊢
    simp only [List.length_cons, List.length_take, List.length_tail, Vector.length_toList] at placed room ⊢
    rw [Nat.min_eq_left (by unfold avdtProtectSize at fits ⊢; omega)] at placed room ⊢
    rcases window_eq_cons placed with ⟨first, rest⟩
    rcases window_eq_cons rest with ⟨second, params⟩
    rcases prsCfgElement_protect mem sigId s long (by omega) (show p + 1 + 1 + info[0].toNat ≤ pEnd by omega)
      with ⟨copied, copiedList, parsed⟩
    refine ⟨copied, fun _ => ?_, ?_⟩
    · have length : (info.toList.tail.take info[0].toNat).length = info[0].toNat := by
        simp only [List.length_take, List.length_tail, Vector.length_toList]
        unfold avdtProtectSize at fits ⊢
        omega
      rw [copiedList, params, start, toList_eq_cons_getElem info (by decide)]
      simp [length]
    · have step : prsCfgElement mem pEnd sigId (p + 2) (mem (p + 1)) { s with elem := mem p } =
          some (.next (info[0].toNat, s.withProtect info[0] copied)) := by
        rw [first, second]
        exact parsed
      rw [if_pos present, prsCfgLoop_next (by unfold avdtLenCfgMin; omega) step]
      congr 1
      omega
  · refine ⟨s.cfg.protectInfo, fun absent => absurd absent present, ?_⟩
    rw [bldInfoElement, if_neg present, if_neg present, List.length_nil, Nat.add_zero]

/-- A codec element shorter than AVDT_LEN_CODEC_MIN stops the loop with
AVDT_ERR_SERVICE. -/
theorem prsCfgLoop_short_codec {len : UInt8} (short : len.toNat < 2)
    (placed : window mem p 2 = [avdtCatCodec, len]) (room : p + 2 ≤ pEnd) :
    prsCfgLoop mem pEnd sigId p s = some (avdtErrService, { s with elem := avdtCatCodec }) := by
  rcases window_eq_cons placed with ⟨first, rest⟩
  rcases window_eq_cons rest with ⟨second, -⟩
  have known : ¬(avdtCatCodec = 0 ∨ avdtCatMaxCur < avdtCatCodec) := by decide
  have outOfRange : avdtMsgIeLenMax.getD avdtCatCodec.toNat 0 < len.toNat ∨
      len.toNat < avdtMsgIeLenMin.getD avdtCatCodec.toNat 0 := Or.inr short
  rw [prsCfgLoop_element (by unfold avdtLenCfgMin; omega), first, second]
  simp only [prsCfgElement, if_neg known, if_pos outOfRange]
  rfl

end Elements

/-! ## Round trip -/

/-- The bits of psc_mask that avdt_msg_bld_cfg writes elements for, one by one. -/
theorem pscMask_built (m : UInt16) :
    m &&& (avdtPscTrans ||| avdtPscReport ||| avdtPscDelayRpt) =
      (if m &&& avdtPscTrans ≠ 0 then avdtPscTrans else 0) |||
        (if m &&& avdtPscReport ≠ 0 then avdtPscReport else 0) |||
        (if m &&& avdtPscDelayRpt ≠ 0 then avdtPscDelayRpt else 0) := by
  have trans : avdtPscTrans = 1 <<< (1 : Nat).toUInt16 := by decide
  have report : avdtPscReport = 1 <<< (2 : Nat).toUInt16 := by decide
  have delay : avdtPscDelayRpt = 1 <<< (8 : Nat).toUInt16 := by decide
  rw [and_or_distrib, and_or_distrib, trans, report, delay]
  rcases and_bit m (show 1 < 16 by decide) with t | t <;> rcases and_bit m (show 2 < 16 by decide) with r | r <;>
    rcases and_bit m (show 8 < 16 by decide) with d | d <;> rw [t, r, d] <;> decide

/-- A count of at most one that the parser counts from zero. -/
theorem count_of_le_one {count : UInt8} (one : count ≤ 1) : (if count ≠ 0 then (0 : UInt8) + 1 else 0) = count := by
  by_cases zero : count = 0
  · rw [if_neg (not_not.mpr zero), zero]
  · rw [if_pos zero]
    have small : count.toNat ≤ 1 := UInt8.le_iff_toNat_le.mp one
    have nonzero : count.toNat ≠ 0 := fun same => zero (UInt8.toNat_inj.mp same)
    apply UInt8.toNat_inj.mp
    simp
    omega

/-- The parser reads back what avdt_msg_bld_cfg writes, for at most one codec
and one content protection element whose length bytes pass the parser's
minimum and leave room in the arrays. -/
theorem avdtMsgPrsCfg_avdtMsgBldCfg (cfg target : AvdtpSepConfig) (mem : Nat → UInt8) (p : Nat) (sigId : UInt8)
    (oneCodec : cfg.numCodec ≤ 1) (oneProtect : cfg.numProtect ≤ 1)
    (codecLength : cfg.numCodec ≠ 0 → 2 ≤ cfg.codecInfo[0].toNat ∧ cfg.codecInfo[0].toNat + 1 ≤ avdtCodecSize - 1)
    (protectLength : cfg.numProtect ≠ 0 → 2 ≤ cfg.protectInfo[0].toNat ∧ cfg.protectInfo[0].toNat + 1 < avdtProtectSize)
    (placed : window mem p (avdtMsgBldCfg cfg).length = avdtMsgBldCfg cfg) :
    ∃ elem parsed, avdtMsgPrsCfg target mem p (avdtMsgBldCfg cfg).length sigId = some (0, elem, parsed) ∧
      parsed.pscMask = cfg.pscMask &&& (avdtPscTrans ||| avdtPscReport ||| avdtPscDelayRpt) ∧
      parsed.numCodec = cfg.numCodec ∧ parsed.numProtect = cfg.numProtect ∧
      (cfg.numCodec ≠ 0 → parsed.codecInfo.toList.take (cfg.codecInfo[0].toNat + 1) =
        cfg.codecInfo.toList.take (cfg.codecInfo[0].toNat + 1)) ∧
      (cfg.numProtect ≠ 0 → parsed.protectInfo.toList.take (cfg.protectInfo[0].toNat + 1) =
        cfg.protectInfo.toList.take (cfg.protectInfo[0].toNat + 1)) := by
  obtain ⟨total, built⟩ : ∃ total, (avdtMsgBldCfg cfg).length = total := ⟨_, rfl⟩
  rw [built] at placed ⊢
  unfold avdtMsgBldCfg at built placed
  simp only [List.length_append] at built
  -- the five elements, each at its place
  rw [← built] at placed
  rcases window_eq_append (by simp only [List.length_append]) placed with ⟨placed, placedDelay⟩
  rcases window_eq_append (by simp only [List.length_append]) placed with ⟨placed, placedProtect⟩
  rcases window_eq_append (by simp only [List.length_append]) placed with ⟨placed, placedCodec⟩
  rcases window_eq_append rfl placed with ⟨placedTrans, placedReport⟩
  simp only [← Nat.add_assoc] at placedCodec placedProtect placedDelay
  set s0 : PrsCfgState := ⟨{ target with pscMask := 0, numCodec := 0, numProtect := 0 }, 0, 0⟩
  set s1 := if cfg.pscMask &&& avdtPscTrans ≠ 0 then s0.flagged avdtCatTrans else s0
  set s2 := if cfg.pscMask &&& avdtPscReport ≠ 0 then s1.flagged avdtCatReport else s1
  rcases prsCfgLoop_bldCodecElement sigId s2 codecLength placedCodec (show _ ≤ p + total by omega)
    with ⟨codecCopy, codecCopied, codecLoop⟩
  set s3 := if cfg.numCodec ≠ 0 then s2.withCodec codecCopy else s2
  have start : s3.protectOffset = 0 := by
    simp only [s3, s2, s1, s0, apply_ite PrsCfgState.protectOffset, PrsCfgState.withCodec, PrsCfgState.flagged,
      ite_self]
  rcases prsCfgLoop_bldProtectElement sigId s3 start protectLength placedProtect (show _ ≤ p + total by omega)
    with ⟨protectCopy, protectCopied, protectLoop⟩
  set s4 := if cfg.numProtect ≠ 0 then s3.withProtect cfg.protectInfo[0] protectCopy else s3
  set s5 := if cfg.pscMask &&& avdtPscDelayRpt ≠ 0 then s4.flagged avdtCatDelayRpt else s4
  have run : prsCfgLoop mem (p + total) sigId p s0 = some (0, s5) := by
    rw [prsCfgLoop_bldFlagElement (Or.inl rfl) placedTrans (by omega),
      prsCfgLoop_bldFlagElement (Or.inr (Or.inl rfl)) placedReport (by omega), codecLoop, protectLoop,
      prsCfgLoop_bldFlagElement (Or.inr (Or.inr rfl)) placedDelay (by omega), prsCfgLoop_done (by omega)]
  refine ⟨s5.elem, s5.cfg, by rw [avdtMsgPrsCfg, run]; rfl, ?_, ?_, ?_, fun present => ?_, fun present => ?_⟩
  · simp only [s5, s4, s3, s2, s1, s0, apply_ite PrsCfgState.cfg, apply_ite AvdtpSepConfig.pscMask,
      PrsCfgState.flagged, PrsCfgState.withCodec, PrsCfgState.withProtect]
    rw [pscMask_built]
    split_ifs <;> decide
  · simp only [s5, s4, s3, s2, s1, s0, apply_ite PrsCfgState.cfg, apply_ite AvdtpSepConfig.numCodec,
      PrsCfgState.flagged, PrsCfgState.withCodec, PrsCfgState.withProtect, ite_self]
    exact count_of_le_one oneCodec
  · simp only [s5, s4, s3, s2, s1, s0, apply_ite PrsCfgState.cfg, apply_ite AvdtpSepConfig.numProtect,
      PrsCfgState.flagged, PrsCfgState.withCodec, PrsCfgState.withProtect, ite_self]
    exact count_of_le_one oneProtect
  · simp only [s5, s4, s3, apply_ite PrsCfgState.cfg, apply_ite AvdtpSepConfig.codecInfo,
      PrsCfgState.flagged, PrsCfgState.withCodec, PrsCfgState.withProtect, ite_self, if_pos present]
    exact codecCopied present
  · simp only [s5, s4, apply_ite PrsCfgState.cfg, apply_ite AvdtpSepConfig.protectInfo,
      PrsCfgState.flagged, PrsCfgState.withProtect, ite_self, if_pos present]
    exact protectCopied present

/-- Outside the bounds of the round trip the parser does not read back what
the builder wrote: for a codec_info of length 0 the builder writes a codec
element with no parameters, which the parser refuses; and for two codecs and
two content protection elements it writes one element of each, which the
parser reads back as one of each. -/
theorem avdtMsgPrsCfg_misreads_outside_bounds :
    ({ AvdtpSepConfig.zero with numCodec := 1 } : AvdtpSepConfig).codecInfo[0].toNat + 1 ≤ avdtCodecSize - 1 ∧
      ({ AvdtpSepConfig.zero with numCodec := 1 } : AvdtpSepConfig).protectInfo[0].toNat + 1 < avdtProtectSize ∧
      avdtMsgBldCfg { AvdtpSepConfig.zero with numCodec := 1 } = [avdtCatCodec, 0] ∧
      (avdtMsgPrsCfg AvdtpSepConfig.zero (fun i => [avdtCatCodec, 0].getD i 0) 0 2 avdtSigSetconfig).map Prod.fst =
        some avdtErrService ∧
    let twice : AvdtpSepConfig :=
      { AvdtpSepConfig.zero with
        numCodec := 2, numProtect := 2
        codecInfo := AvdtpSepConfig.zero.codecInfo.set 0 2
        protectInfo := AvdtpSepConfig.zero.protectInfo.set 0 2 }
    avdtMsgBldCfg twice = [avdtCatCodec, 2, 0, 0, avdtCatProtect, 2, 0, 0] ∧
      (avdtMsgPrsCfg AvdtpSepConfig.zero (fun i => (avdtMsgBldCfg twice).getD i 0) 0 8 avdtSigSetconfig).map
        (fun parsed => (parsed.1, parsed.2.2.numCodec, parsed.2.2.numProtect)) = some (0, 1, 1) := by
  have refused : (avdtMsgPrsCfg AvdtpSepConfig.zero (fun i => [avdtCatCodec, 0].getD i 0) 0 2
      avdtSigSetconfig).map Prod.fst = some avdtErrService := by
    rw [avdtMsgPrsCfg, prsCfgLoop_short_codec (show (0 : UInt8).toNat < 2 by decide) (by decide) (by omega)]
    rfl
  -- the loop is well-founded recursion, which only the kernel evaluates
  exact ⟨by decide, by decide, by decide, refused, by decide, by decide +kernel⟩

/-- avdt_msg_prs_cfg reads back what avdt_msg_bld_cfg writes, in every
message and for every configuration of at most one codec and one content
protection element whose length bytes pass the parser's minimum and leave
room in the arrays; and on every byte string it returns, reads nothing but
its len bytes and writes nothing past codec_info or protect_info. -/
theorem avdtMsgPrsCfg_roundTrip_bounded :
    (∀ (cfg target : AvdtpSepConfig) (mem : Nat → UInt8) (p : Nat) (sigId : UInt8),
      cfg.numCodec ≤ 1 → cfg.numProtect ≤ 1 →
      (cfg.numCodec ≠ 0 → 2 ≤ cfg.codecInfo[0].toNat ∧ cfg.codecInfo[0].toNat + 1 ≤ avdtCodecSize - 1) →
      (cfg.numProtect ≠ 0 → 2 ≤ cfg.protectInfo[0].toNat ∧ cfg.protectInfo[0].toNat + 1 < avdtProtectSize) →
      window mem p (avdtMsgBldCfg cfg).length = avdtMsgBldCfg cfg →
      ∃ elem parsed, avdtMsgPrsCfg target mem p (avdtMsgBldCfg cfg).length sigId = some (0, elem, parsed) ∧
        parsed.pscMask = cfg.pscMask &&& (avdtPscTrans ||| avdtPscReport ||| avdtPscDelayRpt) ∧
        parsed.numCodec = cfg.numCodec ∧ parsed.numProtect = cfg.numProtect ∧
        (cfg.numCodec ≠ 0 → parsed.codecInfo.toList.take (cfg.codecInfo[0].toNat + 1) =
          cfg.codecInfo.toList.take (cfg.codecInfo[0].toNat + 1)) ∧
        (cfg.numProtect ≠ 0 → parsed.protectInfo.toList.take (cfg.protectInfo[0].toNat + 1) =
          cfg.protectInfo.toList.take (cfg.protectInfo[0].toNat + 1))) ∧
    (∀ (cfg : AvdtpSepConfig) (mem : Nat → UInt8) (p len : Nat) (sigId : UInt8),
      (avdtMsgPrsCfg cfg mem p len sigId).isSome) ∧
    (∀ (cfg : AvdtpSepConfig) (mem mem' : Nat → UInt8) (p len : Nat) (sigId : UInt8),
      (∀ i, p ≤ i → i < p + len → mem i = mem' i) →
        avdtMsgPrsCfg cfg mem p len sigId = avdtMsgPrsCfg cfg mem' p len sigId) :=
  ⟨avdtMsgPrsCfg_avdtMsgBldCfg, avdtMsgPrsCfg_isSome,
    fun cfg _ _ _ _ sigId agree => avdtMsgPrsCfg_congr cfg sigId agree⟩

/-- An SBC-like configuration, media transport and delay reporting with a
codec element of six bytes, read back from a SET_CONFIGURATION. -/
theorem avdtMsgPrsCfg_roundTrip_sbc :
    let cfg : AvdtpSepConfig :=
      { AvdtpSepConfig.zero with
        pscMask := avdtPscTrans ||| avdtPscDelayRpt
        numCodec := 1
        codecInfo := (Vector.replicate avdtCodecSize 0).set 0 6 }
    ∃ elem parsed,
      avdtMsgPrsCfg AvdtpSepConfig.zero (fun i => (avdtMsgBldCfg cfg).getD i 0) 0 (avdtMsgBldCfg cfg).length
          avdtSigSetconfig = some (0, elem, parsed) ∧
        parsed.pscMask = cfg.pscMask &&& (avdtPscTrans ||| avdtPscReport ||| avdtPscDelayRpt) ∧
        parsed.numCodec = cfg.numCodec ∧ parsed.numProtect = cfg.numProtect ∧
        (cfg.numCodec ≠ 0 → parsed.codecInfo.toList.take (cfg.codecInfo[0].toNat + 1) =
          cfg.codecInfo.toList.take (cfg.codecInfo[0].toNat + 1)) ∧
        (cfg.numProtect ≠ 0 → parsed.protectInfo.toList.take (cfg.protectInfo[0].toNat + 1) =
          cfg.protectInfo.toList.take (cfg.protectInfo[0].toNat + 1)) := by
  intro cfg
  exact avdtMsgPrsCfg_roundTrip_bounded.1 cfg AvdtpSepConfig.zero _ 0 avdtSigSetconfig (by decide) (by decide)
    (fun _ => by decide) (fun absent => absurd rfl absent) (by decide)

end Avdt
end BluetoothStack
