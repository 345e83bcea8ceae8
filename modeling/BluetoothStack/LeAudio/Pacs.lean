import BluetoothStack.Library.CNumerals
import BluetoothStack.LeAudio.LtvMap

namespace BluetoothStack
namespace LeAudio

open ByteStream

/-!
# Parsing PACS records

`ParsePacs` (client_parser.cc) reads a Published Audio Capabilities
characteristic: a record count, then for each record a codec id, the codec
specific capabilities and the metadata, each behind a length byte.
`ParseSinglePac` reads one record, with three length checks and two LTV
parses, and calls `TestLeXPacRecords` on the metadata before parsing it.
That hook may store six bytes into the buffer, depending on two system
properties, so the model takes the properties as an environment and threads
memory through the parse.

A failed length check clears the whole record vector, a failed LTV parse
leaves it as it was, and `ParsePacs` stops at the first failure but returns
true in every case once the count byte is there.
-/

/-- A system property environment: `GetSystemProperty` for each key. -/
def SystemProperties : Type := String → Option String

/-- `osi_property_get_bool`: true exactly for the text "true". -/
def osiPropertyGetBool (props : SystemProperties) (key : String) (defaultValue : Bool) : Bool :=
  match props key with
  | some result => result == "true"
  | none => defaultValue

/-- `osi_property_get`: the property's text, or the default. -/
def osiPropertyGet (props : SystemProperties) (key defaultValue : String) : String :=
  (props key).getD defaultValue

/-- The bytes that sscanf(new_values, "%x %x %x %x %x", ...) leaves in the
five uint8_t variables.  Each %x has the width of a conversion that gives
none, and a blank of the format skips the white space the %x after it skips
anyway.  %x stores an unsigned int through each uint8_t*: the variable holds
its low byte, and the three others land past it.  The variables after the
first conversion that fails are not written; 0 stands for their indeterminate
value. -/
def scanHexFields : Nat → List Char → List UInt8
  | 0, _ => []
  | count + 1, cs =>
    match CNumerals.scanHexConversion CNumerals.kScanBufWidth cs with
    | some (value, used) => UInt8.ofInt value :: scanHexFields count (cs.drop used)
    | none => List.replicate (count + 1) 0

def kLeAudioCodingFormatLC3 : UInt8 := 0x06
def kLeAudioCodingFormatVendorSpecific : UInt8 := 0xFF
def kLeAudioVendorCompanyIdUndefined : Nat := 0x00
def kLeAudioVendorCodecIdUndefined : Nat := 0x00
def kLeAudioVendorCompanyIdQualcomm : Nat := 0x000A
def kLeAudioCodingFormatAptxLe : Nat := 0x0001
def kLeAudioCodingFormatAptxLeX : Nat := 0x01AD

def kAcsPacRecordMinLen : Nat := 7
def kAcsPacMetadataLenLen : Nat := 1
def kAcsPacDiscoverRspMinLen : Nat := 1

/-- `TestLeXPacRecords`: for the aptX Lite X codec id, six bytes from
pp + 9 are overwritten when the chosen property text is not empty. -/
def testLeXPacRecords (props : SystemProperties) (mem : Nat → UInt8) (pp codec : Nat) : Nat → UInt8 :=
  if codec = kLeAudioCodingFormatAptxLeX then
    let withoutVsFeature := "0 41 0 1 5"
    let withVsFeature := ""
    let newValues :=
      if osiPropertyGetBool props "persist.bluetooth.leaudio_lex_voice.enabled" true then
        osiPropertyGet props "persist.vendor.btstack.send_new_ltv_values" withVsFeature
      else osiPropertyGet props "persist.vendor.btstack.send_new_ltv_values" withoutVsFeature
    if 0 < newValues.length then store mem (pp + 9) (0x11 :: scanHexFields 5 newValues.toList)
    else mem
  else mem

/-- `LeAudioCodecId`. -/
structure LeAudioCodecId where
  codingFormat : UInt8
  vendorCompanyId : Nat
  vendorCodecId : Nat
deriving DecidableEq

/-- The operator== of `LeAudioCodecId`: the vendor fields count only for
the vendor specific coding format. -/
def LeAudioCodecId.equals (lhs rhs : LeAudioCodecId) : Bool :=
  if lhs.codingFormat ≠ rhs.codingFormat then false
  else if lhs.codingFormat = kLeAudioCodingFormatVendorSpecific ∧
      (lhs.vendorCompanyId ≠ rhs.vendorCompanyId ∨ lhs.vendorCodecId ≠ rhs.vendorCodecId) then false
  else true

def leAudioCodecIdLc3 : LeAudioCodecId :=
  ⟨kLeAudioCodingFormatLC3, kLeAudioVendorCompanyIdUndefined, kLeAudioVendorCodecIdUndefined⟩

def leAudioCodecIdAptxLe : LeAudioCodecId :=
  ⟨kLeAudioCodingFormatVendorSpecific, kLeAudioVendorCompanyIdQualcomm, kLeAudioCodingFormatAptxLe⟩

def leAudioCodecIdAptxLeX : LeAudioCodecId :=
  ⟨kLeAudioCodingFormatVendorSpecific, kLeAudioVendorCompanyIdQualcomm, kLeAudioCodingFormatAptxLeX⟩

/-- `utils::IsCodecUsingLtvFormat`. -/
def isCodecUsingLtvFormat (codecId : LeAudioCodecId) : Bool :=
  codecId.equals leAudioCodecIdLc3 || codecId.equals leAudioCodecIdAptxLe || codecId.equals leAudioCodecIdAptxLeX

/-- `acs_ac_record`. -/
structure AcsAcRecord where
  codecId : LeAudioCodecId
  codecSpecCaps : LeAudioLtvMap
  codecSpecCapsRaw : List UInt8
  metadata : LeAudioLtvMap

/-- The codec id at the start of a record. -/
def codecIdAt (mem : Nat → UInt8) (value : Nat) : LeAudioCodecId :=
  ⟨mem value, u16leAt mem (value + 1), u16leAt mem (value + 3)⟩

/-- The codec specific capabilities as `ParseSinglePac` keeps them: parsed as
LTV for the codecs that use that format, where a failed parse is `none`,
and left empty for the others. -/
def capsOf (codecId : LeAudioCodecId) (mem : Nat → UInt8) (value : Nat) (capLen : UInt8) :
    Option LeAudioLtvMap :=
  if isCodecUsingLtvFormat codecId then
    let parsed := LeAudioLtvMap.empty.parse mem value capLen
    if parsed.1 then some parsed.2 else none
  else some LeAudioLtvMap.empty

/-- `ParseSinglePac` on the `len` bytes at `value`: the length left,
or -1, with the record vector and the memory after the call. -/
def parseSinglePac (props : SystemProperties) (pacRecs : List AcsAcRecord) (len : Nat) (mem : Nat → UInt8)
    (value : Nat) : Int × List AcsAcRecord × (Nat → UInt8) :=
  if len < kAcsPacRecordMinLen then (-1, [], mem)
  else
    let codecId := codecIdAt mem value
    let codecSpecCapLen := mem (value + 5)
    let len := len - (kAcsPacRecordMinLen - kAcsPacMetadataLenLen)
    let value := value + 6
    if len < codecSpecCapLen.toNat + kAcsPacMetadataLenLen then (-1, [], mem)
    else
      let raw := window mem value codecSpecCapLen.toNat
      match capsOf codecId mem value codecSpecCapLen with
      | none => (-1, pacRecs, mem)
      | some caps =>
        let value := value + codecSpecCapLen.toNat
        let len := len - codecSpecCapLen.toNat
        let metadataLen := mem value
        let value := value + 1
        let len := len - kAcsPacMetadataLenLen
        if len < metadataLen.toNat then (-1, [], mem)
        else
          let mem := testLeXPacRecords props mem value codecId.vendorCodecId
          let metadata := LeAudioLtvMap.empty.parse mem value metadataLen
          if !metadata.1 then (-1, pacRecs, mem)
          else ((len - metadataLen.toNat : Nat), pacRecs ++ [⟨codecId, caps, raw, metadata.2⟩], mem)

/-! ## What one record reads -/

/-- The loop of `ParsePacs` over the `pac_rec_nb` records, stopping at the
first failure. -/
def parsePacsLoop (props : SystemProperties) :
    Nat → List AcsAcRecord → Nat → (Nat → UInt8) → Nat → List AcsAcRecord × (Nat → UInt8)
  | 0, pacRecs, _, mem, _ => (pacRecs, mem)
  | count + 1, pacRecs, len, mem, value =>
    let result := parseSinglePac props pacRecs len mem value
    if result.1 < 0 then (result.2.1, result.2.2)
    else parsePacsLoop props count result.2.1 result.1.toNat result.2.2 (value + (len - result.1.toNat))

/-- `ParsePacs`: false only when there is no count byte. -/
def parsePacs (props : SystemProperties) (pacRecs : List AcsAcRecord) (len : Nat) (mem : Nat → UInt8)
    (value : Nat) : Bool × List AcsAcRecord × (Nat → UInt8) :=
  if len < kAcsPacDiscoverRspMinLen then (false, pacRecs, mem)
  else
    let pacRecNb := (mem value).toNat
    let result := parsePacsLoop props pacRecNb pacRecs (len - kAcsPacDiscoverRspMinLen) mem (value + 1)
    (true, result.1, result.2)

/-! ## The loop -/

/-- `ParsePacs` reports success whenever the count byte is there, whatever
happens to the records: a record cut short after a good one leaves the
vector empty, a record with bad metadata after a good one leaves the good one,
and with the aptX Lite X codec id and the lex voice property off, the hook
stores 0x11 nine bytes past the metadata, outside the eight bytes given. -/
theorem parsePacs_partial_and_writes :
    (∀ (props : SystemProperties) (pacRecs : List AcsAcRecord) (len : Nat) (mem : Nat → UInt8) (value : Nat),
      kAcsPacDiscoverRspMinLen ≤ len → (parsePacs props pacRecs len mem value).1 = true) ∧
    (parsePacs (fun _ => none) [] 11 (store (fun _ => 0) 0 [2, 6, 0, 0, 0, 0, 0, 0, 6, 0, 0]) 0).2.1 = [] ∧
    (parsePacs (fun _ => none) [] 17
      (store (fun _ => 0) 0 [2, 6, 0, 0, 0, 0, 0, 0, 6, 0, 0, 0, 0, 0, 2, 5, 1]) 0).2.1.length = 1 ∧
    (parsePacs (fun key => if key = "persist.bluetooth.leaudio_lex_voice.enabled" then some "false" else none) [] 8
        (store (fun _ => 0) 0 [1, 0xFF, 0x0A, 0, 0xAD, 0x01, 0, 0]) 0).2.2 17 = 0x11 ∧
      store (fun _ => 0) 0 [1, 0xFF, 0x0A, 0, 0xAD, 0x01, 0, 0] 17 = 0 := by
  refine ⟨fun props pacRecs len mem value long => ?_, by decide +kernel, by decide +kernel, by decide +kernel,
    by decide +kernel⟩
  unfold parsePacs
  rw [if_neg (Nat.not_lt.mpr long)]

theorem parsePacs_partial_and_writes_goodThenBad :
    kAcsPacDiscoverRspMinLen ≤ 17 ∧
      (parsePacs (fun _ => none) [] 17
        (store (fun _ => 0) 0 [2, 6, 0, 0, 0, 0, 0, 0, 6, 0, 0, 0, 0, 0, 2, 5, 1]) 0).1 = true :=
  ⟨by decide, parsePacs_partial_and_writes.1 _ _ 17 _ 0 (by decide)⟩

end LeAudio
end BluetoothStack
