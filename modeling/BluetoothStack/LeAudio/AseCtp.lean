import BluetoothStack.LeAudio.Pacs
import BluetoothStack.Gatt.Defs

namespace BluetoothStack
namespace LeAudio

open ByteStream
open Gatt (gattMaxAttrLen)

/-!
# ASE control point messages

The `PrepareAseCtp*` functions of client_parser.cc build the ASE control
point operations: an opcode, a count of entries, and the entries.  Each one
computes the message length first, resizes `value` to it and then writes the
fields through a pointer.  Counts and variable lengths are written with
`UINT8_TO_STREAM`, which keeps the low byte.

A builder is modelled on the vector it is given: `false` leaves it alone,
`true` gives the resized vector with the bytes written at its start.  The
lemmas show that the bytes written always fill the vector exactly; which
limits each builder checks is what its body says, and the last theorem lists
the ones it does not.
-/

def kCtpOpcodeCodecConfiguration : UInt8 := 0x01
def kCtpOpcodeQosConfiguration : UInt8 := 0x02
def kCtpOpcodeEnable : UInt8 := 0x03
def kCtpOpcodeReceiverStartReady : UInt8 := 0x04
def kCtpOpcodeDisable : UInt8 := 0x05
def kCtpOpcodeReceiverStopReady : UInt8 := 0x06
def kCtpOpcodeUpdateMetadata : UInt8 := 0x07
def kCtpOpcodeRelease : UInt8 := 0x08

def kCtpOpSize : Nat := 1
def kAseNumSize : Nat := 1
def kAseIdSize : Nat := 1
def kCtpCodecConfMinLen : Nat := 9
def kCtpQosConfMinLen : Nat := 16
def kCtpEnableMinLen : Nat := 2
def kCtpUpdateMetadataMinLen : Nat := 2

/-- `std::vector::resize` to `msgLen` followed by the writes of `written` from
its start: the part of the writes inside the vector, then zero bytes. -/
def resizeAndWrite (msgLen : Nat) (written : List UInt8) : List UInt8 :=
  written.take msgLen ++ List.replicate (msgLen - written.length) 0

/-- Bytes that fill the vector exactly are the vector. -/
theorem resizeAndWrite_of_length {msgLen : Nat} {written : List UInt8} (exact : written.length = msgLen) :
    resizeAndWrite msgLen written = written := by
  subst exact
  simp [resizeAndWrite]

/-- `UINT24_TO_STREAM`. -/
def u24le (value : Nat) : List UInt8 :=
  [UInt8.ofNat value, UInt8.ofNat (value >>> 8), UInt8.ofNat (value >>> 16)]

theorem u24le_length (value : Nat) : (u24le value).length = 3 := rfl

/-- `ctp_codec_conf`. -/
structure CtpCodecConf where
  aseId : UInt8
  targetLatency : UInt8
  targetPhy : UInt8
  codecId : LeAudioCodecId
  codecConfig : List UInt8

/-- `ctp_qos_conf`. -/
structure CtpQosConf where
  aseId : UInt8
  cig : UInt8
  cis : UInt8
  sduInterval : Nat
  framing : UInt8
  phy : UInt8
  maxSdu : Nat
  retransNb : UInt8
  maxTransportLatency : Nat
  presDelay : Nat

/-- `ctp_enable`. -/
structure CtpEnable where
  aseId : UInt8
  metadata : List UInt8

/-- `ctp_update_metadata`. -/
structure CtpUpdateMetadata where
  aseId : UInt8
  metadata : List UInt8

/-! ## Codec configuration -/

/-- The bytes `PrepareAseCtpCodecConfig` writes for one entry. -/
def codecConfEntry (conf : CtpCodecConf) : List UInt8 :=
  [conf.aseId, conf.targetLatency, conf.targetPhy, conf.codecId.codingFormat] ++
    u16le conf.codecId.vendorCompanyId ++ u16le conf.codecId.vendorCodecId ++
    UInt8.ofNat conf.codecConfig.length :: conf.codecConfig

/-- The length `std::accumulate` computes: the fixed part of every entry, the
count and the opcode, and each codec configuration.  The LTV parse inside
the accumulation only feeds the log. -/
def codecConfMsgLen (confs : List CtpCodecConf) : Nat :=
  confs.foldl (fun curLen conf => curLen + conf.codecConfig.length)
    (confs.length * kCtpCodecConfMinLen + kAseNumSize + kCtpOpSize)

/-- `PrepareAseCtpCodecConfig`. -/
def prepareAseCtpCodecConfig (confs : List CtpCodecConf) (value : List UInt8) : Bool × List UInt8 :=
  if confs.length = 0 then (false, value)
  else
    (true, resizeAndWrite (codecConfMsgLen confs)
      (kCtpOpcodeCodecConfiguration :: UInt8.ofNat confs.length :: confs.flatMap codecConfEntry))

theorem codecConfEntry_length (conf : CtpCodecConf) :
    (codecConfEntry conf).length = kCtpCodecConfMinLen + conf.codecConfig.length := by
  simp [codecConfEntry, u16le_length, kCtpCodecConfMinLen]
  omega

theorem foldl_add_codecConfig (confs : List CtpCodecConf) :
    ∀ start, confs.foldl (fun curLen conf => curLen + conf.codecConfig.length) start =
      start + (confs.map fun conf => conf.codecConfig.length).sum := by
  induction confs with
  | nil => simp
  | cons conf confs ih =>
    intro start
    rw [List.foldl_cons, ih, List.map_cons, List.sum_cons]
    omega

/-- The length written is the length accumulated. -/
theorem codecConfMsgLen_eq (confs : List CtpCodecConf) :
    (kCtpOpcodeCodecConfiguration :: UInt8.ofNat confs.length :: confs.flatMap codecConfEntry).length =
      codecConfMsgLen confs := by
  rw [codecConfMsgLen, foldl_add_codecConfig, List.length_cons, List.length_cons, List.length_flatMap]
  simp only [codecConfEntry_length, kAseNumSize, kCtpOpSize]
  induction confs with
  | nil => simp
  | cons conf confs ih =>
    simp only [List.map_cons, List.sum_cons, List.length_cons] at ih ⊢
    rw [Nat.add_mul]
    omega

/-- `PrepareAseCtpCodecConfig` succeeds on every non-empty list, with the
opcode, the count cut to a byte, and the entries filling the vector. -/
theorem prepareAseCtpCodecConfig_written (confs : List CtpCodecConf) (value : List UInt8) (nonempty : confs ≠ []) :
    prepareAseCtpCodecConfig confs value =
      (true, kCtpOpcodeCodecConfiguration :: UInt8.ofNat confs.length :: confs.flatMap codecConfEntry) := by
  rw [prepareAseCtpCodecConfig, if_neg (by simpa using nonempty), resizeAndWrite_of_length (codecConfMsgLen_eq confs)]

/-! ## QoS configuration -/

/-- The bytes `PrepareAseCtpConfigQos` writes for one entry. -/
def qosConfEntry (conf : CtpQosConf) : List UInt8 :=
  [conf.aseId, conf.cig, conf.cis] ++ u24le conf.sduInterval ++ [conf.framing, conf.phy] ++
    u16le conf.maxSdu ++ [conf.retransNb] ++ u16le conf.maxTransportLatency ++ u24le conf.presDelay

/-- `PrepareAseCtpConfigQos`. -/
def prepareAseCtpConfigQos (confs : List CtpQosConf) (value : List UInt8) : Bool × List UInt8 :=
  if confs.length = 0 then (false, value)
  else
    (true, resizeAndWrite (confs.length * kCtpQosConfMinLen + kAseNumSize + kCtpOpSize)
      (kCtpOpcodeQosConfiguration :: UInt8.ofNat confs.length :: confs.flatMap qosConfEntry))

theorem qosConfEntry_length (conf : CtpQosConf) : (qosConfEntry conf).length = kCtpQosConfMinLen := by
  simp [qosConfEntry, u16le_length, u24le_length, kCtpQosConfMinLen]

theorem prepareAseCtpConfigQos_written (confs : List CtpQosConf) (value : List UInt8) (nonempty : confs ≠ []) :
    prepareAseCtpConfigQos confs value =
      (true, kCtpOpcodeQosConfiguration :: UInt8.ofNat confs.length :: confs.flatMap qosConfEntry) := by
  have exact : (kCtpOpcodeQosConfiguration :: UInt8.ofNat confs.length :: confs.flatMap qosConfEntry).length =
      confs.length * kCtpQosConfMinLen + kAseNumSize + kCtpOpSize := by
    simp [List.length_flatMap, qosConfEntry_length, kAseNumSize, kCtpOpSize]
  rw [prepareAseCtpConfigQos, if_neg (by simpa using nonempty), resizeAndWrite_of_length exact]

/-! ## Enable and metadata update -/

/-- The length loop of `PrepareAseCtpEnable` and `PrepareAseCtpUpdateMetadata`
on the uint16_t `msg_len`: the limit is checked before each entry's metadata
is added, and each metadata length before it is added. -/
def metadataMsgLen : Nat → List (List UInt8) → Option Nat
  | msgLen, [] => some msgLen
  | msgLen, metadata :: rest =>
    if msgLen > gattMaxAttrLen then none
    else if metadata.length > 255 then none
    else metadataMsgLen ((msgLen + metadata.length) % 65536) rest

/-- The shared body of `PrepareAseCtpEnable` and `PrepareAseCtpUpdateMetadata`,
for entries given as ASE id and metadata. -/
def prepareMetadataCtp (opcode : UInt8) (minLen : Nat) (confs : List (UInt8 × List UInt8))
    (value : List UInt8) : Bool × List UInt8 :=
  if confs.length = 0 then (false, value)
  else if confs.length > 255 then (false, value)
  else
    match metadataMsgLen ((confs.length * minLen + kAseNumSize + kCtpOpSize) % 65536) (confs.map (·.2)) with
    | none => (false, value)
    | some msgLen =>
      (true, resizeAndWrite msgLen
        (opcode :: UInt8.ofNat confs.length :: confs.flatMap fun conf => conf.1 :: UInt8.ofNat conf.2.length :: conf.2))

/-- `PrepareAseCtpEnable`. -/
def prepareAseCtpEnable (confs : List CtpEnable) (value : List UInt8) : Bool × List UInt8 :=
  prepareMetadataCtp kCtpOpcodeEnable kCtpEnableMinLen (confs.map fun conf => (conf.aseId, conf.metadata)) value

/-- `PrepareAseCtpUpdateMetadata`. -/
def prepareAseCtpUpdateMetadata (confs : List CtpUpdateMetadata) (value : List UInt8) : Bool × List UInt8 :=
  prepareMetadataCtp kCtpOpcodeUpdateMetadata kCtpUpdateMetadataMinLen
    (confs.map fun conf => (conf.aseId, conf.metadata)) value

/-! ## Operations on ASE ids -/

/-- The shared body of the operations that carry only ASE ids. -/
def prepareAseIdsCtp (opcode : UInt8) (aseIds : List UInt8) (value : List UInt8) : Bool × List UInt8 :=
  if aseIds.length = 0 then (false, value)
  else (true, resizeAndWrite (aseIds.length * kAseIdSize + kAseNumSize + kCtpOpSize)
    (opcode :: UInt8.ofNat aseIds.length :: aseIds))

theorem prepareAseIdsCtp_written (opcode : UInt8) (aseIds value : List UInt8) (nonempty : aseIds ≠ []) :
    prepareAseIdsCtp opcode aseIds value = (true, opcode :: UInt8.ofNat aseIds.length :: aseIds) := by
  have exact : (opcode :: UInt8.ofNat aseIds.length :: aseIds).length =
      aseIds.length * kAseIdSize + kAseNumSize + kCtpOpSize := by
    simp [kAseIdSize, kAseNumSize, kCtpOpSize]
  rw [prepareAseIdsCtp, if_neg (by simpa using nonempty), resizeAndWrite_of_length exact]

/-- `PrepareAseCtpAudioReceiverStartReady`. -/
def prepareAseCtpAudioReceiverStartReady (aseIds : List UInt8) (value : List UInt8) : Bool × List UInt8 :=
  prepareAseIdsCtp kCtpOpcodeReceiverStartReady aseIds value

/-- `PrepareAseCtpDisable`. -/
def prepareAseCtpDisable (aseIds : List UInt8) (value : List UInt8) : Bool × List UInt8 :=
  prepareAseIdsCtp kCtpOpcodeDisable aseIds value

/-- `PrepareAseCtpAudioReceiverStopReady`. -/
def prepareAseCtpAudioReceiverStopReady (aseIds : List UInt8) (value : List UInt8) : Bool × List UInt8 :=
  prepareAseIdsCtp kCtpOpcodeReceiverStopReady aseIds value

/-- `PrepareAseCtpRelease`: unlike the others it reports success for an empty
list, and then leaves the vector as it was. -/
def prepareAseCtpRelease (aseIds : List UInt8) (value : List UInt8) : Bool × List UInt8 :=
  if aseIds.length = 0 then (true, value)
  else prepareAseIdsCtp kCtpOpcodeRelease aseIds value

/-! ## The limits -/

/-- Of the limits on an operation, codec and QoS configuration and the
operations on ASE ids check only that the list is not empty: every other list
is accepted, with its count and its codec configuration lengths cut to a
byte, so that 256 entries are announced as 0 and a 256-byte configuration as
0 bytes.  Enable and metadata update check the GATT limit before adding each
entry's metadata, so two entries of 255 bytes give a message of 516 bytes. -/
theorem prepareAseCtp_limits_unchecked :
    (∀ (confs : List CtpCodecConf) (value : List UInt8), confs ≠ [] →
      prepareAseCtpCodecConfig confs value =
        (true, kCtpOpcodeCodecConfiguration :: UInt8.ofNat confs.length :: confs.flatMap codecConfEntry)) ∧
    (∀ (confs : List CtpQosConf) (value : List UInt8), confs ≠ [] →
      prepareAseCtpConfigQos confs value =
        (true, kCtpOpcodeQosConfiguration :: UInt8.ofNat confs.length :: confs.flatMap qosConfEntry)) ∧
    (∀ aseIds value : List UInt8, aseIds ≠ [] →
      prepareAseCtpAudioReceiverStartReady aseIds value =
          (true, kCtpOpcodeReceiverStartReady :: UInt8.ofNat aseIds.length :: aseIds) ∧
        prepareAseCtpDisable aseIds value = (true, kCtpOpcodeDisable :: UInt8.ofNat aseIds.length :: aseIds) ∧
        prepareAseCtpAudioReceiverStopReady aseIds value =
          (true, kCtpOpcodeReceiverStopReady :: UInt8.ofNat aseIds.length :: aseIds)) ∧
    (prepareAseCtpDisable (List.replicate 256 1) []).2.take 2 = [kCtpOpcodeDisable, 0] ∧
    (prepareAseCtpCodecConfig [⟨1, 0, 0, leAudioCodecIdLc3, List.replicate 256 0⟩] []).2.getD 10 1 = 0 ∧
    ((prepareAseCtpEnable [⟨1, List.replicate 255 0⟩, ⟨2, List.replicate 255 0⟩] []).1 = true ∧
      (prepareAseCtpEnable [⟨1, List.replicate 255 0⟩, ⟨2, List.replicate 255 0⟩] []).2.length = 516) ∧
    ((prepareAseCtpUpdateMetadata [⟨1, List.replicate 255 0⟩, ⟨2, List.replicate 255 0⟩] []).1 = true ∧
      (prepareAseCtpUpdateMetadata [⟨1, List.replicate 255 0⟩, ⟨2, List.replicate 255 0⟩] []).2.length = 516) := by
  refine ⟨prepareAseCtpCodecConfig_written, prepareAseCtpConfigQos_written, fun aseIds value nonempty => ?_,
    by decide +kernel, by decide +kernel, by decide +kernel, by decide +kernel⟩
  exact ⟨prepareAseIdsCtp_written _ aseIds value nonempty, prepareAseIdsCtp_written _ aseIds value nonempty,
    prepareAseIdsCtp_written _ aseIds value nonempty⟩

theorem prepareAseCtp_limits_unchecked_disable :
    List.replicate 256 (1 : UInt8) ≠ [] ∧
      prepareAseCtpDisable (List.replicate 256 1) [] =
        (true, kCtpOpcodeDisable :: UInt8.ofNat (List.replicate 256 (1 : UInt8)).length :: List.replicate 256 1) := by
  have nonempty : List.replicate 256 (1 : UInt8) ≠ [] :=
    List.ne_nil_of_length_pos (by rw [List.length_replicate]; decide)
  exact ⟨nonempty, (prepareAseCtp_limits_unchecked.2.2.1 _ [] nonempty).2.1⟩

end LeAudio
end BluetoothStack
