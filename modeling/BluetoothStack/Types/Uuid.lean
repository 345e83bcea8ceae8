import BluetoothStack.Types.Address
import BluetoothStack.Types.UuidBytes

namespace BluetoothStack

open ByteStream
open Common (hexByte)
open CNumerals (hexValue hexNumber ScanFlags scanHexStep scanHexLoop scanHexConversion kUintmaxMax
  scanHexStep_of_isHexDigit scanHexConversion_of_loop)

/-!
# UUIDs as text (types/bluetooth/uuid.cc, gd/hci/uuid.cc)

bluetooth::Uuid and hci::Uuid (their bytes are in `Types.UuidBytes`) share
their text code: ToString prints the 8-4-4-4-12 form in lower-case pairs,
FromString reads that form, or 8 or 4 characters for a 32- or 16-bit UUID
over the base UUID, with sscanf and %02hhx conversions.

sscanf is bionic's (OpenBSD vfscanf, `CNumerals.scanHexConversion`): a
%02hhx conversion skips white space and then takes at most two characters, a
sign among them, so a field such as "-1" reads as 0xff and FromString accepts
"-1-1".
-/

/-- The byte positions of a UUID are numerals of `Fin 16`; this names the
fact they need, so that each position is one term and not a proof made anew. -/
local instance uuidTextNeZero : NeZero 16 := ⟨by decide⟩

/-! ## sscanf with %02hhx, literal characters and %n -/

/-- One %02hhx conversion: the conversion of width 2, its value stored
through an unsigned char*, so cut to uint8_t. -/
def scanHexField (input : List Char) : Option (UInt8 × Nat) :=
  (scanHexConversion 2 input).map fun converted => (UInt8.ofInt converted.1, converted.2)

/-- The directives of FromString's formats. -/
inductive ScanDirective where
  | hhx2
  | literal (c : Char)
  | charCount

/-- sscanf(input, format, ...) with nread characters read so far: the values
the conversions store in turn, whose number is the return value (EOF for an
input that ends before the first conversion fails the same tests as 0), and
what each %n stores.  A failed conversion or a literal that does not match
ends the scan. -/
def sscanf : List ScanDirective → List Char → Nat → List UInt8 × List Nat
  | [], _, _ => ([], [])
  | .hhx2 :: format, input, nread =>
    match scanHexField input with
    | none => ([], [])
    | some (value, used) =>
      let rest := sscanf format (input.drop used) (nread + used)
      (value :: rest.1, rest.2)
  | .literal c :: format, input, nread =>
    if input.head? = some c then sscanf format input.tail (nread + 1) else ([], [])
  | .charCount :: format, input, nread =>
    let rest := sscanf format input nread
    (rest.1, nread :: rest.2)

/-- "%02hhx%02hhx%02hhx%02hhx-%02hhx%02hhx-%02hhx%02hhx-%02hhx%02hhx-%02hhx%02hhx%02hhx%02hhx%02hhx%02hhx%n" -/
def kFormat128 : List ScanDirective :=
  [.hhx2, .hhx2, .hhx2, .hhx2, .literal '-', .hhx2, .hhx2, .literal '-', .hhx2, .hhx2, .literal '-', .hhx2, .hhx2,
    .literal '-', .hhx2, .hhx2, .hhx2, .hhx2, .hhx2, .hhx2, .charCount]

/-- "%02hhx%02hhx%02hhx%02hhx%n" -/
def kFormat32 : List ScanDirective :=
  [.hhx2, .hhx2, .hhx2, .hhx2, .charCount]

/-- "%02hhx%02hhx%n" -/
def kFormat16 : List ScanDirective :=
  [.hhx2, .hhx2, .charCount]

/-! ## The body of FromString -/

def kString128BitLen : Nat := 36

/-- sscanf stores the values it converts through p + start. -/
def writeBytes (uu : Fin 16 → UInt8) (start : Nat) (values : List UInt8) : Fin 16 → UInt8 := fun i =>
  if start ≤ i.val then values[i.val - start]?.getD (uu i) else uu i

/-- The body of both FromString: ret, which starts as kBase and holds what
sscanf stored even when it fails, and whether the text was valid. -/
def uuidFromString (uuid : String) : (Fin 16 → UInt8) × Bool :=
  let text := uuid.toList
  if text.isEmpty then (kBase, false)
  else if text.length = kString128BitLen then
    if text[8]? ≠ some '-' ∨ text[13]? ≠ some '-' ∨ text[18]? ≠ some '-' ∨ text[23]? ≠ some '-' then
      (kBase, false)
    else
      let scanned := sscanf kFormat128 text 0
      (writeBytes kBase 0 scanned.1, decide (scanned.1.length = 16 ∧ scanned.2 = [kString128BitLen]))
  else if text.length = 8 then
    let scanned := sscanf kFormat32 text 0
    (writeBytes kBase 0 scanned.1, decide (scanned.1.length = 4 ∧ scanned.2 = [8]))
  else if text.length = 4 then
    let scanned := sscanf kFormat16 text 0
    (writeBytes kBase 2 scanned.1, decide (scanned.1.length = 2 ∧ scanned.2 = [4]))
  else (kBase, false)

/-! ## bluetooth::Uuid -/

namespace Uuid

/-- Uuid::FromString(uuid, &is_valid). -/
def fromString (uuid : String) : Uuid × Bool :=
  (⟨(uuidFromString uuid).1⟩, (uuidFromString uuid).2)

/-- The stream loop: two digits per byte, a dash after bytes 3, 5, 7 and 9. -/
def toString (u : Uuid) : String :=
  String.ofList ((List.finRange 16).flatMap fun i =>
    hexByte (u.uu i) ++ if i = 3 ∨ i = 5 ∨ i = 7 ∨ i = 9 then ['-'] else [])

end Uuid

/-! ## hci::Uuid -/

namespace Hci

namespace Uuid

/-- Uuid::FromString: std::nullopt for an empty or invalid text. -/
def fromString (uuid : String) : Option Uuid :=
  if (uuidFromString uuid).2 then some ⟨(uuidFromString uuid).1⟩ else none

/-- snprintf with "%02x%02x%02x%02x-%02x%02x-%02x%02x-%02x%02x-%02x%02x%02x%02x%02x%02x"; %02x prints
the two lower-case digits of a byte. -/
def toString (u : Uuid) : String :=
  String.ofList (hexByte (u.uu 0) ++ hexByte (u.uu 1) ++ hexByte (u.uu 2) ++ hexByte (u.uu 3) ++ ['-'] ++
    hexByte (u.uu 4) ++ hexByte (u.uu 5) ++ ['-'] ++ hexByte (u.uu 6) ++ hexByte (u.uu 7) ++ ['-'] ++
    hexByte (u.uu 8) ++ hexByte (u.uu 9) ++ ['-'] ++ hexByte (u.uu 10) ++ hexByte (u.uu 11) ++
    hexByte (u.uu 12) ++ hexByte (u.uu 13) ++ hexByte (u.uu 14) ++ hexByte (u.uu 15))

end Uuid

end Hci

/-! ## UUID texts -/

/-- The 8-4-4-4-12 form of sixteen groups of two hexadecimal digits. -/
def uuidText (digits : Fin 16 → Char × Char) : List Char :=
  let groups := fun bytes : List (Fin 16) => bytes.flatMap fun i => [(digits i).1, (digits i).2]
  groups [0, 1, 2, 3] ++ '-' :: groups [4, 5] ++ '-' :: groups [6, 7] ++ '-' :: groups [8, 9] ++ '-' ::
    groups [10, 11, 12, 13, 14, 15]

/-- A text of 4 or 8 hexadecimal digits, or the 36-character form. -/
def IsUuidText (text : List Char) : Prop :=
  ((text.length = 4 ∨ text.length = 8) ∧ ∀ c ∈ text, c.isHexDigit = true) ∨
    ∃ digits : Fin 16 → Char × Char, (∀ i, (digits i).1.isHexDigit ∧ (digits i).2.isHexDigit) ∧
      text = uuidText digits

/-- The two digits std::hex and %02x print for a byte. -/
def hexDigits (byte : UInt8) : Char × Char :=
  (Nat.digitChar (byte.toNat / 16), Nat.digitChar (byte.toNat % 16))

theorem uuidText_eq (digits : Fin 16 → Char × Char) :
    uuidText digits = [(digits 0).1, (digits 0).2, (digits 1).1, (digits 1).2, (digits 2).1, (digits 2).2,
      (digits 3).1, (digits 3).2, '-', (digits 4).1, (digits 4).2, (digits 5).1, (digits 5).2, '-',
      (digits 6).1, (digits 6).2, (digits 7).1, (digits 7).2, '-', (digits 8).1, (digits 8).2, (digits 9).1,
      (digits 9).2, '-', (digits 10).1, (digits 10).2, (digits 11).1, (digits 11).2, (digits 12).1,
      (digits 12).2, (digits 13).1, (digits 13).2, (digits 14).1, (digits 14).2, (digits 15).1,
      (digits 15).2] := rfl

theorem hexByte_eq_hexDigits (byte : UInt8) : hexByte byte = [(hexDigits byte).1, (hexDigits byte).2] :=
  hexByte_eq byte

theorem hexDigits_isHexDigit (byte : UInt8) : (hexDigits byte).1.isHexDigit ∧ (hexDigits byte).2.isHexDigit := by
  have small := byte.toNat_lt
  exact ⟨(digitChar_of_lt _ (by omega)).1, (digitChar_of_lt _ (by omega)).1⟩

theorem groupByte_hexDigits (byte : UInt8) : groupByte (hexDigits byte) = byte := by
  have small := byte.toNat_lt
  rw [groupByte, hexDigits, (digitChar_of_lt _ (by omega)).2, (digitChar_of_lt _ (Nat.mod_lt _ (by omega))).2,
    Nat.div_add_mod, UInt8.ofNat_toNat]

/-! ## One %02hhx field -/

/-- Two hexadecimal digits fill the field: no white space is skipped, and
the byte is their group. -/
theorem scanHexField_pair {c d : Char} (cHex : c.isHexDigit = true) (dHex : d.isHexDigit = true)
    (rest : List Char) : scanHexField (c :: d :: rest) = some (groupByte (c, d), 2) := by
  rcases hexValue_of_isHexDigit cHex with ⟨cSmall, -, -, cMinus, -, cSpace⟩
  have dSmall := (hexValue_of_isHexDigit dHex).1
  obtain ⟨first, firstStep, -⟩ := scanHexStep_of_isHexDigit ScanFlags.initial 0 cHex
  obtain ⟨second, secondStep, digit⟩ := scanHexStep_of_isHexDigit first 1 dHex
  have loop : scanHexLoop 2 ScanFlags.initial [] (c :: d :: rest) = (second, [c, d]) := by
    simp [scanHexLoop, firstStep, secondStep]
  have value : hexNumber ([c, d].filter Char.isHexDigit) = 16 * hexValue c + hexValue d := by
    simp [hexNumber, cHex, dHex]
  have fits : hexNumber ([c, d].filter Char.isHexDigit) ≤ kUintmaxMax := by
    rw [value, kUintmaxMax]
    omega
  rw [scanHexField, scanHexConversion_of_loop cSpace loop digit (by simp [dHex]) fits, value, Option.map_some,
    List.head?_cons, if_neg (fun same => cMinus (Option.some_inj.mp same)), ofInt_natCast]
  rfl

/-! ## The formats of FromString

One equation per directive, used by simp to run a format over a text whose
fields are pairs of hexadecimal digits. -/

theorem sscanf_hhx2_pair {c d : Char} (cHex : c.isHexDigit = true) (dHex : d.isHexDigit = true)
    (format : List ScanDirective) (rest : List Char) (nread : Nat) :
    sscanf (.hhx2 :: format) (c :: d :: rest) nread =
      (groupByte (c, d) :: (sscanf format rest (nread + 2)).1, (sscanf format rest (nread + 2)).2) := by
  simp [sscanf, scanHexField_pair cHex dHex]

theorem sscanf_literal_self (c : Char) (format : List ScanDirective) (rest : List Char) (nread : Nat) :
    sscanf (.literal c :: format) (c :: rest) nread = sscanf format rest (nread + 1) := by
  simp [sscanf]

theorem sscanf_charCount (format : List ScanDirective) (input : List Char) (nread : Nat) :
    sscanf (.charCount :: format) input nread = ((sscanf format input nread).1, nread :: (sscanf format input nread).2) :=
  rfl

theorem sscanf_nil (input : List Char) (nread : Nat) : sscanf [] input nread = ([], []) :=
  rfl

/-- kFormat128 reads the sixteen groups in order and counts 36 characters. -/
theorem sscanf_uuidText {digits : Fin 16 → Char × Char}
    (hex : ∀ i, (digits i).1.isHexDigit ∧ (digits i).2.isHexDigit) :
    sscanf kFormat128 (uuidText digits) 0 = (List.ofFn fun i => groupByte (digits i), [kString128BitLen]) := by
  have high : ∀ i, (digits i).1.isHexDigit = true := fun i => (hex i).1
  have low : ∀ i, (digits i).2.isHexDigit = true := fun i => (hex i).2
  simp [kFormat128, uuidText_eq, sscanf_hhx2_pair, high, low, sscanf_literal_self, sscanf_charCount, sscanf_nil,
    List.ofFn_succ, kString128BitLen]

/-- Writing all sixteen bytes from p[0] replaces ret. -/
theorem writeBytes_ofFn (uu bytes : Fin 16 → UInt8) : writeBytes uu 0 (List.ofFn bytes) = bytes := by
  funext i
  simp only [writeBytes, Nat.zero_le, ↓reduceIte, Nat.sub_zero, List.getElem?_ofFn, i.isLt, ↓reduceDIte,
    Option.getD_some]

theorem uuidFromString_uuidText {digits : Fin 16 → Char × Char}
    (hex : ∀ i, (digits i).1.isHexDigit ∧ (digits i).2.isHexDigit) :
    uuidFromString (String.ofList (uuidText digits)) = (fun i => groupByte (digits i), true) := by
  have length : (uuidText digits).length = kString128BitLen := by
    simp [uuidText_eq, kString128BitLen]
  have dashes : ¬((uuidText digits)[8]? ≠ some '-' ∨ (uuidText digits)[13]? ≠ some '-' ∨
      (uuidText digits)[18]? ≠ some '-' ∨ (uuidText digits)[23]? ≠ some '-') := by
    simp [uuidText_eq]
  dsimp only [uuidFromString]
  rw [String.toList_ofList, if_neg (by simp [uuidText_eq]), if_pos length, if_neg dashes, sscanf_uuidText hex,
    writeBytes_ofFn]
  simp [kString128BitLen]

theorem toNat_groupByte {c d : Char} (cHex : c.isHexDigit = true) (dHex : d.isHexDigit = true) :
    (groupByte (c, d)).toNat = 16 * hexValue c + hexValue d := by
  have cSmall := (hexValue_of_isHexDigit cHex).1
  have dSmall := (hexValue_of_isHexDigit dHex).1
  dsimp only [groupByte]
  rw [UInt8.toNat_ofNat_of_lt' (by rw [UInt8.size]; omega)]

/-- What sscanf stores in p[2] and p[3] is From16Bit of the two bytes. -/
theorem writeBytes_two (high low : UInt8) :
    writeBytes kBase 2 [high, low] = from16Bit (UInt16.ofNat (2 ^ 8 * high.toNat + low.toNat)) := by
  have highSmall := high.toNat_lt
  have lowSmall := low.toNat_lt
  have value : (UInt16.ofNat (2 ^ 8 * high.toNat + low.toNat)).toNat = 2 ^ 8 * high.toNat + low.toNat := by
    rw [UInt16.toNat_ofNat']
    omega
  have byte2 : UInt8.ofNat ((UInt16.ofNat (2 ^ 8 * high.toNat + low.toNat)).toNat / 256) = high :=
    ofNat_eq_of_mod (by rw [value]; omega)
  have byte3 : UInt8.ofNat (UInt16.ofNat (2 ^ 8 * high.toNat + low.toNat)).toNat = low :=
    ofNat_eq_of_mod (by rw [value]; omega)
  funext i
  rw [from16Bit_apply]
  generalize UInt16.ofNat (2 ^ 8 * high.toNat + low.toNat) = uuid16 at byte2 byte3 ⊢
  rcases i with ⟨_ | _ | _ | _ | k, below⟩
  all_goals simp [writeBytes, Fin.ext_iff, byte2, byte3]

/-- What sscanf stores in p[0] .. p[3] is From32Bit of the four bytes. -/
theorem writeBytes_four (byte0 byte1 byte2 byte3 : UInt8) :
    writeBytes kBase 0 [byte0, byte1, byte2, byte3] =
      from32Bit (UInt32.ofNat (2 ^ 24 * byte0.toNat + 2 ^ 16 * byte1.toNat + 2 ^ 8 * byte2.toNat + byte3.toNat)) := by
  have small0 := byte0.toNat_lt
  have small1 := byte1.toNat_lt
  have small2 := byte2.toNat_lt
  have small3 := byte3.toNat_lt
  generalize valueDef : 2 ^ 24 * byte0.toNat + 2 ^ 16 * byte1.toNat + 2 ^ 8 * byte2.toNat + byte3.toNat = value
  have toNatValue : (UInt32.ofNat value).toNat = value := by
    rw [UInt32.toNat_ofNat']
    omega
  have at0 : UInt8.ofNat ((UInt32.ofNat value).toNat / 16777216) = byte0 :=
    ofNat_eq_of_mod (by rw [toNatValue]; omega)
  have at1 : UInt8.ofNat ((UInt32.ofNat value).toNat / 65536) = byte1 :=
    ofNat_eq_of_mod (by rw [toNatValue]; omega)
  have at2 : UInt8.ofNat ((UInt32.ofNat value).toNat / 256) = byte2 :=
    ofNat_eq_of_mod (by rw [toNatValue]; omega)
  have at3 : UInt8.ofNat (UInt32.ofNat value).toNat = byte3 :=
    ofNat_eq_of_mod (by rw [toNatValue]; omega)
  funext i
  rw [from32Bit_apply]
  generalize UInt32.ofNat value = uuid32 at at0 at1 at2 at3 ⊢
  rcases i with ⟨_ | _ | _ | _ | k, below⟩
  all_goals simp [writeBytes, Fin.ext_iff, at0, at1, at2, at3]

/-- Four hexadecimal digits are read as From16Bit of their value. -/
theorem uuidFromString_four {text : List Char} (four : text.length = 4) (hex : ∀ c ∈ text, c.isHexDigit = true) :
    uuidFromString (String.ofList text) = (from16Bit (UInt16.ofNat (hexNumber text)), true) := by
  match text, four with
  | [a, b, c, d], _ =>
    have aHex := hex a (by simp)
    have bHex := hex b (by simp)
    have cHex := hex c (by simp)
    have dHex := hex d (by simp)
    have scanned : sscanf kFormat16 [a, b, c, d] 0 = ([groupByte (a, b), groupByte (c, d)], [4]) := by
      simp [kFormat16, sscanf_hhx2_pair aHex bHex, sscanf_hhx2_pair cHex dHex, sscanf_charCount, sscanf_nil]
    have value : hexNumber [a, b, c, d] = 2 ^ 8 * (groupByte (a, b)).toNat + (groupByte (c, d)).toNat := by
      simp only [hexNumber, List.foldl_cons, List.foldl_nil, toNat_groupByte aHex bHex, toNat_groupByte cHex dHex]
      omega
    dsimp only [uuidFromString]
    rw [String.toList_ofList, if_neg (by simp), if_neg (by simp [kString128BitLen]), if_neg (by simp),
      if_pos (show [a, b, c, d].length = 4 from rfl), scanned, writeBytes_two, value]
    simp

/-- Eight hexadecimal digits are read as From32Bit of their value. -/
theorem uuidFromString_eight {text : List Char} (eight : text.length = 8) (hex : ∀ c ∈ text, c.isHexDigit = true) :
    uuidFromString (String.ofList text) = (from32Bit (UInt32.ofNat (hexNumber text)), true) := by
  match text, eight with
  | [a, b, c, d, e, f, g, h], _ =>
    have aHex := hex a (by simp)
    have bHex := hex b (by simp)
    have cHex := hex c (by simp)
    have dHex := hex d (by simp)
    have eHex := hex e (by simp)
    have fHex := hex f (by simp)
    have gHex := hex g (by simp)
    have hHex := hex h (by simp)
    have scanned : sscanf kFormat32 [a, b, c, d, e, f, g, h] 0 =
        ([groupByte (a, b), groupByte (c, d), groupByte (e, f), groupByte (g, h)], [8]) := by
      simp [kFormat32, sscanf_hhx2_pair aHex bHex, sscanf_hhx2_pair cHex dHex, sscanf_hhx2_pair eHex fHex,
        sscanf_hhx2_pair gHex hHex, sscanf_charCount, sscanf_nil]
    have value : hexNumber [a, b, c, d, e, f, g, h] = 2 ^ 24 * (groupByte (a, b)).toNat +
        2 ^ 16 * (groupByte (c, d)).toNat + 2 ^ 8 * (groupByte (e, f)).toNat + (groupByte (g, h)).toNat := by
      simp only [hexNumber, List.foldl_cons, List.foldl_nil, toNat_groupByte aHex bHex, toNat_groupByte cHex dHex,
        toNat_groupByte eHex fHex, toNat_groupByte gHex hHex]
      omega
    dsimp only [uuidFromString]
    rw [String.toList_ofList, if_neg (by simp), if_neg (by simp [kString128BitLen]),
      if_pos (show [a, b, c, d, e, f, g, h].length = 8 from rfl), scanned, writeBytes_four, value]
    simp

/-! ## A sign inside the field -/

/-- "-c" fills the field as well: the sign is taken first, and the byte is the
digit's value negated and cut to uint8_t. -/
theorem scanHexField_signed {c : Char} (cHex : c.isHexDigit = true) (rest : List Char) :
    scanHexField ('-' :: c :: rest) = some (UInt8.ofInt (-(hexValue c : Int)), 2) := by
  have cSmall := (hexValue_of_isHexDigit cHex).1
  obtain ⟨second, secondStep, digit⟩ :=
    scanHexStep_of_isHexDigit { ScanFlags.initial with signOk := false, haveSign := true } 1 cHex
  have firstStep : scanHexStep ScanFlags.initial 0 '-' = some { ScanFlags.initial with signOk := false, haveSign := true } := by
    decide
  have loop : scanHexLoop 2 ScanFlags.initial [] ('-' :: c :: rest) = (second, ['-', c]) := by
    simp [scanHexLoop, firstStep, secondStep]
  -- the sign is no digit, so the value is the digit's
  have value : hexNumber (['-', c].filter Char.isHexDigit) = hexValue c := by
    simp [hexNumber, cHex, show Char.isHexDigit '-' = false from rfl]
  have fits : hexNumber (['-', c].filter Char.isHexDigit) ≤ kUintmaxMax := by
    rw [value, kUintmaxMax]
    omega
  rw [scanHexField, scanHexConversion_of_loop (by decide) loop digit (by simp [cHex]) fits, value]
  simp

theorem toNat_ofInt_neg {n : Nat} (small : n ≤ 256) : (UInt8.ofInt (-(n : Int))).toNat = (256 - n) % 256 := by
  rw [UInt8.ofInt, UInt8.toNat_ofNat']
  omega

/-! ## bluetooth::Uuid and hci::Uuid -/

namespace Uuid

theorem fromString_uuidText {digits : Fin 16 → Char × Char}
    (hex : ∀ i, (digits i).1.isHexDigit ∧ (digits i).2.isHexDigit) :
    fromString (String.ofList (uuidText digits)) = (⟨fun i => groupByte (digits i)⟩, true) := by
  rw [fromString, uuidFromString_uuidText hex]

theorem toString_eq (u : Uuid) : u.toString = String.ofList (uuidText fun i => hexDigits (u.uu i)) := by
  unfold toString
  congr 1
  rw [show List.finRange 16 = [0, 1, 2, 3, 4, 5, 6, 7, 8, 9, 10, 11, 12, 13, 14, 15] from rfl]
  simp [uuidText_eq, hexByte_eq_hexDigits]

/-- FromString reads back what ToString prints, and calls it valid. -/
theorem fromString_toString (u : Uuid) : fromString u.toString = (u, true) := by
  rw [toString_eq, fromString_uuidText fun i => hexDigits_isHexDigit (u.uu i)]
  simp only [groupByte_hexDigits]

theorem fromString_four {text : List Char} (four : text.length = 4) (hex : ∀ c ∈ text, c.isHexDigit = true) :
    fromString (String.ofList text) = (from16Bit (UInt16.ofNat (hexNumber text)), true) := by
  rw [fromString, uuidFromString_four four hex]
  rfl

theorem fromString_eight {text : List Char} (eight : text.length = 8) (hex : ∀ c ∈ text, c.isHexDigit = true) :
    fromString (String.ofList text) = (from32Bit (UInt32.ofNat (hexNumber text)), true) := by
  rw [fromString, uuidFromString_eight eight hex]
  rfl

end Uuid

namespace Hci.Uuid

theorem fromString_uuidText {digits : Fin 16 → Char × Char}
    (hex : ∀ i, (digits i).1.isHexDigit ∧ (digits i).2.isHexDigit) :
    fromString (String.ofList (uuidText digits)) = some ⟨fun i => groupByte (digits i)⟩ := by
  rw [fromString, uuidFromString_uuidText hex, if_pos rfl]

theorem toString_eq (u : Uuid) : u.toString = String.ofList (uuidText fun i => hexDigits (u.uu i)) := by
  unfold toString
  simp [uuidText_eq, hexByte_eq_hexDigits]

theorem fromString_toString (u : Uuid) : fromString u.toString = some u := by
  rw [toString_eq, fromString_uuidText fun i => hexDigits_isHexDigit (u.uu i)]
  simp only [groupByte_hexDigits]

theorem fromString_four {text : List Char} (four : text.length = 4) (hex : ∀ c ∈ text, c.isHexDigit = true) :
    fromString (String.ofList text) = some (from16Bit (UInt16.ofNat (hexNumber text))) := by
  rw [fromString, uuidFromString_four four hex, if_pos rfl]
  rfl

theorem fromString_eight {text : List Char} (eight : text.length = 8) (hex : ∀ c ∈ text, c.isHexDigit = true) :
    fromString (String.ofList text) = some (from32Bit (UInt32.ofNat (hexNumber text))) := by
  rw [fromString, uuidFromString_eight eight hex, if_pos rfl]
  rfl

end Hci.Uuid

/-- Every text of the three forms is valid. -/
theorem uuidFromString_valid {text : List Char} (form : IsUuidText text) :
    (uuidFromString (String.ofList text)).2 = true := by
  rcases form with ⟨four | eight, hex⟩ | ⟨digits, hex, rfl⟩
  · rw [uuidFromString_four four hex]
  · rw [uuidFromString_eight eight hex]
  · rw [uuidFromString_uuidText hex]

/-- What FromString and GetShortestRepresentationSize get right, for both
classes: FromString reads back ToString and calls it valid, every text of the
three forms is valid, four and eight digits are From16Bit and From32Bit of
their value, and GetShortestRepresentationSize is the size of the shortest
form that gives the UUID back. -/
theorem uuid_text_and_short_forms :
    (∀ u : Uuid, Uuid.fromString u.toString = (u, true)) ∧
      (∀ u : Hci.Uuid, Hci.Uuid.fromString u.toString = some u) ∧
      (∀ text, IsUuidText text → (uuidFromString (String.ofList text)).2 = true) ∧
      (∀ text : List Char, text.length = 4 → (∀ c ∈ text, c.isHexDigit = true) →
        Uuid.fromString (String.ofList text) = (Uuid.from16Bit (UInt16.ofNat (hexNumber text)), true) ∧
          Hci.Uuid.fromString (String.ofList text) = some (Hci.Uuid.from16Bit (UInt16.ofNat (hexNumber text)))) ∧
      (∀ text : List Char, text.length = 8 → (∀ c ∈ text, c.isHexDigit = true) →
        Uuid.fromString (String.ofList text) = (Uuid.from32Bit (UInt32.ofNat (hexNumber text)), true) ∧
          Hci.Uuid.fromString (String.ofList text) = some (Hci.Uuid.from32Bit (UInt32.ofNat (hexNumber text)))) ∧
      (∀ u : Uuid, u.getShortestRepresentationSize =
        if u = Uuid.from16Bit u.as16Bit then 2 else if u = Uuid.from32Bit u.as32Bit then 4 else 16) ∧
      ∀ u : Hci.Uuid, u.getShortestRepresentationSize =
        if u = Hci.Uuid.from16Bit u.as16Bit then 2 else if u = Hci.Uuid.from32Bit u.as32Bit then 4 else 16 :=
  ⟨Uuid.fromString_toString, Hci.Uuid.fromString_toString, fun _ form => uuidFromString_valid form,
    fun _ four hex => ⟨Uuid.fromString_four four hex, Hci.Uuid.fromString_four four hex⟩,
    fun _ eight hex => ⟨Uuid.fromString_eight eight hex, Hci.Uuid.fromString_eight eight hex⟩,
    Uuid.getShortestRepresentationSize_eq, Hci.Uuid.getShortestRepresentationSize_eq⟩

/-- A sign inside each field: "-a-b" is valid for both FromString, with the
digits negated and cut to uint8_t, though it is none of the three forms. -/
theorem fromString_accepts_signed_field (a b : Char) (aHex : a.isHexDigit = true) (bHex : b.isHexDigit = true) :
    Uuid.fromString (String.ofList ['-', a, '-', b]) =
        (Uuid.from16Bit (UInt16.ofNat (2 ^ 8 * ((256 - hexValue a) % 256) + (256 - hexValue b) % 256)), true) ∧
      Hci.Uuid.fromString (String.ofList ['-', a, '-', b]) =
        some (Hci.Uuid.from16Bit (UInt16.ofNat (2 ^ 8 * ((256 - hexValue a) % 256) + (256 - hexValue b) % 256))) ∧
      ¬ IsUuidText ['-', a, '-', b] := by
  have aSmall := (hexValue_of_isHexDigit aHex).1
  have bSmall := (hexValue_of_isHexDigit bHex).1
  have scanned : sscanf kFormat16 ['-', a, '-', b] 0 =
      ([UInt8.ofInt (-(hexValue a : Int)), UInt8.ofInt (-(hexValue b : Int))], [4]) := by
    simp [kFormat16, sscanf, scanHexField_signed aHex, scanHexField_signed bHex]
  have parsed : uuidFromString (String.ofList ['-', a, '-', b]) =
      (from16Bit (UInt16.ofNat (2 ^ 8 * ((256 - hexValue a) % 256) + (256 - hexValue b) % 256)), true) := by
    dsimp only [uuidFromString]
    rw [String.toList_ofList, if_neg (by simp), if_neg (by simp [kString128BitLen]), if_neg (by simp),
      if_pos (show ['-', a, '-', b].length = 4 from rfl), scanned, writeBytes_two, toNat_ofInt_neg (by omega),
      toNat_ofInt_neg (by omega)]
    simp
  have notForm : ¬ IsUuidText ['-', a, '-', b] := by
    rintro (⟨-, hex⟩ | ⟨digits, -, same⟩)
    · exact absurd (hex '-' (by simp)) (by decide)
    · have lengths := congrArg List.length same
      simp [uuidText_eq] at lengths
  refine ⟨?_, ?_, notForm⟩
  · rw [Uuid.fromString, parsed]
    rfl
  · rw [Hci.Uuid.fromString, parsed, if_pos rfl]
    rfl

theorem fromString_accepts_signed_field_minusOne :
    Uuid.fromString "-1-1" = (Uuid.from16Bit 0xffff, true) ∧
      Hci.Uuid.fromString "-1-1" = some (Hci.Uuid.from16Bit 0xffff) ∧ ¬ IsUuidText "-1-1".toList := by
  have text : "-1-1" = String.ofList ['-', '1', '-', '1'] := by decide
  rw [text, String.toList_ofList]
  exact fromString_accepts_signed_field '1' '1' (by decide) (by decide)

end BluetoothStack
