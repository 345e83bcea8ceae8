import Mathlib.Tactic.IntervalCases
import Mathlib.Data.List.OfFn
import Mathlib.Data.List.Basic
import BluetoothStack.Library.CNumerals
import BluetoothStack.Common.Strings

namespace BluetoothStack

open Common (hexByte)
open CNumerals (hexValue hexNumber hexNumber_pair)

/-!
# Bluetooth addresses as text (types/raw_address.cc, gd/hci/address.cc)

RawAddress and hci::Address hold the six bytes of a device address.  Both
print them as six lower-case hexadecimal pairs joined by ':', RawAddress
from address[0] on and hci::Address from address[5] down, and both read them
back with the same loop: 17 characters, then the tokens std::getline(stream,
token, ':') gives, each of two characters that std::strtol(token, &temp, 16)
reads to its end, and exactly six of them (`validAddressText` says which
texts those are).  ConfigCache::IsDeviceSection is
hci::Address::IsValidAddress.

strtol reads more than two hexadecimal digits: white space or a sign may
stand before one digit, so FromString accepts texts such as
"-1:00:00:00:00:00", whose first byte is 0xff.  A std::string is a list of
characters; the texts FromString accepts are ASCII, where characters and
bytes agree.
-/

/-! ## std::strtol in base 16 -/

def kLongMax : Int := 2 ^ 63 - 1

def kLongMin : Int := -2 ^ 63

/-- std::strtol(nptr, &endptr, 16): white space, an optional sign, a 0x or 0X
that a hexadecimal digit follows, and the longest run of hexadecimal digits,
clamped to long.  The value and endptr - nptr, which is 0 when no digit is
read. -/
def strtol (chars : List Char) : Int × Nat :=
  let spaces := (chars.takeWhile CNumerals.isSpace).length
  let afterSpaces := chars.drop spaces
  let signLength := if afterSpaces.head? = some '-' ∨ afterSpaces.head? = some '+' then 1 else 0
  let afterSign := afterSpaces.drop signLength
  let prefixLength :=
    if (afterSign.take 2 = ['0', 'x'] ∨ afterSign.take 2 = ['0', 'X']) ∧ afterSign[2]?.any Char.isHexDigit then 2
    else 0
  let digits := (afterSign.drop prefixLength).takeWhile Char.isHexDigit
  if digits.isEmpty then (0, 0)
  else
    let magnitude : Nat := hexNumber digits
    (if afterSpaces.head? = some '-' then max (-(magnitude : Int)) kLongMin else min (magnitude : Int) kLongMax,
      spaces + signLength + prefixLength + digits.length)

/-- A two-character token that std::strtol(token, &end, 16) reads to its end:
white space or a sign may come before the digit, and "0x" reads only as 0. -/
def strtolReadsHexToken : List Char → Bool
  | [first, second] => second.isHexDigit && (first.isHexDigit || CNumerals.isSpace first || first = '+' || first = '-')
  | _ => false

/-! ## Reading the six bytes -/

/-- The tokens that std::getline(stream, token, ':') extracts in turn: the
pieces between colons, and none after a colon that ends the input. -/
def getlineTokens (chars : List Char) : List (List Char) :=
  if chars = [] then []
  else if chars.getLast? = some ':' then (chars.splitOn ':').dropLast
  else chars.splitOn ':'

/-- One round of the getline loop of FromString, index being the bytes read so
far: a seventh token, a token not of two characters, and one strtol does not
read to its end fail.  strtol's value is cut to uint8_t and written to the
byte index stands for, before the end pointer is checked. -/
def fromStringToken (position : Fin 6 → Fin 6) (state : Nat × (Fin 6 → UInt8)) (token : List Char) :
    Option (Nat × (Fin 6 → UInt8)) :=
  if index : state.1 < 6 then
    if token.length ≠ 2 then none
    else
      let converted := strtol token
      let address := Function.update state.2 (position ⟨state.1, index⟩) (UInt8.ofInt converted.1)
      if converted.2 = 0 then none
      else if converted.2 ≠ token.length then none
      else some (state.1 + 1, address)
  else none

/-- The body of both FromString: 17 characters, the getline loop, and six
tokens read. -/
def fromStringBytes (position : Fin 6 → Fin 6) (initial : Fin 6 → UInt8) (text : String) : Option (Fin 6 → UInt8) :=
  if text.length ≠ 17 then none
  else
    ((getlineTokens text.toList).foldlM (fromStringToken position) (0, initial)).bind fun state =>
      if state.1 = 6 then some state.2 else none

/-- types/raw_address.h: address[0] is written first. -/
@[ext]
structure RawAddress where
  address : Fin 6 → UInt8

namespace RawAddress

/-- Addresses compare byte by byte. -/
instance : DecidableEq RawAddress := fun a b =>
  decidable_of_iff (List.ofFn a.address = List.ofFn b.address) (Iff.trans List.ofFn_inj RawAddress.ext_iff.symm)

/-- RawAddress::FromString, none for false (to is then left as it was).
new_addr starts uninitialised, which FromString only returns once all six
bytes are written. -/
def fromString (text : String) : Option RawAddress :=
  (fromStringBytes id (fun _ => 0) text).map RawAddress.mk

def isValidAddress (address : String) : Bool :=
  (fromString address).isSome

def toColonSepHexString (a : RawAddress) : String :=
  String.ofList ((List.finRange 6).flatMap fun i => hexByte (a.address i) ++ if i ≠ 5 then [':'] else [])

def toString (a : RawAddress) : String :=
  a.toColonSepHexString

end RawAddress

namespace Hci

/-- hci/address.h: address[5] is written first. -/
@[ext]
structure Address where
  address : Fin 6 → UInt8

namespace Address

instance : DecidableEq Address := fun a b =>
  decidable_of_iff (List.ofFn a.address = List.ofFn b.address) (Iff.trans List.ofFn_inj Address.ext_iff.symm)

/-- Address::FromString: token index goes to address.at(5 - index). -/
def fromString (text : String) : Option Address :=
  (fromStringBytes Fin.rev (fun _ => 0) text).map Address.mk

def isValidAddress (address : String) : Bool :=
  (fromString address).isSome

/-- _ToMaskedColonSepHexString: address[5] down to address[0], the first
bytes_to_mask of them as xx. -/
def toMaskedColonSepHexString (a : Address) (bytesToMask : Int) : String :=
  String.ofList (((List.finRange 6).reverse.zipIdx).flatMap fun entry =>
    (if (entry.2 : Int) < bytesToMask then ['x', 'x'] else hexByte (a.address entry.1)) ++
      if entry.1 ≠ 0 then [':'] else [])

def toString (a : Address) : String :=
  a.toMaskedColonSepHexString 0

end Address

end Hci

/-! ## Address texts -/

/-- Six groups of two hexadecimal digits joined by ':'. -/
def addressText (digits : Fin 6 → Char × Char) : List Char :=
  [':'].intercalate (List.ofFn fun i => [(digits i).1, (digits i).2])

def IsAddressText (text : List Char) : Prop :=
  ∃ digits : Fin 6 → Char × Char, (∀ i, (digits i).1.isHexDigit ∧ (digits i).2.isHexDigit) ∧ text = addressText digits

/-- The byte a group of two hexadecimal digits stands for. -/
def groupByte (digits : Char × Char) : UInt8 :=
  UInt8.ofNat (16 * hexValue digits.1 + hexValue digits.2)

/-! ## Hexadecimal digits -/

def hexDigitChars : List Char :=
  ['0', '1', '2', '3', '4', '5', '6', '7', '8', '9', 'a', 'b', 'c', 'd', 'e', 'f', 'A', 'B', 'C', 'D', 'E', 'F']

/-- Char.isHexDigit holds of the 22 digits and no other character. -/
theorem mem_hexDigitChars {c : Char} (hex : c.isHexDigit = true) : c ∈ hexDigitChars := by
  have ranges : (48 ≤ c.toNat ∧ c.toNat ≤ 57) ∨ (97 ≤ c.toNat ∧ c.toNat ≤ 102) ∨ (65 ≤ c.toNat ∧ c.toNat ≤ 70) := by
    simp only [Char.isHexDigit, Char.isDigit, Bool.or_eq_true, Bool.and_eq_true, decide_eq_true_eq,
      UInt32.le_iff_toNat_le, ge_iff_le, show '0'.val.toNat = 48 from rfl, show '9'.val.toNat = 57 from rfl,
      show 'a'.val.toNat = 97 from rfl, show 'f'.val.toNat = 102 from rfl, show 'A'.val.toNat = 65 from rfl,
      show 'F'.val.toNat = 70 from rfl] at hex
    rcases hex with (digit | lower) | upper
    · exact Or.inl digit
    · exact Or.inr (Or.inl lower)
    · exact Or.inr (Or.inr upper)
  rw [← Char.ofNat_toNat c]
  rcases ranges with ⟨low, high⟩ | ⟨low, high⟩ | ⟨low, high⟩ <;> interval_cases c.toNat <;> decide

theorem hexValue_of_isHexDigit {c : Char} (hex : c.isHexDigit = true) :
    hexValue c < 16 ∧ Nat.digitChar (hexValue c) = c.toLower ∧ c ≠ ':' ∧ c ≠ '-' ∧ c ≠ '+' ∧ CNumerals.isSpace c = false := by
  -- checked as a Bool: with all of Mathlib, a bounded forall over Char is decided by enumerating Char
  have digits : hexDigitChars.all (fun c => decide (hexValue c < 16 ∧ Nat.digitChar (hexValue c) = c.toLower ∧
      c ≠ ':' ∧ c ≠ '-' ∧ c ≠ '+' ∧ CNumerals.isSpace c = false)) = true := by
    decide
  exact of_decide_eq_true (List.all_eq_true.1 digits c (mem_hexDigitChars hex))

/-- The sixteen digits std::hex prints. -/
theorem digitChar_of_lt : ∀ d : Nat, d < 16 → (Nat.digitChar d).isHexDigit = true ∧ hexValue (Nat.digitChar d) = d
  | 0, _ | 1, _ | 2, _ | 3, _ | 4, _ | 5, _ | 6, _ | 7, _ | 8, _ | 9, _ | 10, _ | 11, _ | 12, _ | 13, _ | 14, _
  | 15, _ => by decide
  | _ + 16, small => absurd small (by omega)

theorem not_isHexDigit_of_isSpace {c : Char} (space : CNumerals.isSpace c = true) : c.isHexDigit = false := by
  simp only [CNumerals.isSpace, Bool.or_eq_true, decide_eq_true_eq] at space
  rcases space with ((((rfl | rfl) | rfl) | rfl) | rfl) | rfl <;> rfl

/-! ## strtol on a token of two characters -/

/-- strtol reads a two-character token to its end exactly when
`strtolReadsHexToken` says so: a hexadecimal digit after a digit, a C space
or a sign. -/
theorem strtol_two_iff (c d : Char) :
    ((strtol [c, d]).2 ≠ 0 ∧ (strtol [c, d]).2 = 2) ↔ strtolReadsHexToken [c, d] = true := by
  by_cases cSpace : CNumerals.isSpace c = true
  · have cHex := not_isHexDigit_of_isSpace cSpace
    by_cases dSpace : CNumerals.isSpace d = true
    · have dHex := not_isHexDigit_of_isSpace dSpace
      simp [strtol, strtolReadsHexToken, cSpace, dSpace, dHex]
    -- after the space, a sign with no digit behind it reads nothing
    by_cases dSign : d = '-' ∨ d = '+'
    · rcases dSign with rfl | rfl <;> simp [strtol, strtolReadsHexToken, cSpace] <;> decide
    by_cases dHex : d.isHexDigit = true
    · simp [strtol, strtolReadsHexToken, cSpace, dSpace, dSign, dHex]
    · simp [strtol, strtolReadsHexToken, cSpace, dSpace, dSign, dHex]
  by_cases cSign : c = '-' ∨ c = '+'
  · rcases cSign with rfl | rfl <;> by_cases dHex : d.isHexDigit = true <;>
      simp [strtol, strtolReadsHexToken, cSpace, dHex]
  rcases not_or.1 cSign with ⟨notMinus, notPlus⟩
  by_cases cHex : c.isHexDigit = true <;> by_cases dHex : d.isHexDigit = true <;>
    simp [strtol, strtolReadsHexToken, cSpace, notMinus, notPlus, cHex, dHex]

theorem strtol_hexPair {c d : Char} (cHex : c.isHexDigit = true) (dHex : d.isHexDigit = true) :
    strtol [c, d] = (((16 * hexValue c + hexValue d : Nat) : Int), 2) := by
  rcases hexValue_of_isHexDigit cHex with ⟨cSmall, -, -, notMinus, notPlus, cSpace⟩
  have dSmall := (hexValue_of_isHexDigit dHex).1
  have inRange : 16 * (hexValue c : Int) + hexValue d ≤ kLongMax := by
    rw [kLongMax]
    omega
  simp [strtol, hexNumber_pair, cSpace, notMinus, notPlus, cHex, dHex, inRange]

/-! ## Printing a byte -/

/-- The byte format of the stream (`Common.hexByte`) prints the two digits
Nat.digitChar gives. -/
theorem hexByte_eq (byte : UInt8) :
    hexByte byte = [Nat.digitChar (byte.toNat / 16), Nat.digitChar (byte.toNat % 16)] := by
  have small := byte.toNat_lt
  rw [Common.hexByte, Common.hexDigit_eq_digitChar _ (by omega),
    Common.hexDigit_eq_digitChar _ (Nat.mod_lt _ (by omega))]

theorem strtol_hexByte (byte : UInt8) : strtol (hexByte byte) = ((byte.toNat : Int), 2) := by
  have small := byte.toNat_lt
  rcases digitChar_of_lt (byte.toNat / 16) (by omega) with ⟨highHex, highValue⟩
  rcases digitChar_of_lt (byte.toNat % 16) (by omega) with ⟨lowHex, lowValue⟩
  rw [hexByte_eq, strtol_hexPair highHex lowHex, highValue, lowValue, Nat.div_add_mod]

theorem hexByte_groupByte {c d : Char} (cHex : c.isHexDigit = true) (dHex : d.isHexDigit = true) :
    hexByte (groupByte (c, d)) = [c.toLower, d.toLower] := by
  rcases hexValue_of_isHexDigit cHex with ⟨cSmall, cLower, -⟩
  rcases hexValue_of_isHexDigit dHex with ⟨dSmall, dLower, -⟩
  have value : (groupByte (c, d)).toNat = 16 * hexValue c + hexValue d := by
    dsimp only [groupByte]
    rw [UInt8.toNat_ofNat_of_lt' (by rw [UInt8.size]; omega)]
  rw [hexByte_eq, value, Nat.mul_add_div (by omega), Nat.div_eq_of_lt dSmall, Nat.add_zero, Nat.mul_add_mod,
    Nat.mod_eq_of_lt dSmall, cLower, dLower]

/-- The value strtol gives for a group, cut to uint8_t. -/
theorem ofInt_natCast (n : Nat) : UInt8.ofInt (n : Int) = UInt8.ofNat n := by
  apply UInt8.toNat_inj.mp
  rw [UInt8.ofInt, UInt8.toNat_ofNat', UInt8.toNat_ofNat']
  omega

/-! ## The getline loop -/

/-- A token that strtolReadsHexToken accepts is two characters, neither a colon. -/
theorem shape_of_strtolReadsHexToken {token : List Char} (reads : strtolReadsHexToken token = true) :
    ∃ c d, token = [c, d] ∧ c ≠ ':' ∧ d ≠ ':' := by
  rcases token with _ | ⟨c, _ | ⟨d, _ | ⟨e, rest⟩⟩⟩
  · simp [strtolReadsHexToken] at reads
  · simp [strtolReadsHexToken] at reads
  · simp only [strtolReadsHexToken, Bool.and_eq_true, Bool.or_eq_true, decide_eq_true_eq] at reads
    refine ⟨c, d, rfl, ?_, (hexValue_of_isHexDigit reads.1).2.2.1⟩
    rcases reads.2 with ((hex | space) | plus) | minus
    · exact (hexValue_of_isHexDigit hex).2.2.1
    · rintro rfl
      exact absurd space (by decide)
    · rw [plus]
      decide
    · rw [minus]
      decide
  · simp [strtolReadsHexToken] at reads

/-- One round of the loop reads a token exactly when strtolReadsHexToken
accepts it and fewer than six were read. -/
theorem fromStringToken_eq (position : Fin 6 → Fin 6) (state : Nat × (Fin 6 → UInt8)) (token : List Char) :
    fromStringToken position state token =
      if read : state.1 < 6 ∧ strtolReadsHexToken token = true then
        some (state.1 + 1, Function.update state.2 (position ⟨state.1, read.1⟩) (UInt8.ofInt (strtol token).1))
      else none := by
  unfold fromStringToken
  by_cases index : state.1 < 6
  · rw [dif_pos index]
    by_cases two : token.length = 2
    · rcases List.length_eq_two.1 two with ⟨c, d, rfl⟩
      have reading := strtol_two_iff c d
      by_cases reads : strtolReadsHexToken [c, d] = true
      · rcases reading.2 reads with ⟨nonzero, whole⟩
        simp only [dif_pos (And.intro index reads), List.length_cons, List.length_nil, Nat.reduceAdd, ne_eq,
          not_true_eq_false, if_false, whole]
        exact if_neg two_ne_zero
      · rw [dif_neg fun read => reads read.2]
        simp only [List.length_cons, List.length_nil, Nat.reduceAdd, ne_eq, not_true_eq_false, if_false]
        -- strtol reads nothing, or stops before the token's end
        split
        · rfl
        · rw [if_pos]
          intro whole
          exact reads (reading.1 ⟨‹_›, whole⟩)
    · have notReads : ¬ strtolReadsHexToken token = true := fun reads => by
        rcases shape_of_strtolReadsHexToken reads with ⟨c, d, rfl, -⟩
        exact two rfl
      rw [if_pos two, dif_neg fun read => notReads read.2]
  · rw [dif_neg index, dif_neg fun read => index read.1]

/-- The loop reads every token, and ends with their count, exactly when
there are at most six and strtolReadsHexToken accepts each; by induction on
the tokens. -/
theorem foldlM_fromStringToken_fst (position : Fin 6 → Fin 6) :
    ∀ (tokens : List (List Char)) (state : Nat × (Fin 6 → UInt8)), state.1 ≤ 6 →
      (tokens.foldlM (fromStringToken position) state).map Prod.fst =
        if state.1 + tokens.length ≤ 6 ∧ ∀ token ∈ tokens, strtolReadsHexToken token = true then
          some (state.1 + tokens.length) else none
  | [], state, start => by simp [start]
  | token :: rest, state, start => by
    rw [List.foldlM_cons, fromStringToken_eq]
    by_cases read : state.1 < 6 ∧ strtolReadsHexToken token = true
    · rw [dif_pos read]
      have after := foldlM_fromStringToken_fst position rest
        (state.1 + 1, Function.update state.2 (position ⟨state.1, read.1⟩) (UInt8.ofInt (strtol token).1))
        (Nat.succ_le_of_lt read.1)
      have count : state.1 + 1 + rest.length = state.1 + (rest.length + 1) := by omega
      simp only [Option.bind_eq_bind, Option.bind_some] at after ⊢
      rw [after, count]
      simp only [List.length_cons, List.forall_mem_cons, read.2, true_and]
    · rw [dif_neg read, if_neg]
      · rfl
      · rintro ⟨fits, all⟩
        exact read ⟨by simp only [List.length_cons] at fits; omega, all token List.mem_cons_self⟩

theorem length_of_strtolReadsHexToken {token : List Char} (reads : strtolReadsHexToken token = true) :
    token.length = 2 := by
  rcases shape_of_strtolReadsHexToken reads with ⟨c, d, rfl, -⟩
  rfl

/-- The check that six tokens were read. -/
theorem bind_six_isSome {α : Type} (result : Option (Nat × α)) :
    (result.bind fun state => if state.1 = 6 then some state.2 else none).isSome =
      decide (result.map Prod.fst = some 6) := by
  cases result with
  | none => rfl
  | some state => by_cases six : state.1 = 6 <;> simp [six]

/-- The texts both FromString accept, as a check of their shape: 17
characters, and exactly six tokens of two characters that strtol reads
whole. -/
def validAddressText (address : String) : Bool :=
  let tokens := getlineTokens address.toList
  address.length == 17 && tokens.length == 6 &&
    tokens.all (fun token => token.length == 2 && strtolReadsHexToken token)

/-- Both FromString succeed exactly on the texts `validAddressText` accepts,
whatever the bytes go to. -/
theorem fromStringBytes_isSome (position : Fin 6 → Fin 6) (initial : Fin 6 → UInt8) (text : String) :
    (fromStringBytes position initial text).isSome = validAddressText text := by
  unfold fromStringBytes validAddressText
  by_cases length : text.length = 17
  · have run := foldlM_fromStringToken_fst position (getlineTokens text.toList) (0, initial) (Nat.zero_le _)
    simp only [Nat.zero_add] at run
    rw [if_neg (not_not_intro length), bind_six_isSome, run, Bool.eq_iff_iff]
    simp only [decide_eq_true_eq, length, beq_self_eq_true, Bool.true_and, Bool.and_eq_true, beq_iff_eq,
      List.all_eq_true]
    by_cases accepted : (getlineTokens text.toList).length ≤ 6 ∧
        ∀ token ∈ getlineTokens text.toList, strtolReadsHexToken token = true
    · rw [if_pos accepted, Option.some.injEq]
      constructor
      · intro six
        exact ⟨six, fun token member => ⟨length_of_strtolReadsHexToken (accepted.2 token member),
          accepted.2 token member⟩⟩
      · exact fun read => read.1
    · rw [if_neg accepted]
      simp only [reduceCtorEq, false_iff, not_and]
      intro six all
      exact accepted ⟨six.le, fun token member => (all token member).2⟩
  · rw [if_pos length]
    simp [length]

/-- hci::Address::IsValidAddress accepts only texts of 17 characters. -/
theorem Hci.Address.length_of_isValidAddress {address : String} (valid : Hci.Address.isValidAddress address = true) :
    address.length = 17 := by
  unfold Hci.Address.isValidAddress Hci.Address.fromString fromStringBytes at valid
  by_contra other
  rw [if_pos other] at valid
  cases valid

/-- Six tokens that strtolReadsHexToken accepts, joined by ':', are read in
turn, token i going to the byte position i stands for. -/
theorem fromStringBytes_intercalate {position : Fin 6 → Fin 6} (injective : Function.Injective position)
    (initial : Fin 6 → UInt8) (tokens : Fin 6 → List Char) (reads : ∀ i, strtolReadsHexToken (tokens i) = true) :
    ∃ address, fromStringBytes position initial (String.ofList ([':'].intercalate (List.ofFn tokens))) = some address ∧
      ∀ i, address (position i) = UInt8.ofInt (strtol (tokens i)).1 := by
  choose c d shape using fun i => shape_of_strtolReadsHexToken (reads i)
  have explicit : List.ofFn tokens = [tokens 0, tokens 1, tokens 2, tokens 3, tokens 4, tokens 5] := rfl
  have text : [':'].intercalate (List.ofFn tokens) =
      [c 0, d 0, ':', c 1, d 1, ':', c 2, d 2, ':', c 3, d 3, ':', c 4, d 4, ':', c 5, d 5] := by
    rw [explicit, (shape 0).1, (shape 1).1, (shape 2).1, (shape 3).1, (shape 4).1, (shape 5).1]
    rfl
  have noColon : ∀ token ∈ List.ofFn tokens, ':' ∉ token := by
    intro token member
    rcases List.mem_ofFn.1 member with ⟨i, rfl⟩
    rw [(shape i).1, List.mem_pair, not_or]
    exact ⟨(shape i).2.1.symm, (shape i).2.2.symm⟩
  have getline : getlineTokens ([':'].intercalate (List.ofFn tokens)) = List.ofFn tokens := by
    rw [getlineTokens, if_neg (by rw [text]; exact List.cons_ne_nil _ _),
      if_neg (by rw [text]; simpa using (shape 5).2.2),
      List.splitOn_intercalate ':' noColon (by rw [explicit]; exact List.cons_ne_nil _ _)]
  have step : ∀ (k : Nat) (below : k < 6) (address : Fin 6 → UInt8) (i : Fin 6),
      fromStringToken position (k, address) (tokens i) =
        some (k + 1, Function.update address (position ⟨k, below⟩) (UInt8.ofInt (strtol (tokens i)).1)) :=
    fun k below address i => by rw [fromStringToken_eq, dif_pos ⟨below, reads i⟩]
  unfold fromStringBytes
  rw [if_neg (by rw [String.length_ofList, text]; simp), String.toList_ofList, getline, explicit]
  simp only [List.foldlM_cons, List.foldlM_nil, step, Nat.reduceLT, Nat.reduceAdd, Option.bind_eq_bind,
    Option.bind_some, Option.pure_def, ↓reduceIte, Option.some.injEq, exists_eq_left']
  intro i
  simp only [Function.update_apply, injective.eq_iff]
  -- the six positions, each written once
  rcases i with ⟨_ | _ | _ | _ | _ | _ | k, below⟩
  all_goals first | rfl | omega

/-! ## The codec of RawAddress and hci::Address -/

theorem strtolReadsHexToken_hexByte (byte : UInt8) : strtolReadsHexToken (hexByte byte) = true := by
  have read := strtol_hexByte byte
  rw [hexByte_eq] at read ⊢
  exact (strtol_two_iff _ _).1 ⟨by rw [read]; exact two_ne_zero, by rw [read]⟩

theorem ofInt_strtol_hexByte (byte : UInt8) : UInt8.ofInt (strtol (hexByte byte)).1 = byte := by
  rw [strtol_hexByte, ofInt_natCast, UInt8.ofNat_toNat]

theorem strtolReadsHexToken_pair {c d : Char} (cHex : c.isHexDigit = true) (dHex : d.isHexDigit = true) :
    strtolReadsHexToken [c, d] = true := by
  simp [strtolReadsHexToken, cHex, dHex]

theorem ofInt_strtol_pair {c d : Char} (cHex : c.isHexDigit = true) (dHex : d.isHexDigit = true) :
    UInt8.ofInt (strtol [c, d]).1 = groupByte (c, d) := by
  rw [strtol_hexPair cHex dHex, ofInt_natCast]
  rfl

theorem addressText_eq (digits : Fin 6 → Char × Char) :
    addressText digits = [(digits 0).1, (digits 0).2, ':', (digits 1).1, (digits 1).2, ':', (digits 2).1,
      (digits 2).2, ':', (digits 3).1, (digits 3).2, ':', (digits 4).1, (digits 4).2, ':', (digits 5).1,
      (digits 5).2] := rfl

/-- An address text holds hexadecimal digits and colons only. -/
theorem isHexDigit_of_mem_addressText {digits : Fin 6 → Char × Char}
    (hex : ∀ i, (digits i).1.isHexDigit ∧ (digits i).2.isHexDigit) {c : Char} (member : c ∈ addressText digits) :
    c.isHexDigit ∨ c = ':' := by
  have all : ∀ c ∈ addressText digits, c.isHexDigit ∨ c = ':' := by
    simp [addressText_eq, hex]
  exact all c member

/-- Lower-casing an address text lower-cases each group. -/
theorem map_toLower_addressText (digits : Fin 6 → Char × Char) :
    (addressText digits).map Char.toLower =
      [':'].intercalate (List.ofFn fun i => [(digits i).1.toLower, (digits i).2.toLower]) := by
  rw [addressText_eq]
  rfl

namespace RawAddress

theorem toString_eq (a : RawAddress) :
    a.toString = String.ofList ([':'].intercalate (List.ofFn fun i => hexByte (a.address i))) := by
  unfold toString toColonSepHexString
  -- the six bytes, a colon after each but the last, on both sides
  rfl

/-- FromString reads back what ToString prints. -/
theorem fromString_toString (a : RawAddress) : fromString a.toString = some a := by
  rcases fromStringBytes_intercalate Function.injective_id (fun _ => 0) (fun i => hexByte (a.address i))
    (fun i => strtolReadsHexToken_hexByte _) with ⟨address, read, bytes⟩
  rw [toString_eq, fromString, read, Option.map_some]
  apply congrArg some
  apply congrArg RawAddress.mk
  funext i
  rw [← ofInt_strtol_hexByte (a.address i)]
  exact bytes i

/-- An address text is read group by group in order. -/
theorem fromString_addressText (digits : Fin 6 → Char × Char)
    (hex : ∀ i, (digits i).1.isHexDigit ∧ (digits i).2.isHexDigit) :
    fromString (String.ofList (addressText digits)) = some ⟨fun i => groupByte (digits i)⟩ := by
  rcases fromStringBytes_intercalate Function.injective_id (fun _ => 0) (fun i => [(digits i).1, (digits i).2])
    (fun i => strtolReadsHexToken_pair (hex i).1 (hex i).2) with ⟨address, read, bytes⟩
  rw [fromString, addressText, read, Option.map_some]
  apply congrArg some
  apply congrArg RawAddress.mk
  funext i
  rw [← ofInt_strtol_pair (hex i).1 (hex i).2]
  exact bytes i

/-- ToString of what an address text reads is the text in lower case. -/
theorem toString_addressText (digits : Fin 6 → Char × Char)
    (hex : ∀ i, (digits i).1.isHexDigit ∧ (digits i).2.isHexDigit) :
    (RawAddress.mk fun i => groupByte (digits i)).toString.toList = (addressText digits).map Char.toLower := by
  have lower : ∀ i, hexByte (groupByte (digits i)) = [(digits i).1.toLower, (digits i).2.toLower] :=
    fun i => hexByte_groupByte (hex i).1 (hex i).2
  rw [toString_eq, String.toList_ofList, map_toLower_addressText]
  simp only [lower]

end RawAddress

namespace Hci.Address

theorem toString_eq (a : Address) :
    a.toString = String.ofList ([':'].intercalate (List.ofFn fun i => hexByte (a.address i.rev))) := by
  unfold toString toMaskedColonSepHexString
  -- bytes_to_mask is 0: no byte is masked, and address[5] comes first
  rfl

theorem fromString_toString (a : Address) : fromString a.toString = some a := by
  rcases fromStringBytes_intercalate Fin.rev_injective (fun _ => 0) (fun i => hexByte (a.address i.rev))
    (fun i => strtolReadsHexToken_hexByte _) with ⟨address, read, bytes⟩
  rw [toString_eq, fromString, read, Option.map_some]
  apply congrArg some
  apply congrArg Address.mk
  funext i
  rw [← Fin.rev_rev i, bytes i.rev, ofInt_strtol_hexByte]

/-- An address text is read group by group from address[5] down. -/
theorem fromString_addressText (digits : Fin 6 → Char × Char)
    (hex : ∀ i, (digits i).1.isHexDigit ∧ (digits i).2.isHexDigit) :
    fromString (String.ofList (addressText digits)) = some ⟨fun i => groupByte (digits i.rev)⟩ := by
  rcases fromStringBytes_intercalate Fin.rev_injective (fun _ => 0) (fun i => [(digits i).1, (digits i).2])
    (fun i => strtolReadsHexToken_pair (hex i).1 (hex i).2) with ⟨address, read, bytes⟩
  rw [fromString, addressText, read, Option.map_some]
  apply congrArg some
  apply congrArg Address.mk
  funext i
  rw [← Fin.rev_rev i, bytes i.rev, Fin.rev_rev, ofInt_strtol_pair (hex i.rev).1 (hex i.rev).2]

theorem toString_addressText (digits : Fin 6 → Char × Char)
    (hex : ∀ i, (digits i).1.isHexDigit ∧ (digits i).2.isHexDigit) :
    (Address.mk fun i => groupByte (digits i.rev)).toString.toList = (addressText digits).map Char.toLower := by
  have lower : ∀ i, hexByte (groupByte (digits i)) = [(digits i).1.toLower, (digits i).2.toLower] :=
    fun i => hexByte_groupByte (hex i).1 (hex i).2
  rw [toString_eq, String.toList_ofList, map_toLower_addressText]
  simp only [Fin.rev_rev, lower]

end Hci.Address

/-- RawAddress::IsValidAddress and hci::Address::IsValidAddress accept the
same texts, those of `validAddressText`. -/
theorem isValidAddress_eq_fromString (address : String) :
    RawAddress.isValidAddress address = validAddressText address ∧
      Hci.Address.isValidAddress address = validAddressText address := by
  constructor
  · rw [RawAddress.isValidAddress, RawAddress.fromString, Option.isSome_map, fromStringBytes_isSome]
  · rw [Hci.Address.isValidAddress, Hci.Address.fromString, Option.isSome_map, fromStringBytes_isSome]

/-- What the address codec gets right, for both classes: FromString reads back
ToString, reads an address text group by group (in order for RawAddress, from
address[5] down for hci::Address) and ToString gives that text back in lower
case, and both IsValidAddress accept the texts of the same shape. -/
theorem address_text_round_trips :
    (∀ a : RawAddress, RawAddress.fromString a.toString = some a) ∧
      (∀ a : Hci.Address, Hci.Address.fromString a.toString = some a) ∧
      (∀ digits : Fin 6 → Char × Char, (∀ i, (digits i).1.isHexDigit ∧ (digits i).2.isHexDigit) →
        RawAddress.fromString (String.ofList (addressText digits)) = some ⟨fun i => groupByte (digits i)⟩ ∧
        (RawAddress.mk fun i => groupByte (digits i)).toString.toList = (addressText digits).map Char.toLower ∧
        Hci.Address.fromString (String.ofList (addressText digits)) = some ⟨fun i => groupByte (digits i.rev)⟩ ∧
        (Hci.Address.mk fun i => groupByte (digits i.rev)).toString.toList = (addressText digits).map Char.toLower) ∧
      ∀ address, RawAddress.isValidAddress address = validAddressText address ∧
        Hci.Address.isValidAddress address = validAddressText address :=
  ⟨RawAddress.fromString_toString, Hci.Address.fromString_toString,
    fun digits hex => ⟨RawAddress.fromString_addressText digits hex, RawAddress.toString_addressText digits hex,
      Hci.Address.fromString_addressText digits hex, Hci.Address.toString_addressText digits hex⟩,
    isValidAddress_eq_fromString⟩

end BluetoothStack
