import Mathlib.Data.List.Infix
import BluetoothStack.Library.ListSearch
import BluetoothStack.Library.CNumerals

namespace BluetoothStack
namespace Common

open CNumerals (hexValue hexNumber hexNumber_pair)

/-!
# The string codecs of common/strings.cc

The config store writes byte vectors as hex strings and splits its lines at
a delimiter.  A std::string is a list of characters here.

ToHexString prints each byte with std::hex, setw(2) and setfill('0'): two
lowercase hex digits.  FromHexString rejects a string of odd length or with a
character that is not a hex digit, and otherwise reads it two characters at a
time with std::from_chars in base 16, which takes the hex digits at the start
of its window.  StringSplit asserts a non-empty delimiter, cuts at each first
occurrence of it from the previous cut (std::string::find, `ListSearch.find`)
until max_token - 1 tokens are cut when max_token is not 0, and appends what
is left.  StringJoin puts the delimiter between consecutive strings.

The hex codec is a pair of inverses on the strings FromHexString accepts, up
to the case of the letters (`fromHexString_toHexString`,
`toHexString_fromHexString`).  Joining what StringSplit cuts gives the string
back for every delimiter and every max_token (`stringJoin_stringSplit`).  The
other way round needs more than pieces free of the delimiter: a split of
a, b joined by "aa" finds "aa" at the start of the join.  It holds for
delimiters without a border (`stringSplit_stringJoin`), among them every
delimiter of one character.
-/

/-! ## Hex digits -/

/-- `IsHexDigit`: isxdigit, in the C locale. -/
def isHexDigit (c : Char) : Bool :=
  c.isDigit || ('a' ≤ c && c ≤ 'f') || ('A' ≤ c && c ≤ 'F')

/-- The lowercase digit std::hex prints for a value below 16. -/
def hexDigit (n : Nat) : Char :=
  if n < 10 then Char.ofNat ('0'.toNat + n) else Char.ofNat ('a'.toNat + n - 10)

/-- A hex digit is an ASCII character. -/
theorem toNat_lt_of_isHexDigit {c : Char} (hex : isHexDigit c = true) : c.toNat < 128 := by
  simp only [isHexDigit, Char.isDigit, Bool.or_eq_true, Bool.and_eq_true, decide_eq_true_eq, Char.le_def,
    UInt32.le_iff_toNat_le, Char.toNat_val] at hex
  have bounds : ('f' : Char).toNat = 102 ∧ ('9' : Char).toNat = 57 ∧ ('F' : Char).toNat = 70 := by decide
  omega

/-- A statement about ASCII characters holds of every character of which it
can only fail on ASCII ones; the 128 cases are checked by the kernel. -/
theorem of_toNat_lt {P : Char → Prop} (ascii : ∀ n < 128, P (Char.ofNat n)) {c : Char} (small : c.toNat < 128) :
    P c := by
  have back : Char.ofNat c.toNat = c := Char.ofNat_toNat c
  rw [← back]
  exact ascii c.toNat small

theorem hexValue_lt {c : Char} (hex : isHexDigit c = true) : hexValue c < 16 := by
  have ascii : ∀ n < 128, isHexDigit (Char.ofNat n) = true → hexValue (Char.ofNat n) < 16 := by decide
  exact of_toNat_lt (P := fun c => isHexDigit c = true → hexValue c < 16) ascii
    (toNat_lt_of_isHexDigit hex) hex

/-- Printing the value of a hex digit gives the digit in lowercase. -/
theorem hexDigit_hexValue {c : Char} (hex : isHexDigit c = true) : hexDigit (hexValue c) = c.toLower := by
  have ascii : ∀ n < 128, isHexDigit (Char.ofNat n) = true →
      hexDigit (hexValue (Char.ofNat n)) = (Char.ofNat n).toLower := by decide
  exact of_toNat_lt (P := fun c => isHexDigit c = true → hexDigit (hexValue c) = c.toLower) ascii
    (toNat_lt_of_isHexDigit hex) hex

theorem isHexDigit_hexDigit : ∀ n < 16, isHexDigit (hexDigit n) = true := by
  decide

theorem hexValue_hexDigit : ∀ n < 16, hexValue (hexDigit n) = n := by
  decide

theorem hexDigit_eq_digitChar : ∀ n < 16, hexDigit n = Nat.digitChar n := by
  decide

/-! ## ToHexString and FromHexString -/

/-- `ss << std::hex << std::setw(2) << std::setfill('0') << +byte`. -/
def hexByte (byte : UInt8) : List Char :=
  [hexDigit (byte.toNat / 16), hexDigit (byte.toNat % 16)]

/-- `ToHexString(value)`. -/
def toHexString (value : List UInt8) : List Char :=
  value.flatMap hexByte

/-- `std::from_chars(first, last, v, 16)` into a uint8_t: the hex digits at
the start of the window, an error when there are none
(invalid_argument) or their value does not fit (result_out_of_range). -/
def fromChars (window : List Char) : Option UInt8 :=
  let digits := window.takeWhile isHexDigit
  if digits.isEmpty then none
  else
    let value := hexNumber digits
    if value < 256 then some value.toUInt8 else none

/-- The loop of FromHexString from index i: the window [i, i + 2) each time. -/
def fromHexLoop (str : List Char) (i : Nat) : Option (List UInt8) :=
  if i < str.length then
    (fromChars ((str.drop i).take 2)).bind fun v => (fromHexLoop str (i + 2)).map (v :: ·)
  else some []
termination_by str.length - i

/-- `FromHexString(str)`. -/
def fromHexString (str : List Char) : Option (List UInt8) :=
  if str.length % 2 ≠ 0 then none
  else if !str.all isHexDigit then none
  else fromHexLoop str 0

theorem length_toHexString (value : List UInt8) : (toHexString value).length = 2 * value.length := by
  induction value with
  | nil => rfl
  | cons byte rest ih =>
    rw [toHexString, List.flatMap_cons, List.length_append, ← toHexString, ih]
    simp only [hexByte, List.length_cons, List.length_nil]
    omega

theorem all_isHexDigit_toHexString (value : List UInt8) : (toHexString value).all isHexDigit = true := by
  simp only [toHexString, List.all_eq_true, List.mem_flatMap]
  rintro c ⟨byte, _, inByte⟩
  simp only [hexByte, List.mem_cons, List.not_mem_nil, or_false] at inByte
  rcases inByte with rfl | rfl
  · exact isHexDigit_hexDigit _ (Nat.div_lt_of_lt_mul (by simpa using byte.toNat_lt))
  · exact isHexDigit_hexDigit _ (Nat.mod_lt _ (by decide))

/-- Two hex digits are read as one byte. -/
theorem fromChars_pair {high low : Char} (hexHigh : isHexDigit high = true) (hexLow : isHexDigit low = true) :
    fromChars [high, low] = some (16 * hexValue high + hexValue low).toUInt8 := by
  have fits : 16 * hexValue high + hexValue low < 256 := by
    have := hexValue_lt hexHigh
    have := hexValue_lt hexLow
    omega
  simp [fromChars, hexNumber_pair, hexHigh, hexLow, fits]

theorem fromChars_hexByte (byte : UInt8) : fromChars (hexByte byte) = some byte := by
  have high : byte.toNat / 16 < 16 := Nat.div_lt_of_lt_mul (by simpa using byte.toNat_lt)
  have low : byte.toNat % 16 < 16 := Nat.mod_lt _ (by decide)
  rw [hexByte, fromChars_pair (isHexDigit_hexDigit _ high) (isHexDigit_hexDigit _ low),
    hexValue_hexDigit _ high, hexValue_hexDigit _ low]
  have whole : 16 * (byte.toNat / 16) + byte.toNat % 16 = byte.toNat := Nat.div_add_mod byte.toNat 16
  rw [whole]
  exact congrArg some UInt8.ofNat_toNat

/-- The loop reads back the bytes whose digits are left from index i. -/
theorem fromHexLoop_of_drop_eq : ∀ (value : List UInt8) {str : List Char} {i : Nat},
    str.drop i = toHexString value → fromHexLoop str i = some value
  | [], str, i, rest => by
    have done : ¬ i < str.length := by
      have empty : (str.drop i).length = 0 := by rw [rest]; rfl
      rw [List.length_drop] at empty
      omega
    rw [fromHexLoop, if_neg done]
  | byte :: bytes, str, i, rest => by
    have split : str.drop i = hexByte byte ++ toHexString bytes := by rw [rest, toHexString, List.flatMap_cons]; rfl
    have inside : i < str.length := by
      have long : 2 ≤ (str.drop i).length := by rw [split, List.length_append]; simp [hexByte]
      rw [List.length_drop] at long
      omega
    have two : (hexByte byte).length = 2 := rfl
    have window : (str.drop i).take 2 = hexByte byte := by rw [split, List.take_left' two]
    have later : str.drop (i + 2) = toHexString bytes := by
      rw [← List.drop_drop, split, List.drop_left' two]
    rw [fromHexLoop, if_pos inside, window, fromChars_hexByte, Option.bind_some,
      fromHexLoop_of_drop_eq bytes later, Option.map_some]

/-- FromHexString reads back what ToHexString prints. -/
theorem fromHexString_toHexString (value : List UInt8) : fromHexString (toHexString value) = some value := by
  have even : ¬ (toHexString value).length % 2 ≠ 0 := by rw [length_toHexString]; omega
  rw [fromHexString, if_neg even, all_isHexDigit_toHexString, Bool.not_true, if_neg Bool.false_ne_true]
  exact fromHexLoop_of_drop_eq value (List.drop_zero)

/-- One window of two hex digits prints back as the digits in lowercase. -/
theorem hexByte_fromChars_pair {high low : Char} (hexHigh : isHexDigit high = true) (hexLow : isHexDigit low = true) :
    hexByte (16 * hexValue high + hexValue low).toUInt8 = [high.toLower, low.toLower] := by
  have highSmall := hexValue_lt hexHigh
  have lowSmall := hexValue_lt hexLow
  have asByte : (16 * hexValue high + hexValue low).toUInt8.toNat = 16 * hexValue high + hexValue low :=
    UInt8.toNat_ofNat_of_lt' (by simp only [UInt8.size]; omega)
  have quotient : (16 * hexValue high + hexValue low) / 16 = hexValue high := by omega
  have remainder : (16 * hexValue high + hexValue low) % 16 = hexValue low := by omega
  rw [hexByte, asByte, quotient, remainder, hexDigit_hexValue hexHigh, hexDigit_hexValue hexLow]

/-- From index i of a string of hex digits with an even number left, the loop
reads bytes that print as what is left, in lowercase; by induction on the
number of windows left. -/
theorem fromHexLoop_of_hex : ∀ (windows : Nat) (str : List Char) (i : Nat), str.length - i = 2 * windows →
    (str.drop i).all isHexDigit = true →
      ∃ value, fromHexLoop str i = some value ∧ toHexString value = (str.drop i).map Char.toLower
  | 0, str, i, left, _ => by
    have done : ¬ i < str.length := by omega
    have empty : str.drop i = [] := List.drop_eq_nil_of_le (by omega)
    exact ⟨[], by rw [fromHexLoop, if_neg done], by rw [empty]; rfl⟩
  | windows + 1, str, i, left, hex => by
    obtain ⟨high, low, rest, split⟩ : ∃ high low rest, str.drop i = high :: low :: rest := by
      match shape : str.drop i with
      | high :: low :: rest => exact ⟨high, low, rest, rfl⟩
      | [] | [_] =>
        have length := congrArg List.length shape
        simp only [List.length_drop, List.length_nil, List.length_cons] at length
        omega
    rw [split, List.all_cons, List.all_cons, Bool.and_eq_true, Bool.and_eq_true] at hex
    obtain ⟨hexHigh, hexLow, hexRest⟩ := hex
    have later : str.drop (i + 2) = rest := by rw [← List.drop_drop, split]; rfl
    obtain ⟨tail, looped, printed⟩ := fromHexLoop_of_hex windows str (i + 2) (by omega) (later ▸ hexRest)
    refine ⟨(16 * hexValue high + hexValue low).toUInt8 :: tail, ?_, ?_⟩
    · have inside : i < str.length := by omega
      rw [fromHexLoop, if_pos inside, split]
      rw [show (high :: low :: rest).take 2 = [high, low] from rfl, fromChars_pair hexHigh hexLow,
        Option.bind_some, looped, Option.map_some]
    · rw [toHexString, List.flatMap_cons, ← toHexString, printed, later, hexByte_fromChars_pair hexHigh hexLow,
        split]
      rfl

/-- FromHexString accepts exactly the strings of even length made of hex
digits, and what it reads from one prints back as the string in lowercase. -/
theorem toHexString_fromHexString (str : List Char) :
    (str.length % 2 = 0 → str.all isHexDigit = true →
      ∃ value, fromHexString str = some value ∧ toHexString value = str.map Char.toLower) ∧
    (¬ (str.length % 2 = 0 ∧ str.all isHexDigit = true) → fromHexString str = none) := by
  constructor
  · intro even hex
    obtain ⟨value, looped, printed⟩ := fromHexLoop_of_hex (str.length / 2) str 0 (by omega) (by simpa using hex)
    refine ⟨value, ?_, by simpa using printed⟩
    rw [fromHexString, if_neg (by omega), hex, Bool.not_true, if_neg Bool.false_ne_true]
    exact looped
  · intro rejected
    rw [fromHexString]
    by_cases even : str.length % 2 = 0
    · have notHex : str.all isHexDigit = false := by simpa [even] using rejected
      rw [if_neg (by omega), notHex, Bool.not_false, if_pos rfl]
    · rw [if_pos even]

/-! ## StringSplit and StringJoin -/

/-- The last item of StringSplit: what is left from starting_index, when
starting_index < size + 1. -/
def appendRest (str : List Char) (tokens : List (List Char)) (startingIndex : Nat) : List (List Char) :=
  if startingIndex < str.length + 1 then tokens ++ [str.drop startingIndex] else tokens

set_option linter.unusedVariables false in
/-- The loop of StringSplit from starting_index; index_of_delim is the search
from starting_index, made at the head of the loop. -/
def stringSplitLoop (str delim : List Char) (nonempty : delim ≠ []) (maxToken : Nat)
    (tokens : List (List Char)) (startingIndex : Nat) : List (List Char) :=
  if maxToken = 0 ∨ tokens.length < maxToken - 1 then
    match found : ListSearch.find str delim startingIndex with
    | some indexOfDelim =>
      stringSplitLoop str delim nonempty maxToken
        (tokens ++ [(str.drop startingIndex).take (indexOfDelim - startingIndex)]) (indexOfDelim + delim.length)
    | none => appendRest str tokens startingIndex
  else appendRest str tokens startingIndex
termination_by str.length + 1 - startingIndex
decreasing_by
  have bounds := ListSearch.find_bounds nonempty found
  have positive := List.length_pos_of_ne_nil nonempty
  omega

/-- `StringSplit(str, delim, max_token)`; the assertion that delim is not
empty is none. -/
def stringSplit (str delim : List Char) (maxToken : Nat) : Option (List (List Char)) :=
  if h : delim = [] then none else some (stringSplitLoop str delim h maxToken [] 0)

/-- `StringJoin(strings, delim)`: each string, and the delimiter after every
one that has a next. -/
def stringJoin : List (List Char) → List Char → List Char
  | [], _ => []
  | [last], _ => last
  | s :: rest, delim => s ++ delim ++ stringJoin rest delim

theorem stringJoin_cons_of_ne_nil (s : List Char) {rest : List (List Char)} (more : rest ≠ []) (delim : List Char) :
    stringJoin (s :: rest) delim = s ++ delim ++ stringJoin rest delim := by
  cases rest with
  | nil => exact absurd rfl more
  | cons next rest => rfl

/-- A join is every string but the last with the delimiter after it, then the
last. -/
theorem stringJoin_append_singleton (delim : List Char) (last : List Char) :
    ∀ tokens : List (List Char), stringJoin (tokens ++ [last]) delim = tokens.flatMap (· ++ delim) ++ last
  | [] => rfl
  | token :: tokens => by
    rw [List.cons_append, stringJoin_cons_of_ne_nil token (by simp) delim, stringJoin_append_singleton delim last tokens,
      List.flatMap_cons]
    simp only [List.append_assoc]

section Split

variable {str delim : List Char} (nonempty : delim ≠ []) {maxToken : Nat}

/-- What the loop has cut, each token with the delimiter after it, followed by
the rest of the string, is the string. -/
def SplitSoFar (str delim : List Char) (maxToken : Nat) (tokens : List (List Char)) (startingIndex : Nat) : Prop :=
  tokens.flatMap (· ++ delim) ++ str.drop startingIndex = str ∧ startingIndex ≤ str.length ∧
    (0 < maxToken → tokens.length ≤ maxToken - 1)

/-- The string from a match on is the delimiter and the string after it. -/
theorem drop_eq_of_find (nonempty : delim ≠ []) {startingIndex indexOfDelim : Nat}
    (found : ListSearch.find str delim startingIndex = some indexOfDelim) :
    str.drop startingIndex =
      (str.drop startingIndex).take (indexOfDelim - startingIndex) ++ (delim ++ str.drop (indexOfDelim + delim.length)) := by
  obtain ⟨after, matched, _⟩ := (ListSearch.find_eq_some_iff str nonempty startingIndex indexOfDelim).mp found
  obtain ⟨rest, atMatch⟩ := matched
  have fromMatch : str.drop (indexOfDelim + delim.length) = rest := by
    rw [← List.drop_drop, ← atMatch, List.drop_left]
  have skipped : (str.drop startingIndex).drop (indexOfDelim - startingIndex) = str.drop indexOfDelim := by
    rw [List.drop_drop]
    congr 1
    omega
  rw [fromMatch, atMatch, ← skipped, List.take_append_drop]

/-- Cutting at a match keeps the invariant. -/
theorem splitSoFar_cut (nonempty : delim ≠ []) {tokens : List (List Char)} {startingIndex indexOfDelim : Nat}
    (before : SplitSoFar str delim maxToken tokens startingIndex) (room : maxToken = 0 ∨ tokens.length < maxToken - 1)
    (found : ListSearch.find str delim startingIndex = some indexOfDelim) :
    SplitSoFar str delim maxToken (tokens ++ [(str.drop startingIndex).take (indexOfDelim - startingIndex)])
      (indexOfDelim + delim.length) := by
  obtain ⟨joined, within, counted⟩ := before
  refine ⟨?_, (ListSearch.find_bounds nonempty found).2, ?_⟩
  · rw [List.flatMap_append, List.flatMap_singleton, List.append_assoc, List.append_assoc,
      ← drop_eq_of_find nonempty found]
    exact joined
  · intro positive
    rw [List.length_append, List.length_singleton]
    omega

/-- The last item ends the string, and the count of tokens goes up by one. -/
theorem stringJoin_appendRest {tokens : List (List Char)} {startingIndex : Nat}
    (before : SplitSoFar str delim maxToken tokens startingIndex) :
    stringJoin (appendRest str tokens startingIndex) delim = str ∧
      (0 < maxToken → (appendRest str tokens startingIndex).length ≤ maxToken) := by
  obtain ⟨joined, within, counted⟩ := before
  rw [appendRest, if_pos (by omega), stringJoin_append_singleton, joined]
  refine ⟨rfl, fun positive => ?_⟩
  have fewer := counted positive
  rw [List.length_append, List.length_singleton]
  omega

/-- The loop ends in tokens whose join is the string, no more than max_token
of them when it is not 0; by induction along the loop. -/
theorem stringSplitLoop_spec (tokens : List (List Char)) (startingIndex : Nat)
    (before : SplitSoFar str delim maxToken tokens startingIndex) :
    stringJoin (stringSplitLoop str delim nonempty maxToken tokens startingIndex) delim = str ∧
      (0 < maxToken → (stringSplitLoop str delim nonempty maxToken tokens startingIndex).length ≤ maxToken) := by
  fun_induction stringSplitLoop str delim nonempty maxToken tokens startingIndex with
  | case1 tokens startingIndex room indexOfDelim found ih => exact ih (splitSoFar_cut nonempty before room found)
  | case2 tokens startingIndex room found => exact stringJoin_appendRest before
  | case3 tokens startingIndex full => exact stringJoin_appendRest before

end Split

/-- Joining what StringSplit cuts gives the string back, for every non-empty
delimiter and every max_token, and a max_token other than 0 bounds the number
of tokens. -/
theorem stringJoin_stringSplit (str : List Char) {delim : List Char} (nonempty : delim ≠ []) (maxToken : Nat) :
    ∃ tokens, stringSplit str delim maxToken = some tokens ∧ stringJoin tokens delim = str ∧
      (0 < maxToken → tokens.length ≤ maxToken) := by
  have start : SplitSoFar str delim maxToken [] 0 := ⟨rfl, Nat.zero_le _, fun _ => Nat.zero_le _⟩
  exact ⟨_, by rw [stringSplit, dif_neg nonempty], stringSplitLoop_spec nonempty [] 0 start⟩

/-! ## Splitting a join -/

section Join

variable {delim : List Char}

/-- A piece that does not contain the delimiter holds no match of it. -/
theorem not_prefix_drop_of_free {piece : List Char} (free : ¬ delim <:+: piece) (k : Nat) :
    ¬ delim <+: piece.drop k :=
  fun matched => free (matched.isInfix.trans (List.drop_suffix k piece).isInfix)

/-- The string from index `startingIndex + k` on, where the string from
`startingIndex` on is known. -/
theorem drop_add_eq {str rest : List Char} {startingIndex j : Nat} (known : str.drop startingIndex = rest)
    (after : startingIndex ≤ j) : str.drop j = rest.drop (j - startingIndex) := by
  rw [← known, List.drop_drop]
  congr 1
  omega

/-- On a join of pieces free of a delimiter without a border, the loop with
max_token 0 cuts exactly the pieces; by induction on the pieces. -/
theorem stringSplitLoop_stringJoin (nonempty : delim ≠ []) (unbordered : ListSearch.Unbordered delim)
    {str : List Char} : ∀ (strings tokens : List (List Char)) (startingIndex : Nat), strings ≠ [] →
      (∀ s ∈ strings, ¬ delim <:+: s) → str.drop startingIndex = stringJoin strings delim →
        startingIndex ≤ str.length → stringSplitLoop str delim nonempty 0 tokens startingIndex = tokens ++ strings
  | [], _, _, present, _, _, _ => absurd rfl present
  | [last], tokens, startingIndex, _, free, rest, within => by
    -- no match in the last piece: what is left is the last token
    have noMatch : ListSearch.find str delim startingIndex = none := by
      apply (ListSearch.find_eq_none_iff str nonempty startingIndex).mpr
      intro j after
      rw [drop_add_eq rest after]
      exact not_prefix_drop_of_free (free last (List.mem_singleton_self last)) _
    rw [stringSplitLoop, if_pos (Or.inl rfl)]
    split
    · rename_i same
      rw [noMatch] at same
      cases same
    · rw [appendRest, if_pos (by omega), rest]
      rfl
  | s :: next :: more, tokens, startingIndex, _, free, rest, within => by
    -- the first match is the delimiter after the first piece
    have joined : str.drop startingIndex = s ++ (delim ++ stringJoin (next :: more) delim) := by
      rw [rest, stringJoin_cons_of_ne_nil s (List.cons_ne_nil next more), List.append_assoc]
    have found : ListSearch.find str delim startingIndex = some (startingIndex + s.length) := by
      apply (ListSearch.find_eq_some_iff str nonempty _ _).mpr
      refine ⟨Nat.le_add_right _ _, ?_, ?_⟩
      · rw [← List.drop_drop, joined, List.drop_left]
        exact List.prefix_append _ _
      · intro j after before
        rw [drop_add_eq joined after, List.drop_append_of_le_length (by omega)]
        exact ListSearch.not_prefix_of_unbordered unbordered (free s List.mem_cons_self) (by omega) _
    have token : (str.drop startingIndex).take (startingIndex + s.length - startingIndex) = s := by
      rw [Nat.add_sub_cancel_left, joined, List.take_left]
    have later : str.drop (startingIndex + s.length + delim.length) = stringJoin (next :: more) delim := by
      rw [← List.drop_drop, ← List.drop_drop, joined, List.drop_left, List.drop_left]
    have fits := (ListSearch.find_bounds nonempty found).2
    have restFree : ∀ t ∈ next :: more, ¬ delim <:+: t := fun t member => free t (List.mem_cons_of_mem s member)
    rw [stringSplitLoop, if_pos (Or.inl rfl)]
    split
    · rename_i indexOfDelim same
      rw [found, Option.some_inj] at same
      subst same
      rw [token, stringSplitLoop_stringJoin nonempty unbordered (next :: more) (tokens ++ [s]) _
        (List.cons_ne_nil next more) restFree later fits]
      simp
    · rename_i same
      rw [found] at same
      cases same

/-- StringSplit cuts a join back into its pieces when they do not contain the
delimiter and the delimiter has no border. -/
theorem stringSplit_stringJoin {strings : List (List Char)} (present : strings ≠ []) (nonempty : delim ≠ [])
    (unbordered : ListSearch.Unbordered delim) (free : ∀ s ∈ strings, ¬ delim <:+: s) :
    stringSplit (stringJoin strings delim) delim 0 = some strings := by
  rw [stringSplit, dif_neg nonempty,
    stringSplitLoop_stringJoin nonempty unbordered strings [] 0 present free rfl (Nat.zero_le _), List.nil_append]

end Join

/-- The codecs the config store uses: the hex codec is a pair of inverses on
the strings FromHexString accepts, up to the case of the letters, and it
accepts exactly the strings of even length made of hex digits; StringJoin
undoes StringSplit for every non-empty delimiter and max_token, which when it
is not 0 bounds the number of tokens; and StringSplit undoes StringJoin of
pieces free of a delimiter without a border. -/
theorem strings_round_trips :
    (∀ value : List UInt8, fromHexString (toHexString value) = some value) ∧
    (∀ str : List Char,
      (str.length % 2 = 0 → str.all isHexDigit = true →
        ∃ value, fromHexString str = some value ∧ toHexString value = str.map Char.toLower) ∧
      (¬ (str.length % 2 = 0 ∧ str.all isHexDigit = true) → fromHexString str = none)) ∧
    (∀ (str delim : List Char) (maxToken : Nat), delim ≠ [] →
      ∃ tokens, stringSplit str delim maxToken = some tokens ∧ stringJoin tokens delim = str ∧
        (0 < maxToken → tokens.length ≤ maxToken)) ∧
    (∀ (strings : List (List Char)) (delim : List Char), strings ≠ [] → delim ≠ [] → ListSearch.Unbordered delim →
      (∀ s ∈ strings, ¬ delim <:+: s) → stringSplit (stringJoin strings delim) delim 0 = some strings) :=
  ⟨fromHexString_toHexString, toHexString_fromHexString,
    fun str _ maxToken nonempty => stringJoin_stringSplit str nonempty maxToken,
    fun _ _ present nonempty unbordered free => stringSplit_stringJoin present nonempty unbordered free⟩

/-- A config line "k=v" is cut back into its key and value. -/
theorem strings_round_trips_configLine :
    stringSplit (stringJoin [['k'], ['v']] ['=']) ['='] 0 = some [['k'], ['v']] :=
  strings_round_trips.2.2.2 [['k'], ['v']] ['='] (by decide) (by decide) (by decide) (by decide)

/-- Pieces free of the delimiter are not enough: "aa" has the border "a", and
the split of a, b joined by it finds "aa" at the start of "aaab". -/
theorem stringSplit_stringJoin_bordered :
    [['a'], ['b']] ≠ [] ∧ ['a', 'a'] ≠ [] ∧ (∀ s ∈ [['a'], ['b']], ¬ ['a', 'a'] <:+: s) ∧
      stringSplit (stringJoin [['a'], ['b']] ['a', 'a']) ['a', 'a'] 0 = some [[], ['a', 'b']] := by
  decide +kernel

/-! ## Numbers and booleans

Int64FromString and Uint64FromString clear errno, call strtoll or strtoull in
base 10, and keep the result only when errno is still 0, something was read
and the whole string was read.  Uint64FromString first rejects a string with
a minus sign anywhere, since strtoull would negate after one.  ToString of a
number is std::to_string.  The two parsers accept exactly the numerals of
values of their types, after white space and with a plus sign allowed, and a
minus sign too for the signed one (`uint64FromString_eq_some_iff`,
`int64FromString_eq_some_iff`), so ToString is read back as the value
written, the least int64_t included.
-/

/-- The checks after the conversion: errno still 0, something read
(ptr != str.c_str()), and the whole string read. -/
def acceptConversion {α : Type} (str : List Char) (conversion : CNumerals.Conversion α) : Option α :=
  if conversion.erange then none
  else if conversion.stop = 0 then none
  else if conversion.stop ≠ str.length then none
  else some conversion.value

/-- `Int64FromString(str)`. -/
def int64FromString (str : List Char) : Option Int64 :=
  acceptConversion str (CNumerals.strtoll str)

/-- `ToString(int64_t value)`: std::to_string. -/
def int64ToString (value : Int64) : List Char :=
  CNumerals.toSignedDecimal value.toInt

/-- `Uint64FromString(str)`. -/
def uint64FromString (str : List Char) : Option UInt64 :=
  if '-' ∈ str then none
  else acceptConversion str (CNumerals.strtoull str)

/-- `ToString(uint64_t value)`: std::to_string. -/
def uint64ToString (value : UInt64) : List Char :=
  CNumerals.toDecimal value.toNat

/-- `BoolFromString(str)`. -/
def boolFromString (str : List Char) : Option Bool :=
  if str = "true".toList then some true
  else if str = "false".toList then some false
  else none

/-- `ToString(bool value)`. -/
def boolToString (value : Bool) : List Char :=
  if value then "true".toList else "false".toList

theorem acceptConversion_eq_some_iff {α : Type} {str : List Char} {conversion : CNumerals.Conversion α} {value : α} :
    acceptConversion str conversion = some value ↔
      conversion.erange = false ∧ conversion.stop ≠ 0 ∧ conversion.stop = str.length ∧ conversion.value = value := by
  unfold acceptConversion
  by_cases erange : conversion.erange <;> by_cases started : conversion.stop = 0 <;>
    by_cases ended : conversion.stop = str.length <;> simp [erange, started, ended]

/-- A numeral without a minus sign has no minus sign anywhere. -/
theorem minus_not_mem_of_numeral {str : List Char} {magnitude : Nat}
    (numeral : CNumerals.Numeral str false magnitude) : '-' ∉ str := by
  rcases numeral with ⟨spaces, sign, digits, rfl, blank, signed, -, allDigits, -⟩
  have notSign : '-' ∉ sign := by
    rcases signed with ⟨rfl, -⟩ | ⟨rfl, -⟩ | ⟨-, unsigned⟩
    · exact List.not_mem_nil
    · decide
    · cases unsigned
  intro member
  rcases List.mem_append.mp member with front | back
  · rcases List.mem_append.mp front with space | signChar
    · exact absurd (blank '-' space) (by decide)
    · exact notSign signChar
  · exact absurd (allDigits '-' back) (by decide)

/-- A numeral without a minus sign of a value below 2^64 is read whole. -/
theorem uint64FromString_of_numeral {str : List Char} {magnitude : Nat} (small : magnitude < 2 ^ 64)
    (numeral : CNumerals.Numeral str false magnitude) : uint64FromString str = some (UInt64.ofNat magnitude) := by
  rw [uint64FromString, if_neg (minus_not_mem_of_numeral numeral), acceptConversion_eq_some_iff,
    CNumerals.strtoull_whole_iff]
  exact ⟨false, magnitude, small, numeral, by rw [if_neg Bool.false_ne_true]⟩

/-- Uint64FromString accepts exactly a numeral, after white space and with
no sign or a plus sign, of a value below 2^64, and returns that value. -/
theorem uint64FromString_eq_some_iff {str : List Char} {value : UInt64} :
    uint64FromString str = some value ↔
      ∃ magnitude < 2 ^ 64, CNumerals.Numeral str false magnitude ∧ value.toNat = magnitude := by
  constructor
  · intro parsed
    by_cases minus : '-' ∈ str
    · rw [uint64FromString, if_pos minus] at parsed
      cases parsed
    rw [uint64FromString, if_neg minus, acceptConversion_eq_some_iff, CNumerals.strtoull_whole_iff] at parsed
    rcases parsed with ⟨negative, magnitude, small, numeral, returned⟩
    cases negative with
    | true =>
      -- a numeral with a minus sign has one in the string
      rcases numeral with ⟨spaces, sign, digits, rfl, -, signed, -⟩
      rcases signed with ⟨-, unsigned⟩ | ⟨-, unsigned⟩ | ⟨rfl, -⟩
      · cases unsigned
      · cases unsigned
      · exact absurd (by simp) minus
    | false =>
      refine ⟨magnitude, small, numeral, ?_⟩
      rw [returned, if_neg Bool.false_ne_true]
      exact UInt64.toNat_ofNat_of_lt' small
  · rintro ⟨magnitude, small, numeral, valued⟩
    rw [uint64FromString_of_numeral small numeral, ← valued, UInt64.ofNat_toNat]

/-- A numeral whose signed value is an int64_t is read whole. -/
theorem int64FromString_of_numeral {str : List Char} {negative : Bool} {magnitude : Nat} {value : Int64}
    (numeral : CNumerals.Numeral str negative magnitude)
    (valued : value.toInt = if negative then -(magnitude : Int) else magnitude) :
    int64FromString str = some value := by
  rw [int64FromString, acceptConversion_eq_some_iff, CNumerals.strtoll_whole_iff]
  exact ⟨negative, magnitude, numeral, valued⟩

/-- Int64FromString accepts exactly a numeral, after white space and with an
optional sign, whose signed value is an int64_t, and returns that value. -/
theorem int64FromString_eq_some_iff {str : List Char} {value : Int64} :
    int64FromString str = some value ↔
      ∃ negative magnitude, CNumerals.Numeral str negative magnitude ∧
        value.toInt = if negative then -(magnitude : Int) else magnitude := by
  rw [int64FromString, acceptConversion_eq_some_iff, CNumerals.strtoll_whole_iff]

theorem uint64FromString_uint64ToString (value : UInt64) : uint64FromString (uint64ToString value) = some value := by
  rw [uint64ToString, uint64FromString_of_numeral value.toNat_lt (CNumerals.numeral_toDecimal _),
    UInt64.ofNat_toNat]

theorem int64FromString_int64ToString (value : Int64) : int64FromString (int64ToString value) = some value :=
  int64FromString_of_numeral (CNumerals.numeral_toSignedDecimal value.toInt) (CNumerals.signed_natAbs value.toInt).symm

end Common
end BluetoothStack
