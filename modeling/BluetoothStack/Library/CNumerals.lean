import Mathlib.Data.List.TakeWhile
import Mathlib.Tactic.Ring

namespace CNumerals

/-!
# Numerals of the C and C++ libraries

std::to_string writes a natural number in decimal, with no sign and no
leading zero: `toDecimal`, which is `Nat.toDigits 10`.  strtoull and strtoll
read one back in base 10.  They skip leading white space (isspace in the C
locale), take an optional sign, then as many digits as follow, and report
through endptr where they stopped; when no digit follows there is no
conversion and endptr is the start of the text.  A value out of range gives
the extreme value of the type, with errno set to ERANGE.

`Numeral text negative magnitude` says that the whole text is one number:
white space, a sign, and a non-empty run of digits worth `magnitude`.  A
conversion reads all of a text exactly when the text is a numeral
(`subject_of_numeral`, `numeral_of_subject`), and then `strtoull_whole_iff` and
`strtoll_whole_iff` say what it returns.  What std::to_string writes is a
numeral of the number written (`numeral_toDecimal`,
`numeral_toSignedDecimal`).

sscanf's %x conversions (bionic's, from OpenBSD vfscanf) read base 16:
`scanHexConversion` at the end.
-/

/-- isspace in the C locale. -/
def isSpace (c : Char) : Bool :=
  c = ' ' || c = '\t' || c = '\n' || c = '\x0B' || c = '\x0C' || c = '\r'

/-- The value of a decimal digit. -/
def digitValue (c : Char) : Nat :=
  c.toNat - '0'.toNat

/-- The value of a hexadecimal digit, as strtol, strtoumax and
std::from_chars read it in base 16. -/
def hexValue (c : Char) : Nat :=
  if c.isDigit then c.toNat - '0'.toNat
  else if 'a' ≤ c ∧ c ≤ 'f' then c.toNat - 'a'.toNat + 10
  else c.toNat - 'A'.toNat + 10

/-- The value of a text of hexadecimal digits, most significant first. -/
def hexNumber (text : List Char) : Nat :=
  text.foldl (fun value c => 16 * value + hexValue c) 0

theorem hexNumber_pair (c d : Char) : hexNumber [c, d] = 16 * hexValue c + hexValue d := by
  simp [hexNumber]

/-- The value of a run of decimal digits, most significant first. -/
def digitsValue (digits : List Char) : Nat :=
  digits.foldl (fun acc c => 10 * acc + digitValue c) 0

/-- std::to_string of a natural number. -/
def toDecimal (n : Nat) : List Char :=
  Nat.toDigits 10 n

/-- std::to_string of a signed number: a minus sign before the magnitude of
a negative one. -/
def toSignedDecimal (value : Int) : List Char :=
  if value < 0 then '-' :: toDecimal value.natAbs else toDecimal value.natAbs

/-- The sign a conversion reads, and the text after it. -/
def splitSign : List Char → Bool × List Char
  | '-' :: rest => (true, rest)
  | '+' :: rest => (false, rest)
  | text => (false, text)

/-- The subject sequence of a base-10 conversion: its sign, the value of its
digits and the offset of the first character after it. -/
structure Subject where
  negative : Bool
  magnitude : Nat
  stop : Nat
deriving DecidableEq, Repr

/-- The subject sequence after the leading white space, or `none` when no
digit follows the white space and the sign. -/
def subject (text : List Char) : Option Subject :=
  let signed := splitSign (text.dropWhile isSpace)
  let digits := signed.2.takeWhile Char.isDigit
  if digits = [] then none
  else some ⟨signed.1, digitsValue digits, text.length - (signed.2.dropWhile Char.isDigit).length⟩

/-- What a conversion gives back: the value returned, whether errno was set
to ERANGE, and endptr as an offset into the text. -/
structure Conversion (α : Type) where
  value : α
  erange : Bool
  stop : Nat

/-- strtoull in base 10.  A minus sign negates in unsigned arithmetic, and a
magnitude past ULLONG_MAX gives ULLONG_MAX with ERANGE. -/
def strtoull (text : List Char) : Conversion UInt64 :=
  match subject text with
  | none => ⟨0, false, 0⟩
  | some s =>
    if s.magnitude < 2 ^ 64 then
      ⟨if s.negative then 0 - UInt64.ofNat s.magnitude else UInt64.ofNat s.magnitude, false, s.stop⟩
    else ⟨UInt64.ofNat (2 ^ 64 - 1), true, s.stop⟩

/-- strtoll in base 10.  A value below LLONG_MIN or above LLONG_MAX gives
that bound with ERANGE. -/
def strtoll (text : List Char) : Conversion Int64 :=
  match subject text with
  | none => ⟨0, false, 0⟩
  | some s =>
    let value : Int := if s.negative then -(s.magnitude : Int) else s.magnitude
    if value < -2 ^ 63 then ⟨Int64.ofInt (-2 ^ 63), true, s.stop⟩
    else if 2 ^ 63 ≤ value then ⟨Int64.ofInt (2 ^ 63 - 1), true, s.stop⟩
    else ⟨Int64.ofInt value, false, s.stop⟩

/-- A sign as a text: none or a plus sign for a non-negative number, a minus
sign for a negative one. -/
def SignText (sign : List Char) (negative : Bool) : Prop :=
  sign = [] ∧ negative = false ∨ sign = ['+'] ∧ negative = false ∨ sign = ['-'] ∧ negative = true

/-- The whole text is one number: white space, a sign and a non-empty run of
digits worth `magnitude`. -/
def Numeral (text : List Char) (negative : Bool) (magnitude : Nat) : Prop :=
  ∃ spaces sign digits, text = spaces ++ sign ++ digits ∧ (∀ c ∈ spaces, isSpace c = true) ∧
    SignText sign negative ∧ digits ≠ [] ∧ (∀ c ∈ digits, c.isDigit = true) ∧ digitsValue digits = magnitude

/-! ## Characters -/

theorem isSpace_eq_false_of_isDigit {c : Char} (digit : c.isDigit = true) : isSpace c = false := by
  rw [Bool.eq_false_iff]
  intro space
  simp only [isSpace, Bool.or_eq_true, decide_eq_true_eq] at space
  rcases space with ((((rfl | rfl) | rfl) | rfl) | rfl) | rfl <;> exact absurd digit (by decide)

theorem digitValue_digitChar {d : Nat} (small : d < 10) : digitValue d.digitChar = d := by
  have each : ∀ d < 10, digitValue d.digitChar = d := by decide
  exact each d small

theorem isDigit_of_mem_toDecimal {n : Nat} {c : Char} (member : c ∈ toDecimal n) : c.isDigit = true :=
  Nat.isDigit_of_mem_toDigits (by decide) (by decide) member

/-! ## The value of a run of digits -/

theorem foldl_digits (digits : List Char) (acc : Nat) :
    digits.foldl (fun acc c => 10 * acc + digitValue c) acc = 10 ^ digits.length * acc + digitsValue digits := by
  induction digits generalizing acc with
  | nil => simp [digitsValue]
  | cons c rest ih =>
    have first : digitsValue (c :: rest) = 10 ^ rest.length * digitValue c + digitsValue rest := by
      rw [digitsValue, List.foldl_cons, ih]
      simp
    rw [List.foldl_cons, ih, first, List.length_cons, Nat.pow_succ]
    ring

theorem digitsValue_append (front back : List Char) :
    digitsValue (front ++ back) = 10 ^ back.length * digitsValue front + digitsValue back := by
  rw [digitsValue, List.foldl_append, foldl_digits]
  rfl

/-- Reading back what std::to_string writes gives the number written. -/
theorem digitsValue_toDecimal (n : Nat) : digitsValue (toDecimal n) = n := by
  induction n using Nat.strong_induction_on with
  | _ n ih =>
    rw [toDecimal, Nat.toDigits_eq_if (by decide)]
    split
    · rename_i small
      simp [digitsValue, digitValue_digitChar small]
    · -- the last digit comes off the end
      rename_i large
      have higher := ih (n / 10) (by omega)
      rw [toDecimal] at higher
      rw [digitsValue_append, higher]
      simp only [List.length_singleton, pow_one, digitsValue, List.foldl_cons, List.foldl_nil,
        digitValue_digitChar (Nat.mod_lt n (show 10 > 0 by decide))]
      omega

/-! ## Signs and white space -/

theorem splitSign_spec (text : List Char) :
    ∃ sign, SignText sign (splitSign text).1 ∧ text = sign ++ (splitSign text).2 := by
  fun_cases splitSign text with
  | case1 rest => exact ⟨['-'], Or.inr (Or.inr ⟨rfl, rfl⟩), rfl⟩
  | case2 rest => exact ⟨['+'], Or.inr (Or.inl ⟨rfl, rfl⟩), rfl⟩
  | case3 => exact ⟨[], Or.inl ⟨rfl, rfl⟩, rfl⟩

theorem splitSign_of_signText {sign : List Char} {negative : Bool} (signed : SignText sign negative)
    {first : Char} (digit : first.isDigit = true) (rest : List Char) :
    splitSign (sign ++ first :: rest) = (negative, first :: rest) := by
  have minus : first ≠ '-' := by
    rintro rfl
    exact absurd digit (by decide)
  have plus : first ≠ '+' := by
    rintro rfl
    exact absurd digit (by decide)
  rcases signed with ⟨rfl, rfl⟩ | ⟨rfl, rfl⟩ | ⟨rfl, rfl⟩
  · simp [splitSign, minus, plus]
  · rfl
  · rfl

/-- White space stops at a sign or a digit. -/
theorem dropWhile_isSpace_of_signText {sign : List Char} {negative : Bool} (signed : SignText sign negative)
    {first : Char} (digit : first.isDigit = true) (rest : List Char) :
    (sign ++ first :: rest).dropWhile isSpace = sign ++ first :: rest := by
  rcases signed with ⟨rfl, -⟩ | ⟨rfl, -⟩ | ⟨rfl, -⟩
  · simp [isSpace_eq_false_of_isDigit digit]
  · rfl
  · rfl

/-! ## Reading a whole text -/

/-- A numeral is read to its end with its sign and value. -/
theorem subject_of_numeral {text : List Char} {negative : Bool} {magnitude : Nat}
    (numeral : Numeral text negative magnitude) : subject text = some ⟨negative, magnitude, text.length⟩ := by
  rcases numeral with ⟨spaces, sign, digits, rfl, blank, signed, nonempty, allDigits, valued⟩
  rcases List.exists_cons_of_ne_nil nonempty with ⟨first, rest, rfl⟩
  have digit := allDigits first List.mem_cons_self
  have dropped : (spaces ++ sign ++ first :: rest).dropWhile isSpace = sign ++ first :: rest := by
    rw [List.append_assoc, List.dropWhile_append, if_pos (by simpa [List.dropWhile_eq_nil_iff] using blank)]
    exact dropWhile_isSpace_of_signText signed digit rest
  have taken : (first :: rest).takeWhile Char.isDigit = first :: rest := List.takeWhile_eq_self_iff.mpr allDigits
  have left : (first :: rest).dropWhile Char.isDigit = [] := List.dropWhile_eq_nil_iff.mpr allDigits
  simp only [subject, dropped, splitSign_of_signText signed digit rest, taken, left, valued, reduceCtorEq,
    if_false, List.length_nil, Nat.sub_zero]

/-- What is read to the end of a text is a numeral. -/
theorem numeral_of_subject {text : List Char} {negative : Bool} {magnitude : Nat}
    (found : subject text = some ⟨negative, magnitude, text.length⟩) : Numeral text negative magnitude := by
  rcases splitSign_spec (text.dropWhile isSpace) with ⟨sign, signed, signSplit⟩
  -- the pieces subject reads
  set unsigned := (splitSign (text.dropWhile isSpace)).2 with unsignedDef
  set digits := unsigned.takeWhile Char.isDigit with digitsDef
  have whole : unsigned = digits ++ unsigned.dropWhile Char.isDigit := List.takeWhile_append_dropWhile.symm
  have spaced : text = text.takeWhile isSpace ++ text.dropWhile isSpace := List.takeWhile_append_dropWhile.symm
  by_cases empty : digits = []
  · simp only [subject, ← unsignedDef, ← digitsDef, empty, if_true, reduceCtorEq] at found
  simp only [subject, ← unsignedDef, ← digitsDef, empty, if_false, Option.some.injEq, Subject.mk.injEq] at found
  rcases found with ⟨sameSign, valued, ended⟩
  -- nothing follows the digits
  have long : digits.length ≤ text.length := by
    have lengths := congrArg List.length spaced
    rw [signSplit, whole] at lengths
    simp only [List.length_append] at lengths
    omega
  have positive := List.length_pos_iff.mpr empty
  have rest : unsigned.dropWhile Char.isDigit = [] := List.eq_nil_of_length_eq_zero (by omega)
  rw [rest, List.append_nil] at whole
  refine ⟨text.takeWhile isSpace, sign, digits, ?_, fun c member => List.mem_takeWhile_imp member,
    sameSign ▸ signed, empty, fun c member => List.mem_takeWhile_imp member, valued⟩
  rw [List.append_assoc, ← whole, ← signSplit]
  exact spaced

theorem length_pos_of_numeral {text : List Char} {negative : Bool} {magnitude : Nat}
    (numeral : Numeral text negative magnitude) : 0 < text.length := by
  rcases numeral with ⟨spaces, sign, digits, rfl, -, -, nonempty, -⟩
  have positive := List.length_pos_iff.mpr nonempty
  simp only [List.length_append]
  omega

/-- What std::to_string writes is a numeral of the number written. -/
theorem numeral_toDecimal (n : Nat) : Numeral (toDecimal n) false n :=
  ⟨[], [], toDecimal n, rfl, fun _ member => absurd member List.not_mem_nil, Or.inl ⟨rfl, rfl⟩,
    Nat.toDigits_ne_nil, fun _ member => isDigit_of_mem_toDecimal member, digitsValue_toDecimal n⟩

theorem numeral_minus_toDecimal (n : Nat) : Numeral ('-' :: toDecimal n) true n :=
  ⟨[], ['-'], toDecimal n, rfl, fun _ member => absurd member List.not_mem_nil, Or.inr (Or.inr ⟨rfl, rfl⟩),
    Nat.toDigits_ne_nil, fun _ member => isDigit_of_mem_toDecimal member, digitsValue_toDecimal n⟩

/-- What std::to_string writes of a signed number is a numeral of its sign
and magnitude. -/
theorem numeral_toSignedDecimal (value : Int) :
    Numeral (toSignedDecimal value) (decide (value < 0)) value.natAbs := by
  unfold toSignedDecimal
  by_cases negative : value < 0
  · rw [if_pos negative, decide_eq_true negative]
    exact numeral_minus_toDecimal _
  · rw [if_neg negative, decide_eq_false negative]
    exact numeral_toDecimal _

theorem signed_natAbs (value : Int) :
    (if decide (value < 0) then -(value.natAbs : Int) else value.natAbs) = value := by
  by_cases negative : value < 0
  · rw [decide_eq_true negative, if_pos rfl]
    omega
  · rw [decide_eq_false negative, if_neg Bool.false_ne_true]
    omega

/-! ## Conversions that read a whole text -/

theorem strtoull_of_subject {text : List Char} {s : Subject} (found : subject text = some s) :
    strtoull text =
      if s.magnitude < 2 ^ 64 then
        ⟨if s.negative then 0 - UInt64.ofNat s.magnitude else UInt64.ofNat s.magnitude, false, s.stop⟩
      else ⟨UInt64.ofNat (2 ^ 64 - 1), true, s.stop⟩ := by
  rw [strtoull, found]

theorem strtoll_of_subject {text : List Char} {s : Subject} (found : subject text = some s) :
    strtoll text =
      let value : Int := if s.negative then -(s.magnitude : Int) else s.magnitude
      if value < -2 ^ 63 then ⟨Int64.ofInt (-2 ^ 63), true, s.stop⟩
      else if 2 ^ 63 ≤ value then ⟨Int64.ofInt (2 ^ 63 - 1), true, s.stop⟩
      else ⟨Int64.ofInt value, false, s.stop⟩ := by
  rw [strtoll, found]

/-- strtoull reads all of a text without error exactly when the text is a
numeral of magnitude at most ULLONG_MAX, and then returns it, negated in
unsigned arithmetic after a minus sign. -/
theorem strtoull_whole_iff {text : List Char} {value : UInt64} :
    ((strtoull text).erange = false ∧ (strtoull text).stop ≠ 0 ∧ (strtoull text).stop = text.length ∧
        (strtoull text).value = value) ↔
      ∃ negative, ∃ magnitude < 2 ^ 64, Numeral text negative magnitude ∧
        value = if negative then 0 - UInt64.ofNat magnitude else UInt64.ofNat magnitude := by
  constructor
  · rintro ⟨clean, started, ended, returned⟩
    cases found : subject text with
    | none =>
      rw [strtoull, found] at started
      exact absurd rfl started
    | some s =>
      rcases s with ⟨negative, magnitude, stop⟩
      by_cases small : magnitude < 2 ^ 64
      · simp only [strtoull, found, if_pos small] at ended returned
        rw [ended] at found
        exact ⟨negative, magnitude, small, numeral_of_subject found, returned.symm⟩
      · simp only [strtoull, found, if_neg small] at clean
        cases clean
  · rintro ⟨negative, magnitude, small, numeral, rfl⟩
    have positive := length_pos_of_numeral numeral
    rw [strtoull_of_subject (subject_of_numeral numeral), if_pos small]
    exact ⟨rfl, show text.length ≠ 0 by omega, rfl, rfl⟩

/-- strtoll reads all of a text without error exactly when the text is a
numeral whose signed value is an int64_t, and then returns that value. -/
theorem strtoll_whole_iff {text : List Char} {value : Int64} :
    ((strtoll text).erange = false ∧ (strtoll text).stop ≠ 0 ∧ (strtoll text).stop = text.length ∧
        (strtoll text).value = value) ↔
      ∃ negative magnitude, Numeral text negative magnitude ∧
        value.toInt = if negative then -(magnitude : Int) else magnitude := by
  constructor
  · rintro ⟨clean, started, ended, returned⟩
    cases found : subject text with
    | none =>
      rw [strtoll, found] at started
      exact absurd rfl started
    | some s =>
      rcases s with ⟨negative, magnitude, stop⟩
      by_cases low : (if negative then -(magnitude : Int) else magnitude) < -2 ^ 63
      · simp only [strtoll, found, if_pos low] at clean
        cases clean
      by_cases high : 2 ^ 63 ≤ (if negative then -(magnitude : Int) else magnitude)
      · simp only [strtoll, found, if_neg low, if_pos high] at clean
        cases clean
      simp only [strtoll, found, if_neg low, if_neg high] at ended returned
      rw [ended] at found
      refine ⟨negative, magnitude, numeral_of_subject found, ?_⟩
      rw [← returned]
      exact Int64.toInt_ofInt_of_le (by omega) (by omega)
  · rintro ⟨negative, magnitude, numeral, valued⟩
    have positive := length_pos_of_numeral numeral
    -- the value is an int64_t's, so it is in range
    have low := Int64.le_toInt value
    have high := Int64.toInt_lt value
    rw [valued] at low high
    rw [strtoll_of_subject (subject_of_numeral numeral)]
    dsimp only
    rw [if_neg (Int.not_lt.mpr low), if_neg (Int.not_le.mpr high)]
    refine ⟨rfl, show text.length ≠ 0 by omega, rfl, ?_⟩
    show Int64.ofInt _ = value
    rw [← valued, Int64.ofInt_toInt]

/-! ## vfscanf's integer conversion in base 16

A %x conversion skips white space, then its CT_INT loop copies into buf the
characters that can continue a number: a sign first, an x after a leading
0, hexadecimal digits, width characters at most.  strtoumax converts buf. -/

/-- The flags of an integer conversion in vfscanf: a sign may still come,
no digit yet, no nonzero digit yet, a 0x prefix may still come, a sign was
read. -/
structure ScanFlags where
  signOk : Bool
  nDigits : Bool
  nzDigits : Bool
  pfxOk : Bool
  haveSign : Bool
  deriving DecidableEq

/-- SIGNOK | NDIGITS | NZDIGITS, with PFXOK for %x. -/
def ScanFlags.initial : ScanFlags :=
  ⟨true, true, true, true, false⟩

/-- The switch of the CT_INT loop for base 16: the flags after accepting c,
or none where c ends the number.  accepted is p - buf. -/
def scanHexStep (flags : ScanFlags) (accepted : Nat) (c : Char) : Option ScanFlags :=
  if c = '0' then
    some (if flags.nzDigits then { flags with signOk := false, nzDigits := false, nDigits := false }
      else { flags with signOk := false, pfxOk := false, nDigits := false })
  else if c.isHexDigit then some { flags with signOk := false, pfxOk := false, nDigits := false }
  else if c = '+' ∨ c = '-' then
    if flags.signOk then some { flags with signOk := false, haveSign := true } else none
  else if c = 'x' ∨ c = 'X' then
    if flags.pfxOk ∧ accepted = 1 + (if flags.haveSign then 1 else 0) then some { flags with pfxOk := false }
    else none
  else none

/-- for (p = buf; width; width--): characters are accepted until the width is
spent, one is refused, or the input ends. -/
def scanHexLoop : Nat → ScanFlags → List Char → List Char → ScanFlags × List Char
  | 0, flags, accepted, _ => (flags, accepted)
  | _ + 1, flags, accepted, [] => (flags, accepted)
  | width + 1, flags, accepted, c :: rest =>
    match scanHexStep flags accepted.length c with
    | some next => scanHexLoop width next (accepted ++ [c]) rest
    | none => (flags, accepted)

/-- sizeof(buf) - 1, the width of a conversion that gives none (BUF is 513). -/
def kScanBufWidth : Nat := 512

/-- UINTMAX_MAX, what strtoumax returns for a value past its range. -/
def kUintmaxMax : Nat := 2 ^ 64 - 1

/-- One %x conversion of the given width: white space, then the CT_INT loop.
No digit is a failure; a trailing x is pushed back.  strtoumax(buf, NULL, 16)
reads a sign, a 0x and digits: the digits' value, negated after a '-', or
UINTMAX_MAX when it does not fit.  The value, which the caller cuts to the
type it stores through, and the characters read. -/
def scanHexConversion (width : Nat) (input : List Char) : Option (Int × Nat) :=
  let spaces := (input.takeWhile isSpace).length
  let field := input.drop spaces
  if field = [] then none
  else
    let scanned := scanHexLoop width ScanFlags.initial [] field
    if scanned.1.nDigits then none
    else
      let accepted :=
        if scanned.2.getLast? = some 'x' ∨ scanned.2.getLast? = some 'X' then scanned.2.dropLast else scanned.2
      let magnitude := hexNumber (accepted.filter Char.isHexDigit)
      let value : Int :=
        if kUintmaxMax < magnitude then kUintmaxMax
        else if accepted.head? = some '-' then -(magnitude : Int) else magnitude
      some (value, spaces + accepted.length)

example : scanHexConversion kScanBufWidth [' ', '0', 'x', '1', 'f', ' '] = some (0x1f, 5) := by decide

/-- A hexadecimal digit is taken under any flags and counts as a digit. -/
theorem scanHexStep_of_isHexDigit (flags : ScanFlags) (accepted : Nat) {c : Char} (hex : c.isHexDigit = true) :
    ∃ next, scanHexStep flags accepted c = some next ∧ next.nDigits = false := by
  unfold scanHexStep
  by_cases zero : c = '0'
  · by_cases nonzeroYet : flags.nzDigits = true <;> simp [zero, nonzeroYet]
  · simp [zero, hex]

/-- A conversion whose field starts at once and whose loop stops after a
digit reads the value of the digits it took, negated after a '-'. -/
theorem scanHexConversion_of_loop {width : Nat} {c : Char} {rest accepted : List Char} {flags : ScanFlags}
    (notSpace : isSpace c = false) (loop : scanHexLoop width ScanFlags.initial [] (c :: rest) = (flags, accepted))
    (digit : flags.nDigits = false) (ends : accepted.getLast?.all Char.isHexDigit = true)
    (fits : hexNumber (accepted.filter Char.isHexDigit) ≤ kUintmaxMax) :
    scanHexConversion width (c :: rest) =
      some (if accepted.head? = some '-' then -(hexNumber (accepted.filter Char.isHexDigit) : Int)
        else hexNumber (accepted.filter Char.isHexDigit), accepted.length) := by
  have spaces : ((c :: rest).takeWhile isSpace).length = 0 := by
    simp [notSpace]
  -- the digit that ends the field is no x to push back
  have noX : ¬(accepted.getLast? = some 'x' ∨ accepted.getLast? = some 'X') := by
    rintro (same | same) <;> rw [same] at ends <;> exact absurd ends (by decide)
  unfold scanHexConversion
  dsimp only
  rw [spaces, List.drop_zero, if_neg (List.cons_ne_nil c rest), loop]
  dsimp only
  rw [if_neg (by rw [digit]; decide), if_neg noX, if_neg (Nat.not_lt.mpr fits), Nat.zero_add]

end CNumerals
