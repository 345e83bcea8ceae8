import Mathlib.Tactic

namespace Words

/-!
# Numbers as little-endian lists of 32-bit words

The value of a word list, least significant word first, and the two kinds of
loop that multiprecision code runs over such lists: a carry chain from the
low word up, where each step takes the carry of the step below, and a
comparison from the high word down.  A chain is given by its step function;
the lemmas here say what the whole chain computes once one step is exact.
-/

/-- The number a word list stands for, least significant word first. -/
def value : List UInt32 → Nat
  | [] => 0
  | word :: words => word.toNat + 2 ^ 32 * value words

@[simp]
theorem value_nil : value [] = 0 := rfl

@[simp]
theorem value_cons (word : UInt32) (words : List UInt32) :
    value (word :: words) = word.toNat + 2 ^ 32 * value words := rfl

theorem value_lt : ∀ words : List UInt32, value words < 2 ^ (32 * words.length)
  | [] => by simp
  | word :: words => by
    have low := word.toNat_lt
    have high := value_lt words
    rw [value_cons, List.length_cons, Nat.mul_succ, Nat.pow_add, Nat.mul_comm (2 ^ _) (2 ^ 32)]
    have step : 2 ^ 32 * value words + 2 ^ 32 ≤ 2 ^ 32 * 2 ^ (32 * words.length) := by
      rw [← Nat.mul_succ]
      exact Nat.mul_le_mul_left _ high
    omega

theorem value_append (low high : List UInt32) :
    value (low ++ high) = value low + 2 ^ (32 * low.length) * value high := by
  induction low with
  | nil => simp
  | cons word low ih =>
    rw [List.cons_append, value_cons, value_cons, ih, List.length_cons, Nat.mul_succ, Nat.pow_add]
    ring

/-- Setting the word at k changes the value by the difference of the two words
at the weight of k. -/
theorem value_set : ∀ (words : List UInt32) (k : Nat) (word : UInt32), k < words.length →
    value (words.set k word) + 2 ^ (32 * k) * (words.getD k 0).toNat = value words + 2 ^ (32 * k) * word.toNat
  | [], _, _, inside => by simp at inside
  | first :: words, 0, word, _ => by simp; omega
  | first :: words, k + 1, word, inside => by
    have rest := value_set words k word (by simpa using inside)
    simp only [List.set_cons_succ, value_cons, List.getD_cons_succ]
    rw [Nat.mul_add, Nat.mul_one, Nat.pow_add]
    calc first.toNat + 2 ^ 32 * value (words.set k word) + 2 ^ (32 * k) * 2 ^ 32 * (words.getD k 0).toNat
        = first.toNat + 2 ^ 32 * (value (words.set k word) + 2 ^ (32 * k) * (words.getD k 0).toNat) := by ring
      _ = first.toNat + 2 ^ 32 * (value words + 2 ^ (32 * k) * word.toNat) := by rw [rest]
      _ = first.toNat + 2 ^ 32 * value words + 2 ^ (32 * k) * 2 ^ 32 * word.toNat := by ring

theorem getD_set_of_ne {α : Type} (items : List α) {n k : Nat} (item fallback : α) (apart : n ≠ k) :
    (items.set n item).getD k fallback = items.getD k fallback := by
  simp [List.getD_eq_getElem?_getD, apart]

theorem value_replicate_zero (count : Nat) : value (List.replicate count 0) = 0 := by
  induction count with
  | zero => rfl
  | succ count ih => simp [List.replicate_succ, ih]

/-- A word sum and its overflow test: the test's bit is the carry out of the sum. -/
theorem toNat_add_carry (x y : UInt32) :
    (x + y).toNat + 2 ^ 32 * (if x + y < y then 1 else 0 : UInt32).toNat = x.toNat + y.toNat := by
  have wordX := x.toNat_lt
  have wordY := y.toNat_lt
  by_cases overflow : x + y < y
  · rw [if_pos overflow, UInt32.toNat_one]
    rw [UInt32.lt_iff_toNat_lt, UInt32.toNat_add] at overflow
    rw [UInt32.toNat_add]
    omega
  · rw [if_neg overflow, UInt32.toNat_zero]
    rw [UInt32.lt_iff_toNat_lt, UInt32.toNat_add] at overflow
    rw [UInt32.toNat_add]
    omega

/-! ## Carry chains -/

section Ripple

variable (step : UInt32 → UInt32 → UInt32 → UInt32 × UInt32)

/-- A carry chain over two word lists: each step takes the carry in and a word
of each list, and gives the word out and the carry out. -/
def ripple : UInt32 → List UInt32 → List UInt32 → List UInt32 × UInt32
  | carry, word :: words, other :: others =>
    let out := step carry word other
    let rest := ripple out.2 words others
    (out.1 :: rest.1, rest.2)
  | carry, _, _ => ([], carry)

theorem length_ripple : ∀ (carry : UInt32) (words others : List UInt32),
    (ripple step carry words others).1.length = min words.length others.length
  | _, [], _ => by simp [ripple]
  | _, _ :: _, [] => by simp [ripple]
  | carry, _ :: words, _ :: others => by
    simp [ripple, length_ripple (step carry _ _).2 words others, Nat.succ_min_succ]

/-- A chain of exact addition steps adds: the words out and the last carry make
the sum of the two numbers and the first carry. -/
theorem ripple_add
    (exact : ∀ carry word other, carry.toNat ≤ 1 →
      (step carry word other).2.toNat ≤ 1 ∧
        (step carry word other).1.toNat + 2 ^ 32 * (step carry word other).2.toNat =
          word.toNat + other.toNat + carry.toNat) :
    ∀ (words others : List UInt32) (carry : UInt32), words.length = others.length → carry.toNat ≤ 1 →
      (ripple step carry words others).2.toNat ≤ 1 ∧
        value (ripple step carry words others).1 +
            2 ^ (32 * words.length) * (ripple step carry words others).2.toNat =
          value words + value others + carry.toNat
  | [], [], carry, _, small => by simpa [ripple] using small
  | [], _ :: _, _, sized, _ => by simp at sized
  | _ :: _, [], _, sized, _ => by simp at sized
  | word :: words, other :: others, carry, sized, small => by
    rcases exact carry word other small with ⟨stepSmall, stepExact⟩
    rcases ripple_add exact words others (step carry word other).2 (by simpa using sized) stepSmall with
      ⟨restSmall, restExact⟩
    refine ⟨restSmall, ?_⟩
    simp only [ripple, value_cons]
    rw [List.length_cons, Nat.mul_add, Nat.mul_one, Nat.pow_add]
    set out := step carry word other
    set rest := ripple step out.2 words others
    calc out.1.toNat + 2 ^ 32 * value rest.1 + 2 ^ (32 * words.length) * 2 ^ 32 * rest.2.toNat
        = out.1.toNat + 2 ^ 32 * (value rest.1 + 2 ^ (32 * words.length) * rest.2.toNat) := by ring
      _ = out.1.toNat + 2 ^ 32 * (value words + value others + out.2.toNat) := by rw [restExact]
      _ = (out.1.toNat + 2 ^ 32 * out.2.toNat) + 2 ^ 32 * value words + 2 ^ 32 * value others := by ring
      _ = (word.toNat + other.toNat + carry.toNat) + 2 ^ 32 * value words + 2 ^ 32 * value others := by
          rw [stepExact]
      _ = word.toNat + 2 ^ 32 * value words + (other.toNat + 2 ^ 32 * value others) + carry.toNat := by ring

/-- A chain of exact subtraction steps subtracts: the words out, the second
number and the first borrow make the first number and the last borrow
times the weight of the whole list. -/
theorem ripple_sub
    (exact : ∀ borrow word other, borrow.toNat ≤ 1 →
      (step borrow word other).2.toNat ≤ 1 ∧
        (step borrow word other).1.toNat + other.toNat + borrow.toNat =
          word.toNat + 2 ^ 32 * (step borrow word other).2.toNat) :
    ∀ (words others : List UInt32) (borrow : UInt32), words.length = others.length → borrow.toNat ≤ 1 →
      (ripple step borrow words others).2.toNat ≤ 1 ∧
        value (ripple step borrow words others).1 + value others + borrow.toNat =
          value words + 2 ^ (32 * words.length) * (ripple step borrow words others).2.toNat
  | [], [], borrow, _, small => by simpa [ripple] using small
  | [], _ :: _, _, sized, _ => by simp at sized
  | _ :: _, [], _, sized, _ => by simp at sized
  | word :: words, other :: others, borrow, sized, small => by
    rcases exact borrow word other small with ⟨stepSmall, stepExact⟩
    rcases ripple_sub exact words others (step borrow word other).2 (by simpa using sized) stepSmall with
      ⟨restSmall, restExact⟩
    refine ⟨restSmall, ?_⟩
    simp only [ripple, value_cons]
    rw [List.length_cons, Nat.mul_add, Nat.mul_one, Nat.pow_add]
    set out := step borrow word other
    set rest := ripple step out.2 words others
    calc out.1.toNat + 2 ^ 32 * value rest.1 + (other.toNat + 2 ^ 32 * value others) + borrow.toNat
        = (out.1.toNat + other.toNat + borrow.toNat) + 2 ^ 32 * (value rest.1 + value others) := by ring
      _ = word.toNat + 2 ^ 32 * out.2.toNat + 2 ^ 32 * (value rest.1 + value others) := by rw [stepExact]
      _ = word.toNat + 2 ^ 32 * (value rest.1 + value others + out.2.toNat) := by ring
      _ = word.toNat + 2 ^ 32 * (value words + 2 ^ (32 * words.length) * rest.2.toNat) := by rw [restExact]
      _ = word.toNat + 2 ^ 32 * value words + 2 ^ (32 * words.length) * 2 ^ 32 * rest.2.toNat := by ring

end Ripple

/-! ## Comparison from the high word down -/

/-- Compare two lists of words given most significant word first: 1, -1 or 0
at the first word that differs. -/
def compareHigh : List UInt32 → List UInt32 → Int
  | word :: words, other :: others =>
    if other < word then 1 else if word < other then -1 else compareHigh words others
  | _, _ => 0

/-- The comparison of two numbers of the same length, from their high words,
is the comparison of their values. -/
theorem compareHigh_reverse : ∀ (words others : List UInt32), words.length = others.length →
    compareHigh words.reverse others.reverse =
      if value others < value words then 1 else if value words < value others then -1 else 0 := by
  intro words others sized
  induction words using List.reverseRecOn generalizing others with
  | nil =>
    cases others with
    | nil => rfl
    | cons _ _ => simp at sized
  | append_singleton words word ih =>
    induction others using List.reverseRecOn with
    | nil => simp at sized
    | append_singleton others other _ =>
      simp only [List.length_append, List.length_singleton, Nat.add_right_cancel_iff] at sized
      have highWord : value (words ++ [word]) = value words + 2 ^ (32 * words.length) * word.toNat := by
        simp [value_append]
      have highOther : value (others ++ [other]) = value others + 2 ^ (32 * words.length) * other.toNat := by
        simp [value_append, sized]
      have lowWords := value_lt words
      have lowOthers := value_lt others
      rw [← sized] at lowOthers
      simp only [List.reverse_append, List.reverse_singleton, List.singleton_append, compareHigh, ih others sized,
        highWord, highOther]
      have weight : 0 < 2 ^ (32 * words.length) := Nat.two_pow_pos _
      by_cases greater : other < word
      · have wordBig : other.toNat + 1 ≤ word.toNat := UInt32.lt_iff_toNat_lt.mp greater
        have step : 2 ^ (32 * words.length) * (other.toNat + 1) ≤ 2 ^ (32 * words.length) * word.toNat :=
          Nat.mul_le_mul_left _ wordBig
        rw [if_pos greater, if_pos (by rw [Nat.mul_succ] at step; omega)]
      · by_cases less : word < other
        · have otherBig : word.toNat + 1 ≤ other.toNat := UInt32.lt_iff_toNat_lt.mp less
          have step : 2 ^ (32 * words.length) * (word.toNat + 1) ≤ 2 ^ (32 * words.length) * other.toNat :=
            Nat.mul_le_mul_left _ otherBig
          rw [if_neg greater, if_pos less, if_neg (by rw [Nat.mul_succ] at step; omega),
            if_pos (by rw [Nat.mul_succ] at step; omega)]
        · have same : word = other := by
            apply UInt32.toNat_inj.mp
            have := UInt32.lt_iff_toNat_lt.not.mp greater
            have := UInt32.lt_iff_toNat_lt.not.mp less
            omega
          subst same
          rw [if_neg greater, if_neg less]
          split_ifs <;> omega

end Words
