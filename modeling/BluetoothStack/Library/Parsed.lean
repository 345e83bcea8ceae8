import Mathlib.Order.Basic

namespace BluetoothStack

/-!
# Parsers of a bounded input

A C parser walks a pointer over a buffer it was given with its end.  Each
read is meant to be checked against the end first; a read that is not lands
outside the input.  A parser of this kind is modelled on the input as a list,
every read returning `none` past its end, and its outcome is what it returns,
a read outside the input (`stray`), or running out of the fuel that bounds
its recursion.  What C returns for an error, such as `NULL`, is part of what
it returns.

`Parsed.Returns P` says a parse returns a value of `P`, so neither strays nor
runs out of fuel; its rules follow the monad (`returns_bind`, `returns_returned`,
`returns_ofOption`), so that a statement about a parser written in `do`
notation is proved read by read.  What a parse returned is taken apart the
same way (`bind_eq_returned`), and `Agree` says which bytes of the input it
may read: two inputs that agree there are parsed alike (`bind_congr`).
-/

/-- How a parser ends. -/
inductive Parsed (α : Type) where
  /-- It returns a value. -/
  | returned (value : α)
  /-- It reads outside its input. -/
  | stray
  /-- It runs out of fuel. -/
  | outOfFuel
deriving DecidableEq, Repr

namespace Parsed

variable {α β : Type}

/-- Go on with what a part of the parser returned; a stray read or running
out of fuel ends the whole parse. -/
def bind : Parsed α → (α → Parsed β) → Parsed β
  | .returned a, rest => rest a
  | .stray, _ => .stray
  | .outOfFuel, _ => .outOfFuel

instance : Monad Parsed where
  pure := .returned
  bind := bind

/-- A read of the input: `none` is a place outside it. -/
def ofOption : Option α → Parsed α
  | some a => .returned a
  | none => .stray

@[simp]
theorem pure_eq (a : α) : (pure a : Parsed α) = .returned a := rfl

@[simp]
theorem returned_bind (a : α) (rest : α → Parsed β) : (Parsed.returned a >>= rest) = rest a := rfl

@[simp]
theorem stray_bind (rest : α → Parsed β) : (Parsed.stray >>= rest) = .stray := rfl

@[simp]
theorem outOfFuel_bind (rest : α → Parsed β) : (Parsed.outOfFuel >>= rest) = .outOfFuel := rfl

@[simp]
theorem ofOption_some (a : α) : ofOption (some a) = .returned a := rfl

@[simp]
theorem ofOption_none : ofOption (none : Option α) = .stray := rfl

@[simp]
theorem ofOption_eq_returned {read : Option α} {a : α} : ofOption read = .returned a ↔ read = some a := by
  cases read with
  | some b => exact ⟨fun same => by cases same; rfl, fun same => by cases same; rfl⟩
  | none => exact ⟨fun same => (nomatch same), fun same => (nomatch same)⟩

/-- What a bound parse returned, the first part's value in between. -/
theorem bind_eq_returned {first : Parsed α} {rest : α → Parsed β} {b : β} :
    first >>= rest = .returned b ↔ ∃ a, first = .returned a ∧ rest a = .returned b := by
  cases first with
  | returned a => exact ⟨fun ran => ⟨a, rfl, ran⟩, fun ⟨_, same, ran⟩ => by cases same; exact ran⟩
  | stray => exact ⟨fun ran => (nomatch ran), fun ⟨_, same, _⟩ => (nomatch same)⟩
  | outOfFuel => exact ⟨fun ran => (nomatch ran), fun ⟨_, same, _⟩ => (nomatch same)⟩

/-- Two bound parses are the same when their first parts are and their rests
agree on what the first part returns. -/
theorem bind_congr {first first' : Parsed α} {rest rest' : α → Parsed β} (same : first = first')
    (next : ∀ a, first = .returned a → rest a = rest' a) : first >>= rest = first' >>= rest' := by
  subst same
  cases first with
  | returned a => exact next a rfl
  | stray => rfl
  | outOfFuel => rfl

/-! ## Parses that return -/

/-- The parse returns, with a value of `P`. -/
def Returns (P : α → Prop) : Parsed α → Prop
  | .returned a => P a
  | _ => False

@[simp]
theorem returns_returned {P : α → Prop} {a : α} : (Parsed.returned a).Returns P ↔ P a := Iff.rfl

/-- A parse returns with `P` when its first part returns and the rest returns
with `P` from every value the first part returns. -/
theorem returns_bind {Q : α → Prop} {P : β → Prop} {first : Parsed α} {rest : α → Parsed β}
    (returns : first.Returns Q) (next : ∀ a, first = .returned a → Q a → (rest a).Returns P) :
    (first >>= rest).Returns P := by
  cases first with
  | returned a => exact next a rfl returns
  | stray => exact returns.elim
  | outOfFuel => exact returns.elim

/-- A read of the input returns when it is inside the input. -/
theorem returns_ofOption {read : Option α} (present : read.isSome) :
    (ofOption read).Returns fun a => read = some a := by
  cases read with
  | some a => rfl
  | none => cases present

/-- A read inside the input, and then the rest. -/
theorem returns_ofOption_bind {P : β → Prop} {read : Option α} {rest : α → Parsed β} (present : read.isSome)
    (next : ∀ a, read = some a → (rest a).Returns P) : (ofOption read >>= rest).Returns P :=
  returns_bind (returns_ofOption present) fun a _ same => next a same

/-- A parse that returns has `P` when every value it returns has. -/
theorem Returns.of_returned {P Q : α → Prop} {parse : Parsed α} (returns : parse.Returns Q)
    (holds : ∀ a, parse = .returned a → P a) : parse.Returns P := by
  cases parse with
  | returned a => exact holds a rfl
  | stray => exact returns.elim
  | outOfFuel => exact returns.elim

end Parsed

/-! ## What a parser reads -/

/-- Two inputs hold the same bytes at the positions from `lo` below `hi`; a
parser that reads only there parses both alike. -/
def Agree {β : Type} (msg msg' : List β) (lo hi : Nat) : Prop :=
  ∀ i, lo ≤ i → i < hi → msg[i]? = msg'[i]?

theorem Agree.mono {β : Type} {msg msg' : List β} {lo hi lo' hi' : Nat} (agree : Agree msg msg' lo hi)
    (low : lo ≤ lo') (high : hi' ≤ hi) : Agree msg msg' lo' hi' :=
  fun i above below => agree i (Nat.le_trans low above) (Nat.lt_of_lt_of_le below high)

/-- Inputs of one length agree past their end. -/
theorem Agree.of_length {β : Type} {msg msg' : List β} {lo hi : Nat} (length : msg'.length = msg.length)
    (agree : Agree msg msg' lo msg.length) : Agree msg msg' lo hi := by
  intro i above _
  by_cases inside : i < msg.length
  · exact agree i above inside
  · rw [List.getElem?_eq_none (by omega), List.getElem?_eq_none (by omega)]

end BluetoothStack
