import Mathlib.Order.Basic

namespace BluetoothStack

/-!
# Memory handed out from the start of a region

A bump allocator keeps a pointer to the first free byte of its region and a
count of the bytes still free, and hands out memory by moving the one up and
the other down by the same size.  C code keeps the count in an unsigned
integer of fixed width, here a number modulo `cap`, so taking more than is
free wraps it.  The arena also records the places its user writes to.

`Extends a b` says `b` came from `a` by allocations and writes within what
`a` had free: the pointer and the count still add up to the end of the
region, the pointer only moved up, the count did not wrap, and every new
write lies between `a`'s pointer and the end.  It is a preorder, so a chain of
allocations of which each fits is one that fits.
-/

/-- The first free byte, the bytes still free, and the writes made, each as
its start and length. -/
structure Arena where
  next : Nat
  left : Nat
  written : List (Nat × Nat)

namespace Arena

variable (cap : Nat)

/-- Hand out `size` bytes, the count kept modulo `cap`. -/
def take (a : Arena) (size : Nat) : Arena :=
  { a with next := a.next + size, left := (a.left + cap - size) % cap }

/-- A write of `count` bytes at `start`. -/
def write (a : Arena) (start count : Nat) : Arena :=
  { a with written := a.written ++ [(start, count)] }

/-- `b` is `a` after allocations and writes within what `a` had free. -/
structure Extends (a b : Arena) : Prop where
  total : b.next + b.left = a.next + a.left
  grows : a.next ≤ b.next
  fits : b.left < cap
  writes : ∃ new, b.written = a.written ++ new ∧ ∀ w ∈ new, a.next ≤ w.1 ∧ w.1 + w.2 ≤ a.next + a.left

variable {cap} {a b c : Arena}

theorem Extends.refl (fits : a.left < cap) : Extends cap a a :=
  ⟨rfl, Nat.le_refl _, fits, [], by rw [List.append_nil], fun _ member => (List.not_mem_nil member).elim⟩

theorem Extends.trans (first : Extends cap a b) (second : Extends cap b c) : Extends cap a c := by
  obtain ⟨new, grown, inside⟩ := first.writes
  obtain ⟨more, grown', inside'⟩ := second.writes
  refine ⟨second.total.trans first.total, Nat.le_trans first.grows second.grows, second.fits,
    new ++ more, by rw [grown', grown, List.append_assoc], ?_⟩
  intro w member
  rcases List.mem_append.mp member with early | late
  · exact inside w early
  · -- a later write lies within what was still free after the first allocations
    have within := inside' w late
    have total := first.total
    have grows := first.grows
    omega

theorem take_extends (fits : a.left < cap) {size : Nat} (enough : size ≤ a.left) :
    Extends cap a (a.take cap size) := by
  have low : (a.left + cap - size) % cap = a.left - size := by
    rw [show a.left + cap - size = (a.left - size) + cap by omega, Nat.add_mod_right]
    exact Nat.mod_eq_of_lt (by omega)
  refine ⟨?_, Nat.le_add_right _ _, ?_, [], by rw [List.append_nil]; rfl, fun _ member => (List.not_mem_nil member).elim⟩
  · show a.next + size + (a.left + cap - size) % cap = a.next + a.left
    omega
  · show (a.left + cap - size) % cap < cap
    omega

theorem write_extends (fits : a.left < cap) {start count : Nat} (low : a.next ≤ start)
    (high : start + count ≤ a.next + a.left) : Extends cap a (a.write start count) := by
  refine ⟨rfl, Nat.le_refl _, fits, [(start, count)], rfl, ?_⟩
  intro w member
  rw [List.mem_singleton] at member
  subst member
  exact ⟨low, high⟩

end Arena
end BluetoothStack
