import Mathlib.Data.List.Basic
import Mathlib.Data.UInt
import Mathlib.Tactic.Ring

namespace BluetoothStack
namespace ByteStream

/-!
# Multi-byte fields in byte streams

Protocol code writes and reads 16-bit fields through a cursor, least
significant byte first (`UINT16_TO_STREAM`, `STREAM_TO_UINT16`) or most
significant byte first (`UINT16_TO_BE_STREAM`, `BE_STREAM_TO_UINT16`).  Here a
field is a natural number, its encoding a list of bytes, and reading takes
the first bytes of a list.  The round-trip lemmas hold for every value that
fits in 16 bits.
-/

/-- The two bytes of a 16-bit value, least significant first. -/
def u16le (value : Nat) : List UInt8 :=
  [UInt8.ofNat value, UInt8.ofNat (value / 256)]

/-- The two bytes of a 16-bit value, most significant first. -/
def u16be (value : Nat) : List UInt8 :=
  [UInt8.ofNat (value / 256), UInt8.ofNat value]

/-- The value of two bytes read least significant first. -/
def readU16le (low high : UInt8) : Nat :=
  low.toNat + 256 * high.toNat

/-- The value of two bytes read most significant first. -/
def readU16be (high low : UInt8) : Nat :=
  256 * high.toNat + low.toNat

@[simp]
theorem u16le_length (value : Nat) : (u16le value).length = 2 := rfl

@[simp]
theorem u16be_length (value : Nat) : (u16be value).length = 2 := rfl

/-- A byte is the low byte of every number congruent to it modulo `256`. -/
theorem ofNat_eq_of_mod {n : Nat} {byte : UInt8} (low : n % 256 = byte.toNat) : UInt8.ofNat n = byte := by
  apply UInt8.toNat_inj.mp
  rw [UInt8.toNat_ofNat']
  exact low

/-- Reading back a little-endian field gives the value written. -/
theorem readU16le_u16le {value : Nat} (fits : value < 65536) :
    readU16le (UInt8.ofNat value) (UInt8.ofNat (value / 256)) = value := by
  simp only [readU16le, UInt8.toNat_ofNat']
  omega

/-- Reading back a big-endian field gives the value written. -/
theorem readU16be_u16be {value : Nat} (fits : value < 65536) :
    readU16be (UInt8.ofNat (value / 256)) (UInt8.ofNat value) = value := by
  simp only [readU16be, UInt8.toNat_ofNat']
  omega

/-- The value of four bytes read least significant first (`STREAM_TO_UINT32`). -/
def readU32le (b0 b1 b2 b3 : UInt8) : Nat :=
  readU16le b0 b1 + 65536 * readU16le b2 b3

/-- The four bytes of a 32-bit value, most significant first (`UINT32_TO_BE_STREAM`). -/
def u32be (value : Nat) : List UInt8 :=
  u16be (value / 65536) ++ u16be value

/-- The value of four bytes read most significant first (`BE_STREAM_TO_UINT32`). -/
def readU32be (b0 b1 b2 b3 : UInt8) : Nat :=
  65536 * readU16be b0 b1 + readU16be b2 b3

@[simp]
theorem u32be_length (value : Nat) : (u32be value).length = 4 := rfl

/-! ## Windows of memory

A parser that walks a cursor over memory reads, from a start position, a
window of consecutive bytes.  Memory is a function from positions to bytes,
so that a read outside the data is still defined and a statement about what
a parser reads can be made by varying the memory outside a window. -/

/-- The `count` bytes of memory from `start`. -/
def window (mem : Nat → UInt8) (start count : Nat) : List UInt8 :=
  (List.range' start count).map mem

/-- The 16-bit field at a position of memory, least significant byte first. -/
def u16leAt (mem : Nat → UInt8) (p : Nat) : Nat :=
  readU16le (mem p) (mem (p + 1))

/-- The 32-bit field at a position of memory, least significant byte first. -/
def u32leAt (mem : Nat → UInt8) (p : Nat) : Nat :=
  readU32le (mem p) (mem (p + 1)) (mem (p + 2)) (mem (p + 3))

/-- The 16-bit field at a position of memory, most significant byte first. -/
def u16beAt (mem : Nat → UInt8) (p : Nat) : Nat :=
  readU16be (mem p) (mem (p + 1))

/-- The 32-bit field at a position of memory, most significant byte first. -/
def u32beAt (mem : Nat → UInt8) (p : Nat) : Nat :=
  readU32be (mem p) (mem (p + 1)) (mem (p + 2)) (mem (p + 3))

section Window

variable {mem mem' : Nat → UInt8} {start count : Nat}

@[simp]
theorem window_length : (window mem start count).length = count := by
  simp [window]

@[simp]
theorem window_zero : window mem start 0 = [] := rfl

theorem window_succ : window mem start (count + 1) = mem start :: window mem (start + 1) count := by
  simp [window, List.range'_succ]

theorem window_add (m n : Nat) :
    window mem start (m + n) = window mem start m ++ window mem (start + m) n := by
  have joined := @List.range'_append start m n 1
  rw [Nat.one_mul] at joined
  simp only [window, ← joined, List.map_append]

theorem window_take {m : Nat} (fits : m ≤ count) : (window mem start count).take m = window mem start m := by
  obtain ⟨n, rfl⟩ := Nat.exists_eq_add_of_le fits
  rw [window_add, List.take_left' window_length]

theorem window_drop (m : Nat) : (window mem start count).drop m = window mem (start + m) (count - m) := by
  simp only [window, ← List.map_drop, List.drop_range', Nat.mul_one]

theorem window_getD {i : Nat} (inside : i < count) (fallback : UInt8) :
    (window mem start count).getD i fallback = mem (start + i) := by
  simp [window, inside]

/-- A window reads only the memory inside it. -/
theorem window_congr (agree : ∀ i, start ≤ i → i < start + count → mem i = mem' i) :
    window mem start count = window mem' start count := by
  apply List.map_congr_left
  intro i member
  rw [List.mem_range'_1] at member
  exact agree i member.1 member.2

theorem u16beAt_congr {p : Nat} (agree : ∀ i, p ≤ i → i < p + 2 → mem i = mem' i) :
    u16beAt mem p = u16beAt mem' p := by
  rw [u16beAt, u16beAt, agree p (Nat.le_refl p) (by omega), agree (p + 1) (by omega) (by omega)]

theorem u32beAt_congr {p : Nat} (agree : ∀ i, p ≤ i → i < p + 4 → mem i = mem' i) :
    u32beAt mem p = u32beAt mem' p := by
  rw [u32beAt, u32beAt, agree p (Nat.le_refl p) (by omega), agree (p + 1) (by omega) (by omega),
    agree (p + 2) (by omega) (by omega), agree (p + 3) (by omega) (by omega)]

/-! ### Reading back what a window holds -/

/-- A window that holds a list holds each of its bytes at its place. -/
theorem mem_of_window {bytes : List UInt8} {i : Nat} (placed : window mem start count = bytes)
    (inside : i < count) : mem (start + i) = bytes.getD i 0 := by
  rw [← placed, window_getD inside]

/-- A window that holds a byte followed by more bytes holds the byte at its
start. -/
theorem window_eq_cons {n : Nat} {byte : UInt8} {bytes : List UInt8}
    (placed : window mem start (n + 1) = byte :: bytes) :
    mem start = byte ∧ window mem (start + 1) n = bytes := by
  rw [window_succ] at placed
  exact List.cons.inj placed

/-- A window that holds two lists one after the other holds each at its place. -/
theorem window_eq_append {m n : Nat} {first second : List UInt8} (sized : first.length = m)
    (placed : window mem start (m + n) = first ++ second) :
    window mem start m = first ∧ window mem (start + m) n = second := by
  rw [window_add] at placed
  exact List.append_inj placed (by rw [window_length, sized])

/-- A big-endian field placed in memory reads back as its value. -/
theorem u16beAt_of_window {p value : Nat} (placed : window mem p 2 = u16be value) (fits : value < 65536) :
    u16beAt mem p = value := by
  have pair : window mem p 2 = [mem p, mem (p + 1)] := by simp [window, List.range'_succ]
  rw [pair, u16be, List.cons.injEq, List.cons.injEq] at placed
  rw [u16beAt, placed.1, placed.2.1]
  exact readU16be_u16be fits

/-- A big-endian 32-bit field placed in memory reads back as its value. -/
theorem u32beAt_of_window {p value : Nat} (placed : window mem p 4 = u32be value) (fits : value < 2 ^ 32) :
    u32beAt mem p = value := by
  have quad : window mem p 4 = [mem p, mem (p + 1), mem (p + 2), mem (p + 3)] := by
    simp [window, List.range'_succ]
  rw [quad, u32be, u16be, u16be] at placed
  simp only [List.cons_append, List.nil_append, List.cons.injEq] at placed
  obtain ⟨b0, b1, b2, b3, -⟩ := placed
  simp only [u32beAt, readU32be, readU16be, b0, b1, b2, b3, UInt8.toNat_ofNat']
  omega

end Window

/-! ## Sequences of elements

A parser of a sequence reads elements from a position up to the end of the
sequence, each from where the one before ended, and fails when an element
fails or when more elements come than it has room for.  What such a parser
returns for a sequence of encoded items follows from what it returns for one
item (`elements_encoded`), and what it reads from what each element reads
(`elements_congr`). -/

section Elements

variable {α : Type*}

/-- The elements of a sequence ending at `stop`, read by `element` from `p`
with room for `room` more: the elements and the position after them.  An
element read with no room left fails the sequence. -/
def elements (element : Nat → Option (α × Nat)) (stop room p : Nat) : Option (List α × Nat) :=
  if stop ≤ p then some ([], p)
  else
    match element p, room with
    | none, _ => none
    | some _, 0 => none
    | some (a, q), room + 1 => (elements element stop room q).map fun rest => (a :: rest.1, rest.2)

variable {element element' : Nat → Option (α × Nat)} {stop room p q : Nat} {a : α}

theorem elements_done (done : stop ≤ p) : elements element stop room p = some ([], p) := by
  rw [elements.eq_def, if_pos done]

theorem elements_full (going : p < stop) (read : element p = some (a, q)) : elements element stop 0 p = none := by
  rw [elements.eq_def, if_neg (Nat.not_le_of_lt going), read]

theorem elements_cons (going : p < stop) (read : element p = some (a, q)) :
    elements element stop (room + 1) p = (elements element stop room q).map fun rest => (a :: rest.1, rest.2) := by
  rw [elements.eq_def, if_neg (Nat.not_le_of_lt going), read]

/-- Items encoded one after another up to the end of the sequence read back as
their images, when each item reads back where it is placed and there is room
for all of them; one more item than the room fails the sequence. -/
theorem elements_encoded {β : Type*} (encode : β → List UInt8) (decode : β → α) {mem : Nat → UInt8} :
    ∀ (items : List β),
      (∀ b ∈ items, 0 < (encode b).length) →
      (∀ b ∈ items, ∀ q, window mem q (encode b).length = encode b → q + (encode b).length ≤ stop →
        element q = some (decode b, q + (encode b).length)) →
      ∀ room p, window mem p (items.flatMap encode).length = items.flatMap encode →
        p + (items.flatMap encode).length = stop →
        elements element stop room p = if items.length ≤ room then some (items.map decode, stop) else none := by
  intro items
  induction items with
  | nil =>
      intro _ _ room p _ ended
      rw [List.flatMap_nil, List.length_nil, Nat.add_zero] at ended
      rw [elements_done (Nat.le_of_eq ended.symm), List.length_nil, if_pos (Nat.zero_le room), ended,
        List.map_nil]
  | cons b rest ih =>
      intro nonempty reads room p placed ended
      rw [List.flatMap_cons, List.length_append] at placed ended
      obtain ⟨here, after⟩ := window_eq_append rfl placed
      have short : 0 < (encode b).length := nonempty b List.mem_cons_self
      have read := reads b List.mem_cons_self p here (by omega)
      -- the room decides whether the item read is one too many
      cases room with
      | zero =>
          rw [elements_full (by omega) read, if_neg (by simp)]
      | succ room =>
          rw [elements_cons (by omega) read,
            ih (fun c member => nonempty c (List.mem_cons_of_mem b member))
              (fun c member => reads c (List.mem_cons_of_mem b member)) room _ after (by omega)]
          by_cases fits : rest.length ≤ room
          · rw [if_pos fits, if_pos (by simp [fits]), List.map_cons]
            rfl
          · rw [if_neg fits, if_neg (by simp [fits])]
            rfl

/-- A sequence reads only what its elements read: two element readers that
agree from `start` on, one of which never moves back, read the same sequence
from any position after `start`. -/
theorem elements_congr {start : Nat} (same : ∀ p, start ≤ p → p < stop → element p = element' p)
    (forward : ∀ p a q, element' p = some (a, q) → p ≤ q) :
    ∀ room p, start ≤ p → elements element stop room p = elements element' stop room p := by
  intro room
  induction room with
  | zero =>
      intro p after
      by_cases done : stop ≤ p
      · rw [elements_done done, elements_done done]
      · rw [elements.eq_def, elements.eq_def, if_neg done, if_neg done, same p after (by omega)]
        rcases element' p with _ | ⟨a, q⟩ <;> rfl
  | succ room ih =>
      intro p after
      by_cases done : stop ≤ p
      · rw [elements_done done, elements_done done]
      · rw [elements.eq_def, elements.eq_def, if_neg done, if_neg done, same p after (by omega)]
        rcases read : element' p with _ | ⟨a, q⟩
        · rfl
        · dsimp only
          rw [ih q (Nat.le_trans after (forward p a q read))]

end Elements

/-! ## Storing into memory -/

/-- Memory after bytes are stored one after another from pos. -/
def store (mem : Nat → UInt8) (pos : Nat) (bytes : List UInt8) (i : Nat) : UInt8 :=
  if pos ≤ i ∧ i < pos + bytes.length then bytes.getD (i - pos) 0 else mem i

section Store

variable {mem : Nat → UInt8} {pos : Nat} {bytes : List UInt8}

theorem store_of_lt {i : Nat} (below : i < pos) : store mem pos bytes i = mem i := by
  rw [store, if_neg (by omega)]

theorem store_of_le {i : Nat} (above : pos + bytes.length ≤ i) : store mem pos bytes i = mem i := by
  rw [store, if_neg (by omega)]

theorem store_add {k : Nat} (inside : k < bytes.length) : store mem pos bytes (pos + k) = bytes.getD k 0 := by
  rw [store, if_pos (by omega), Nat.add_sub_cancel_left]

/-- The stored bytes read back. -/
theorem window_store : window (store mem pos bytes) pos bytes.length = bytes := by
  apply List.ext_getElem (by simp)
  intro k _ inBytes
  rw [List.getElem_eq_getD 0, window_getD inBytes, store_add inBytes]
  simp [List.getD_eq_getElem?_getD, inBytes]

/-- Memory apart from the stored bytes is left as it was. -/
theorem window_store_apart {start count : Nat} (apart : start + count ≤ pos ∨ pos + bytes.length ≤ start) :
    window (store mem pos bytes) start count = window mem start count := by
  apply window_congr
  intro i low high
  rcases apart with before | after
  · exact store_of_lt (by omega)
  · exact store_of_le (by omega)

theorem window_store_of_length {count : Nat} (sized : bytes.length = count) :
    window (store mem pos bytes) pos count = bytes := by
  subst sized
  exact window_store

/-- Bytes stored in front of a window read back followed by the window. -/
theorem window_store_prefix (count : Nat) :
    window (store mem pos bytes) pos (bytes.length + count) = bytes ++ window mem (pos + bytes.length) count := by
  rw [window_add, window_store, window_store_apart (Or.inr (Nat.le_refl _))]

/-- A frame stored around len bytes at p: a header right in front of them
and, right after them, a byte computed from the first two header bytes.  The
header and the byte read back, and the len bytes are left as they were. -/
theorem store_around (mem : Nat → UInt8) (header : List UInt8) {o l p len : Nat} (check : List UInt8 → UInt8)
    (inFront : o + header.length = p) (sized : l = header.length + len) (long : 2 ≤ header.length) :
    window (store (store mem o header) (o + l) [check (window (store mem o header) o 2)]) o header.length = header ∧
      window (store (store mem o header) (o + l) [check (window (store mem o header) o 2)]) p len =
        window mem p len ∧
      store (store mem o header) (o + l) [check (window (store mem o header) o 2)] (p + len) =
        check (window (store (store mem o header) (o + l) [check (window (store mem o header) o 2)]) o 2) := by
  refine ⟨?_, ?_, ?_⟩
  · rw [window_store_apart (Or.inl (by omega))]
    exact window_store
  · rw [window_store_apart (Or.inl (by omega)), window_store_apart (Or.inr (by omega))]
  · rw [window_store_apart (Or.inl (show o + 2 ≤ o + l by omega)), show p + len = o + l + 0 by omega,
      store_add (by simp)]
    rfl

end Store

/-! ## Writing into a buffer -/

/-- Bytes written one after another from `pos` into a buffer of fixed size; a
write past the end of the buffer is lost. -/
def writeBytes : List UInt8 → Nat → List UInt8 → List UInt8
  | buf, _, [] => buf
  | buf, pos, byte :: bytes => writeBytes (buf.set pos byte) (pos + 1) bytes

@[simp]
theorem writeBytes_length (buf : List UInt8) (pos : Nat) (bytes : List UInt8) :
    (writeBytes buf pos bytes).length = buf.length := by
  induction bytes generalizing buf pos with
  | nil => rfl
  | cons byte bytes ih => rw [writeBytes, ih, List.length_set]

/-- Bytes that fit replace the part of the buffer they are written over. -/
theorem writeBytes_eq_append {buf bytes : List UInt8} {pos : Nat} (fits : pos + bytes.length ≤ buf.length) :
    writeBytes buf pos bytes = buf.take pos ++ bytes ++ buf.drop (pos + bytes.length) := by
  induction bytes generalizing buf pos with
  | nil => simp [writeBytes]
  | cons byte bytes ih =>
      rw [List.length_cons] at fits
      have inside : pos < buf.length := by omega
      have short : (buf.take pos).length = pos := List.length_take_of_le (by omega)
      have taken : (buf.set pos byte).take (pos + 1) = buf.take pos ++ [byte] := by
        rw [List.set_eq_take_append_cons_drop, if_pos inside]
        simp [List.take_append, short]
      have dropped : (buf.set pos byte).drop (pos + 1 + bytes.length) = buf.drop (pos + 1 + bytes.length) :=
        List.drop_set_of_lt (by omega)
      rw [writeBytes, ih (by rw [List.length_set]; omega), taken, dropped]
      simp [Nat.add_right_comm, Nat.add_assoc]

/-! ## Writing into a fixed-size array

memcpy into an array of the C code is defined only while the bytes fit; a
write past the end is undefined behaviour.  writeInto? makes such a write
fail, so that a statement that a function never writes outside its arrays is
the statement that it never fails. -/

/-- memcpy of bytes into a fixed-size array from pos: none when they do not
fit. -/
def writeInto? {n : Nat} (dst : Vector UInt8 n) (pos : Nat) (bytes : List UInt8) : Option (Vector UInt8 n) :=
  if pos + bytes.length ≤ n then some ⟨(writeBytes dst.toList pos bytes).toArray, by simp⟩ else none

section WriteInto

variable {n : Nat} {pos : Nat} {bytes : List UInt8}

/-- Bytes that fit are written, over the part of the array they cover. -/
theorem writeInto?_of_fits (dst : Vector UInt8 n) (fits : pos + bytes.length ≤ n) :
    ∃ written, writeInto? dst pos bytes = some written ∧
      written.toList = dst.toList.take pos ++ bytes ++ dst.toList.drop (pos + bytes.length) := by
  refine ⟨_, by rw [writeInto?, if_pos fits], ?_⟩
  rw [Vector.toList_mk, List.toList_toArray]
  exact writeBytes_eq_append (by simpa using fits)

/-- An array that is not empty lists its first element and then the rest. -/
theorem toList_eq_cons_getElem {α : Type} {size : Nat} (v : Vector α size) (nonempty : 0 < size) :
    v.toList = v[0] :: v.toList.tail := by
  have listed : v.toList ≠ [] := by
    intro empty
    have length := v.length_toList
    rw [empty] at length
    simp at length
    omega
  rw [← List.cons_head_tail listed]
  simp [List.head_eq_getElem]

/-- A length byte written at pos and then bytes after it: the two copies of
a length-prefixed field, which fit when the field does. -/
theorem writeInto?_pair (dst : Vector UInt8 n) (byte : UInt8) (fits : pos + 1 + bytes.length ≤ n) :
    ∃ written : Vector UInt8 n,
      written.toList = dst.toList.take pos ++ byte :: bytes ++ dst.toList.drop (pos + 1 + bytes.length) ∧
      ∀ {β : Type} (k : Vector UInt8 n → Option β),
        (writeInto? dst pos [byte] >>= fun first => writeInto? first (pos + 1) bytes >>= k) = k written := by
  refine ⟨⟨(writeBytes dst.toList pos (byte :: bytes)).toArray, by simp⟩, ?_, ?_⟩
  · rw [Vector.toList_mk, List.toList_toArray, writeBytes_eq_append (by simp; omega), List.length_cons,
      Nat.add_comm bytes.length 1, ← Nat.add_assoc]
  · intro β k
    have first : pos + [byte].length ≤ n := by rw [List.length_singleton]; omega
    simp only [writeInto?, if_pos first, if_pos fits]
    rfl

end WriteInto

/-! ## Flag masks

A 16-bit mask of flags, one bit a flag, tested and set with &&& and |||. -/

theorem and_or_distrib (m a b : UInt16) : m &&& (a ||| b) = (m &&& a) ||| (m &&& b) := by
  simp [← UInt16.toBitVec_inj, BitVec.and_or_distrib_left]

/-- A mask and a single bit: the bit is clear or set. -/
theorem and_bit (m : UInt16) {k : Nat} (inside : k < 16) :
    m &&& (1 <<< k.toUInt16) = 0 ∨ m &&& (1 <<< k.toUInt16) = 1 <<< k.toUInt16 := by
  by_cases set : m.toBitVec.getLsbD k
  · right
    apply UInt16.toBitVec_inj.mp
    apply BitVec.eq_of_getLsbD_eq
    intro i _
    simp only [UInt16.toBitVec_and, UInt16.toBitVec_shiftLeft, BitVec.getLsbD_and]
    simp
    intro _ low same
    have : i = k := by omega
    subst this
    exact set
  · left
    apply UInt16.toBitVec_inj.mp
    apply BitVec.eq_of_getLsbD_eq
    intro i _
    simp [BitVec.getLsbD_and]
    intro holds _ low same
    have : i = k := by omega
    subst this
    exact set holds

/-! ## Fields of any width

A loop that emits `value & 0xff` and shifts the value right by 8, n times,
writes the low n bytes of the value least significant first; read back most
significant first after a byte swap, they give the value modulo 2^(8n). -/

/-- The low `octets` bytes of a value, least significant first. -/
def leOctets : Nat → Nat → List UInt8
  | 0, _ => []
  | octets + 1, value => UInt8.ofNat value :: leOctets octets (value / 256)

/-- The value of bytes read least significant first. -/
def leValue : List UInt8 → Nat
  | [] => 0
  | byte :: bytes => byte.toNat + 256 * leValue bytes

/-- The value of bytes read most significant first. -/
def beValue (bytes : List UInt8) : Nat :=
  bytes.foldl (fun value byte => 256 * value + byte.toNat) 0

@[simp]
theorem length_leOctets (octets value : Nat) : (leOctets octets value).length = octets := by
  induction octets generalizing value with
  | zero => rfl
  | succ octets ih => rw [leOctets, List.length_cons, ih]

theorem leValue_leOctets (octets value : Nat) : leValue (leOctets octets value) = value % 256 ^ octets := by
  induction octets generalizing value with
  | zero => simp [leOctets, leValue, Nat.mod_one]
  | succ octets ih =>
    rw [leOctets, leValue, ih, UInt8.toNat_ofNat', show 2 ^ 8 = 256 from rfl, Nat.pow_succ', Nat.mod_mul]

theorem beValue_reverse (bytes : List UInt8) : beValue bytes.reverse = leValue bytes := by
  rw [beValue, List.foldl_reverse]
  induction bytes with
  | nil => rfl
  | cons byte bytes ih => rw [List.foldr_cons, ih, leValue, Nat.add_comm]

/-- A byte-swapped field reads back as the value modulo its width. -/
theorem beValue_reverse_leOctets (octets value : Nat) :
    beValue (leOctets octets value).reverse = value % 256 ^ octets := by
  rw [beValue_reverse, leValue_leOctets]

theorem foldl_beValue (value : Nat) (bytes : List UInt8) :
    bytes.foldl (fun value byte => 256 * value + byte.toNat) value = value * 256 ^ bytes.length + beValue bytes := by
  induction bytes generalizing value with
  | nil => simp [beValue]
  | cons byte bytes ih =>
    have first : beValue (byte :: bytes) = byte.toNat * 256 ^ bytes.length + beValue bytes := by
      rw [beValue, List.foldl_cons, ih]
      ring
    rw [List.foldl_cons, ih, first, List.length_cons]
    ring

theorem beValue_append (front back : List UInt8) :
    beValue (front ++ back) = beValue front * 256 ^ back.length + beValue back := by
  rw [beValue, List.foldl_append, ← beValue, foldl_beValue]

/-! ## Signed fields -/

/-- `static_cast<int16_t>`: the value cut to 16 bits and read as two's
complement. -/
def toInt16 (value : Int) : Int := (value + 32768) % 65536 - 32768

end ByteStream
end BluetoothStack
