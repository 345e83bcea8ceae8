import BluetoothStack.Library.ByteStream

namespace BluetoothStack
namespace Tlv

/-!
# Type-length-value option lists

An option list is a byte string of options, each a type byte, a length byte
and as many bytes of value as the length byte says.  `decode` splits a byte
string into its options and fails when the last one runs past the end;
`encode` writes options back.  Decoding loses nothing (`encode_of_decode`),
and options whose values fit a length byte decode back from their encoding
(`decode_encode`).
-/

/-- One option: its type byte and its value. -/
structure Item where
  code : UInt8
  value : List UInt8
  deriving DecidableEq, Repr

/-- The bytes of one option. -/
def Item.encode (item : Item) : List UInt8 :=
  item.code :: UInt8.ofNat item.value.length :: item.value

/-- The bytes of an option list. -/
def encode (items : List Item) : List UInt8 :=
  items.flatMap Item.encode

/-- The options of a byte string, if it is a sequence of whole options. -/
def decode : List UInt8 → Option (List Item)
  | [] => some []
  | [_] => none
  | code :: len :: rest =>
      if len.toNat ≤ rest.length then
        (decode (rest.drop len.toNat)).map fun items => ⟨code, rest.take len.toNat⟩ :: items
      else none
termination_by bytes => bytes.length
decreasing_by
  simp only [List.length_drop, List.length_cons]
  omega

@[simp]
theorem Item.encode_length (item : Item) : item.encode.length = item.value.length + 2 := by
  simp [Item.encode]

@[simp]
theorem encode_nil : encode [] = [] := rfl

@[simp]
theorem encode_cons (item : Item) (items : List Item) :
    encode (item :: items) = item.encode ++ encode items := by
  simp [encode]

/-- Leaving options out makes the bytes no longer. -/
theorem encode_filter_length_le (keep : Item → Bool) (items : List Item) :
    (encode (items.filter keep)).length ≤ (encode items).length := by
  induction items with
  | nil => exact le_rfl
  | cons item items ih =>
      by_cases kept : keep item
      · rw [List.filter_cons_of_pos kept, encode_cons, encode_cons, List.length_append, List.length_append]
        omega
      · rw [List.filter_cons_of_neg kept, encode_cons, List.length_append]
        omega

@[simp]
theorem decode_nil : decode [] = some [] := by
  rw [decode]

@[simp]
theorem decode_singleton (byte : UInt8) : decode [byte] = none := by
  rw [decode]

theorem decode_cons_cons (code len : UInt8) (rest : List UInt8) :
    decode (code :: len :: rest) =
      if len.toNat ≤ rest.length then
        (decode (rest.drop len.toNat)).map fun items => ⟨code, rest.take len.toNat⟩ :: items
      else none := by
  rw [decode]

/-- An option in front of a byte string decodes as that option. -/
theorem decode_item_append (item : Item) (fits : item.value.length < 256) (rest : List UInt8) :
    decode (item.encode ++ rest) = (decode rest).map fun items => item :: items := by
  have len : (UInt8.ofNat item.value.length).toNat = item.value.length := by
    rw [UInt8.toNat_ofNat', Nat.mod_eq_of_lt fits]
  simp only [Item.encode, List.cons_append, decode_cons_cons, len, List.length_append, Nat.le_add_right,
    if_true, List.drop_left, List.take_left]

/-- Options whose values fit a length byte decode back from their encoding. -/
theorem decode_encode (items : List Item) (short : ∀ item ∈ items, item.value.length < 256) :
    decode (encode items) = some items := by
  induction items with
  | nil => rw [encode_nil, decode_nil]
  | cons item items ih =>
      rw [encode_cons, decode_item_append item (short item (List.mem_cons_self ..)),
        ih fun other member => short other (List.mem_cons_of_mem _ member)]
      rfl

/-- Decoding loses nothing: the options of a byte string encode back to it. -/
theorem encode_of_decode {bytes : List UInt8} {items : List Item} (decoded : decode bytes = some items) :
    encode items = bytes := by
  induction bytes using decode.induct generalizing items with
  | case1 =>
      rw [decode_nil, Option.some_inj] at decoded
      rw [← decoded]
      rfl
  | case2 byte => simp at decoded
  | case3 code len rest fits ih =>
      rw [decode_cons_cons, if_pos fits] at decoded
      obtain ⟨others, decodedRest, rfl⟩ := Option.map_eq_some_iff.mp decoded
      have len : UInt8.ofNat (rest.take len.toNat).length = len := by
        rw [List.length_take_of_le fits, UInt8.ofNat_toNat]
      rw [encode_cons, ih decodedRest, Item.encode, len, List.cons_append, List.cons_append,
        List.take_append_drop]
  | case4 code len rest tooLong =>
      rw [decode_cons_cons, if_neg tooLong] at decoded
      cases decoded

/-! ## Options in memory -/

section Window

open ByteStream

variable {mem : Nat → UInt8} {p count : Nat} {items : List Item}

theorem decode_window_zero : decode (window mem p 0) = some [] := by
  rw [window_zero, decode_nil]

/-- The first option of a window of memory that holds whole options: its
type and length bytes at the start, its value behind them, and the options
of the rest of the window after it. -/
theorem decode_window (decoded : decode (window mem p count) = some items) (nonempty : 0 < count) :
    ∃ others, (mem (p + 1)).toNat + 2 ≤ count ∧
      items = ⟨mem p, window mem (p + 2) (mem (p + 1)).toNat⟩ :: others ∧
      decode (window mem (p + 2 + (mem (p + 1)).toNat) (count - 2 - (mem (p + 1)).toNat)) = some others := by
  obtain ⟨rest, rfl⟩ : ∃ rest, count = rest + 1 := ⟨count - 1, by omega⟩
  cases rest with
  | zero => simp [window_succ] at decoded
  | succ rest =>
      rw [window_succ, window_succ, decode_cons_cons] at decoded
      split_ifs at decoded with fits
      obtain ⟨others, decodedRest, rfl⟩ := Option.map_eq_some_iff.mp decoded
      rw [window_length] at fits
      refine ⟨others, by omega, ?_, ?_⟩
      · rw [window_take fits]
      · rw [window_drop] at decodedRest
        simpa [Nat.add_assoc] using decodedRest

/-- The bytes of the first option of a window are the window's first bytes. -/
theorem Item.encode_window :
    (⟨mem p, window mem (p + 2) (mem (p + 1)).toNat⟩ : Item).encode =
      window mem p ((mem (p + 1)).toNat + 2) := by
  rw [window_succ, window_succ, Item.encode, window_length, UInt8.ofNat_toNat]

end Window

end Tlv
end BluetoothStack
