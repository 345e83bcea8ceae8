import Mathlib.Tactic

namespace BluetoothStack
namespace Packet

/-!
# GD packet views

A `View` (view.cc) is a window `[begin_, end_)` onto a shared buffer, with
both ends clamped to the buffer or to the parent view.  A `PacketView`
(packet_view.cc) is a forward list of views with its total length; it reads
a byte by walking the fragments, cuts sub-views out of them, and appends the
fragments of another view after its last non-empty fragment.  An `Iterator`
(iterator.cc) walks the same fragments with an index and a window
`[begin_, end_)` of its own, and extracts fixed-width integers byte by byte.

`View::size` is `end_ - begin_` in `size_t`, so it is taken modulo 2^64 here:
that is what it returns for a view whose end is clamped below its begin.
The lengths of packet views are sums of sizes and are kept as numbers.  An
`assert` or an `abort` of the source is `none`.
-/

/-- `View`: the shared buffer and the clamped `begin_` and `end_`. -/
structure View where
  data : List UInt8
  begin : Nat
  stop : Nat
deriving DecidableEq

namespace View

/-- `View(data, begin, end)`: both ends clamped to the buffer. -/
def ofBuffer (data : List UInt8) (begin stop : Nat) : View :=
  ⟨data, if begin < data.length then begin else data.length, if stop < data.length then stop else data.length⟩

/-- `View::size`: `end_ - begin_` in `size_t`. -/
def size (v : View) : Nat :=
  (v.stop + 2 ^ 64 - v.begin) % 2 ^ 64

/-- `View(view, begin, end)`: both ends clamped to the parent's size and moved
by the parent's `begin_`. -/
def ofView (view : View) (begin stop : Nat) : View :=
  ⟨view.data, (if begin < view.size then begin else view.size) + view.begin,
    (if stop < view.size then stop else view.size) + view.begin⟩

/-- `View::operator[]`, asserting that the index is inside the window. -/
def get (v : View) (i : Nat) : Option UInt8 :=
  if i + v.begin < v.stop then v.data[i + v.begin]? else none

/-- The bytes a view stands for. -/
def contents (v : View) : List UInt8 :=
  (v.data.drop v.begin).take (v.stop - v.begin)

/-- A view whose window lies in its buffer, begin first. -/
def Valid (v : View) : Prop :=
  v.begin ≤ v.stop ∧ v.stop ≤ v.data.length ∧ v.data.length < 2 ^ 64

variable {v : View}

theorem size_of_valid (valid : v.Valid) : v.size = v.stop - v.begin := by
  rcases valid with ⟨ordered, inside, small⟩
  unfold size
  omega

theorem length_contents (valid : v.Valid) : v.contents.length = v.size := by
  rw [size_of_valid valid, contents, List.length_take, List.length_drop]
  rcases valid with ⟨ordered, inside, -⟩
  omega

/-- Inside the window, `operator[]` reads the bytes the view stands for. -/
theorem get_of_lt (valid : v.Valid) {i : Nat} (inside : i < v.size) : v.get i = v.contents[i]? := by
  rw [size_of_valid valid] at inside
  rw [get, if_pos (by omega), contents, List.getElem?_take_of_lt inside, List.getElem?_drop, Nat.add_comm]

theorem ofBuffer_valid (data : List UInt8) {begin stop : Nat} (ordered : begin ≤ stop) (small : data.length < 2 ^ 64) :
    (ofBuffer data begin stop).Valid := by
  unfold ofBuffer Valid
  dsimp only
  split_ifs <;> omega

/-- A child view cut inside its parent is valid and stands for the parent's
bytes from begin to end. -/
theorem ofView_spec (valid : v.Valid) {begin stop : Nat} (ordered : begin ≤ stop) (inside : stop ≤ v.size) :
    (ofView v begin stop).Valid ∧ (ofView v begin stop).contents = (v.contents.drop begin).take (stop - begin) := by
  have sized := size_of_valid valid
  rcases valid with ⟨parentOrdered, parentInside, small⟩
  have lowered : (if begin < v.size then begin else v.size) = begin := by split_ifs <;> omega
  have raised : (if stop < v.size then stop else v.size) = stop := by split_ifs <;> omega
  unfold ofView
  rw [lowered, raised]
  refine ⟨⟨by dsimp only; omega, by dsimp only; omega, small⟩, ?_⟩
  simp only [contents, List.drop_take, List.drop_drop, List.take_take]
  have taken : stop + v.begin - (begin + v.begin) = min (stop - begin) (v.stop - v.begin - begin) := by omega
  rw [taken, Nat.add_comm begin v.begin]

end View

/-- `PacketView<little_endian>`: the fragments and `length_`. -/
structure PacketView where
  littleEndian : Bool
  fragments : List View
  length : Nat
deriving DecidableEq

namespace PacketView

/-- `PacketView(fragments)`: the length is the sum of the fragment sizes. -/
def ofFragments (littleEndian : Bool) (fragments : List View) : PacketView :=
  ⟨littleEndian, fragments, (fragments.map View.size).sum⟩

/-- `PacketView(packet)`: one view of the whole buffer. -/
def ofBuffer (littleEndian : Bool) (packet : List UInt8) : PacketView :=
  ⟨littleEndian, [View.ofBuffer packet 0 packet.length], packet.length⟩

def size (p : PacketView) : Nat := p.length

/-- The fragment walk of `PacketView::at` and `Iterator::operator*`. -/
def atLoop : List View → Nat → Option UInt8
  | [], _ => none
  | fragment :: fragments, index =>
    if index < fragment.size then fragment.get index else atLoop fragments (index - fragment.size)

/-- `PacketView::at` (`at` is a keyword of Lean). -/
def atIndex (p : PacketView) (index : Nat) : Option UInt8 :=
  if index < p.length then atLoop p.fragments index else none

/-- The loop of `PacketView::GetSubviewList` from a remaining begin and length. -/
def subviewLoop : List View → Nat → Nat → List View
  | [], _, _ => []
  | fragment :: fragments, begin, length =>
    if begin ≥ fragment.size then subviewLoop fragments (begin - fragment.size) length
    else
      let view := View.ofView fragment begin (begin + min length (fragment.size - begin))
      view :: subviewLoop fragments 0 (length - view.size)

/-- `PacketView::GetSubviewList`, asserting `begin <= end <= length_`. -/
def getSubviewList (p : PacketView) (begin stop : Nat) : Option (List View) :=
  if begin ≤ stop ∧ stop ≤ p.length then some (subviewLoop p.fragments begin (stop - begin)) else none

/-- `PacketView::GetLittleEndianSubview`. -/
def getLittleEndianSubview (p : PacketView) (begin stop : Nat) : Option PacketView :=
  (p.getSubviewList begin stop).map (ofFragments true)

/-- `PacketView::GetBigEndianSubview`. -/
def getBigEndianSubview (p : PacketView) (begin stop : Nat) : Option PacketView :=
  (p.getSubviewList begin stop).map (ofFragments false)

/-- The walk of `PacketView::Append` to the fragment where the running length
reaches zero: the position reached, or `none` when it steps past the last
fragment. -/
def appendWalk : List View → Nat → Nat → Option Nat
  | _, 0, position => some position
  | [], _ + 1, _ => none
  | fragment :: fragments, remaining + 1, position =>
    let remaining := (remaining + 1 + 2 ^ 64 - fragment.size) % 2 ^ 64
    if remaining > 0 then appendWalk fragments remaining (position + 1) else some position

/-- `PacketView::Append`: the fragments of `toAdd` inserted after the
insertion point, asserted to be a fragment. -/
def append (p toAdd : PacketView) : Option PacketView :=
  match appendWalk p.fragments p.length 0 with
  | none => none
  | some position =>
    if position < p.fragments.length then
      some ⟨p.littleEndian, p.fragments.take (position + 1) ++ toAdd.fragments ++ p.fragments.drop (position + 1),
        p.length + toAdd.length⟩
    else none

/-- The bytes a packet view stands for. -/
def contents (p : PacketView) : List UInt8 :=
  p.fragments.flatMap View.contents

/-- A packet view of valid fragments whose `length_` is the number of bytes
they stand for, in the range of `size_t`. -/
def Valid (p : PacketView) : Prop :=
  (∀ fragment ∈ p.fragments, fragment.Valid) ∧ p.length = p.contents.length ∧ p.length < 2 ^ 64

theorem sum_size_eq : ∀ fragments : List View, (∀ fragment ∈ fragments, fragment.Valid) →
    (fragments.map View.size).sum = (fragments.flatMap View.contents).length
  | [], _ => rfl
  | fragment :: fragments, valid => by
    rw [List.map_cons, List.sum_cons, List.flatMap_cons, List.length_append,
      View.length_contents (valid fragment List.mem_cons_self),
      sum_size_eq fragments fun f member => valid f (List.mem_cons_of_mem _ member)]

theorem ofFragments_valid (littleEndian : Bool) {fragments : List View} (valid : ∀ fragment ∈ fragments, fragment.Valid)
    (small : (fragments.flatMap View.contents).length < 2 ^ 64) : (ofFragments littleEndian fragments).Valid := by
  refine ⟨valid, sum_size_eq fragments valid, ?_⟩
  rw [ofFragments, sum_size_eq fragments valid]
  exact small

theorem ofBuffer_valid (littleEndian : Bool) {packet : List UInt8} (small : packet.length < 2 ^ 64) :
    (ofBuffer littleEndian packet).Valid := by
  have whole := View.ofBuffer_valid packet (Nat.zero_le packet.length) small
  refine ⟨by simpa [ofBuffer] using whole, ?_, small⟩
  rw [contents, ofBuffer, List.flatMap_singleton, View.length_contents whole, View.size_of_valid whole]
  simp only [View.ofBuffer]
  split_ifs <;> omega

/-- The fragment walk reads the byte of the concatenation. -/
theorem atLoop_eq : ∀ (fragments : List View) (index : Nat), (∀ fragment ∈ fragments, fragment.Valid) →
    index < (fragments.flatMap View.contents).length →
      atLoop fragments index = (fragments.flatMap View.contents)[index]?
  | [], _, _, inside => by simp at inside
  | fragment :: fragments, index, valid, inside => by
    have first := valid fragment List.mem_cons_self
    have sized := View.length_contents first
    rw [atLoop, List.flatMap_cons]
    split_ifs with here
    · rw [View.get_of_lt first here, List.getElem?_append_left (by omega)]
    · rw [List.flatMap_cons, List.length_append] at inside
      rw [atLoop_eq fragments _ (fun f member => valid f (List.mem_cons_of_mem _ member)) (by omega),
        List.getElem?_append_right (by omega), sized]

/-- The sub-views cut from `begin` for `length` bytes are valid and stand for
those bytes of the concatenation. -/
theorem subviewLoop_spec : ∀ (fragments : List View) (begin length : Nat),
    (∀ fragment ∈ fragments, fragment.Valid) → begin + length ≤ (fragments.flatMap View.contents).length →
      (∀ view ∈ subviewLoop fragments begin length, view.Valid) ∧
        (subviewLoop fragments begin length).flatMap View.contents =
          ((fragments.flatMap View.contents).drop begin).take length
  | [], begin, length, _, inside => by
    simp only [List.flatMap_nil, List.length_nil] at inside
    have empty : length = 0 := by omega
    simp [subviewLoop, empty]
  | fragment :: fragments, begin, length, valid, inside => by
    have first := valid fragment List.mem_cons_self
    have rest : ∀ f ∈ fragments, f.Valid := fun f member => valid f (List.mem_cons_of_mem _ member)
    have sized := View.length_contents first
    rw [List.flatMap_cons, List.length_append] at inside
    rw [subviewLoop, List.flatMap_cons]
    split_ifs with past
    · rcases subviewLoop_spec fragments (begin - fragment.size) length rest (by omega) with ⟨views, bytes⟩
      refine ⟨views, ?_⟩
      rw [bytes, List.drop_append, List.drop_eq_nil_of_le (show fragment.contents.length ≤ begin by omega),
        List.nil_append, sized]
    · have cut := View.ofView_spec first (Nat.le_add_right begin (min length (fragment.size - begin)))
        (by omega)
      dsimp only
      rw [View.size_of_valid cut.1]
      have taken : (View.ofView fragment begin (begin + min length (fragment.size - begin))).stop -
          (View.ofView fragment begin (begin + min length (fragment.size - begin))).begin =
            min length (fragment.size - begin) := by
        have := View.length_contents cut.1
        rw [cut.2, View.size_of_valid cut.1, List.length_take, List.length_drop, sized] at this
        omega
      rw [taken]
      rcases subviewLoop_spec fragments 0 (length - min length (fragment.size - begin)) rest (by omega) with
        ⟨views, bytes⟩
      refine ⟨?_, ?_⟩
      · intro view member
        rcases List.mem_cons.mp member with rfl | later
        · exact cut.1
        · exact views view later
      · have firstPart : (fragment.contents.drop begin).take length =
            (fragment.contents.drop begin).take (min length (fragment.size - begin)) := by
          rw [List.take_eq_take_min, List.length_drop, sized]
        rw [List.flatMap_cons, bytes, cut.2, List.drop_zero, Nat.add_sub_cancel_left,
          List.drop_append_of_le_length (by omega), List.take_append, firstPart, List.length_drop, sized]
        congr 2
        omega

/-- A sub-view of a valid packet view is a valid packet view of the bytes
from `begin` to `end`, whatever its byte order. -/
theorem getSubviewList_spec {p : PacketView} (valid : p.Valid) {begin stop : Nat} (ordered : begin ≤ stop)
    (inside : stop ≤ p.size) (littleEndian : Bool) :
    ∃ views, p.getSubviewList begin stop = some views ∧ (ofFragments littleEndian views).Valid ∧
      (ofFragments littleEndian views).contents = (p.contents.drop begin).take (stop - begin) := by
  rcases valid with ⟨fragmentsValid, sized, small⟩
  unfold size at inside
  have room : begin + (stop - begin) ≤ (p.fragments.flatMap View.contents).length := by
    unfold contents at sized
    omega
  rcases subviewLoop_spec p.fragments begin (stop - begin) fragmentsValid room with ⟨views, bytes⟩
  refine ⟨_, by rw [getSubviewList, if_pos ⟨ordered, inside⟩], ofFragments_valid littleEndian views ?_, bytes⟩
  rw [bytes, List.length_take]
  omega

theorem getSubviewList_spec_acrossFragments :
    let p := ofFragments true [View.ofBuffer [1, 2, 3] 0 3, View.ofBuffer [4, 5] 0 2]
    p.Valid ∧ ∃ views, p.getSubviewList 1 4 = some views ∧ (ofFragments false views).Valid ∧
      (ofFragments false views).contents = (p.contents.drop 1).take (4 - 1) := by
  intro p
  have valid : p.Valid := by
    apply ofFragments_valid
    · intro fragment member
      simp only [List.mem_cons, List.not_mem_nil, or_false] at member
      rcases member with rfl | rfl
      · exact View.ofBuffer_valid _ (by decide) (by decide)
      · exact View.ofBuffer_valid _ (by decide) (by decide)
    · decide
  exact ⟨valid, getSubviewList_spec valid (by decide) (by decide) false⟩

/-- Where the running length of `Append` stops: at a fragment of the list,
with only empty fragments after it. -/
theorem appendWalk_spec : ∀ (fragments : List View) (position : Nat), (∀ fragment ∈ fragments, fragment.Valid) →
    (fragments.map View.size).sum < 2 ^ 64 → fragments ≠ [] →
      ∃ k, k < fragments.length ∧ appendWalk fragments (fragments.map View.size).sum position = some (position + k) ∧
        ∀ fragment ∈ fragments.drop (k + 1), fragment.size = 0
  | [], _, _, _, nonempty => absurd rfl nonempty
  | fragment :: fragments, position, valid, small, _ => by
    have rest : ∀ f ∈ fragments, f.Valid := fun f member => valid f (List.mem_cons_of_mem _ member)
    rw [List.map_cons, List.sum_cons] at small ⊢
    have emptyAfter : (fragments.map View.size).sum = 0 → ∀ f ∈ (fragment :: fragments).drop (0 + 1), f.size = 0 := by
      intro zero f member
      rw [Nat.zero_add, List.drop_succ_cons, List.drop_zero] at member
      exact List.sum_eq_zero_iff.mp zero f.size (List.mem_map.mpr ⟨f, member, rfl⟩)
    rcases Nat.eq_zero_or_pos (fragment.size + (fragments.map View.size).sum) with zero | positive
    · refine ⟨0, by simp, ?_, emptyAfter (by omega)⟩
      rw [zero]
      rfl
    obtain ⟨remaining, total⟩ : ∃ remaining, fragment.size + (fragments.map View.size).sum = remaining + 1 :=
      ⟨_, (Nat.succ_pred_eq_of_pos positive).symm⟩
    have next : (remaining + 1 + 2 ^ 64 - fragment.size) % 2 ^ 64 = (fragments.map View.size).sum := by
      omega
    rw [total, appendWalk, next]
    rcases Nat.eq_zero_or_pos (fragments.map View.size).sum with restZero | restPositive
    · refine ⟨0, by simp, by rw [if_neg (by omega), Nat.add_zero], emptyAfter restZero⟩
    · have restNonempty : fragments ≠ [] := by
        rintro rfl
        simp at restPositive
      rcases appendWalk_spec fragments (position + 1) rest (by omega) restNonempty with ⟨k, shorter, walked, after⟩
      refine ⟨k + 1, by simp; omega, ?_, ?_⟩
      · rw [if_pos restPositive, walked, Nat.add_assoc, Nat.add_comm 1 k]
      · simpa using after

/-- Appending to a valid packet view with at least one fragment puts the other
view's bytes after its own. -/
theorem append_spec {p : PacketView} (valid : p.Valid) (nonempty : p.fragments ≠ []) (toAdd : PacketView) :
    ∃ appended, p.append toAdd = some appended ∧ appended.contents = p.contents ++ toAdd.contents ∧
      appended.length = p.length + toAdd.length := by
  rcases valid with ⟨fragmentsValid, sized, small⟩
  have summed : p.length = (p.fragments.map View.size).sum := by
    rw [sized, contents, sum_size_eq p.fragments fragmentsValid]
  rcases appendWalk_spec p.fragments 0 fragmentsValid (by omega) nonempty with ⟨k, shorter, walked, after⟩
  have emptyTail : (p.fragments.drop (k + 1)).flatMap View.contents = [] := by
    rw [List.flatMap_eq_nil_iff]
    intro f member
    have valid := fragmentsValid f (List.mem_of_mem_drop member)
    rw [← List.length_eq_zero_iff, View.length_contents valid]
    exact after f member
  have whole : p.contents = (p.fragments.take (k + 1)).flatMap View.contents := by
    rw [contents, ← List.take_append_drop (k + 1) p.fragments, List.flatMap_append, emptyTail, List.append_nil,
      List.take_append_drop]
  refine ⟨⟨p.littleEndian, p.fragments.take (k + 1) ++ toAdd.fragments ++ p.fragments.drop (k + 1),
    p.length + toAdd.length⟩, ?_, ?_, rfl⟩
  · rw [append, summed, walked, Nat.zero_add]
    dsimp only
    rw [if_pos shorter]
  · rw [contents, List.flatMap_append, List.flatMap_append, emptyTail, List.append_nil, ← whole]
    rfl

theorem append_spec_twoBuffers :
    let p := ofBuffer true [1, 2, 3]
    p.Valid ∧ p.fragments ≠ [] ∧ ∃ appended, p.append (ofBuffer true [4, 5]) = some appended ∧
      appended.contents = p.contents ++ (ofBuffer true [4, 5]).contents ∧
      appended.length = p.length + (ofBuffer true [4, 5]).length := by
  intro p
  have valid : p.Valid := ofBuffer_valid true (by decide)
  have nonempty : p.fragments ≠ [] := by decide
  exact ⟨valid, nonempty, append_spec valid nonempty _⟩

/-- `Append` asserts on a packet view without fragments. -/
theorem append_of_nil {p : PacketView} (empty : p.fragments = []) (toAdd : PacketView) : p.append toAdd = none := by
  unfold append
  rw [empty]
  cases p.length with
  | zero => rfl
  | succ n => rfl

end PacketView

/-! ## Iterators -/

/-- `Iterator<little_endian>`. -/
structure Iterator where
  littleEndian : Bool
  data : List View
  index : Nat
  begin : Nat
  stop : Nat

namespace Iterator

/-- `Iterator(data, offset)`. -/
def ofFragments (littleEndian : Bool) (data : List View) (offset : Nat) : Iterator :=
  ⟨littleEndian, data, offset, 0, (data.map View.size).sum⟩

/-- `Iterator::NumBytesRemaining`. -/
def numBytesRemaining (it : Iterator) : Nat :=
  if it.stop > it.index ∧ it.index ≥ it.begin then it.stop - it.index else 0

/-- `Iterator::operator*`, asserting a byte remains. -/
def deref (it : Iterator) : Option UInt8 :=
  if it.numBytesRemaining > 0 then PacketView.atLoop it.data it.index else none

/-- `Iterator::Subrange`. -/
def subrange (it : Iterator) (index length : Nat) : Iterator :=
  if it.numBytesRemaining > index then
    let moved : Iterator := { it with index := it.index + index, begin := it.index + index }
    if moved.numBytesRemaining ≥ length then { moved with stop := moved.index + length } else moved
  else { it with stop := 0 }

/-- The bytes `Iterator::extract` reads for a type of `width` bytes, each
followed by `operator++`. -/
def extractBytes : Nat → Iterator → Option (List UInt8 × Iterator)
  | 0, it => some ([], it)
  | width + 1, it =>
    match it.deref with
    | none => none
    | some byte =>
      (extractBytes width { it with index := it.index + 1 }).map fun rest => (byte :: rest.1, rest.2)

/-- The number whose bytes, least significant first, are the given ones. -/
def littleEndianValue : List UInt8 → Nat
  | [] => 0
  | byte :: bytes => byte.toNat + 256 * littleEndianValue bytes

/-- `Iterator::extract` for a type of `width` bytes: the byte read i-th goes
to position i of the value, or to position width - i - 1 when the iterator is
big endian. -/
def extract (width : Nat) (it : Iterator) : Option (Nat × Iterator) :=
  (extractBytes width it).map fun read =>
    (if it.littleEndian then littleEndianValue read.1 else littleEndianValue read.1.reverse, read.2)

/-- An iterator over valid fragments whose end lies inside their bytes. -/
def Valid (it : Iterator) : Prop :=
  (∀ fragment ∈ it.data, fragment.Valid) ∧ it.stop ≤ (it.data.flatMap View.contents).length

/-- Reading `width` bytes while that many remain takes them from the
concatenation at the index, and moves the index past them. -/
theorem extractBytes_spec : ∀ (width : Nat) (it : Iterator), it.Valid → width ≤ it.numBytesRemaining →
    extractBytes width it =
      some (((it.data.flatMap View.contents).drop it.index).take width, { it with index := it.index + width })
  | 0, it, _, _ => by simp [extractBytes]
  | width + 1, it, valid, enough => by
    rcases valid with ⟨fragmentsValid, inside⟩
    unfold numBytesRemaining at enough
    split_ifs at enough with remaining
    · have here : it.index < (it.data.flatMap View.contents).length := by omega
      have read : it.deref = some (it.data.flatMap View.contents)[it.index] := by
        rw [deref, if_pos (by unfold numBytesRemaining; rw [if_pos remaining]; omega),
          PacketView.atLoop_eq _ _ fragmentsValid here, List.getElem?_eq_getElem here]
      have rest := extractBytes_spec width { it with index := it.index + 1 } ⟨fragmentsValid, inside⟩ (by
        unfold numBytesRemaining
        dsimp only
        split_ifs <;> omega)
      rw [extractBytes, read]
      dsimp only
      rw [rest, Option.map_some, List.drop_eq_getElem_cons here, List.take_succ_cons, Nat.add_assoc,
        Nat.add_comm 1 width]
    · omega

/-- `extract` of a `width`-byte type reads the bytes of the concatenation from
the index, as a little-endian or big-endian number by the iterator's flag. -/
theorem extract_spec {it : Iterator} (valid : it.Valid) {width : Nat} (enough : width ≤ it.numBytesRemaining) :
    it.extract width =
      some (if it.littleEndian then littleEndianValue (((it.data.flatMap View.contents).drop it.index).take width)
        else littleEndianValue (((it.data.flatMap View.contents).drop it.index).take width).reverse,
        { it with index := it.index + width }) := by
  rw [extract, extractBytes_spec width it valid enough, Option.map_some]

theorem extract_spec_bigEndian :
    let it := ofFragments false [View.ofBuffer [1, 2, 3, 4] 0 4] 1
    it.Valid ∧ 2 ≤ it.numBytesRemaining ∧
      it.extract 2 =
        some (if it.littleEndian then littleEndianValue (((it.data.flatMap View.contents).drop it.index).take 2)
          else littleEndianValue (((it.data.flatMap View.contents).drop it.index).take 2).reverse,
          { it with index := it.index + 2 }) := by
  intro it
  have valid : it.Valid := by
    refine ⟨fun fragment member => ?_, by decide⟩
    rw [List.mem_singleton.mp member]
    exact View.ofBuffer_valid _ (by decide) (by decide)
  have enough : 2 ≤ it.numBytesRemaining := by decide
  exact ⟨valid, enough, extract_spec valid enough⟩

end Iterator

/-- `PacketView::begin`. -/
def PacketView.begin (p : PacketView) : Iterator :=
  Iterator.ofFragments p.littleEndian p.fragments 0

/-- A `View` whose end is clamped below its begin has the wrapped size
2^64 - 1 and no bytes, and so has a packet view of it; a packet view without
fragments, such as the empty sub-view at the end of a packet, cannot be
appended to. -/
theorem packetView_wrapped_size_and_empty_append :
    ((View.ofBuffer [1, 2, 3] 2 1).size = 2 ^ 64 - 1 ∧
      (PacketView.ofFragments true [View.ofBuffer [1, 2, 3] 2 1]).contents = [] ∧
      (PacketView.ofFragments true [View.ofBuffer [1, 2, 3] 2 1]).size = 2 ^ 64 - 1) ∧
    (∀ p toAdd : PacketView, p.fragments = [] → p.append toAdd = none) ∧
    (PacketView.ofBuffer true [1, 2, 3]).getLittleEndianSubview 3 3 = some ⟨true, [], 0⟩ := by
  refine ⟨⟨by decide +kernel, rfl, by decide +kernel⟩, fun p toAdd empty => PacketView.append_of_nil empty toAdd,
    by decide +kernel⟩

theorem packetView_wrapped_size_and_empty_append_subview :
    (⟨true, [], 0⟩ : PacketView).fragments = [] ∧
      (⟨true, [], 0⟩ : PacketView).append (PacketView.ofBuffer true [4]) = none :=
  ⟨rfl, packetView_wrapped_size_and_empty_append.2.1 _ _ rfl⟩

end Packet
end BluetoothStack
