import BluetoothStack.Sdp.Discovery
import BluetoothStack.Types.Uuid
import BluetoothStack.Library.AdjacentSwaps

namespace BluetoothStack
namespace Sdp

open FuelLoop AdjacentSwaps

/-!
# Two helpers of the SDP client (sdp_utils.cc)

`sdpu_sort_attr_list` sorts the attribute filters of a discovery database
before they go into a request.  Its loop compares neighbours and, after
every exchange, starts again from the first pair, so its index is no
measure; the inversions of the filters are (`AdjacentSwaps`).  For every
count and every filter array it returns within a fixed number of rounds, with
the first `min(num_attr, SDP_MAX_ATTR_FILTERS)` filters sorted and the rest
as they were (`sdpuSortAttrList_sorts`).

`sdpu_compare_uuid_arrays` compares two big-endian UUIDs of 2, 4 or 16 bytes
through four code shapes: a straight compare for equal lengths, an
on-the-fly compare of a 32-bit against a 16-bit UUID, and two mirrored
normalisations of a short UUID into the base UUID against a 128-bit one.
All nine combinations agree with comparing the 128-bit expansions over the
Bluetooth base UUID (`sdpuCompareUuidArrays_iff`).
-/

/-! ## `sdpu_sort_attr_list` -/

/-- The locals of the loop of `sdpu_sort_attr_list`: the index and the filters
of the database (attribute IDs, which fit 16 bits). -/
structure SortAttrLoop where
  i : Nat
  attrFilters : List Nat

/-- One round of the loop while `i < num_attr`: an inverted pair at `i` is
swapped through `x` and the index starts again from `0`; otherwise the index
moves on. -/
def sdpuSortAttrListBody (numAttr : Nat) (loop : SortAttrLoop) : Flow SortAttrLoop (List Nat) :=
  if loop.i < numAttr then
    if loop.attrFilters.getD loop.i 0 > loop.attrFilters.getD (loop.i + 1) 0 then
      let x := loop.attrFilters.getD loop.i 0
      let attrFilters := loop.attrFilters.set loop.i (loop.attrFilters.getD (loop.i + 1) 0)
      .next ⟨0, attrFilters.set (loop.i + 1) x⟩
    else .next ⟨loop.i + 1, loop.attrFilters⟩
  else .exit loop.attrFilters

/-- `sdpu_sort_attr_list`, with its loop run for at most `fuel` rounds: the
filters it leaves, or `none` when the rounds run out first. -/
def sdpuSortAttrList (fuel numAttr : Nat) (attrFilters : List Nat) : Option (List Nat) :=
  if numAttr ≤ 1 then some attrFilters
  else
    let numAttr := if numAttr > sdpMaxAttrFilters then sdpMaxAttrFilters else numAttr
    run (sdpuSortAttrListBody (numAttr - 1)) fuel ⟨0, attrFilters⟩

section Sorting

variable {last : Nat} {start : List Nat}

/-- What the rounds keep, for the loop bound `last = num_attr - 1`: the first
`last + 1` filters are a permutation of the original ones, the others are
untouched, and the neighbours below the index are in order. -/
structure SortAttrLoop.Keeps (last : Nat) (start : List Nat) (loop : SortAttrLoop) : Prop where
  index : loop.i ≤ last
  length : loop.attrFilters.length = start.length
  perm : (loop.attrFilters.take (last + 1)).Perm (start.take (last + 1))
  rest : loop.attrFilters.drop (last + 1) = start.drop (last + 1)
  ordered : ∀ j, j < loop.i → loop.attrFilters.getD j 0 ≤ loop.attrFilters.getD (j + 1) 0

/-- The rounds left: every exchange removes an inversion of the first
`last + 1` filters and sends the index back, every other round moves it on. -/
def SortAttrLoop.measure (last : Nat) (loop : SortAttrLoop) : Nat :=
  inversions (loop.attrFilters.take (last + 1)) * (last + 1) + (last - loop.i)

theorem getD_eq_getElem_of_lt {xs : List Nat} {j : Nat} (inside : j < xs.length) : xs.getD j 0 = xs[j] := by
  rw [List.getD_eq_getElem?_getD, List.getElem?_eq_getElem inside]
  rfl

/-- The exchange of the loop is `swapAt`. -/
theorem sdpuSortAttrListBody_swap {loop : SortAttrLoop} (inside : loop.i < last) (room : last < loop.attrFilters.length)
    (inverted : loop.attrFilters.getD loop.i 0 > loop.attrFilters.getD (loop.i + 1) 0) :
    sdpuSortAttrListBody last loop = .next ⟨0, swapAt loop.i loop.attrFilters⟩ := by
  have next : loop.i + 1 < loop.attrFilters.length := by omega
  rw [sdpuSortAttrListBody, if_pos inside, if_pos inverted, swapAt_eq_set loop.i loop.attrFilters next,
    getD_eq_getElem_of_lt next, getD_eq_getElem_of_lt (Nat.lt_of_succ_lt next)]

theorem keeps_swap {loop : SortAttrLoop} (keeps : loop.Keeps last start) (inside : loop.i < last)
    (room : last < start.length) :
    SortAttrLoop.Keeps last start ⟨0, swapAt loop.i loop.attrFilters⟩ where
  index := Nat.zero_le last
  length := by rw [length_swapAt, keeps.length]
  perm := by
    rw [take_swapAt _ _ (by omega) (by rw [keeps.length]; omega)]
    exact (perm_swapAt _ _).trans keeps.perm
  rest := by rw [drop_swapAt _ _ (by omega) (by rw [keeps.length]; omega), keeps.rest]
  ordered := fun _ below => absurd below (Nat.not_lt_zero _)

theorem measure_swap_lt {loop : SortAttrLoop} (keeps : loop.Keeps last start) (inside : loop.i < last)
    (room : last < start.length)
    (inverted : loop.attrFilters.getD loop.i 0 > loop.attrFilters.getD (loop.i + 1) 0) :
    SortAttrLoop.measure last ⟨0, swapAt loop.i loop.attrFilters⟩ < loop.measure last := by
  have fits : last + 1 ≤ loop.attrFilters.length := by rw [keeps.length]; omega
  have taken : (loop.attrFilters.take (last + 1)).length = last + 1 := by
    rw [List.length_take]
    omega
  have nextTaken : loop.i + 1 < (loop.attrFilters.take (last + 1)).length := by omega
  have next : loop.i + 1 < loop.attrFilters.length := by omega
  -- the pair at `i` is inverted in the first `last + 1` filters too
  have wrong : (loop.attrFilters.take (last + 1))[loop.i + 1] < (loop.attrFilters.take (last + 1))[loop.i] := by
    rw [List.getElem_take, List.getElem_take, ← getD_eq_getElem_of_lt next,
      ← getD_eq_getElem_of_lt (Nat.lt_of_succ_lt next)]
    exact inverted
  have removed := inversions_swapAt loop.i (loop.attrFilters.take (last + 1)) (by omega) wrong
  have weight : (inversions (swapAt loop.i (loop.attrFilters.take (last + 1))) + 1) * (last + 1) =
      inversions (swapAt loop.i (loop.attrFilters.take (last + 1))) * (last + 1) + (last + 1) :=
    Nat.succ_mul _ _
  unfold SortAttrLoop.measure
  rw [take_swapAt _ _ (by omega) (by omega), ← removed, weight]
  omega

theorem keeps_advance {loop : SortAttrLoop} (keeps : loop.Keeps last start) (inside : loop.i < last)
    (inOrder : ¬ loop.attrFilters.getD loop.i 0 > loop.attrFilters.getD (loop.i + 1) 0) :
    SortAttrLoop.Keeps last start ⟨loop.i + 1, loop.attrFilters⟩ where
  index := inside
  length := keeps.length
  perm := keeps.perm
  rest := keeps.rest
  ordered := by
    intro j below
    rcases Nat.lt_succ_iff_lt_or_eq.mp below with earlier | current
    · exact keeps.ordered j earlier
    · rw [current]
      exact Nat.le_of_not_lt inOrder

/-- One round keeps the invariant and lowers the measure. -/
theorem sdpuSortAttrListBody_next (room : last < start.length) {loop loop' : SortAttrLoop}
    (keeps : loop.Keeps last start) (going : sdpuSortAttrListBody last loop = .next loop') :
    loop'.Keeps last start ∧ loop'.measure last < loop.measure last := by
  unfold sdpuSortAttrListBody at going
  split at going
  · rename_i inside
    split at going
    · rename_i inverted
      have swapped := sdpuSortAttrListBody_swap inside (by rw [keeps.length]; exact room) inverted
      rw [sdpuSortAttrListBody, if_pos inside, if_pos inverted, going] at swapped
      cases swapped
      exact ⟨keeps_swap keeps inside room, measure_swap_lt keeps inside room inverted⟩
    · rename_i inOrder
      cases going
      refine ⟨keeps_advance keeps inside inOrder, ?_⟩
      unfold SortAttrLoop.measure
      dsimp only
      omega
  · cases going

/-- The loop leaves with the first `last + 1` filters sorted. -/
theorem sdpuSortAttrListBody_exit (room : last < start.length) {loop : SortAttrLoop} {sorted : List Nat}
    (keeps : loop.Keeps last start) (leaving : sdpuSortAttrListBody last loop = .exit sorted) :
    sorted.length = start.length ∧ (sorted.take (last + 1)).SortedLE ∧
      (sorted.take (last + 1)).Perm (start.take (last + 1)) ∧ sorted.drop (last + 1) = start.drop (last + 1) := by
  unfold sdpuSortAttrListBody at leaving
  split at leaving
  · split at leaving <;> cases leaving
  · rename_i done
    cases leaving
    have atLast : loop.i = last := Nat.le_antisymm keeps.index (Nat.le_of_not_lt done)
    refine ⟨keeps.length, sortedLE_of_adjacent fun j inside => ?_, keeps.perm, keeps.rest⟩
    have taken : (loop.attrFilters.take (last + 1)).length = last + 1 := by
      rw [List.length_take, keeps.length]
      omega
    rw [taken] at inside
    have fits : j + 1 < loop.attrFilters.length := by
      rw [keeps.length]
      omega
    rw [List.getElem_take, List.getElem_take, ← getD_eq_getElem_of_lt fits,
      ← getD_eq_getElem_of_lt (Nat.lt_of_succ_lt fits)]
    exact keeps.ordered j (by omega)

theorem keeps_init : SortAttrLoop.Keeps last start ⟨0, start⟩ where
  index := Nat.zero_le last
  length := rfl
  perm := List.Perm.refl _
  rest := rfl
  ordered := fun _ below => absurd below (Nat.not_lt_zero _)

end Sorting

/-- The bound of the loop is `num_attr` clamped to `SDP_MAX_ATTR_FILTERS`, less one. -/
theorem clamp_eq_min (numAttr : Nat) :
    (if numAttr > sdpMaxAttrFilters then sdpMaxAttrFilters else numAttr) = min numAttr sdpMaxAttrFilters := by
  unfold sdpMaxAttrFilters
  split <;> omega

/-- At most `SDP_MAX_ATTR_FILTERS` filters have at most the cube of it rounds. -/
theorem measure_init_lt {count : Nat} (few : count ≤ sdpMaxAttrFilters) (start : List Nat) :
    inversions (start.take count) * count + (count - 1) < (sdpMaxAttrFilters + 1) ^ 3 := by
  have pairs : inversions (start.take count) ≤ count * count :=
    Nat.le_trans (inversions_le _) (Nat.mul_le_mul (List.length_take_le _ _) (List.length_take_le _ _))
  have cube : count * count * count ≤ 15 * 15 * 15 := by
    unfold sdpMaxAttrFilters at few
    exact Nat.mul_le_mul (Nat.mul_le_mul few few) few
  have weighted : inversions (start.take count) * count ≤ count * count * count := Nat.mul_le_mul_right count pairs
  unfold sdpMaxAttrFilters at few ⊢
  omega

/-- `sdpu_sort_attr_list` returns for every count and every filter array that
holds the filters it sorts, within `(SDP_MAX_ATTR_FILTERS + 1)^3` rounds; it
leaves the first `min(num_attr, SDP_MAX_ATTR_FILTERS)` filters sorted in
ascending order and a permutation of what they were, and the others as they
were. -/
theorem sdpuSortAttrList_sorts (numAttr : Nat) (attrFilters : List Nat)
    (room : min numAttr sdpMaxAttrFilters ≤ attrFilters.length) :
    ∃ sorted, (∀ fuel, (sdpMaxAttrFilters + 1) ^ 3 < fuel → sdpuSortAttrList fuel numAttr attrFilters = some sorted) ∧
      sorted.length = attrFilters.length ∧
      (sorted.take (min numAttr sdpMaxAttrFilters)).SortedLE ∧
      (sorted.take (min numAttr sdpMaxAttrFilters)).Perm (attrFilters.take (min numAttr sdpMaxAttrFilters)) ∧
      sorted.drop (min numAttr sdpMaxAttrFilters) = attrFilters.drop (min numAttr sdpMaxAttrFilters) := by
  by_cases few : numAttr ≤ 1
  · -- nothing to sort: at most one filter is taken
    refine ⟨attrFilters, fun fuel _ => if_pos few, rfl, sortedLE_of_adjacent fun j inside => ?_, List.Perm.refl _, rfl⟩
    have short : (attrFilters.take (min numAttr sdpMaxAttrFilters)).length ≤ 1 := by
      rw [List.length_take]
      omega
    omega
  · -- the loop runs with `last = min numAttr 15 - 1`
    set count := min numAttr sdpMaxAttrFilters with counted
    have many : 2 ≤ count := by
      rw [counted]
      unfold sdpMaxAttrFilters
      omega
    have bound : count - 1 < attrFilters.length := by omega
    have spaced : count - 1 + 1 = count := by omega
    obtain ⟨sorted, ⟨length, ordered, perm, rest⟩, ran⟩ := run_spec (SortAttrLoop.Keeps (count - 1) attrFilters)
      (fun sorted => sorted.length = attrFilters.length ∧ (sorted.take (count - 1 + 1)).SortedLE ∧
        (sorted.take (count - 1 + 1)).Perm (attrFilters.take (count - 1 + 1)) ∧
        sorted.drop (count - 1 + 1) = attrFilters.drop (count - 1 + 1))
      (SortAttrLoop.measure (count - 1)) (fun _ _ keeps going => sdpuSortAttrListBody_next bound keeps going)
      (fun _ _ keeps leaving => sdpuSortAttrListBody_exit bound keeps leaving) keeps_init
    rw [spaced] at ordered perm rest
    refine ⟨sorted, fun fuel enough => ?_, length, ordered, perm, rest⟩
    have initial : SortAttrLoop.measure (count - 1) ⟨0, attrFilters⟩ < fuel := by
      have within := measure_init_lt (Nat.min_le_right numAttr sdpMaxAttrFilters) attrFilters
      rw [← counted] at within
      unfold SortAttrLoop.measure
      dsimp only
      rw [spaced]
      omega
    rw [sdpuSortAttrList, if_neg few]
    dsimp only
    rw [clamp_eq_min]
    exact ran fuel initial

/-- Three filters in reverse order, the others zero. -/
theorem sdpuSortAttrList_sorts_three :
    min 3 sdpMaxAttrFilters ≤ [3, 2, 1].length ∧
      ∃ sorted, (∀ fuel, (sdpMaxAttrFilters + 1) ^ 3 < fuel → sdpuSortAttrList fuel 3 [3, 2, 1] = some sorted) ∧
        sorted.length = 3 ∧ (sorted.take (min 3 sdpMaxAttrFilters)).SortedLE ∧
        (sorted.take (min 3 sdpMaxAttrFilters)).Perm ([3, 2, 1].take (min 3 sdpMaxAttrFilters)) ∧
        sorted.drop (min 3 sdpMaxAttrFilters) = [3, 2, 1].drop (min 3 sdpMaxAttrFilters) :=
  ⟨by decide, sdpuSortAttrList_sorts 3 [3, 2, 1] (by decide)⟩

/-! ## `sdpu_compare_uuid_arrays` -/

/-- The `n` bytes the code reads from `p`. -/
def readBytes (p : List UInt8) (n : Nat) : List UInt8 :=
  (List.range n).map fun i => p.getD i 0

/-- `memcpy(dst + offset, src, n)`. -/
def memcpyAt (dst : List UInt8) (offset : Nat) (src : List UInt8) (n : Nat) : List UInt8 :=
  dst.take offset ++ readBytes src n ++ dst.drop (offset + n)

/-- `memcmp(p1, p2, n) == 0`. -/
def memcmpEq (p1 p2 : List UInt8) (n : Nat) : Bool :=
  readBytes p1 n == readBytes p2 n

/-- `sdpu_compare_uuid_arrays`: `nu1` is filled by a memcpy of all 16 bytes of
the 128-bit UUID, so it holds exactly the 16 bytes read from it. -/
def sdpuCompareUuidArrays (uuid1 : List UInt8) (len1 : Nat) (uuid2 : List UInt8) (len2 : Nat) : Bool :=
  if (len1 != 2 && len1 != 4 && len1 != 16) || (len2 != 2 && len2 != 4 && len2 != 16) then false
  else if len1 = len2 then
    if len1 = 2 then uuid1.getD 0 0 == uuid2.getD 0 0 && uuid1.getD 1 0 == uuid2.getD 1 0
    else if len1 = 4 then
      uuid1.getD 0 0 == uuid2.getD 0 0 && uuid1.getD 1 0 == uuid2.getD 1 0 &&
        uuid1.getD 2 0 == uuid2.getD 2 0 && uuid1.getD 3 0 == uuid2.getD 3 0
    else memcmpEq uuid1 uuid2 len1
  else if len1 > len2 then
    if len1 = 4 then
      uuid1.getD 0 0 == 0 && uuid1.getD 1 0 == 0 && uuid1.getD 2 0 == uuid2.getD 0 0 &&
        uuid1.getD 3 0 == uuid2.getD 1 0
    else
      let nu1 := readBytes uuid1 kNumBytes128
      let nu2 :=
        if len2 = 4 then memcpyAt sdpBaseUuid 0 uuid2 len2
        else if len2 = 2 then memcpyAt sdpBaseUuid 2 uuid2 len2
        else sdpBaseUuid
      memcmpEq nu1 nu2 kNumBytes128
  else
    if len2 = 4 then
      uuid2.getD 0 0 == 0 && uuid2.getD 1 0 == 0 && uuid2.getD 2 0 == uuid1.getD 0 0 &&
        uuid2.getD 3 0 == uuid1.getD 1 0
    else
      let nu2 := readBytes uuid2 kNumBytes128
      let nu1 :=
        if len1 = 4 then memcpyAt sdpBaseUuid 0 uuid1 len1
        else if len1 = 2 then memcpyAt sdpBaseUuid 2 uuid1 len1
        else sdpBaseUuid
      memcmpEq nu1 nu2 kNumBytes128

/-- The 128-bit UUID, most significant byte first, that a big-endian UUID of
2, 4 or 16 bytes stands for: a short one fills bytes 2 and 3, or 0 to 3, of
the Bluetooth base UUID. -/
def expand128 (uuid : List UInt8) (len : Nat) : Option (List UInt8) :=
  if len = 2 then some ((List.ofFn kBase).take 2 ++ readBytes uuid 2 ++ (List.ofFn kBase).drop 4)
  else if len = 4 then some (readBytes uuid 4 ++ (List.ofFn kBase).drop 4)
  else if len = 16 then some (readBytes uuid 16)
  else none

/-- The SDP copy of the base UUID is `Uuid::kBase`. -/
theorem sdpBaseUuid_eq_kBase : sdpBaseUuid = List.ofFn kBase := by
  decide

@[simp]
theorem length_readBytes (p : List UInt8) (n : Nat) : (readBytes p n).length = n := by
  simp [readBytes]

/-- Reading a whole buffer back gives the buffer. -/
theorem readBytes_of_length {p : List UInt8} {n : Nat} (whole : p.length = n) : readBytes p n = p := by
  subst whole
  apply List.ext_getElem (length_readBytes p p.length)
  intro i _ inside
  simp [readBytes, List.getElem?_eq_getElem inside]

/-- On two buffers of exactly `n` bytes, `memcmp` is equality. -/
theorem memcmpEq_iff {p1 p2 : List UInt8} {n : Nat} (whole1 : p1.length = n) (whole2 : p2.length = n) :
    memcmpEq p1 p2 n = true ↔ p1 = p2 := by
  rw [memcmpEq, readBytes_of_length whole1, readBytes_of_length whole2, beq_iff_eq]

theorem length_memcpyAt (dst : List UInt8) {offset n : Nat} (src : List UInt8) (inside : offset + n ≤ dst.length) :
    (memcpyAt dst offset src n).length = dst.length := by
  simp only [memcpyAt, List.length_append, List.length_take, length_readBytes, List.length_drop]
  omega

theorem readBytes_two (p : List UInt8) : readBytes p 2 = [p.getD 0 0, p.getD 1 0] := rfl

theorem readBytes_four (p : List UInt8) : readBytes p 4 = [p.getD 0 0, p.getD 1 0, p.getD 2 0, p.getD 3 0] := rfl

theorem expand128_two (uuid : List UInt8) :
    expand128 uuid 2 = some ([0, 0] ++ readBytes uuid 2 ++ (List.ofFn kBase).drop 4) := by
  have base : (List.ofFn kBase).take 2 = [0, 0] := by decide
  rw [expand128, if_pos rfl, base]

theorem expand128_four (uuid : List UInt8) :
    expand128 uuid 4 = some (readBytes uuid 4 ++ (List.ofFn kBase).drop 4) := rfl

theorem expand128_sixteen (uuid : List UInt8) : expand128 uuid 16 = some (readBytes uuid 16) := rfl

/-- A short UUID expands to the copy of it the code makes into the base UUID. -/
theorem expand128_short {len : Nat} (short : len = 2 ∨ len = 4) (uuid : List UInt8) :
    expand128 uuid len = some (memcpyAt sdpBaseUuid (4 - len) uuid len) := by
  rw [memcpyAt, sdpBaseUuid_eq_kBase]
  rcases short with rfl | rfl
  · rfl
  · rfl

/-- Equal lengths: a straight compare. -/
theorem sdpuCompareUuidArrays_same {len : Nat} (valid : len = 2 ∨ len = 4 ∨ len = 16) (uuid1 uuid2 : List UInt8) :
    sdpuCompareUuidArrays uuid1 len uuid2 len = true ↔ expand128 uuid1 len = expand128 uuid2 len := by
  rcases valid with rfl | rfl | rfl
  · simp [sdpuCompareUuidArrays, expand128_two, readBytes_two]
  · simp [sdpuCompareUuidArrays, expand128_four, readBytes_four, and_assoc]
  · simp [sdpuCompareUuidArrays, expand128_sixteen, memcmpEq]

/-- A 32-bit against a 16-bit UUID: compared on the fly, the same bytes in
either order of the arguments. -/
theorem sdpuCompareUuidArrays_four_two (uuid1 uuid2 : List UInt8) :
    (sdpuCompareUuidArrays uuid1 4 uuid2 2 = true ↔ expand128 uuid1 4 = expand128 uuid2 2) ∧
      (sdpuCompareUuidArrays uuid2 2 uuid1 4 = true ↔ expand128 uuid2 2 = expand128 uuid1 4) := by
  have onTheFly : sdpuCompareUuidArrays uuid1 4 uuid2 2 = true ↔ expand128 uuid1 4 = expand128 uuid2 2 := by
    simp [sdpuCompareUuidArrays, expand128_two, expand128_four, readBytes_two, readBytes_four, and_assoc]
  have mirror : sdpuCompareUuidArrays uuid2 2 uuid1 4 = sdpuCompareUuidArrays uuid1 4 uuid2 2 := rfl
  rw [mirror, eq_comm (a := expand128 uuid2 2)]
  exact ⟨onTheFly, onTheFly⟩

/-- A 128-bit against a short UUID: the short one is copied into the base
UUID and the two 16-byte buffers compared. -/
theorem sdpuCompareUuidArrays_sixteen_short {len : Nat} (short : len = 2 ∨ len = 4) (uuid1 uuid2 : List UInt8) :
    (sdpuCompareUuidArrays uuid1 16 uuid2 len = true ↔ expand128 uuid1 16 = expand128 uuid2 len) ∧
      (sdpuCompareUuidArrays uuid2 len uuid1 16 = true ↔ expand128 uuid2 len = expand128 uuid1 16) := by
  have fits : 4 - len + len ≤ sdpBaseUuid.length := by rcases short with rfl | rfl <;> decide
  have whole : (memcpyAt sdpBaseUuid (4 - len) uuid2 len).length = 16 := length_memcpyAt sdpBaseUuid uuid2 fits
  have code : sdpuCompareUuidArrays uuid1 16 uuid2 len =
      memcmpEq (readBytes uuid1 16) (memcpyAt sdpBaseUuid (4 - len) uuid2 len) 16 := by
    rcases short with rfl | rfl
    · rfl
    · rfl
  have mirror : sdpuCompareUuidArrays uuid2 len uuid1 16 =
      memcmpEq (memcpyAt sdpBaseUuid (4 - len) uuid2 len) (readBytes uuid1 16) 16 := by
    rcases short with rfl | rfl
    · rfl
    · rfl
  rw [code, mirror, memcmpEq_iff (length_readBytes uuid1 16) whole, memcmpEq_iff whole (length_readBytes uuid1 16),
    expand128_sixteen, expand128_short short, Option.some_inj, Option.some_inj]
  exact ⟨Iff.rfl, Iff.rfl⟩

/-- A length outside {2, 4, 16} on either side is rejected. -/
theorem sdpuCompareUuidArrays_invalid {len1 len2 : Nat}
    (invalid : ¬((len1 = 2 ∨ len1 = 4 ∨ len1 = 16) ∧ (len2 = 2 ∨ len2 = 4 ∨ len2 = 16))) (uuid1 uuid2 : List UInt8) :
    sdpuCompareUuidArrays uuid1 len1 uuid2 len2 = false := by
  have rejected : ((len1 != 2 && len1 != 4 && len1 != 16) || (len2 != 2 && len2 != 4 && len2 != 16)) = true := by
    simp only [bne_iff_ne, ne_eq, Bool.or_eq_true, Bool.and_eq_true]
    omega
  rw [sdpuCompareUuidArrays, if_pos rejected]

/-- `sdpu_compare_uuid_arrays` decides whether two big-endian UUIDs of valid
lengths stand for the same 128-bit UUID. -/
theorem sdpuCompareUuidArrays_iff (uuid1 : List UInt8) (len1 : Nat) (uuid2 : List UInt8) (len2 : Nat) :
    sdpuCompareUuidArrays uuid1 len1 uuid2 len2 = true ↔
      (len1 = 2 ∨ len1 = 4 ∨ len1 = 16) ∧ (len2 = 2 ∨ len2 = 4 ∨ len2 = 16) ∧
        expand128 uuid1 len1 = expand128 uuid2 len2 := by
  by_cases valid : (len1 = 2 ∨ len1 = 4 ∨ len1 = 16) ∧ (len2 = 2 ∨ len2 = 4 ∨ len2 = 16)
  case neg =>
    rw [sdpuCompareUuidArrays_invalid valid]
    constructor
    · intro never
      cases never
    · rintro ⟨valid1, valid2, _⟩
      exact absurd ⟨valid1, valid2⟩ valid
  case pos =>
    obtain ⟨valid1, valid2⟩ := valid
    simp only [valid1, valid2, true_and]
    -- the nine pairs of lengths, by the code shape that handles each
    rcases valid1 with rfl | rfl | rfl <;> rcases valid2 with rfl | rfl | rfl
    · exact sdpuCompareUuidArrays_same (Or.inl rfl) uuid1 uuid2
    · exact (sdpuCompareUuidArrays_four_two uuid2 uuid1).2
    · exact (sdpuCompareUuidArrays_sixteen_short (Or.inl rfl) uuid2 uuid1).2
    · exact (sdpuCompareUuidArrays_four_two uuid1 uuid2).1
    · exact sdpuCompareUuidArrays_same (Or.inr (Or.inl rfl)) uuid1 uuid2
    · exact (sdpuCompareUuidArrays_sixteen_short (Or.inr rfl) uuid2 uuid1).2
    · exact (sdpuCompareUuidArrays_sixteen_short (Or.inl rfl) uuid1 uuid2).1
    · exact (sdpuCompareUuidArrays_sixteen_short (Or.inr rfl) uuid1 uuid2).1
    · exact sdpuCompareUuidArrays_same (Or.inr (Or.inr rfl)) uuid1 uuid2

end Sdp
end BluetoothStack
