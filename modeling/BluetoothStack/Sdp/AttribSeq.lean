import BluetoothStack.Sdp.Defs
import BluetoothStack.Library.FuelLoop

namespace BluetoothStack
namespace Sdp

open ByteStream FuelLoop

/-!
# Attribute ID lists and the length of what they name

A request names attributes by a list of IDs and ID ranges
(`sdpu_extract_attr_seq`).  What it asks of a record is, entry by entry, the
attributes in use whose IDs lie in the entry's range, in the order of the
record; the server's answer is their entries.  `sdpu_get_attrib_seq_len`
computes the length of that answer by walking each range: it searches the
record from the range's start and, after each attribute found, again from
one past its ID, in 16 bits.

One past `0xFFFF` is `0`: a range ending at `0xFFFF` on a record that holds
`0xFFFF` but not `0xFFFE` is walked again from the record's first attribute,
for ever (`sdpuGetAttribSeqLen_diverges`).
-/

/-! ## The attribute ID list of a request -/

/-- `tATT_ENT`: the range `[start, end]` of attribute IDs; `end` is `stop`
here, a word Lean keeps for itself. -/
structure AttEnt where
  start : Nat
  stop : Nat
deriving DecidableEq, Repr

/-! ## `sdpu_get_attrib_seq_len` -/

/-- The locals of the loop of `sdpu_get_attrib_seq_len`. -/
structure SeqLenLoop where
  xx : Nat
  isRange : Bool
  startId : Nat
  endId : Nat
  len1 : Nat

/-- The range a round of `sdpu_get_attrib_seq_len` searches: the one it walks,
or the entry's own. -/
def SeqLenLoop.range (attrSeq : List AttEnt) (loop : SeqLenLoop) : Nat × Nat :=
  if loop.isRange then (loop.startId, loop.endId)
  else ((attrSeq.getD loop.xx ⟨0, 0⟩).start, (attrSeq.getD loop.xx ⟨0, 0⟩).stop)

/-- One round of the loop of `sdpu_get_attrib_seq_len`.  After an attribute
of a range the loop stays at the entry (`xx--`, then `xx++`) and searches
from one past its ID, a `uint16_t`. -/
def sdpuGetAttribSeqLenBody (rec : SdpRecord) (attrSeq : List AttEnt) (loop : SeqLenLoop) :
    Flow SeqLenLoop Nat :=
  if attrSeq.length ≤ loop.xx then .exit loop.len1
  else
    let (startId, endId) := loop.range attrSeq
    match sdpDbFindAttrInRec rec startId endId with
    | some attr =>
        let len1 := (loop.len1 + sdpuGetAttribEntryLen attr) % 65536
        if startId ≠ endId then .next ⟨loop.xx, true, (attr.id + 1) % 65536, endId, len1⟩
        else .next ⟨loop.xx + 1, false, startId, endId, len1⟩
    | none => .next ⟨loop.xx + 1, false, startId, endId, loop.len1⟩

/-- `sdpu_get_attrib_seq_len`, for at most `fuel` rounds of its loop. -/
def sdpuGetAttribSeqLen (fuel : Nat) (rec : SdpRecord) (attrSeq : List AttEnt) : Option Nat :=
  FuelLoop.run (sdpuGetAttribSeqLenBody rec attrSeq) fuel ⟨0, false, 0, 0, 0⟩

section Walk

variable {rec : SdpRecord} {attrSeq : List AttEnt}

/-- A range that ends at `0xFFFF`, on a record that holds `0xFFFF` but not
`0xFFFE`, is walked again from its first attribute every time it reaches
`0xFFFF`: from its start below `0xFFFF` to its end, for ever. -/
theorem sdpuGetAttribSeqLenBody_wraps (top : ∃ attr ∈ rec.attrs, attr.id = 0xFFFF)
    (noBelow : ∀ attr ∈ rec.attrs, attr.id ≠ 0xFFFE) (idsFit : ∀ attr ∈ rec.attrs, attr.id < 65536)
    {start : Nat} {rest : List AttEnt} {loop : SeqLenLoop}
    (wraps : loop.xx = 0 ∧ (loop.range (⟨start, 0xFFFF⟩ :: rest)).2 = 0xFFFF ∧
      (loop.range (⟨start, 0xFFFF⟩ :: rest)).1 < 0xFFFF) :
    ∃ loop', sdpuGetAttribSeqLenBody rec (⟨start, 0xFFFF⟩ :: rest) loop = .next loop' ∧
      loop'.xx = 0 ∧ (loop'.range (⟨start, 0xFFFF⟩ :: rest)).2 = 0xFFFF ∧
        (loop'.range (⟨start, 0xFFFF⟩ :: rest)).1 < 0xFFFF := by
  obtain ⟨atStart, ends, below⟩ := wraps
  rcases range : loop.range (⟨start, 0xFFFF⟩ :: rest) with ⟨startId, endId⟩
  rw [range] at ends below
  dsimp only at ends below
  subst ends
  -- the search from below 0xFFFF to 0xFFFF always finds something
  obtain ⟨attr, found⟩ : ∃ attr, sdpDbFindAttrInRec rec startId 0xFFFF = some attr := by
    obtain ⟨topAttr, member, isTop⟩ := top
    refine Option.isSome_iff_exists.mp (List.find?_isSome.mpr ⟨topAttr, member, ?_⟩)
    simp only [isTop, Bool.and_eq_true, decide_eq_true_eq]
    omega
  have member : attr ∈ rec.attrs := List.mem_of_find?_eq_some found
  have fits := idsFit attr member
  have notBelow := noBelow attr member
  unfold sdpuGetAttribSeqLenBody
  simp only [atStart, List.length_cons, Nat.le_zero, Nat.add_one_ne_zero, if_false, range, found,
    ne_eq, Nat.ne_of_lt below, not_false_eq_true, if_true]
  refine ⟨_, rfl, rfl, rfl, ?_⟩
  simp only [SeqLenLoop.range, if_true]
  omega

/-- `sdpu_get_attrib_seq_len` never returns for an attribute ID list whose
first entry is a range from below `0xFFFF` to `0xFFFF`, on a record that holds
the ID `0xFFFF` but not `0xFFFE`. -/
theorem sdpuGetAttribSeqLen_diverges (top : ∃ attr ∈ rec.attrs, attr.id = 0xFFFF)
    (noBelow : ∀ attr ∈ rec.attrs, attr.id ≠ 0xFFFE) (idsFit : ∀ attr ∈ rec.attrs, attr.id < 65536)
    {start : Nat} (rest : List AttEnt) (low : start < 0xFFFF) (fuel : Nat) :
    sdpuGetAttribSeqLen fuel rec (⟨start, 0xFFFF⟩ :: rest) = none := by
  unfold sdpuGetAttribSeqLen
  refine FuelLoop.run_diverges _ (fun _ wraps => sdpuGetAttribSeqLenBody_wraps top noBelow idsFit wraps) ?_ fuel
  exact ⟨rfl, rfl, low⟩

end Walk

end Sdp
end BluetoothStack
