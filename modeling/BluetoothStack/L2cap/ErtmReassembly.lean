import BluetoothStack.L2cap.FcrRx

namespace BluetoothStack
namespace L2cap

open ByteStream

/-!
# Reassembly of segmented SDUs

`do_sar_reassembly` takes the I-frames of a channel in sequence and rebuilds
the SDUs they carry from their SAR bits: an unsegmented frame is an SDU, a
start frame announces the SDU's length in its first two bytes, and
continuation and end frames add to the SDU being received.  The code checks
every frame against the reassembly state before it copies anything, so the
SDU being received never grows past its announced length, which the MTU
bounds; an SDU is delivered only whole, and every frame out of order, too
long or ending an SDU short is refused, on which the caller disconnects.

The first part takes `appendSegment`, the shared tail of the three segmented
cases, apart once; the reassembly lemmas are then one case split on the SAR
bits each, and the run lemmas an induction on the frames.
-/

/-- The SDU being received is no longer than its announced length, and that
length is at most the MTU. -/
def SarConsistent (ccb : Ccb) : Prop :=
  ∀ sdu, ccb.fcrb.pRxSdu = some sdu → sdu.length ≤ ccb.fcrb.rxSduLen ∧ ccb.fcrb.rxSduLen ≤ ccb.maxRxMtu

/-- The frames of a channel handed to `do_sar_reassembly` one after another,
each as its payload and control word. -/
def sarRun (ccb : Ccb) (frames : List (List UInt8 × Nat)) : Ccb :=
  frames.foldl (fun ccb frame => (doSarReassembly ccb frame.1 frame.2).2) ccb

@[simp]
theorem sarRun_nil (ccb : Ccb) : sarRun ccb [] = ccb := rfl

@[simp]
theorem sarRun_cons (ccb : Ccb) (frame : List UInt8 × Nat) (frames : List (List UInt8 × Nat)) :
    sarRun ccb (frame :: frames) = sarRun (doSarReassembly ccb frame.1 frame.2).2 frames := rfl

/-! ## The shared tail of the segmented cases -/

section Segment

variable {ccb : Ccb} {fcrb : Fcrb} {sdu data : List UInt8} {isEnd : Bool}

theorem appendSegment_maxRxMtu : (appendSegment ccb fcrb sdu data isEnd).2.maxRxMtu = ccb.maxRxMtu := by
  unfold appendSegment
  split_ifs <;> rfl

theorem appendSegment_sarFrames : (appendSegment ccb fcrb sdu data isEnd).2.sarFrames = ccb.sarFrames := by
  unfold appendSegment
  split_ifs <;> rfl

/-- Adding a segment keeps the SDU within its announced length: it is added
only when it fits, and a completed SDU leaves the reassembly. -/
theorem appendSegment_consistent (consistent : SarConsistent { ccb with fcrb := fcrb })
    (bounded : fcrb.rxSduLen ≤ ccb.maxRxMtu) : SarConsistent (appendSegment ccb fcrb sdu data isEnd).2 := by
  unfold appendSegment
  split_ifs with overflow short finished
  · exact consistent
  · exact consistent
  · intro _ held
    cases held
  · intro received held
    cases held
    refine ⟨?_, bounded⟩
    dsimp only
    rw [List.length_append]
    omega

/-- Adding a segment delivers an SDU only when an end frame completes it to
exactly its announced length. -/
theorem appendSegment_delivered :
    (appendSegment ccb fcrb sdu data isEnd).2.delivered = ccb.delivered ∨
      isEnd = true ∧ sdu.length + data.length = fcrb.rxSduLen ∧
        (appendSegment ccb fcrb sdu data isEnd).2.delivered = ccb.delivered ++ [sdu ++ data] := by
  unfold appendSegment
  split_ifs with overflow short finished
  · exact Or.inl rfl
  · exact Or.inl rfl
  · simp only [Bool.and_eq_true, bne_iff_ne, ne_eq, not_and, Decidable.not_not] at short
    exact Or.inr ⟨finished, short finished, rfl⟩
  · exact Or.inl rfl

/-- A segment that overruns the announced length is refused. -/
theorem appendSegment_overflow (overflow : fcrb.rxSduLen < sdu.length + data.length) :
    (appendSegment ccb fcrb sdu data isEnd).1 = false := by
  unfold appendSegment
  rw [if_pos overflow]

/-- An end segment that leaves the SDU short is refused. -/
theorem appendSegment_short (short : sdu.length + data.length < fcrb.rxSduLen) :
    (appendSegment ccb fcrb sdu data true).1 = false := by
  unfold appendSegment
  have unfinished : (true && sdu.length + data.length != fcrb.rxSduLen) = true := by
    simp only [Bool.true_and, bne_iff_ne, ne_eq]
    omega
  rw [if_neg (by omega), if_pos unfinished]

end Segment

/-! ## One frame -/

section Frame

variable {ccb : Ccb} {info : List UInt8} {ctrlWord : Nat}

theorem doSarReassembly_maxRxMtu (ccb : Ccb) (info : List UInt8) (ctrlWord : Nat) :
    (doSarReassembly ccb info ctrlWord).2.maxRxMtu = ccb.maxRxMtu := by
  unfold doSarReassembly
  dsimp only
  split_ifs
  · rfl
  · rfl
  · rfl
  · rfl
  · exact appendSegment_maxRxMtu
  · split
    · rfl
    · exact appendSegment_maxRxMtu

/-- Every call is recorded, whatever it does with the frame. -/
theorem doSarReassembly_sarFrames (ccb : Ccb) (info : List UInt8) (ctrlWord : Nat) :
    (doSarReassembly ccb info ctrlWord).2.sarFrames = ccb.sarFrames ++ [(info, ctrlWord)] := by
  unfold doSarReassembly
  dsimp only
  split_ifs
  · rfl
  · rfl
  · rfl
  · rfl
  · exact appendSegment_sarFrames
  · split
    · rfl
    · exact appendSegment_sarFrames

/-- A frame keeps the SDU being received within its announced length, and
that length within the MTU: a start frame is refused before it announces more
than the MTU, and every segment is added only when it fits. -/
theorem doSarReassembly_consistent (consistent : SarConsistent ccb) :
    SarConsistent (doSarReassembly ccb info ctrlWord).2 := by
  unfold doSarReassembly
  dsimp only
  split_ifs with unsegmented busy start refused tooLong
  · exact consistent
  · exact consistent
  · exact consistent
  · -- a refused start frame changes only the announced length, with no SDU being received
    intro sdu held
    simp only [Bool.or_eq_true, Option.isSome_iff_exists, not_or] at refused
    exact absurd ⟨sdu, held⟩ refused.1
  · refine appendSegment_consistent ?_ (Nat.not_lt.mp tooLong)
    intro sdu held
    cases held
    exact ⟨Nat.zero_le _, Nat.not_lt.mp tooLong⟩
  · split
    · exact consistent
    · rename_i sdu held
      exact appendSegment_consistent consistent (consistent sdu held).2

/-- A frame delivers at most one SDU: the payload of an unsegmented frame
when no SDU is being received, or the SDU an end frame completes to exactly
its announced length. -/
theorem doSarReassembly_delivered (ccb : Ccb) (info : List UInt8) (ctrlWord : Nat) :
    (doSarReassembly ccb info ctrlWord).2.delivered = ccb.delivered ∨
      ∃ sdu, (doSarReassembly ccb info ctrlWord).2.delivered = ccb.delivered ++ [sdu] ∧
        ((sarOf ctrlWord = l2capFcrUnsegSdu ∧ ccb.fcrb.pRxSdu = none ∧ sdu = info) ∨
          (sarOf ctrlWord = l2capFcrEndSdu ∧
            ∃ received, ccb.fcrb.pRxSdu = some received ∧ sdu = received ++ info ∧
              sdu.length = ccb.fcrb.rxSduLen)) := by
  unfold doSarReassembly
  dsimp only
  split_ifs with unsegmented busy start refused tooLong
  · exact Or.inl rfl
  · simp only [Option.not_isSome_iff_eq_none] at busy
    exact Or.inr ⟨info, rfl, Or.inl ⟨beq_iff_eq.mp unsegmented, busy, rfl⟩⟩
  · exact Or.inl rfl
  · exact Or.inl rfl
  · -- a start frame never ends an SDU
    rcases appendSegment_delivered with same | ⟨ended, -⟩
    · exact Or.inl same
    · cases ended
  · split
    · exact Or.inl rfl
    · rename_i received held
      rcases appendSegment_delivered with same | ⟨ended, complete, added⟩
      · exact Or.inl same
      · refine Or.inr ⟨received ++ info, added, Or.inr ⟨beq_iff_eq.mp ended, received, held, rfl, ?_⟩⟩
        rw [List.length_append]
        exact complete

/-- A frame out of order is refused: an unsegmented or start frame while an
SDU is being received, a continuation or end frame while none is. -/
theorem doSarReassembly_out_of_order :
    ((sarOf ctrlWord = l2capFcrUnsegSdu ∨ sarOf ctrlWord = l2capFcrStartSdu) → ccb.fcrb.pRxSdu.isSome →
        (doSarReassembly ccb info ctrlWord).1 = false) ∧
      ((sarOf ctrlWord = l2capFcrContSdu ∨ sarOf ctrlWord = l2capFcrEndSdu) → ccb.fcrb.pRxSdu = none →
        (doSarReassembly ccb info ctrlWord).1 = false) := by
  unfold doSarReassembly
  dsimp only
  constructor
  · rintro (unsegmented | start) busy
    · rw [unsegmented, if_pos (by decide), if_pos busy]
    · rw [start, if_neg (by decide), if_pos (by decide), if_pos (by rw [busy, Bool.true_or])]
  · rintro (continued | ended) idle
    · rw [continued, if_neg (by decide), if_neg (by decide), idle]
    · rw [ended, if_neg (by decide), if_neg (by decide), idle]

/-- A start frame is refused when it is too short for the SDU length field,
or announces more than the MTU. -/
theorem doSarReassembly_bad_start (start : sarOf ctrlWord = l2capFcrStartSdu)
    (bad : info.length < l2capSduLenOverhead ∨ ccb.maxRxMtu < readU16le (info.getD 0 0) (info.getD 1 0)) :
    (doSarReassembly ccb info ctrlWord).1 = false := by
  unfold doSarReassembly
  dsimp only
  rw [start, if_neg (by decide), if_pos (by decide)]
  split_ifs with refused tooLong
  · rfl
  · rfl
  · rcases bad with short | long
    · simp only [short, decide_true, Bool.or_true, not_true_eq_false] at refused
    · exact absurd long tooLong

/-- A frame that overruns the announced length is refused: a continuation or
end frame that takes the SDU past it, and a start frame that carries more
than it announces. -/
theorem doSarReassembly_overflow :
    ((sarOf ctrlWord = l2capFcrContSdu ∨ sarOf ctrlWord = l2capFcrEndSdu) →
        ∀ received, ccb.fcrb.pRxSdu = some received → ccb.fcrb.rxSduLen < received.length + info.length →
          (doSarReassembly ccb info ctrlWord).1 = false) ∧
      (sarOf ctrlWord = l2capFcrStartSdu →
        readU16le (info.getD 0 0) (info.getD 1 0) < info.length - l2capSduLenOverhead →
          (doSarReassembly ccb info ctrlWord).1 = false) := by
  unfold doSarReassembly
  dsimp only
  constructor
  · rintro (continued | ended) received held overflow
    · rw [continued, if_neg (by decide), if_neg (by decide), held]
      exact appendSegment_overflow overflow
    · rw [ended, if_neg (by decide), if_neg (by decide), held]
      exact appendSegment_overflow overflow
  · intro start overflow
    rw [start, if_neg (by decide), if_pos (by decide)]
    split_ifs
    · rfl
    · rfl
    · apply appendSegment_overflow
      rw [List.length_nil, Nat.zero_add, List.length_drop]
      exact overflow

/-- An end frame that leaves the SDU short of its announced length is
refused. -/
theorem doSarReassembly_short_end (ended : sarOf ctrlWord = l2capFcrEndSdu) {received : List UInt8}
    (held : ccb.fcrb.pRxSdu = some received) (short : received.length + info.length < ccb.fcrb.rxSduLen) :
    (doSarReassembly ccb info ctrlWord).1 = false := by
  unfold doSarReassembly
  dsimp only
  rw [ended, if_neg (by decide), if_neg (by decide), held, show (l2capFcrEndSdu == l2capFcrEndSdu) = true from rfl]
  exact appendSegment_short short

end Frame

/-! ## Runs of frames -/

section Run

theorem sarRun_maxRxMtu (frames : List (List UInt8 × Nat)) (ccb : Ccb) :
    (sarRun ccb frames).maxRxMtu = ccb.maxRxMtu := by
  induction frames generalizing ccb with
  | nil => rfl
  | cons frame frames ih => rw [sarRun_cons, ih, doSarReassembly_maxRxMtu]

theorem sarRun_sarFrames (frames : List (List UInt8 × Nat)) (ccb : Ccb) :
    (sarRun ccb frames).sarFrames = ccb.sarFrames ++ frames := by
  induction frames generalizing ccb with
  | nil => rw [sarRun_nil, List.append_nil]
  | cons frame frames ih => rw [sarRun_cons, ih, doSarReassembly_sarFrames, List.append_assoc, List.singleton_append]

/-- Along every run of frames the SDU being received stays within its
announced length and the MTU. -/
theorem sarRun_consistent (frames : List (List UInt8 × Nat)) {ccb : Ccb} (consistent : SarConsistent ccb) :
    SarConsistent (sarRun ccb frames) := by
  induction frames generalizing ccb with
  | nil => exact consistent
  | cons frame frames ih => exact ih (doSarReassembly_consistent consistent)

/-- Reassembly is safe on every sequence of frames, whatever their SAR bits
and payloads: from a consistent state the SDU being received stays within its
announced length and the MTU; a frame delivers an SDU only when it is
unsegmented and no SDU is being received, or when it is an end frame that
completes the SDU to exactly its announced length; and every frame out of
order, overrunning the announced length or ending the SDU short is refused,
as is a start frame too short for the length field, announcing more than the
MTU, or carrying more than it announces. -/
theorem doSarReassembly_safe :
    (∀ (ccb : Ccb) (frames : List (List UInt8 × Nat)), SarConsistent ccb →
        SarConsistent (sarRun ccb frames) ∧ (sarRun ccb frames).maxRxMtu = ccb.maxRxMtu) ∧
      (∀ (ccb : Ccb) (info : List UInt8) (ctrlWord : Nat),
        (doSarReassembly ccb info ctrlWord).2.delivered = ccb.delivered ∨
          ∃ sdu, (doSarReassembly ccb info ctrlWord).2.delivered = ccb.delivered ++ [sdu] ∧
            ((sarOf ctrlWord = l2capFcrUnsegSdu ∧ ccb.fcrb.pRxSdu = none ∧ sdu = info) ∨
              (sarOf ctrlWord = l2capFcrEndSdu ∧
                ∃ received, ccb.fcrb.pRxSdu = some received ∧ sdu = received ++ info ∧
                  sdu.length = ccb.fcrb.rxSduLen))) ∧
      (∀ (ccb : Ccb) (info : List UInt8) (ctrlWord : Nat),
        ((sarOf ctrlWord = l2capFcrUnsegSdu ∨ sarOf ctrlWord = l2capFcrStartSdu) → ccb.fcrb.pRxSdu.isSome →
            (doSarReassembly ccb info ctrlWord).1 = false) ∧
          ((sarOf ctrlWord = l2capFcrContSdu ∨ sarOf ctrlWord = l2capFcrEndSdu) → ccb.fcrb.pRxSdu = none →
            (doSarReassembly ccb info ctrlWord).1 = false) ∧
          ((sarOf ctrlWord = l2capFcrContSdu ∨ sarOf ctrlWord = l2capFcrEndSdu) →
            ∀ received, ccb.fcrb.pRxSdu = some received → ccb.fcrb.rxSduLen < received.length + info.length →
              (doSarReassembly ccb info ctrlWord).1 = false) ∧
          (sarOf ctrlWord = l2capFcrEndSdu → ∀ received, ccb.fcrb.pRxSdu = some received →
            received.length + info.length < ccb.fcrb.rxSduLen → (doSarReassembly ccb info ctrlWord).1 = false) ∧
          (sarOf ctrlWord = l2capFcrStartSdu →
            info.length < l2capSduLenOverhead ∨ ccb.maxRxMtu < readU16le (info.getD 0 0) (info.getD 1 0) →
              (doSarReassembly ccb info ctrlWord).1 = false) ∧
          (sarOf ctrlWord = l2capFcrStartSdu →
            readU16le (info.getD 0 0) (info.getD 1 0) < info.length - l2capSduLenOverhead →
              (doSarReassembly ccb info ctrlWord).1 = false)) := by
  refine ⟨fun ccb frames consistent => ⟨sarRun_consistent frames consistent, sarRun_maxRxMtu frames ccb⟩,
    doSarReassembly_delivered, fun ccb info ctrlWord => ?_⟩
  refine ⟨doSarReassembly_out_of_order.1, doSarReassembly_out_of_order.2, doSarReassembly_overflow.1, ?_,
    doSarReassembly_bad_start, doSarReassembly_overflow.2⟩
  intro ended received held short
  exact doSarReassembly_short_end ended held short

end Run

end L2cap
end BluetoothStack
