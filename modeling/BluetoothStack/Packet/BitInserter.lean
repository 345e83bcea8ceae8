import Mathlib.Tactic.IntervalCases
import BluetoothStack.Library.BitString

namespace BluetoothStack
namespace Packet

open BitString

/-!
# Bit insertion and ACL fragmentation

BitInserter (packet/bit_inserter.cc) collects the bits a packet's Serialize
writes, a byte or a short field at a time, and appends a byte to its vector as
soon as eight bits are pending.  FragmentingInserter (fragmenting_inserter.cc)
repeats the same carry arithmetic but sends each completed byte to a RawBuilder
of mtu bytes, moving it out whenever it is full, and finalize() moves out what
is left; AclFragmenter::GetFragments is that inserter fed the packet.

The carry arithmetic is one definition, insertBitsWith, parametrised by what is
done with a completed byte.  Its spec says what one call does to the pending
bits; each inserter is then abstracted to the bit string it holds (its output
bytes followed by its pending bits), insertion appends the low bits of the
argument to that string, and a run of calls appends all of them.  A packet's
serialization is modelled by the list of insert_bits calls its Serialize
makes; insert_byte is insert_bits with eight bits.
-/

/-- static_cast<uint8_t>(0xff) >> (8 - num_saved_bits_). -/
def lowMask (numSavedBits : Nat) : UInt8 :=
  UInt8.ofNat (0xff >>> (8 - numSavedBits))

/-- The carry arithmetic of insert_bits, shared by BitInserter and
FragmentingInserter: emit is what each does with a completed byte.  Returns
the output, num_saved_bits_ and saved_bits_.  The value is computed in int
and stored as uint16_t, hence UInt16.ofNat of the exact value. -/
def insertBitsWith {σ : Type} (emit : σ → UInt8 → σ) (out : σ) (numSavedBits : Nat)
    (savedBits byte : UInt8) (numBits : Nat) : σ × Nat × UInt8 :=
  let totalBits := numBits + numSavedBits
  let newValue : UInt16 := UInt16.ofNat (savedBits.toNat ||| byte.toNat <<< numSavedBits)
  if 8 ≤ totalBits then
    (emit out newValue.toUInt8, totalBits - 8, (newValue >>> 8).toUInt8 &&& lowMask (totalBits - 8))
  else
    (out, totalBits, newValue.toUInt8 &&& lowMask totalBits)

/-- The carry registers between calls: fewer than eight bits, and nothing above them. -/
def Pending (numSavedBits : Nat) (savedBits : UInt8) : Prop :=
  numSavedBits ≤ 7 ∧ savedBits.toNat < 2 ^ numSavedBits

theorem pending_zero : Pending 0 0 := by
  constructor <;> decide

theorem lowMask_toNat {n : Nat} (narrow : n ≤ 8) : (lowMask n).toNat = 2 ^ n - 1 := by
  interval_cases n <;> rfl

theorem and_lowMask_toNat (x : UInt8) {n : Nat} (narrow : n ≤ 8) :
    (x &&& lowMask n).toNat = x.toNat % 2 ^ n := by
  rw [UInt8.toNat_and, lowMask_toNat narrow, Nat.and_two_pow_sub_one_eq_mod]

/-- new_value holds the saved bits with the byte placed above them. -/
theorem newValue_toNat {numSavedBits : Nat} {savedBits : UInt8} (byte : UInt8)
    (pending : Pending numSavedBits savedBits) :
    (UInt16.ofNat (savedBits.toNat ||| byte.toNat <<< numSavedBits)).toNat =
      savedBits.toNat + 2 ^ numSavedBits * byte.toNat := by
  rcases pending with ⟨few, fits⟩
  have joined : savedBits.toNat ||| byte.toNat <<< numSavedBits =
      savedBits.toNat + 2 ^ numSavedBits * byte.toNat := by
    rw [Nat.shiftLeft_eq, Nat.lor_comm, Nat.mul_comm, ← Nat.two_pow_add_eq_or_of_lt fits,
      Nat.add_comm]
  have weight : 2 ^ numSavedBits ≤ 2 ^ 7 := Nat.pow_le_pow_right (by decide) few
  have high : 2 ^ numSavedBits * byte.toNat ≤ 2 ^ 7 * 255 :=
    Nat.mul_le_mul weight (Nat.le_of_lt_succ (UInt8.toNat_lt byte))
  rw [joined, UInt16.toNat_ofNat', Nat.mod_eq_of_lt (by omega)]

/-- One call of insert_bits: at most one byte is completed, the carry stays
pending, and the completed byte followed by the new pending bits are the old
pending bits followed by the low numBits bits of the argument. -/
theorem insertBitsWith_spec {σ : Type} (emit : σ → UInt8 → σ) (out : σ) {numSavedBits : Nat}
    {savedBits : UInt8} (byte : UInt8) {numBits : Nat} (pending : Pending numSavedBits savedBits)
    (small : numBits ≤ 8) :
    ∃ emitted : List UInt8, emitted.length ≤ 1 ∧
      (insertBitsWith emit out numSavedBits savedBits byte numBits).1 = emitted.foldl emit out ∧
      Pending (insertBitsWith emit out numSavedBits savedBits byte numBits).2.1
        (insertBitsWith emit out numSavedBits savedBits byte numBits).2.2 ∧
      bitsOfBytes emitted ++
          lowBits (insertBitsWith emit out numSavedBits savedBits byte numBits).2.2.toNat
            (insertBitsWith emit out numSavedBits savedBits byte numBits).2.1 =
        lowBits savedBits.toNat numSavedBits ++ lowBits byte.toNat numBits := by
  have value := newValue_toNat byte pending
  have glued := lowBits_add_mul savedBits.toNat byte.toNat numSavedBits numBits pending.2
  have few := pending.1
  unfold insertBitsWith
  dsimp only
  generalize UInt16.ofNat (savedBits.toNat ||| byte.toNat <<< numSavedBits) = newValue at value ⊢
  split_ifs with full
  · -- a byte is completed and numBits + numSavedBits - 8 bits stay pending
    dsimp only
    refine ⟨[newValue.toUInt8], by simp, rfl, ⟨by omega, ?_⟩, ?_⟩
    · rw [and_lowMask_toNat _ (by omega)]
      exact Nat.mod_lt _ (Nat.two_pow_pos _)
    · have shifted : (newValue >>> 8).toNat = newValue.toNat / 2 ^ 8 := by
        simp [UInt16.toNat_shiftRight, Nat.shiftRight_eq_div_pow]
      have width : numSavedBits + numBits = 8 + (numBits + numSavedBits - 8) := by omega
      rw [bitsOfBytes_cons, bitsOfBytes_nil, List.append_nil, and_lowMask_toNat _ (by omega),
        UInt16.toNat_toUInt8, UInt16.toNat_toUInt8, shifted, lowBits_mod _ 8 8 le_rfl,
        lowBits_mod _ _ _ le_rfl, lowBits_mod _ 8 _ (by omega), ← lowBits_add, ← width, ← glued,
        value]
  · -- the bits only accumulate
    dsimp only
    refine ⟨[], by simp, rfl, ⟨by omega, ?_⟩, ?_⟩
    · rw [and_lowMask_toNat _ (by omega)]
      exact Nat.mod_lt _ (Nat.two_pow_pos _)
    · rw [bitsOfBytes_nil, List.nil_append, and_lowMask_toNat _ (by omega), lowBits_mod _ _ _ le_rfl,
        UInt16.toNat_toUInt8, lowBits_mod _ 8 _ (by omega), value, Nat.add_comm numBits, glued]

/-- The bits of a run of insert_bits calls. -/
def callBits (calls : List (UInt8 × Nat)) : List Bool :=
  calls.flatMap fun call => lowBits call.1.toNat call.2

@[simp]
theorem callBits_nil : callBits [] = [] := rfl

@[simp]
theorem callBits_cons (call : UInt8 × Nat) (calls : List (UInt8 × Nat)) :
    callBits (call :: calls) = lowBits call.1.toNat call.2 ++ callBits calls := rfl

theorem length_callBits (calls : List (UInt8 × Nat)) :
    (callBits calls).length = (calls.map Prod.snd).sum := by
  induction calls with
  | nil => rfl
  | cons call calls ih => simp [ih]

/-- Eight bits per byte plus fewer than eight pending: a bit count that is a
multiple of eight leaves nothing pending. -/
theorem numSavedBits_eq_zero_of_aligned {bytes : List UInt8} {numSavedBits : Nat}
    {savedBits : UInt8} (pending : Pending numSavedBits savedBits) {total : Nat}
    (length : 8 * bytes.length + numSavedBits = total) (aligned : total % 8 = 0) :
    numSavedBits = 0 := by
  have few := pending.1
  omega

/-- BitInserter: the vector behind the ByteInserter and the carry registers. -/
structure BitInserter where
  vector : List UInt8
  numSavedBits : Nat
  savedBits : UInt8

namespace BitInserter

/-- BitInserter(vector), with num_saved_bits_{0} and saved_bits_{0}. -/
def ofVector (vector : List UInt8) : BitInserter :=
  ⟨vector, 0, 0⟩

/-- BitInserter::insert_bits: a completed byte goes to ByteInserter::insert_byte,
which appends it to the vector. -/
def insertBits (it : BitInserter) (byte : UInt8) (numBits : Nat) : BitInserter :=
  let next := insertBitsWith (fun vector newByte => vector ++ [newByte]) it.vector
    it.numSavedBits it.savedBits byte numBits
  ⟨next.1, next.2.1, next.2.2⟩

/-- BitInserter::insert_byte. -/
def insertByte (it : BitInserter) (byte : UInt8) : BitInserter :=
  it.insertBits byte 8

/-- The calls of a Serialize, one insert_bits(byte, num_bits) each. -/
def run (it : BitInserter) (calls : List (UInt8 × Nat)) : BitInserter :=
  calls.foldl (fun it call => it.insertBits call.1 call.2) it

/-- The bit string the inserter holds: its vector, then the pending bits. -/
def bits (it : BitInserter) : List Bool :=
  bitsOfBytes it.vector ++ lowBits it.savedBits.toNat it.numSavedBits

def Wf (it : BitInserter) : Prop :=
  Pending it.numSavedBits it.savedBits

@[simp]
theorem bits_ofVector (vector : List UInt8) : (ofVector vector).bits = bitsOfBytes vector := by
  simp [bits, ofVector]

theorem foldl_push (vector emitted : List UInt8) :
    emitted.foldl (fun vector newByte => vector ++ [newByte]) vector = vector ++ emitted := by
  induction emitted generalizing vector with
  | nil => simp
  | cons newByte emitted ih => simp [ih]

theorem insertBits_spec (it : BitInserter) (byte : UInt8) {numBits : Nat} (wf : it.Wf)
    (small : numBits ≤ 8) :
    (∃ emitted, (it.insertBits byte numBits).vector = it.vector ++ emitted) ∧
      (it.insertBits byte numBits).Wf ∧
      (it.insertBits byte numBits).bits = it.bits ++ lowBits byte.toNat numBits := by
  rcases insertBitsWith_spec (fun vector newByte => vector ++ [newByte]) it.vector byte wf small
    with ⟨emitted, -, output, pending, bitsEq⟩
  rw [foldl_push] at output
  refine ⟨⟨emitted, output⟩, pending, ?_⟩
  simp only [bits, insertBits, output, bitsOfBytes_append, List.append_assoc, bitsEq]

/-- A whole run: the vector only grows, the carry stays pending, and the held
bit string grows by the bits of every call. -/
theorem run_spec (it : BitInserter) (calls : List (UInt8 × Nat)) (wf : it.Wf)
    (small : ∀ call ∈ calls, call.2 ≤ 8) :
    (∃ appended, (it.run calls).vector = it.vector ++ appended) ∧ (it.run calls).Wf ∧
      (it.run calls).bits = it.bits ++ callBits calls := by
  induction calls generalizing it with
  | nil => exact ⟨⟨[], by simp [run]⟩, wf, by simp [run]⟩
  | cons call calls ih =>
    rcases insertBits_spec it call.1 wf (small call (by simp)) with ⟨⟨emitted, grown⟩, wf', bitsEq⟩
    rcases ih (it.insertBits call.1 call.2) wf' (fun c member => small c (by simp [member]))
      with ⟨⟨appended, grown'⟩, wfRun, bitsRun⟩
    refine ⟨⟨emitted ++ appended, ?_⟩, wfRun, ?_⟩
    · simp only [run, List.foldl_cons] at grown' ⊢
      rw [grown', grown, List.append_assoc]
    · simp only [run, List.foldl_cons] at bitsRun ⊢
      rw [bitsRun, bitsEq, callBits_cons, List.append_assoc]

end BitInserter

/-- The bytes a packet's Serialize writes into an empty vector through a BitInserter. -/
def serialize (calls : List (UInt8 × Nat)) : List UInt8 :=
  ((BitInserter.ofVector []).run calls).vector

/-- RawBuilder::AddOctets1 on a builder of max_bytes_ bytes: the byte is added
only while it fits. -/
def addOctets1 (maxBytes : Nat) (payload : List UInt8) (value : UInt8) : List UInt8 :=
  if payload.length + 1 > maxBytes then payload else payload ++ [value]

/-- FragmentingInserter: the vector behind iterator_, the payload of
curr_packet_, and the carry registers. -/
structure FragmentingInserter where
  mtu : Nat
  fragments : List (List UInt8)
  currPacket : List UInt8
  numSavedBits : Nat
  savedBits : UInt8

namespace FragmentingInserter

/-- FragmentingInserter(mtu, iterator) on an empty result vector. -/
def ofMtu (mtu : Nat) : FragmentingInserter :=
  ⟨mtu, [], [], 0, 0⟩

/-- The byte-emission branch: add the byte to curr_packet_, and once it holds
mtu bytes move it to the result and start a new RawBuilder(mtu). -/
def emitByte (mtu : Nat) (out : List (List UInt8) × List UInt8) (newByte : UInt8) :
    List (List UInt8) × List UInt8 :=
  let currPacket := addOctets1 mtu out.2 newByte
  if currPacket.length ≥ mtu then (out.1 ++ [currPacket], []) else (out.1, currPacket)

/-- FragmentingInserter::insert_bits. -/
def insertBits (it : FragmentingInserter) (byte : UInt8) (numBits : Nat) : FragmentingInserter :=
  let next := insertBitsWith (emitByte it.mtu) (it.fragments, it.currPacket)
    it.numSavedBits it.savedBits byte numBits
  ⟨it.mtu, next.1.1, next.1.2, next.2.1, next.2.2⟩

def run (it : FragmentingInserter) (calls : List (UInt8 × Nat)) : FragmentingInserter :=
  calls.foldl (fun it call => it.insertBits call.1 call.2) it

/-- FragmentingInserter::finalize: a non-empty curr_packet_ is moved out.  The
pointer is reset afterwards, so the model returns only the result vector. -/
def finalize (it : FragmentingInserter) : List (List UInt8) :=
  if it.currPacket.length ≠ 0 then it.fragments ++ [it.currPacket] else it.fragments

/-- Every byte written so far, in order. -/
def bytes (it : FragmentingInserter) : List UInt8 :=
  it.fragments.flatten ++ it.currPacket

def bits (it : FragmentingInserter) : List Bool :=
  bitsOfBytes it.bytes ++ lowBits it.savedBits.toNat it.numSavedBits

/-- Full fragments of mtu bytes, and a current packet that is not yet full. -/
def Packed (mtu : Nat) (out : List (List UInt8) × List UInt8) : Prop :=
  (∀ fragment ∈ out.1, fragment.length = mtu) ∧ out.2.length < mtu

def Wf (it : FragmentingInserter) : Prop :=
  Packed it.mtu (it.fragments, it.currPacket) ∧ Pending it.numSavedBits it.savedBits

@[simp]
theorem bits_ofMtu (mtu : Nat) : (ofMtu mtu).bits = [] := rfl

theorem emitByte_spec {mtu : Nat} {out : List (List UInt8) × List UInt8} (packed : Packed mtu out)
    (newByte : UInt8) :
    Packed mtu (emitByte mtu out newByte) ∧
      (emitByte mtu out newByte).1.flatten ++ (emitByte mtu out newByte).2 =
        out.1.flatten ++ out.2 ++ [newByte] := by
  rcases packed with ⟨full, room⟩
  have added : addOctets1 mtu out.2 newByte = out.2 ++ [newByte] := by
    rw [addOctets1, if_neg (by omega)]
  unfold emitByte
  rw [added]
  dsimp only
  split_ifs with complete
  · refine ⟨⟨?_, by simp; omega⟩, by simp⟩
    intro fragment member
    rcases List.mem_append.mp member with old | moved
    · exact full fragment old
    · rw [List.mem_singleton.mp moved, List.length_append, List.length_singleton]
      simp only [List.length_append, List.length_singleton] at complete
      omega
  · exact ⟨⟨full, by simpa using complete⟩, by simp⟩

theorem foldl_emitByte_spec {mtu : Nat} (emitted : List UInt8) :
    ∀ {out : List (List UInt8) × List UInt8}, Packed mtu out →
      Packed mtu (emitted.foldl (emitByte mtu) out) ∧
        (emitted.foldl (emitByte mtu) out).1.flatten ++ (emitted.foldl (emitByte mtu) out).2 =
          out.1.flatten ++ out.2 ++ emitted := by
  induction emitted with
  | nil => intro out packed; simpa using packed
  | cons newByte emitted ih =>
    intro out packed
    rcases emitByte_spec packed newByte with ⟨packed', written⟩
    rcases ih packed' with ⟨packedRun, writtenRun⟩
    rw [List.foldl_cons]
    exact ⟨packedRun, by rw [writtenRun, written]; simp⟩

theorem insertBits_spec (it : FragmentingInserter) (byte : UInt8) {numBits : Nat} (wf : it.Wf)
    (small : numBits ≤ 8) :
    (it.insertBits byte numBits).mtu = it.mtu ∧ (it.insertBits byte numBits).Wf ∧
      (it.insertBits byte numBits).bits = it.bits ++ lowBits byte.toNat numBits := by
  rcases wf with ⟨packed, pending⟩
  rcases insertBitsWith_spec (emitByte it.mtu) (it.fragments, it.currPacket) byte pending small
    with ⟨emitted, -, output, pending', bitsEq⟩
  rcases foldl_emitByte_spec emitted packed with ⟨packed', written⟩
  rw [← output] at packed' written
  refine ⟨rfl, ⟨packed', pending'⟩, ?_⟩
  simp only [bits, bytes, insertBits]
  rw [written, bitsOfBytes_append, List.append_assoc, bitsEq, List.append_assoc]

theorem run_spec (it : FragmentingInserter) (calls : List (UInt8 × Nat)) (wf : it.Wf)
    (small : ∀ call ∈ calls, call.2 ≤ 8) :
    (it.run calls).mtu = it.mtu ∧ (it.run calls).Wf ∧
      (it.run calls).bits = it.bits ++ callBits calls := by
  induction calls generalizing it with
  | nil => exact ⟨rfl, wf, by simp [run]⟩
  | cons call calls ih =>
    rcases insertBits_spec it call.1 wf (small call (by simp)) with ⟨sameMtu, wf', bitsEq⟩
    rcases ih (it.insertBits call.1 call.2) wf' (fun c member => small c (by simp [member]))
      with ⟨sameMtu', wfRun, bitsRun⟩
    simp only [run, List.foldl_cons] at sameMtu' bitsRun ⊢
    exact ⟨sameMtu'.trans sameMtu, wfRun, by rw [bitsRun, bitsEq, callBits_cons, List.append_assoc]⟩

/-- finalize hands out every byte, in fragments of mtu bytes but for a last
one of 1 to mtu bytes. -/
theorem finalize_spec (it : FragmentingInserter) (packed : Packed it.mtu (it.fragments, it.currPacket)) :
    it.finalize.flatten = it.bytes ∧ (∀ fragment ∈ it.finalize.dropLast, fragment.length = it.mtu) ∧
      ∀ fragment ∈ it.finalize.getLast?, 0 < fragment.length ∧ fragment.length ≤ it.mtu := by
  rcases packed with ⟨full, room⟩
  dsimp only at full room
  unfold finalize bytes
  split_ifs with pendingPacket
  · refine ⟨by simp, ?_, ?_⟩
    · rw [List.dropLast_concat]
      exact full
    · intro fragment member
      rw [List.getLast?_concat, Option.mem_some_iff] at member
      rw [← member]
      omega
  · have empty : it.currPacket = [] := List.eq_nil_of_length_eq_zero (by omega)
    refine ⟨by simp [empty], fun fragment member => full fragment (List.dropLast_subset _ member), ?_⟩
    intro fragment member
    have length := full fragment (List.mem_of_getLast? member)
    omega

end FragmentingInserter

/-- AclFragmenter::GetFragments, for a packet whose Serialize makes the given calls. -/
def getFragments (mtu : Nat) (calls : List (UInt8 × Nat)) : List (List UInt8) :=
  ((FragmentingInserter.ofMtu mtu).run calls).finalize

/-- insert_bits with at most eight bits a call and a whole number of bytes in
all: BitInserter appends the bytes whose bits are the low bits of the calls and
ends with nothing pending, and GetFragments with a non-zero mtu cuts exactly
those bytes into fragments of mtu bytes and a non-empty last one, and into none
when nothing was written. -/
theorem insertBits_packs_and_fragments (calls : List (UInt8 × Nat))
    (small : ∀ call ∈ calls, call.2 ≤ 8) (aligned : (calls.map Prod.snd).sum % 8 = 0) :
    (∀ vector, ∃ appended, ((BitInserter.ofVector vector).run calls).vector = vector ++ appended ∧
        bitsOfBytes appended = callBits calls ∧
        ((BitInserter.ofVector vector).run calls).numSavedBits = 0) ∧
      ∀ mtu, 0 < mtu →
        (getFragments mtu calls).flatten = serialize calls ∧
        (∀ fragment ∈ (getFragments mtu calls).dropLast, fragment.length = mtu) ∧
        (∀ fragment ∈ (getFragments mtu calls).getLast?, 0 < fragment.length ∧ fragment.length ≤ mtu) ∧
        ((calls.map Prod.snd).sum = 0 → getFragments mtu calls = []) := by
  -- the BitInserter half, for any starting vector
  have packs : ∀ vector, ∃ appended,
      ((BitInserter.ofVector vector).run calls).vector = vector ++ appended ∧
        bitsOfBytes appended = callBits calls ∧
        ((BitInserter.ofVector vector).run calls).numSavedBits = 0 := by
    intro vector
    rcases BitInserter.run_spec (BitInserter.ofVector vector) calls pending_zero small
      with ⟨⟨appended, grown⟩, pending, bitsEq⟩
    rw [BitInserter.bits, grown, BitInserter.bits_ofVector, bitsOfBytes_append,
      List.append_assoc] at bitsEq
    have bitsAppended := List.append_cancel_left bitsEq
    have none := numSavedBits_eq_zero_of_aligned pending
      (by simpa [← length_callBits] using congrArg List.length bitsAppended) aligned
    refine ⟨appended, grown, ?_, none⟩
    simpa [none] using bitsAppended
  refine ⟨packs, ?_⟩
  intro mtu positive
  rw [getFragments]
  have wf : (FragmentingInserter.ofMtu mtu).Wf := ⟨⟨by simp [FragmentingInserter.ofMtu], positive⟩, pending_zero⟩
  rcases FragmentingInserter.run_spec (FragmentingInserter.ofMtu mtu) calls wf small
    with ⟨sameMtu, ⟨packed, pending⟩, bitsEq⟩
  set final := (FragmentingInserter.ofMtu mtu).run calls
  have sameMtu' : final.mtu = mtu := sameMtu
  rw [FragmentingInserter.bits_ofMtu, List.nil_append] at bitsEq
  have bitsFinal : bitsOfBytes final.bytes ++ lowBits final.savedBits.toNat final.numSavedBits =
      callBits calls := bitsEq
  have none := numSavedBits_eq_zero_of_aligned pending
    (by simpa [← length_callBits] using congrArg List.length bitsFinal) aligned
  -- the fragments hold the serialization, since both read as the same bits
  have sameBytes : final.bytes = serialize calls := by
    rcases packs [] with ⟨appended, grown, serialBits, -⟩
    apply bitsOfBytes_injective
    rw [serialize, grown, List.nil_append, serialBits]
    simpa [none] using bitsFinal
  rcases FragmentingInserter.finalize_spec final packed with ⟨flat, full, last⟩
  rw [sameMtu'] at full last
  refine ⟨flat.trans sameBytes, full, last, ?_⟩
  intro nothing
  have noBytes : final.bytes = [] := by
    apply List.eq_nil_of_length_eq_zero
    have length := congrArg List.length bitsFinal
    simp only [List.length_append, length_bitsOfBytes, length_lowBits, length_callBits, nothing] at length
    omega
  rw [← flat] at noBytes
  apply List.eq_nil_of_length_eq_zero
  -- a fragment is never empty, so no bytes means no fragments
  have empties := List.flatten_eq_nil_iff.mp noBytes
  rcases List.eq_nil_or_concat final.finalize with empty | ⟨init, lastFragment, split⟩
  · rw [empty, List.length_nil]
  · have member : lastFragment ∈ final.finalize.getLast? := by simp [split]
    have nonEmpty := (last lastFragment member).1
    rw [empties lastFragment (by simp [split])] at nonEmpty
    simp at nonEmpty

/-- A three-bit field, a five-bit field and a byte, cut at an mtu of one byte. -/
theorem insertBits_packs_and_fragments_fields :
    (getFragments 1 [(5, 3), (0x1f, 5), (0xab, 8)]).flatten = serialize [(5, 3), (0x1f, 5), (0xab, 8)] ∧
      serialize [(5, 3), (0x1f, 5), (0xab, 8)] = [0xfd, 0xab] :=
  ⟨((insertBits_packs_and_fragments [(5, 3), (0x1f, 5), (0xab, 8)] (by decide) (by decide)).2 1
    (by decide)).1, by decide⟩

example : getFragments 1 [(5, 3), (0x1f, 5), (0xab, 8)] = [[0xfd], [0xab]] := by decide

end Packet
end BluetoothStack
