import BluetoothStack.Gatt.ServerAnswers

namespace BluetoothStack
namespace Gatt

open ByteStream

/-!
# Read Multiple responses

`build_read_multi_rsp` answers a Read Multiple (Variable) request once the
application has supplied every value: the values queued in `multi_rsp_q` are
matched, in arrival order, with the handles of the request, and written into
a response of at most `mtu` bytes behind its opcode.

When every queued value carries the handle of its position, a Read Multiple
response is the concatenation of the values cut at the MTU
(`buildReadMultiRspFrom_fixed`), and a Read Multiple Variable response is
whole pairs of a length and a value, with at most one last pair cut short
(`buildReadMultiRspFrom_variable`).  A value with another handle makes the
status `GATT_NOT_FOUND`, but only when the loop gets to it: once a value has
been cut at the MTU the rest of the queue is not looked at
(`buildReadMultiRsp_mismatch_after_full`).
-/

/-! ## Appending to a response -/

/-- A response whose buffer has `size` bytes and whose counted bytes are `body`. -/
def Pdu.Holds (size : Nat) (pdu : Pdu) (body : List UInt8) : Prop :=
  pdu.buf.length = size ∧ pdu.len ≤ size ∧ pdu.bytes = body

theorem Pdu.Holds.length_eq {size : Nat} {pdu : Pdu} {body : List UInt8} (holds : pdu.Holds size body) :
    body.length = pdu.len := by
  obtain ⟨sized, within, counted⟩ := holds
  rw [← counted, Pdu.bytes, List.length_take, sized, Nat.min_eq_left within]

/-- Bytes written at the end of what a response holds, and counted, extend it. -/
theorem Pdu.Holds.append {size : Nat} {pdu : Pdu} {body : List UInt8} (holds : pdu.Holds size body)
    (bytes : List UInt8) {count : Nat} (counted : bytes.length = count) (fits : pdu.len + count ≤ size) :
    Pdu.Holds size { pdu.write pdu.len bytes with len := pdu.len + count } (body ++ bytes) := by
  obtain ⟨sized, within, read⟩ := holds
  subst counted
  refine ⟨by rw [Pdu.length_buf_write, sized], fits, ?_⟩
  have front : (pdu.buf.take pdu.len).length = pdu.len := List.length_take_of_le (by omega)
  show (ByteStream.writeBytes pdu.buf pdu.len bytes).take (pdu.len + bytes.length) = body ++ bytes
  rw [writeBytes_eq_append (by omega), List.take_left' (by rw [List.length_append, front]), ← read]
  rfl

/-- A value as Read Multiple Variable sends it: its length, then its bytes. -/
def lengthValuePair (value : List UInt8) : List UInt8 := u16le value.length ++ value

/-! ## The loop over the queued values -/

section Loop

variable {cmd : SrCmd} {mtu : Nat}

/-- Read Multiple, every value queued at its handle's position: the values
are concatenated and cut where the MTU is reached. -/
theorem buildReadMultiRspFrom_fixed (fixed : cmd.multiReq.variableLen = false) (rsps : List AttrRsp)
    {buf : Pdu} {body : List UInt8} (status : Nat) (holds : buf.Holds mtu body) :
    (buildReadMultiRspFrom cmd mtu (rsps.map (·.handle)) rsps (buf, status)).2 = status ∧
      (buildReadMultiRspFrom cmd mtu (rsps.map (·.handle)) rsps (buf, status)).1.Holds mtu
        (body ++ (rsps.flatMap (·.value)).take (mtu - buf.len)) := by
  induction rsps generalizing buf body with
  | nil => exact ⟨rfl, by rw [List.flatMap_nil, List.take_nil, List.append_nil]; exact holds⟩
  | cons rsp rest ih =>
    have within := holds.2.1
    rw [List.map_cons, buildReadMultiRspFrom]
    simp only [fixed, Bool.false_eq_true, if_false, Nat.add_zero]
    rw [if_neg (Nat.not_lt.2 within), List.flatMap_cons]
    by_cases full : buf.len = mtu ∧ 0 < rsp.value.length
    · -- no room is left for a value that has bytes
      rw [if_pos full, full.1, Nat.sub_self, List.take_zero, List.append_nil]
      exact ⟨rfl, holds⟩
    rw [if_neg full, if_pos trivial]
    by_cases cut : min rsp.value.length (mtu - buf.len) < rsp.value.length
    · -- the value is cut at the MTU, and the response ends with it
      rw [if_pos cut]
      have room : min rsp.value.length (mtu - buf.len) = mtu - buf.len := by omega
      rw [List.take_append_of_le_length (by omega),
        show rsp.value.take (mtu - buf.len) = rsp.value.take (min rsp.value.length (mtu - buf.len)) by rw [room]]
      exact ⟨rfl, holds.append _ (List.length_take_of_le (Nat.le_of_lt cut)) (by omega)⟩
    · rw [if_neg cut]
      have whole : min rsp.value.length (mtu - buf.len) = rsp.value.length := by omega
      rw [whole, List.take_length, List.take_append, List.take_of_length_le (by omega)]
      obtain ⟨same, rests⟩ := ih (holds.append rsp.value rfl (by omega))
      refine ⟨same, ?_⟩
      rw [← List.append_assoc, show mtu - buf.len - rsp.value.length = mtu - (buf.len + rsp.value.length) by omega]
      exact rests

/-- Read Multiple Variable, every value queued at its handle's position: whole
pairs of a length and a value for the first values, then at most one pair
whose value is cut short at the MTU. -/
theorem buildReadMultiRspFrom_variable (variableLen : cmd.multiReq.variableLen = true) (rsps : List AttrRsp)
    {buf : Pdu} {body : List UInt8} (status : Nat) (holds : buf.Holds mtu body) :
    (buildReadMultiRspFrom cmd mtu (rsps.map (·.handle)) rsps (buf, status)).2 = status ∧
      ∃ whole tail, (buildReadMultiRspFrom cmd mtu (rsps.map (·.handle)) rsps (buf, status)).1.Holds mtu
          (body ++ ((rsps.take whole).flatMap fun rsp => lengthValuePair rsp.value) ++ tail) ∧
        (tail = [] ∨ ∃ rsp cut, rsps[whole]? = some rsp ∧ cut < rsp.value.length ∧
          tail = lengthValuePair (rsp.value.take cut)) := by
  induction rsps generalizing buf body with
  | nil =>
    refine ⟨rfl, 0, [], ?_, .inl rfl⟩
    rw [List.take_zero, List.flatMap_nil, List.append_nil, List.append_nil]
    exact holds
  | cons rsp rest ih =>
    have within := holds.2.1
    have unchanged : buf.Holds mtu (body ++ ((rsp :: rest).take 0).flatMap (fun rsp => lengthValuePair rsp.value) ++ []) := by
      simpa using holds
    rw [List.map_cons, buildReadMultiRspFrom]
    simp only [variableLen, if_true]
    by_cases noRoom : mtu < buf.len + 2
    · rw [if_pos noRoom]
      exact ⟨rfl, 0, [], unchanged, .inl rfl⟩
    rw [if_neg noRoom]
    by_cases full : buf.len + 2 = mtu ∧ 0 < rsp.value.length
    · -- room for a length field but not for a byte of the value
      rw [if_pos full]
      exact ⟨rfl, 0, [], unchanged, .inl rfl⟩
    rw [if_neg full]
    have fits : min rsp.value.length (mtu - (buf.len + 2)) ≤ rsp.value.length := Nat.min_le_left _ _
    have header := holds.append (u16le (min rsp.value.length (mtu - (buf.len + 2))))
      (show (u16le (min rsp.value.length (mtu - (buf.len + 2)))).length = 2 from rfl) (by omega)
    have value := header.append (rsp.value.take (min rsp.value.length (mtu - (buf.len + 2))))
      (List.length_take_of_le fits) (by dsimp only; omega)
    have paired : u16le (min rsp.value.length (mtu - (buf.len + 2))) ++
        rsp.value.take (min rsp.value.length (mtu - (buf.len + 2))) =
        lengthValuePair (rsp.value.take (min rsp.value.length (mtu - (buf.len + 2)))) := by
      rw [lengthValuePair, List.length_take_of_le fits]
    rw [List.append_assoc, paired] at value
    by_cases cut : min rsp.value.length (mtu - (buf.len + 2)) < rsp.value.length
    · -- the value is cut at the MTU: its pair, with the length cut too, ends the response
      rw [if_pos cut]
      refine ⟨rfl, 0, _, ?_, .inr ⟨rsp, _, rfl, cut, rfl⟩⟩
      simpa using value
    · rw [if_neg cut]
      have whole : min rsp.value.length (mtu - (buf.len + 2)) = rsp.value.length := by omega
      rw [whole, List.take_length] at value ⊢
      obtain ⟨same, count, tail, rests, shape⟩ := ih value
      refine ⟨same, count + 1, tail, ?_, ?_⟩
      · rw [List.take_succ_cons, List.flatMap_cons, ← List.append_assoc]
        exact rests
      · rw [List.getElem?_cons_succ]
        exact shape

/-- A value queued at the position of another handle makes the status
`GATT_NOT_FOUND` when the loop gets to it: the values before it fit whole,
with room for more. -/
theorem buildReadMultiRspFrom_mismatch (good : List AttrRsp) {bad : AttrRsp} {handle : Nat} (rest : List AttrRsp)
    (handles : List Nat) (other : bad.handle ≠ handle) {buf : Pdu} (status : Nat)
    (room : buf.len + (good.map fun rsp => rsp.value.length + (if cmd.multiReq.variableLen then 2 else 0)).sum +
      (if cmd.multiReq.variableLen then 2 else 0) < mtu) :
    (buildReadMultiRspFrom cmd mtu (good.map (·.handle) ++ handle :: handles) (good ++ bad :: rest) (buf, status)).2 =
      gattNotFound := by
  induction good generalizing buf with
  | nil =>
    rw [List.map_nil, List.nil_append, List.nil_append, buildReadMultiRspFrom]
    rw [List.map_nil, List.sum_nil, Nat.add_zero] at room
    dsimp only
    rw [if_neg (by omega), if_neg (by omega), if_neg other]
  | cons rsp good ih =>
    rw [List.map_cons, List.sum_cons] at room
    rw [List.map_cons, List.cons_append, List.cons_append, buildReadMultiRspFrom]
    dsimp only
    -- the value before the mismatch is written whole, behind its length field in the variable form
    cases variableLen : cmd.multiReq.variableLen with
    | false =>
      simp only [variableLen, Bool.false_eq_true, ↓reduceIte, Nat.add_zero] at room ih ⊢
      have whole : min rsp.value.length (mtu - buf.len) = rsp.value.length := by omega
      rw [if_neg (by omega), if_neg (by omega), whole, if_neg (Nat.lt_irrefl _)]
      exact ih (by dsimp only; omega)
    | true =>
      simp only [variableLen, ↓reduceIte] at room ih ⊢
      have whole : min rsp.value.length (mtu - (buf.len + 2)) = rsp.value.length := by omega
      rw [if_neg (by omega), if_neg (by omega), whole, if_neg (Nat.lt_irrefl _)]
      exact ih (by dsimp only; omega)

end Loop

/-! ## The response -/

/-- The response `build_read_multi_rsp` starts from: the opcode, in a buffer of
`mtu` zero bytes. -/
theorem holds_opcode {mtu : Nat} (opened : 0 < mtu) (opCode : UInt8) :
    Pdu.Holds mtu { (Pdu.alloc mtu).write 0 [opCode] with len := 1 } [opCode] := by
  have empty : (Pdu.alloc mtu).Holds mtu [] := ⟨List.length_replicate, Nat.zero_le _, rfl⟩
  exact empty.append [opCode] rfl opened

section Build

variable {cmd : SrCmd} {mtu : Nat}

/-- With an MTU and no response built yet, the loop's response becomes the
command's response and the loop's status its status. -/
theorem buildReadMultiRsp_of_loop (opened : 0 < mtu) (fresh : cmd.pRspMsg = none) (handles : List Nat)
    (requested : cmd.multiReq.handles.take cmd.multiReq.numHandles = handles)
    (counted : (buildReadMultiRspFrom cmd mtu handles cmd.multiRspQ
      ({ (Pdu.alloc mtu).write 0
          [(if cmd.multiReq.variableLen then gattRspReadMultiVar else gattRspReadMulti).toUInt8] with len := 1 },
        cmd.status)).1.len ≠ 0) :
    (buildReadMultiRsp cmd mtu).status = (buildReadMultiRspFrom cmd mtu handles cmd.multiRspQ
      ({ (Pdu.alloc mtu).write 0
          [(if cmd.multiReq.variableLen then gattRspReadMultiVar else gattRspReadMulti).toUInt8] with len := 1 },
        cmd.status)).2 ∧
      (buildReadMultiRsp cmd mtu).pRspMsg = some (buildReadMultiRspFrom cmd mtu handles cmd.multiRspQ
      ({ (Pdu.alloc mtu).write 0
          [(if cmd.multiReq.variableLen then gattRspReadMultiVar else gattRspReadMulti).toUInt8] with len := 1 },
        cmd.status)).1 := by
  unfold buildReadMultiRsp
  rw [if_neg (Nat.pos_iff_ne_zero.1 opened)]
  dsimp only
  rw [requested, if_neg counted, fresh]
  exact ⟨rfl, rfl⟩

/-- Without an MTU nothing is built. -/
theorem buildReadMultiRsp_of_zero (closed : mtu = 0) :
    (buildReadMultiRsp cmd mtu).status = gattIllegalParameter ∧ (buildReadMultiRsp cmd mtu).pRspMsg = cmd.pRspMsg := by
  unfold buildReadMultiRsp
  rw [if_pos closed]
  exact ⟨rfl, rfl⟩

/-- A mismatch the loop gets to is reported, whatever else happens. -/
theorem buildReadMultiRsp_of_notFound (opened : 0 < mtu)
    (loop : (buildReadMultiRspFrom cmd mtu (cmd.multiReq.handles.take cmd.multiReq.numHandles) cmd.multiRspQ
      ({ (Pdu.alloc mtu).write 0
          [(if cmd.multiReq.variableLen then gattRspReadMultiVar else gattRspReadMulti).toUInt8] with len := 1 },
        cmd.status)).2 = gattNotFound) :
    (buildReadMultiRsp cmd mtu).status = gattNotFound := by
  unfold buildReadMultiRsp
  rw [if_neg (Nat.pos_iff_ne_zero.1 opened)]
  dsimp only
  generalize buildReadMultiRspFrom cmd mtu _ _ _ = result at loop ⊢
  obtain ⟨buf, status⟩ := result
  dsimp only at loop ⊢
  by_cases counted : buf.len = 0
  · rw [if_pos counted]
  · rw [if_neg counted]
    by_cases built : cmd.pRspMsg.isSome
    · rw [if_pos built]
      exact loop
    · rw [if_neg built]
      exact loop

/-- `build_read_multi_rsp`.  Without an MTU it fails with
`GATT_ILLEGAL_PARAMETER`.  With one, and every queued value at its handle's
position, the status is kept and the response is at most `mtu` bytes: for
Read Multiple the opcode and the values concatenated and cut at the MTU, for
Read Multiple Variable the opcode and whole pairs of a length and a value,
then at most one pair whose value is cut short.  A value at the position of
another handle makes the status `GATT_NOT_FOUND` when the values before it
fit whole with room left. -/
theorem buildReadMultiRsp_spec (cmd : SrCmd) (mtu : Nat) :
    (mtu = 0 → (buildReadMultiRsp cmd mtu).status = gattIllegalParameter ∧
      (buildReadMultiRsp cmd mtu).pRspMsg = cmd.pRspMsg) ∧
    (0 < mtu → cmd.pRspMsg = none →
      cmd.multiRspQ.map (·.handle) = cmd.multiReq.handles.take cmd.multiReq.numHandles →
      (buildReadMultiRsp cmd mtu).status = cmd.status ∧
        ∃ msg, (buildReadMultiRsp cmd mtu).pRspMsg = some msg ∧ msg.len ≤ mtu ∧
          (cmd.multiReq.variableLen = false →
            msg.bytes = gattRspReadMulti.toUInt8 :: (cmd.multiRspQ.flatMap (·.value)).take (mtu - 1)) ∧
          (cmd.multiReq.variableLen = true → ∃ whole tail,
            msg.bytes = gattRspReadMultiVar.toUInt8 ::
              (((cmd.multiRspQ.take whole).flatMap fun rsp => lengthValuePair rsp.value) ++ tail) ∧
            (tail = [] ∨ ∃ rsp cut, cmd.multiRspQ[whole]? = some rsp ∧ cut < rsp.value.length ∧
              tail = lengthValuePair (rsp.value.take cut)))) ∧
    (∀ (good : List AttrRsp) (bad : AttrRsp) (rest : List AttrRsp) (handle : Nat) (handles : List Nat),
      0 < mtu → cmd.multiRspQ = good ++ bad :: rest →
      cmd.multiReq.handles.take cmd.multiReq.numHandles = good.map (·.handle) ++ handle :: handles →
      bad.handle ≠ handle →
      1 + (good.map fun rsp => rsp.value.length + (if cmd.multiReq.variableLen then 2 else 0)).sum +
        (if cmd.multiReq.variableLen then 2 else 0) < mtu →
      (buildReadMultiRsp cmd mtu).status = gattNotFound) := by
  refine ⟨buildReadMultiRsp_of_zero, fun opened fresh inOrder => ?_, ?_⟩
  · have start := holds_opcode opened
      (if cmd.multiReq.variableLen then gattRspReadMultiVar else gattRspReadMulti).toUInt8
    cases variableLen : cmd.multiReq.variableLen with
    | false =>
      obtain ⟨same, holds⟩ := buildReadMultiRspFrom_fixed variableLen cmd.multiRspQ cmd.status start
      obtain ⟨status, built⟩ := buildReadMultiRsp_of_loop opened fresh _ inOrder.symm
        (by rw [← holds.length_eq, List.singleton_append, List.length_cons]; exact Nat.succ_ne_zero _)
      refine ⟨status.trans same, _, built, holds.2.1, fun _ => ?_, fun wrong => absurd wrong Bool.false_ne_true⟩
      rw [holds.2.2, variableLen]
      rfl
    | true =>
      obtain ⟨same, whole, tail, holds, shape⟩ :=
        buildReadMultiRspFrom_variable variableLen cmd.multiRspQ cmd.status start
      obtain ⟨status, built⟩ := buildReadMultiRsp_of_loop opened fresh _ inOrder.symm
        (by rw [← holds.length_eq, List.append_assoc, List.singleton_append, List.length_cons]
            exact Nat.succ_ne_zero _)
      refine ⟨status.trans same, _, built, holds.2.1, fun wrong => absurd wrong.symm Bool.false_ne_true,
        fun _ => ⟨whole, tail, ?_, shape⟩⟩
      rw [holds.2.2, variableLen, List.append_assoc]
      rfl
  · intro good bad rest handle handles opened queued requested other room
    apply buildReadMultiRsp_of_notFound opened
    rw [requested, queued]
    exact buildReadMultiRspFrom_mismatch good rest handles other cmd.status room

end Build

/-- Read Multiple of handles 1 and 2 with their values queued in order. -/
def inOrderRead : SrCmd :=
  { SrCmd.cleared with
    multiReq := ⟨2, [1, 2], false⟩
    multiRspQ := [⟨1, [0x41]⟩, ⟨2, [0x42, 0x43]⟩]
    status := gattSuccess }

theorem buildReadMultiRsp_spec_inOrderRead : (buildReadMultiRsp inOrderRead 23).status = gattSuccess :=
  ((buildReadMultiRsp_spec inOrderRead 23).2.1 (by decide) rfl rfl).1

/-! ## A mismatch behind a full response -/

/-- Read Multiple of handles 1 and 2, for which the application supplied a
30-byte value of handle 1 and then a value of handle 3. -/
def twoHandleRead : SrCmd :=
  { SrCmd.cleared with
    multiReq := ⟨2, [1, 2], false⟩
    multiRspQ := [⟨1, List.replicate 30 0x41⟩, ⟨3, [0x42]⟩]
    status := gattSuccess }

/-- With an MTU of 23 the value of handle 1 fills the response, and the value
queued at the position of handle 2 but for handle 3 is never looked at: the
response is sent as a success. -/
theorem buildReadMultiRsp_mismatch_after_full :
    (buildReadMultiRsp twoHandleRead 23).status = gattSuccess ∧
      (buildReadMultiRsp twoHandleRead 23).pRspMsg.map Pdu.bytes =
        some (gattRspReadMulti.toUInt8 :: List.replicate 22 0x41) ∧
      twoHandleRead.multiRspQ.map (·.handle) ≠ twoHandleRead.multiReq.handles := by
  refine ⟨?_, ?_, ?_⟩ <;> decide

end Gatt
end BluetoothStack
