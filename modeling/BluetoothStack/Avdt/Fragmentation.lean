import BluetoothStack.Avdt.Msg
import Mathlib.Data.List.Basic
import Mathlib.Algebra.GroupWithZero.Nat

namespace BluetoothStack
namespace Avdt

open L2cap (btHdrSize btDefaultBufferSize)

/-!
# Fragmenting and reassembling a signalling message

The packets avdt_msg_send writes for a message, over any number of calls cut
short by congestion, are the same (`avdtMsgSendCalls_eq`): one SINGLE packet
when the message fits in the peer MTU less two, and otherwise a START packet,
CONT packets and an END packet of at most the peer MTU each
(`avdtMsgSend_fragments`, `length_le_of_mem_fragments`).  Fed in order to
avdt_msg_asmbl, they give back the message (`avdtMsgAsmblAll_fragments`).

The NOSP byte of the START packet is the code's closed form
(len + 3 - mtu) / (mtu - 1) + 2.  When the bytes after the START packet fill
their CONT and END packets exactly, this is one more than the number of
packets sent (`avdtMsgSend_nosp_exact_multiple`).
-/

/-! ## Header bytes -/

theorem msgPrsPktType_msgBldHdr_fin : ∀ label : Fin 16, ∀ pktType msg : Fin 4,
    msgPrsPktType (msgBldHdr (UInt8.ofNat label.val) (UInt8.ofNat pktType.val) (UInt8.ofNat msg.val)) =
      UInt8.ofNat pktType.val := by
  decide

/-- The receiver reads back the packet type of every header the sender builds
from a four-bit label and a two-bit message type. -/
theorem msgPrsPktType_msgBldHdr {label pktType msg : UInt8} (smallLabel : label < 16) (smallType : pktType < 4)
    (smallMsg : msg < 4) : msgPrsPktType (msgBldHdr label pktType msg) = pktType := by
  have decoded := msgPrsPktType_msgBldHdr_fin ⟨label.toNat, UInt8.lt_iff_toNat_lt.mp smallLabel⟩
    ⟨pktType.toNat, UInt8.lt_iff_toNat_lt.mp smallType⟩ ⟨msg.toNat, UInt8.lt_iff_toNat_lt.mp smallMsg⟩
  simpa using decoded

/-! ## The packets of a message -/

/-- The CONT packets and the END packet that carry the bytes after a START
packet, chunk bytes in each but the last. -/
def contEndPackets (header : UInt8 → UInt8) (chunk : Nat) (rest : List UInt8) : List (List UInt8) :=
  if chunk < rest.length ∧ 0 < chunk then
    (header avdtPktTypeCont :: rest.take chunk) :: contEndPackets header chunk (rest.drop chunk)
  else [header avdtPktTypeEnd :: rest]
termination_by rest.length
decreasing_by
  simp only [List.length_drop]
  omega

/-- The packets of a whole message: SINGLE, or START followed by the CONT and
END packets. -/
def fragments (peerMtu : Nat) (msg : CurrMsg) : List (List UInt8) :=
  if msg.payload.length ≤ peerMtu - avdtLenTypeSingle then
    [msg.header avdtPktTypeSingle :: msg.sig :: msg.payload]
  else
    (msg.header avdtPktTypeStart ::
        UInt8.ofNat ((msg.payload.length + avdtLenTypeStart - peerMtu) / (peerMtu - 1) + 2) ::
        msg.sig :: msg.payload.take (peerMtu - avdtLenTypeStart)) ::
      contEndPackets msg.header (peerMtu - avdtLenTypeCont) (msg.payload.drop (peerMtu - avdtLenTypeStart))

/-- The number of packets of a message of `len` bytes for the peer MTU: one,
or one START packet and ceil((len - (mtu - 3)) / (mtu - 1)) more. -/
def packetCount (peerMtu len : Nat) : Nat :=
  if len ≤ peerMtu - 2 then 1 else 1 + (len - (peerMtu - 3) + (peerMtu - 2)) / (peerMtu - 1)

theorem contEndPackets_cont {header : UInt8 → UInt8} {chunk : Nat} {rest : List UInt8}
    (longer : chunk < rest.length) (positive : 0 < chunk) :
    contEndPackets header chunk rest =
      (header avdtPktTypeCont :: rest.take chunk) :: contEndPackets header chunk (rest.drop chunk) := by
  rw [contEndPackets, if_pos ⟨longer, positive⟩]

theorem contEndPackets_end {header : UInt8 → UInt8} {chunk : Nat} {rest : List UInt8}
    (fits : rest.length ≤ chunk) : contEndPackets header chunk rest = [header avdtPktTypeEnd :: rest] := by
  rw [contEndPackets, if_neg (fun both => absurd both.1 (Nat.not_lt.mpr fits))]

theorem length_contEndPackets (header : UInt8 → UInt8) {chunk : Nat} (positive : 0 < chunk) :
    ∀ rest : List UInt8, 0 < rest.length →
      (contEndPackets header chunk rest).length = (rest.length + chunk - 1) / chunk := by
  intro rest
  induction rest using contEndPackets.induct chunk with
  | case1 rest split ih =>
    intro _
    rw [contEndPackets_cont split.1 positive, List.length_cons, ih (by simp; omega), List.length_drop]
    -- one packet of chunk bytes, then the rest: ceil(r / c) = ceil((r - c) / c) + 1
    have shifted : rest.length + chunk - 1 = (rest.length - chunk + chunk - 1) + chunk := by omega
    rw [shifted, Nat.add_div_right _ positive]
  | case2 rest fits =>
    intro nonempty
    have fits : rest.length ≤ chunk := by omega
    rw [contEndPackets_end fits, List.length_singleton]
    -- a single END packet: 1 * c ≤ r + c - 1 < 2 * c
    symm
    exact Nat.div_eq_of_lt_le (by omega) (by omega)

theorem length_le_of_mem_contEndPackets (header : UInt8 → UInt8) {chunk : Nat} (positive : 0 < chunk) :
    ∀ (rest : List UInt8), ∀ packet ∈ contEndPackets header chunk rest, packet.length ≤ chunk + 1 := by
  intro rest
  induction rest using contEndPackets.induct chunk with
  | case1 rest split ih =>
    intro packet member
    rw [contEndPackets_cont split.1 positive, List.mem_cons] at member
    rcases member with rfl | later
    · simp only [List.length_cons, List.length_take]
      omega
    · exact ih packet later
  | case2 rest fits =>
    intro packet member
    rw [contEndPackets_end (by omega), List.mem_singleton] at member
    subst member
    simp only [List.length_cons]
    omega

theorem contEndPackets_ne_nil (header : UInt8 → UInt8) (chunk : Nat) (rest : List UInt8) :
    contEndPackets header chunk rest ≠ [] := by
  rw [contEndPackets]
  split <;> simp

/-! ## What avdt_msg_send writes -/

section Send

variable {peerMtu : Nat}

theorem sendPacket_single {msg : CurrMsg} (fresh : msg.sent = 0)
    (fits : msg.payload.length ≤ peerMtu - avdtLenTypeSingle) :
    sendPacket peerMtu msg = (msg.header avdtPktTypeSingle :: msg.sig :: msg.payload, none) := by
  have whole : msg.len ≤ peerMtu - avdtLenTypeSingle := by
    simp only [CurrMsg.len, fresh]
    omega
  rw [sendPacket, if_pos ⟨fresh, whole⟩, fresh, List.drop_zero]

theorem sendPacket_start {msg : CurrMsg} (fresh : msg.sent = 0)
    (long : peerMtu - avdtLenTypeSingle < msg.payload.length) :
    sendPacket peerMtu msg =
      (msg.header avdtPktTypeStart ::
          UInt8.ofNat ((msg.payload.length + avdtLenTypeStart - peerMtu) / (peerMtu - 1) + 2) ::
          msg.sig :: msg.payload.take (peerMtu - avdtLenTypeStart),
        some { msg with sent := peerMtu - avdtLenTypeStart }) := by
  have whole : msg.len = msg.payload.length := by simp [CurrMsg.len, fresh]
  have notSingle : ¬(msg.sent = 0 ∧ msg.len ≤ peerMtu - avdtLenTypeSingle) := by
    rintro ⟨_, fits⟩
    omega
  rw [sendPacket, if_neg notSingle, if_pos fresh, whole]
  simp only [fresh, List.drop_zero, Nat.zero_add]

theorem sendPacket_cont {msg : CurrMsg} (fragmenting : 0 < msg.sent) (long : peerMtu - avdtLenTypeCont < msg.len) :
    sendPacket peerMtu msg =
      (msg.header avdtPktTypeCont :: (msg.payload.drop msg.sent).take (peerMtu - avdtLenTypeCont),
        some { msg with sent := msg.sent + (peerMtu - avdtLenTypeCont) }) := by
  have started : msg.sent ≠ 0 := Nat.pos_iff_ne_zero.mp fragmenting
  rw [sendPacket, if_neg (fun both => started both.1), if_neg started, if_pos long]

theorem sendPacket_end {msg : CurrMsg} (fragmenting : 0 < msg.sent) (fits : msg.len ≤ peerMtu - avdtLenTypeCont) :
    sendPacket peerMtu msg = (msg.header avdtPktTypeEnd :: msg.payload.drop msg.sent, none) := by
  have started : msg.sent ≠ 0 := Nat.pos_iff_ne_zero.mp fragmenting
  rw [sendPacket, if_neg (fun both => started both.1), if_neg started, if_neg (Nat.not_lt.mpr fits)]

@[simp]
theorem avdtMsgSend_zero (curr : Option CurrMsg) : avdtMsgSend peerMtu 0 curr = ([], curr) := by
  cases curr <;> rfl

@[simp]
theorem avdtMsgSend_none (budget : Nat) : avdtMsgSend peerMtu budget none = ([], none) := by
  cases budget <;> rfl

theorem avdtMsgSend_succ (budget : Nat) (msg : CurrMsg) :
    avdtMsgSend peerMtu (budget + 1) (some msg) =
      ((sendPacket peerMtu msg).1 :: (avdtMsgSend peerMtu budget (sendPacket peerMtu msg).2).1,
        (avdtMsgSend peerMtu budget (sendPacket peerMtu msg).2).2) := rfl

/-- The loop after the START packet: CONT packets while more than peer_mtu - 1
bytes are left, then the END packet. -/
theorem avdtMsgSend_contEnd (mtu : 2 ≤ peerMtu) :
    ∀ (budget : Nat) (msg : CurrMsg), 0 < msg.sent →
      (contEndPackets msg.header (peerMtu - avdtLenTypeCont) (msg.payload.drop msg.sent)).length ≤ budget →
      avdtMsgSend peerMtu budget (some msg) =
        (contEndPackets msg.header (peerMtu - avdtLenTypeCont) (msg.payload.drop msg.sent), none) := by
  intro budget
  induction budget with
  | zero =>
    intro msg _ enough
    have nonempty := List.length_pos_of_ne_nil (contEndPackets_ne_nil msg.header (peerMtu - avdtLenTypeCont)
      (msg.payload.drop msg.sent))
    omega
  | succ budget ih =>
    intro msg fragmenting enough
    have remaining : (msg.payload.drop msg.sent).length = msg.len := by simp [CurrMsg.len]
    have positive : 0 < peerMtu - avdtLenTypeCont := by simp only [avdtLenTypeCont]; omega
    by_cases long : peerMtu - avdtLenTypeCont < msg.len
    · -- a CONT packet of peer_mtu - 1 bytes, and the loop goes on
      rw [contEndPackets_cont (by omega) positive] at enough ⊢
      rw [avdtMsgSend_succ, sendPacket_cont fragmenting long]
      have later : (contEndPackets msg.header (peerMtu - avdtLenTypeCont)
          (msg.payload.drop (msg.sent + (peerMtu - avdtLenTypeCont)))).length ≤ budget := by
        simpa [List.drop_drop] using enough
      have next : avdtMsgSend peerMtu budget (some { msg with sent := msg.sent + (peerMtu - avdtLenTypeCont) }) =
          (contEndPackets msg.header (peerMtu - avdtLenTypeCont)
            (msg.payload.drop (msg.sent + (peerMtu - avdtLenTypeCont))), none) :=
        ih _ (by simp only; omega) later
      rw [next, List.drop_drop]
    · -- the END packet carries what is left
      rw [contEndPackets_end (by omega)]
      rw [avdtMsgSend_succ, sendPacket_end fragmenting (Nat.not_lt.mp long), avdtMsgSend_none]

/-- With enough writes before congestion, avdt_msg_send sends a new message
whole, as its fragments. -/
theorem avdtMsgSend_fragments {budget : Nat} {msg : CurrMsg} (mtu : 4 ≤ peerMtu) (fresh : msg.sent = 0)
    (enough : (fragments peerMtu msg).length ≤ budget) :
    avdtMsgSend peerMtu budget (some msg) = (fragments peerMtu msg, none) := by
  obtain ⟨budget, rfl⟩ : ∃ more, budget = more + 1 := by
    have := List.length_pos_of_ne_nil (show fragments peerMtu msg ≠ [] by unfold fragments; split <;> simp)
    exact ⟨budget - 1, by omega⟩
  unfold fragments at enough ⊢
  by_cases fits : msg.payload.length ≤ peerMtu - avdtLenTypeSingle
  · rw [if_pos fits, avdtMsgSend_succ, sendPacket_single fresh fits, avdtMsgSend_none]
  · rw [if_neg fits] at enough ⊢
    rw [avdtMsgSend_succ, sendPacket_start fresh (Nat.lt_of_not_le fits)]
    have rest : avdtMsgSend peerMtu budget (some { msg with sent := peerMtu - avdtLenTypeStart }) =
        (contEndPackets msg.header (peerMtu - avdtLenTypeCont) (msg.payload.drop (peerMtu - avdtLenTypeStart)),
          none) :=
      have later : (contEndPackets msg.header (peerMtu - avdtLenTypeCont)
          (msg.payload.drop (peerMtu - avdtLenTypeStart))).length ≤ budget := by
        simpa using enough
      avdtMsgSend_contEnd (by omega) budget _ (by simp only [avdtLenTypeStart]; omega) later
    rw [rest]

/-- The calls of avdt_msg_send write the packets one call with all their
budgets together would: congestion only decides where they are cut. -/
theorem avdtMsgSend_add (a b : Nat) (curr : Option CurrMsg) :
    avdtMsgSend peerMtu (a + b) curr =
      ((avdtMsgSend peerMtu a curr).1 ++ (avdtMsgSend peerMtu b (avdtMsgSend peerMtu a curr).2).1,
        (avdtMsgSend peerMtu b (avdtMsgSend peerMtu a curr).2).2) := by
  induction a generalizing curr with
  | zero => simp
  | succ a ih =>
    cases curr with
    | none => simp
    | some msg =>
      rw [Nat.add_right_comm, avdtMsgSend_succ, avdtMsgSend_succ, ih]
      rfl

theorem avdtMsgSendCalls_eq (budgets : List Nat) (curr : Option CurrMsg) :
    avdtMsgSendCalls peerMtu budgets curr = avdtMsgSend peerMtu budgets.sum curr := by
  induction budgets generalizing curr with
  | nil => simp [avdtMsgSendCalls]
  | cons budget budgets ih =>
    rw [List.sum_cons, avdtMsgSend_add, avdtMsgSendCalls, ← ih]

end Send

/-! ## The packets' sizes and number -/

section Packets

variable {peerMtu : Nat} {msg : CurrMsg}

/-- No packet is longer than the peer MTU. -/
theorem length_le_of_mem_fragments (mtu : 4 ≤ peerMtu) {packet : List UInt8}
    (member : packet ∈ fragments peerMtu msg) : packet.length ≤ peerMtu := by
  unfold fragments at member
  split at member
  · rename_i fits
    rw [List.mem_singleton] at member
    subst member
    simp only [List.length_cons, avdtLenTypeSingle] at fits ⊢
    omega
  · rcases List.mem_cons.mp member with rfl | later
    · simp only [List.length_cons, List.length_take, avdtLenTypeStart]
      omega
    · have bounded := length_le_of_mem_contEndPackets msg.header (by simp only [avdtLenTypeCont]; omega) _ packet later
      simp only [avdtLenTypeCont] at bounded
      omega

/-- A message goes out in `packetCount` packets. -/
theorem length_fragments (mtu : 4 ≤ peerMtu) :
    (fragments peerMtu msg).length = packetCount peerMtu msg.payload.length := by
  unfold fragments packetCount
  by_cases fits : msg.payload.length ≤ peerMtu - 2
  · rw [if_pos (show msg.payload.length ≤ peerMtu - avdtLenTypeSingle from fits), if_pos fits,
      List.length_singleton]
  · rw [if_neg (show ¬msg.payload.length ≤ peerMtu - avdtLenTypeSingle from fits), if_neg fits, List.length_cons,
      Nat.add_comm]
    have remaining : (msg.payload.drop (peerMtu - avdtLenTypeStart)).length = msg.payload.length - (peerMtu - 3) := by
      simp [avdtLenTypeStart]
    rw [length_contEndPackets msg.header (by simp only [avdtLenTypeCont]; omega) _ (by omega), remaining]
    have chunk : peerMtu - avdtLenTypeCont - 1 = peerMtu - 2 := by simp only [avdtLenTypeCont]; omega
    rw [Nat.add_sub_assoc (by simp only [avdtLenTypeCont]; omega), chunk]
    rfl

/-- The START packet: header, NOSP, signal id and peer_mtu - 3 payload bytes. -/
theorem fragments_start (long : peerMtu - avdtLenTypeSingle < msg.payload.length) :
    ∃ rest, fragments peerMtu msg =
      (msg.header avdtPktTypeStart ::
          UInt8.ofNat ((msg.payload.length + avdtLenTypeStart - peerMtu) / (peerMtu - 1) + 2) ::
          msg.sig :: msg.payload.take (peerMtu - avdtLenTypeStart)) :: rest := by
  unfold fragments
  rw [if_neg (Nat.not_le.mpr long)]
  exact ⟨_, rfl⟩

end Packets

/-- When the bytes after the START packet exactly fill the CONT and END
packets, the NOSP byte avdt_msg_send writes counts one packet more than it
sends. -/
theorem avdtMsgSend_nosp_exact_multiple (peerMtu budget : Nat) (msg : CurrMsg) (mtu : 4 ≤ peerMtu)
    (fresh : msg.sent = 0) (long : peerMtu - 2 < msg.payload.length)
    (multiple : (msg.payload.length - (peerMtu - 3)) % (peerMtu - 1) = 0)
    (enough : packetCount peerMtu msg.payload.length ≤ budget) :
    ∃ start rest, avdtMsgSend peerMtu budget (some msg) = (start :: rest, none) ∧
      start[1]? = some (UInt8.ofNat ((start :: rest).length + 1)) := by
  obtain ⟨rest, split⟩ := fragments_start long
  have sent : avdtMsgSend peerMtu budget (some msg) = (fragments peerMtu msg, none) :=
    avdtMsgSend_fragments mtu fresh (by rw [length_fragments mtu]; exact enough)
  rw [split] at sent
  refine ⟨_, rest, sent, ?_⟩
  have count : (fragments peerMtu msg).length = packetCount peerMtu msg.payload.length := length_fragments mtu
  rw [split] at count
  rw [count]
  -- with r = k (mtu - 1) bytes after START, ceil (r / (mtu - 1)) = k while NOSP is k + 2
  obtain ⟨k, filled⟩ := Nat.dvd_of_mod_eq_zero multiple
  have nosp : (msg.payload.length + avdtLenTypeStart - peerMtu) / (peerMtu - 1) + 2 = k + 2 := by
    have same : msg.payload.length + avdtLenTypeStart - peerMtu = (peerMtu - 1) * k := by
      simp only [avdtLenTypeStart]
      omega
    rw [same, Nat.mul_div_cancel_left _ (by omega)]
  have counted : packetCount peerMtu msg.payload.length + 1 = k + 2 := by
    unfold packetCount
    rw [if_neg (Nat.not_le.mpr long), filled]
    have ceil : ((peerMtu - 1) * k + (peerMtu - 2)) / (peerMtu - 1) = k := by
      rw [Nat.mul_comm]
      exact Nat.div_eq_of_lt_le (by omega) (by rw [Nat.succ_mul]; omega)
    rw [ceil]
    omega
  simp only [List.getElem?_cons_succ, List.getElem?_cons_zero, nosp, counted]

theorem avdtMsgSend_nosp_exact_multiple_mtu48 :
    4 ≤ 48 ∧ (⟨0, 0, 1, List.replicate 92 0, 0⟩ : CurrMsg).sent = 0 ∧
      48 - 2 < (List.replicate 92 (0 : UInt8)).length ∧
      ((List.replicate 92 (0 : UInt8)).length - (48 - 3)) % (48 - 1) = 0 ∧
      packetCount 48 (List.replicate 92 (0 : UInt8)).length ≤ 2 ∧
      ∃ start rest, avdtMsgSend 48 2 (some ⟨0, 0, 1, List.replicate 92 0, 0⟩) = (start :: rest, none) ∧
        start[1]? = some (UInt8.ofNat ((start :: rest).length + 1)) :=
  ⟨by decide, rfl, by decide, by decide, by decide,
    avdtMsgSend_nosp_exact_multiple 48 2 ⟨0, 0, 1, List.replicate 92 0, 0⟩ (by decide) rfl (by decide)
      (by decide) (by decide)⟩

/-! ## Reassembly -/

section Reassembly

variable {packet : RxPacket} {header : UInt8}

theorem avdtMsgAsmblAll_cons (rx : Option RxMsg) (packet : RxPacket) (packets : List RxPacket) :
    avdtMsgAsmblAll rx (packet :: packets) =
      ((avdtMsgAsmbl rx packet).1 :: (avdtMsgAsmblAll (avdtMsgAsmbl rx packet).2 packets).1,
        (avdtMsgAsmblAll (avdtMsgAsmbl rx packet).2 packets).2) := rfl

/-- One call that returns nothing, before calls that return a message at
their last: the message is still returned once, at the last call. -/
theorem replicate_none_cons {α : Type} {count : Nat} (more : 0 < count) (last : α) :
    none :: (List.replicate (count - 1) none ++ [some last]) = List.replicate count none ++ [some last] := by
  obtain ⟨fewer, rfl⟩ : ∃ fewer, count = fewer + 1 := ⟨count - 1, by omega⟩
  rfl

/-- A SINGLE packet is returned as it is, and whatever reassembly was in
progress is dropped. -/
theorem avdtMsgAsmbl_single (rx : Option RxMsg) {sig : UInt8} {payload : List UInt8}
    (bytes : packet.bytes = header :: sig :: payload) (single : msgPrsPktType header = avdtPktTypeSingle) :
    avdtMsgAsmbl rx packet = (some packet.bytes, none) := by
  unfold avdtMsgAsmbl
  rw [bytes]
  simp [single, avdtMsgPktTypeLen, avdtLenTypeSingle]

/-- A START packet that fits the buffer starts a new reassembly, whatever
was in progress: its header byte, then its signal id and payload. -/
theorem avdtMsgAsmbl_start (rx : Option RxMsg) {nosp sig : UInt8} {rest : List UInt8}
    (bytes : packet.bytes = header :: nosp :: sig :: rest) (start : msgPrsPktType header = avdtPktTypeStart)
    (room : btHdrSize + packet.offset + packet.bytes.length ≤ btDefaultBufferSize) :
    avdtMsgAsmbl rx packet = (none, some ⟨packet.offset + packet.bytes.length, header :: sig :: rest⟩) := by
  unfold avdtMsgAsmbl
  rw [bytes] at room ⊢
  simp only [List.length_cons] at room
  have long : ¬rest.length + 1 + 1 + 1 < 3 := by omega
  simp [start, avdtMsgPktTypeLen, avdtLenTypeStart, avdtPktTypeSingle, avdtPktTypeStart, Nat.not_lt.mpr room, long]

theorem avdtMsgAsmbl_cont (rx : RxMsg) {fragment : List UInt8} (bytes : packet.bytes = header :: fragment)
    (cont : msgPrsPktType header = avdtPktTypeCont)
    (room : rx.offset + fragment.length ≤ btDefaultBufferSize - btHdrSize) :
    avdtMsgAsmbl (some rx) packet = (none, some ⟨rx.offset + fragment.length, rx.data ++ fragment⟩) := by
  unfold avdtMsgAsmbl
  rw [bytes]
  simp [cont, avdtMsgPktTypeLen, avdtLenTypeCont, avdtPktTypeSingle, avdtPktTypeStart, avdtPktTypeCont,
    avdtPktTypeEnd, Nat.not_lt.mpr room]

theorem avdtMsgAsmbl_end (rx : RxMsg) {fragment : List UInt8} (bytes : packet.bytes = header :: fragment)
    (finished : msgPrsPktType header = avdtPktTypeEnd)
    (room : rx.offset + fragment.length ≤ btDefaultBufferSize - btHdrSize) :
    avdtMsgAsmbl (some rx) packet = (some (rx.data ++ fragment), none) := by
  unfold avdtMsgAsmbl
  rw [bytes]
  simp [finished, avdtMsgPktTypeLen, avdtLenTypeCont, avdtLenTypeEnd, avdtPktTypeSingle, avdtPktTypeStart,
    avdtPktTypeCont, avdtPktTypeEnd, Nat.not_lt.mpr room]

/-- The CONT and END packets, fed in order whatever their L2CAP offsets,
complete the message when it fits in the reassembly buffer. -/
theorem avdtMsgAsmblAll_contEnd {label msgType : UInt8} (smallLabel : label < 16) (smallMsg : msgType < 4)
    {chunk : Nat} (positive : 0 < chunk) :
    ∀ (rest : List UInt8) (rx : RxMsg) (received : List RxPacket),
      received.map RxPacket.bytes = contEndPackets (fun pktType => msgBldHdr label pktType msgType) chunk rest →
      rx.offset + rest.length ≤ btDefaultBufferSize - btHdrSize →
      avdtMsgAsmblAll (some rx) received =
        (List.replicate (received.length - 1) none ++ [some (rx.data ++ rest)], none) := by
  intro rest
  induction rest using contEndPackets.induct chunk with
  | case1 rest split ih =>
    intro rx received bytes room
    rw [contEndPackets_cont split.1 positive] at bytes
    rcases received with _ | ⟨packet, received⟩
    · cases bytes
    · rw [List.map_cons, List.cons.injEq] at bytes
      rcases bytes with ⟨first, later⟩
      have cont : msgPrsPktType (msgBldHdr label avdtPktTypeCont msgType) = avdtPktTypeCont :=
        msgPrsPktType_msgBldHdr smallLabel (by decide) smallMsg
      have fragmentLength : (rest.take chunk).length = chunk := List.length_take_of_le (by omega)
      have step := avdtMsgAsmbl_cont rx first cont (by omega)
      have more : received ≠ [] := by
        rintro rfl
        exact contEndPackets_ne_nil _ _ _ later.symm
      rw [avdtMsgAsmblAll_cons, step, ih _ received later (by simp only [List.length_drop, fragmentLength]; omega)]
      dsimp only
      rw [List.append_assoc, List.take_append_drop, List.length_cons, Nat.add_sub_cancel,
        replicate_none_cons (List.length_pos_of_ne_nil more)]
  | case2 rest fits =>
    intro rx received bytes room
    rcases received with _ | ⟨packet, _ | ⟨other, received⟩⟩
    · rw [List.map_nil] at bytes
      exact absurd bytes.symm (contEndPackets_ne_nil _ _ _)
    · rw [contEndPackets, if_neg fits, List.map_cons, List.map_nil, List.cons.injEq] at bytes
      have finished : msgPrsPktType (msgBldHdr label avdtPktTypeEnd msgType) = avdtPktTypeEnd :=
        msgPrsPktType_msgBldHdr smallLabel (by decide) smallMsg
      simp only [avdtMsgAsmblAll, avdtMsgAsmbl_end rx bytes.1 finished room]
      rfl
    · rw [contEndPackets, if_neg fits] at bytes
      simp at bytes

/-- The packets of a message, fed in order to avdt_msg_asmbl from any state
of the reassembly, give back the message once, at its last packet: header,
signal id and payload, the header being that of the first packet. -/
theorem avdtMsgAsmblAll_fragments {peerMtu : Nat} {msg : CurrMsg} (mtu : 4 ≤ peerMtu) (smallLabel : msg.label < 16)
    (smallMsg : msg.msgType < 4) (rx : Option RxMsg) (received : List RxPacket)
    (bytes : received.map RxPacket.bytes = fragments peerMtu msg)
    (room : ∀ first ∈ received.head?,
      btHdrSize + first.offset + msg.payload.length + avdtLenTypeStart ≤ btDefaultBufferSize) :
    avdtMsgAsmblAll rx received =
      (List.replicate (received.length - 1) none ++
        [some (msg.header (if msg.payload.length ≤ peerMtu - avdtLenTypeSingle then avdtPktTypeSingle
          else avdtPktTypeStart) :: msg.sig :: msg.payload)], none) := by
  unfold fragments at bytes
  rcases received with _ | ⟨packet, received⟩
  · split at bytes <;> simp at bytes
  · rw [List.map_cons] at bytes
    by_cases fits : msg.payload.length ≤ peerMtu - avdtLenTypeSingle
    · rw [if_pos fits, List.cons.injEq] at bytes
      rcases bytes with ⟨first, later⟩
      rw [List.map_eq_nil_iff] at later
      subst later
      have single : msgPrsPktType (msg.header avdtPktTypeSingle) = avdtPktTypeSingle :=
        msgPrsPktType_msgBldHdr smallLabel (by decide) smallMsg
      simp only [avdtMsgAsmblAll, avdtMsgAsmbl_single rx first single, first, if_pos fits]
      rfl
    · rw [if_neg fits, List.cons.injEq] at bytes
      rcases bytes with ⟨first, later⟩
      have start : msgPrsPktType (msg.header avdtPktTypeStart) = avdtPktTypeStart :=
        msgPrsPktType_msgBldHdr smallLabel (by decide) smallMsg
      have startRoom := room packet rfl
      have startLength : packet.bytes.length = peerMtu := by
        rw [first]
        simp only [List.length_cons, List.length_take, avdtLenTypeStart, avdtLenTypeSingle] at fits ⊢
        omega
      simp only [avdtLenTypeStart, avdtLenTypeSingle] at startRoom fits
      have fitsStart : btHdrSize + packet.offset + packet.bytes.length ≤ btDefaultBufferSize := by
        rw [startLength]
        omega
      have fitsRest : packet.offset + packet.bytes.length + (msg.payload.drop (peerMtu - avdtLenTypeStart)).length ≤
          btDefaultBufferSize - btHdrSize := by
        simp only [List.length_drop, startLength, avdtLenTypeStart]
        omega
      have step := avdtMsgAsmbl_start rx first start fitsStart
      have rest := avdtMsgAsmblAll_contEnd smallLabel smallMsg (by simp only [avdtLenTypeCont]; omega) _
        ⟨packet.offset + packet.bytes.length,
          msg.header avdtPktTypeStart :: msg.sig :: msg.payload.take (peerMtu - avdtLenTypeStart)⟩ received later
        fitsRest
      have whole : (msg.header avdtPktTypeStart :: msg.sig :: msg.payload.take (peerMtu - avdtLenTypeStart)) ++
          msg.payload.drop (peerMtu - avdtLenTypeStart) = msg.header avdtPktTypeStart :: msg.sig :: msg.payload := by
        simp
      have notFits : ¬msg.payload.length ≤ peerMtu - avdtLenTypeSingle := by
        simp only [avdtLenTypeSingle]
        exact fits
      have more : 0 < received.length := List.length_pos_of_ne_nil (by
        rintro rfl
        exact contEndPackets_ne_nil _ _ _ later.symm)
      rw [avdtMsgAsmblAll_cons, step, rest]
      dsimp only
      rw [whole, if_neg notFits, List.length_cons, Nat.add_sub_cancel, replicate_none_cons more]

/-- Where the message being reassembled lies in its buffer: its bytes end at
the offset the next fragment is copied to, which is inside the buffer. -/
def RxMsg.Fits (rx : RxMsg) : Prop :=
  rx.data.length ≤ rx.offset ∧ rx.offset ≤ btDefaultBufferSize - btHdrSize

end Reassembly

/-- However congestion cuts the sending of a new message into calls, once the
calls have been allowed as many writes as it has packets, it is all sent, in
packets of at most the peer MTU, as many as `packetCount` says; and the peer,
given them in order, returns the message once, at the last packet. -/
theorem avdtMsgSendCalls_reassembled {peerMtu : Nat} {msg : CurrMsg} (mtu : 4 ≤ peerMtu) (fresh : msg.sent = 0)
    (smallLabel : msg.label < 16) (smallMsg : msg.msgType < 4) (budgets : List Nat)
    (enough : packetCount peerMtu msg.payload.length ≤ budgets.sum) (rx : Option RxMsg) (received : List RxPacket)
    (bytes : received.map RxPacket.bytes = (avdtMsgSendCalls peerMtu budgets (some msg)).1)
    (room : ∀ first ∈ received.head?,
      btHdrSize + first.offset + msg.payload.length + avdtLenTypeStart ≤ btDefaultBufferSize) :
    (avdtMsgSendCalls peerMtu budgets (some msg)).2 = none ∧
      (∀ packet ∈ (avdtMsgSendCalls peerMtu budgets (some msg)).1, packet.length ≤ peerMtu) ∧
      (avdtMsgSendCalls peerMtu budgets (some msg)).1.length = packetCount peerMtu msg.payload.length ∧
      avdtMsgAsmblAll rx received =
        (List.replicate (packetCount peerMtu msg.payload.length - 1) none ++
          [some (msg.header (if msg.payload.length ≤ peerMtu - avdtLenTypeSingle then avdtPktTypeSingle
            else avdtPktTypeStart) :: msg.sig :: msg.payload)], none) := by
  have sent : avdtMsgSendCalls peerMtu budgets (some msg) = (fragments peerMtu msg, none) := by
    rw [avdtMsgSendCalls_eq]
    exact avdtMsgSend_fragments mtu fresh (by rw [length_fragments mtu]; exact enough)
  rw [sent] at bytes ⊢
  have count : received.length = packetCount peerMtu msg.payload.length := by
    rw [← List.length_map (f := RxPacket.bytes), bytes, length_fragments mtu]
  refine ⟨rfl, fun packet member => length_le_of_mem_fragments mtu member, length_fragments mtu, ?_⟩
  rw [← count]
  exact avdtMsgAsmblAll_fragments mtu smallLabel smallMsg rx received bytes room

theorem avdtMsgSendCalls_reassembled_congested :
    let msg : CurrMsg := ⟨1, 0, 2, [5, 6, 7, 8, 9], 0⟩
    let received : List RxPacket := [⟨0, [20, 3, 2, 5]⟩, ⟨0, [24, 6, 7, 8]⟩, ⟨0, [28, 9]⟩]
    received.map RxPacket.bytes = (avdtMsgSendCalls 4 [1, 2] (some msg)).1 ∧
      avdtMsgAsmblAll none received =
        (List.replicate (packetCount 4 msg.payload.length - 1) none ++
          [some (msg.header (if msg.payload.length ≤ 4 - avdtLenTypeSingle then avdtPktTypeSingle
            else avdtPktTypeStart) :: msg.sig :: msg.payload)], none) := by
  intro msg received
  have sent : received.map RxPacket.bytes = (avdtMsgSendCalls 4 [1, 2] (some msg)).1 := by decide
  have room : ∀ first ∈ received.head?,
      btHdrSize + first.offset + msg.payload.length + avdtLenTypeStart ≤ btDefaultBufferSize := by
    intro first member
    cases member
    decide
  exact ⟨sent, (avdtMsgSendCalls_reassembled (by decide) rfl (by decide) (by decide) [1, 2] (by decide) none
    received sent room).2.2.2⟩

end Avdt
end BluetoothStack
