import Mathlib.Data.List.GetD
import Mathlib.Data.List.Basic

namespace BluetoothStack
namespace Hfp

/-!
# Buffering of AT events in the hands-free client (bta/hf_client/bta_hf_client_at.cc)

The audio gateway answers with events ended by CR LF, which RFCOMM hands to
`bta_hf_client_at_parse` in pieces of at most `BTA_HF_CLIENT_RFC_READ_MAX`
bytes.  The bytes collect in `at_cb.buf`, of `BTA_HF_CLIENT_AT_PARSER_MAX_LEN`
bytes, and when a call leaves the buffer ending with CR LF the whole buffer
goes to `bta_hf_client_at_parse_start` and the buffer is cleared.  A call
that does not fit fills the buffer, looks back for the end of its last
complete event, parses up to there and keeps the rest; if the call's bytes
still do not fit after that, they are dropped.

The drop loses events: a stream of three events, none longer than the buffer,
fed in calls of 512 bytes, gets only its first event parsed, while the same
stream fed one event per call gets all three (`hfClientAtParse_drops_events`).
-/

/-- `BTA_HF_CLIENT_AT_PARSER_MAX_LEN`. -/
def btaHfClientAtParserMaxLen : Nat := 4096

/-- `BTA_HF_CLIENT_AT_EVENT_MIN_LEN`. -/
def btaHfClientAtEventMinLen : Nat := 3

/-- What a call of `bta_hf_client_at_parse` does besides buffering:
`bta_hf_client_at_parse_start` on the buffer's bytes, or the disconnection of
an overrun that holds no complete event. -/
inductive HfAtAction where
  | parseStart (buf : List Char)
  | disconnect
  deriving DecidableEq, Repr

/-- `bta_hf_client_check_at_complete` with `at_cb.offset` at `offset`. -/
def checkAtComplete (buf : List Char) (offset : Nat) : Bool :=
  decide (btaHfClientAtEventMinLen ≤ offset) && buf.getD (offset - 2) '\x00' == '\r' &&
    buf.getD (offset - 1) '\x00' == '\n'

/-- The loop of the overrun recovery that lowers `at_cb.offset` until the
buffer ends with a complete event; none when it reaches 0. -/
def findLastComplete (buf : List Char) : Nat → Option Nat
  | 0 => if checkAtComplete buf 0 then some 0 else none
  | offset + 1 => if checkAtComplete buf (offset + 1) then some (offset + 1) else findLastComplete buf offset

/-- The overrun recovery of `bta_hf_client_at_parse`, for a call whose
bytes do not fit: the buffer is filled, cut after its last complete event,
which is parsed, and the rest is kept.  The buffer, the bytes of the call
left to copy and what was done; none when the recovery disconnects. -/
def overrunRecovery (buf data : List Char) : Option (List Char × List Char × List HfAtAction) :=
  if data.length + buf.length > btaHfClientAtParserMaxLen then
    let spaceLeft := btaHfClientAtParserMaxLen - buf.length
    let full := buf ++ data.take spaceLeft
    match findLastComplete full full.length with
    | none => none
    | some offset => some (full.drop offset, data.drop spaceLeft, [.parseStart (full.take offset)])
  else some (buf, data, [])

/-- The end of `bta_hf_client_at_parse`: the bytes are dropped if they still
do not fit, and otherwise copied, and the buffer parsed if it then ends with
a complete event. -/
def appendData (buf data : List Char) (actions : List HfAtAction) : List Char × List HfAtAction :=
  if data.length > btaHfClientAtParserMaxLen - buf.length then (buf, actions)
  else
    let buf := buf ++ data
    if checkAtComplete buf buf.length then ([], actions ++ [.parseStart buf]) else (buf, actions)

/-- `bta_hf_client_at_parse` on the `len` bytes of `data`, with `at_cb.buf`
holding `buf` (`at_cb.offset` is its length): the buffer after the call, and
what the call does. -/
def hfClientAtParse (buf data : List Char) : List Char × List HfAtAction :=
  match overrunRecovery buf data with
  | none => ([], [.disconnect])
  | some (buf, data, actions) => appendData buf data actions

/-- The calls of `bta_hf_client_at_parse` for a stream cut into pieces, with
what each does, in order. -/
def hfClientAtParseChunks (buf : List Char) : List (List Char) → List Char × List HfAtAction
  | [] => (buf, [])
  | chunk :: chunks =>
    let call := hfClientAtParse buf chunk
    let after := hfClientAtParseChunks call.1 chunks
    (after.1, call.2 ++ after.2)

/-! ## The buffer keeps within its size -/

theorem overrunRecovery_fits {buf data : List Char} (fits : data.length + buf.length ≤ btaHfClientAtParserMaxLen) :
    overrunRecovery buf data = some (buf, data, []) := by
  rw [overrunRecovery, if_neg (by omega)]

-- what the recovery keeps is the tail of the filled buffer
/-! ## Calls that only collect bytes -/

-- a call that fits and leaves the buffer without CR LF at its end only collects its bytes
theorem hfClientAtParse_collect {buf data : List Char} (fits : data.length + buf.length ≤ btaHfClientAtParserMaxLen)
    (open_ : checkAtComplete (buf ++ data) (buf ++ data).length = false) :
    hfClientAtParse buf data = (buf ++ data, []) := by
  rw [hfClientAtParse, overrunRecovery_fits fits]
  dsimp only
  rw [appendData, if_neg (by omega)]
  dsimp only
  rw [if_neg (by rw [open_]; decide)]

-- a call that fits and ends the buffer with CR LF hands the whole buffer to parse_start
theorem hfClientAtParse_complete {buf data : List Char} (fits : data.length + buf.length ≤ btaHfClientAtParserMaxLen)
    (complete : checkAtComplete (buf ++ data) (buf ++ data).length = true) :
    hfClientAtParse buf data = ([], [.parseStart (buf ++ data)]) := by
  rw [hfClientAtParse, overrunRecovery_fits fits]
  dsimp only
  rw [appendData, if_neg (by omega)]
  dsimp only
  rw [if_pos complete, List.nil_append]

-- a buffer whose last byte is not LF is not complete
theorem checkAtComplete_of_last (buf : List Char) {data : List Char} {c : Char} (ends : data.getLast? = some c)
    (other : c ≠ '\n') : checkAtComplete (buf ++ data) (buf ++ data).length = false := by
  have split : data = data.dropLast ++ [c] := (List.dropLast_append_getLast? c ends).symm
  have last : (buf ++ data).getD ((buf ++ data).length - 1) '\x00' = c := by
    rw [split, ← List.append_assoc]
    simp [List.getD_eq_getElem?_getD]
  rw [checkAtComplete, last, beq_eq_false_iff_ne.mpr other, Bool.and_false]

theorem hfClientAtParseChunks_collect (buf chunk : List Char) {c : Char} (ends : chunk.getLast? = some c)
    (other : c ≠ '\n') (k : Nat) (fits : buf.length + k * chunk.length ≤ btaHfClientAtParserMaxLen) :
    hfClientAtParseChunks buf (List.replicate k chunk) = (buf ++ (List.replicate k chunk).flatten, []) := by
  induction k generalizing buf with
  | zero => simp [hfClientAtParseChunks]
  | succ k ih =>
    have call := hfClientAtParse_collect (by rw [Nat.succ_mul] at fits; omega) (checkAtComplete_of_last buf ends other)
    rw [List.replicate_succ, hfClientAtParseChunks, call, ih (buf ++ chunk)
      (by rw [Nat.succ_mul] at fits; simp only [List.length_append]; omega)]
    simp

theorem hfClientAtParseChunks_append (buf : List Char) (front back : List (List Char)) :
    hfClientAtParseChunks buf (front ++ back) =
      ((hfClientAtParseChunks (hfClientAtParseChunks buf front).1 back).1,
        (hfClientAtParseChunks buf front).2 ++ (hfClientAtParseChunks (hfClientAtParseChunks buf front).1 back).2) := by
  induction front generalizing buf with
  | nil => simp [hfClientAtParseChunks]
  | cons chunk front ih => simp [hfClientAtParseChunks, ih]

-- a buffer of at least three bytes that ends with CR LF is complete
theorem checkAtComplete_crlf {pre : List Char} (nonempty : pre ≠ []) :
    checkAtComplete (pre ++ ['\r', '\n']) (pre ++ ['\r', '\n']).length = true := by
  have long : 1 ≤ pre.length := List.length_pos_iff.mpr nonempty
  have cr : (pre ++ ['\r', '\n']).getD ((pre ++ ['\r', '\n']).length - 2) '\x00' = '\r' := by
    rw [List.getD_eq_getElem?_getD, List.getElem?_append_right (by simp)]
    simp
  have lf : (pre ++ ['\r', '\n']).getD ((pre ++ ['\r', '\n']).length - 1) '\x00' = '\n' := by
    rw [List.getD_eq_getElem?_getD, List.getElem?_append_right (by simp)]
    simp
  rw [checkAtComplete, cr, lf]
  simp only [List.length_append, List.length_cons, List.length_nil, btaHfClientAtEventMinLen]
  simp only [beq_self_eq_true, Bool.and_true, decide_eq_true_eq]
  omega

/-! ## Events lost over an overrun -/

theorem findLastComplete_of_complete {buf : List Char} {offset : Nat} (complete : checkAtComplete buf offset = true) :
    findLastComplete buf offset = some offset := by
  cases offset with
  | zero => rw [findLastComplete, if_pos complete]
  | succ offset => rw [findLastComplete, if_pos complete]

-- looking back over bytes other than LF passes them all
theorem findLastComplete_skip (buf : List Char) (start n : Nat)
    (others : ∀ k, start < k → k ≤ start + n → buf.getD (k - 1) '\x00' ≠ '\n') :
    findLastComplete buf (start + n) = findLastComplete buf start := by
  induction n with
  | zero => rfl
  | succ n ih =>
    have notComplete : checkAtComplete buf (start + n + 1) = false := by
      rw [checkAtComplete, beq_eq_false_iff_ne.mpr (others (start + n + 1) (by omega) (by omega)), Bool.and_false]
    rw [← Nat.add_assoc, findLastComplete, if_neg (by rw [notComplete]; decide),
      ih (fun k above below => others k above (by omega))]

theorem getD_replicate_tail (pre : List Char) (n : Nat) (c : Char) {k : Nat} (above : pre.length ≤ k)
    (below : k < pre.length + n) : (pre ++ List.replicate n c).getD k '\x00' = c := by
  rw [List.getD_eq_getElem?_getD, List.getElem?_append_right above, List.getElem?_replicate, if_pos (by omega)]
  rfl

-- an event, then the start of a long one that fills the buffer: the next read finds the event
-- and keeps the start of the long one, and its bytes no longer fit
theorem hfClientAtParse_overrun_drops (event : List Char) (complete : checkAtComplete event event.length = true)
    (sized : event.length < btaHfClientAtParserMaxLen) (read : List Char)
    (overruns : event.length < read.length) :
    hfClientAtParse (event ++ List.replicate (btaHfClientAtParserMaxLen - event.length) 'A') read =
      (List.replicate (btaHfClientAtParserMaxLen - event.length) 'A', [.parseStart event]) := by
  have total : (event ++ List.replicate (btaHfClientAtParserMaxLen - event.length) 'A').length =
      btaHfClientAtParserMaxLen := by
    simp only [List.length_append, List.length_replicate]
    omega
  -- the search goes back over the bytes 'A' to the end of the event
  have found : findLastComplete (event ++ List.replicate (btaHfClientAtParserMaxLen - event.length) 'A')
      btaHfClientAtParserMaxLen = some event.length := by
    have skipped := findLastComplete_skip (event ++ List.replicate (btaHfClientAtParserMaxLen - event.length) 'A')
      event.length (btaHfClientAtParserMaxLen - event.length)
      (fun k above below => by rw [getD_replicate_tail event _ 'A' (by omega) (by omega)]; decide)
    rw [Nat.add_sub_cancel' (Nat.le_of_lt sized)] at skipped
    have atEvent : checkAtComplete (event ++ List.replicate (btaHfClientAtParserMaxLen - event.length) 'A')
        event.length = true := by
      have long : btaHfClientAtEventMinLen ≤ event.length := by
        simp only [checkAtComplete, Bool.and_eq_true, decide_eq_true_eq] at complete
        exact complete.1.1
      rw [← complete]
      simp only [checkAtComplete]
      rw [List.getD_append _ _ _ _ (by simp only [btaHfClientAtEventMinLen] at long; omega),
        List.getD_append _ _ _ _ (by simp only [btaHfClientAtEventMinLen] at long; omega)]
    rw [skipped, findLastComplete_of_complete atEvent]
  unfold hfClientAtParse overrunRecovery
  rw [if_pos (by rw [total]; omega)]
  dsimp only
  rw [total, Nat.sub_self, List.take_zero, List.append_nil, total, found]
  dsimp only
  rw [appendData, List.drop_zero, if_pos (by simp only [List.length_drop, total]; omega), List.take_left,
    List.drop_left]

/-- An event of two bytes and its end. -/
def okEvent : List Char := ['O', 'K', '\r', '\n']

/-- An event that fills `BTA_HF_CLIENT_AT_PARSER_MAX_LEN` bytes with its end. -/
def longEvent : List Char := List.replicate 4094 'A' ++ ['\r', '\n']

/-- `okEvent`, `longEvent` and `okEvent` again, in RFCOMM reads of at most
`BTA_HF_CLIENT_RFC_READ_MAX` (512) bytes. -/
def overrunReads : List (List Char) :=
  (okEvent ++ List.replicate 508 'A') :: (List.replicate 7 (List.replicate 512 'A') ++
    [['A', 'A', '\r', '\n', 'O', 'K', '\r', '\n']])

/-- Three events, none longer than the buffer, fed in reads of at most
`BTA_HF_CLIENT_RFC_READ_MAX` bytes: the long one fills the buffer, the read
that would end it is dropped after the recovery, and only the first event is
parsed; fed one event per call, all three are. -/
theorem hfClientAtParse_drops_events :
    overrunReads.flatten = okEvent ++ longEvent ++ okEvent ∧ (∀ read ∈ overrunReads, read.length ≤ 512) ∧
      (hfClientAtParseChunks [] overrunReads).2 = [.parseStart okEvent] ∧
      (hfClientAtParseChunks [] [okEvent, longEvent, okEvent]).2 =
        [.parseStart okEvent, .parseStart longEvent, .parseStart okEvent] := by
  refine ⟨?_, ?_, ?_, ?_⟩
  · -- the reads are a cut of the three events
    have lastRead : (['A', 'A', '\r', '\n', 'O', 'K', '\r', '\n'] : List Char) =
        List.replicate 2 'A' ++ (['\r', '\n'] ++ okEvent) := rfl
    unfold overrunReads longEvent
    rw [List.flatten_cons, List.flatten_append, List.flatten_singleton, List.flatten_replicate_replicate, lastRead,
      List.append_assoc okEvent, ← List.append_assoc (List.replicate (7 * 512) 'A'), List.replicate_append_replicate,
      ← List.append_assoc (List.replicate 508 'A'), List.replicate_append_replicate, List.append_assoc okEvent,
      List.append_assoc (List.replicate 4094 'A')]
  · intro read member
    unfold overrunReads at member
    rw [List.mem_cons, List.mem_append, List.mem_replicate, List.mem_singleton] at member
    rcases member with rfl | ⟨_, rfl⟩ | rfl
    · rw [List.length_append, List.length_replicate]; decide
    · exact Nat.le_of_eq List.length_replicate
    · decide
  · -- eight reads collect 4096 bytes without an end of event; the ninth overruns and is dropped
    have okLength : okEvent.length = 4 := rfl
    have endsA : (okEvent ++ List.replicate 508 'A').getLast? = some 'A' := by
      rw [List.getLast?_append, List.getLast?_replicate, if_neg (by decide)]
      rfl
    have firstRead : hfClientAtParse [] (okEvent ++ List.replicate 508 'A') = (okEvent ++ List.replicate 508 'A', []) :=
      hfClientAtParse_collect (by rw [List.length_append, List.length_replicate, okLength]; decide)
        (checkAtComplete_of_last [] endsA (by decide))
    have collected := hfClientAtParseChunks_collect (okEvent ++ List.replicate 508 'A') (List.replicate 512 'A')
      (c := 'A') (by rw [List.getLast?_replicate, if_neg (by decide)]) (by decide) 7
      (by rw [List.length_append, List.length_replicate, List.length_replicate, okLength]; decide)
    have filled : okEvent ++ List.replicate 508 'A' ++ (List.replicate 7 (List.replicate 512 'A')).flatten =
        okEvent ++ List.replicate (btaHfClientAtParserMaxLen - okEvent.length) 'A' := by
      rw [List.flatten_replicate_replicate, List.append_assoc, List.replicate_append_replicate, okLength]
      rfl
    have dropped := hfClientAtParse_overrun_drops okEvent (by decide) (by decide)
      ['A', 'A', '\r', '\n', 'O', 'K', '\r', '\n'] (by decide)
    unfold overrunReads
    rw [hfClientAtParseChunks, firstRead, hfClientAtParseChunks_append, collected, filled, hfClientAtParseChunks,
      dropped]
    rfl
  · -- one event per call: each call ends with CR LF
    have first : hfClientAtParse [] okEvent = ([], [.parseStart okEvent]) :=
      hfClientAtParse_complete (by decide) (by decide)
    have second : hfClientAtParse [] longEvent = ([], [.parseStart longEvent]) := by
      have longLength : longEvent.length = 4096 := by
        show (List.replicate 4094 'A' ++ ['\r', '\n']).length = 4096
        rw [List.length_append, List.length_replicate]
        rfl
      have nonempty : List.replicate 4094 'A' ≠ [] := List.ne_nil_of_length_pos (by rw [List.length_replicate]; decide)
      have complete : checkAtComplete ([] ++ longEvent) ([] ++ longEvent).length = true := checkAtComplete_crlf nonempty
      exact hfClientAtParse_complete (by rw [longLength]; decide) complete
    rw [hfClientAtParseChunks, first, hfClientAtParseChunks, second, hfClientAtParseChunks, first]
    rfl

end Hfp
end BluetoothStack
