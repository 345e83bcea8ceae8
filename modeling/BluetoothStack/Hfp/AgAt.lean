import Mathlib.Data.List.GetD
import Mathlib.Algebra.Group.Int.Defs
import BluetoothStack.Library.ByteStream

namespace BluetoothStack
namespace Hfp

open ByteStream (toInt16)

/-!
# The AT command interpreter of the audio gateway (bta/ag/bta_ag_at.cc)

The hands-free unit sends AT commands over RFCOMM, in pieces of any size.
`bta_ag_at_parse` copies the bytes into the command buffer `p_cmd_buf`, of
`cmd_max_len` bytes, which holds the command across calls.  Null bytes before
a command are skipped; a carriage return or a line feed ends the command,
which goes to `bta_ag_process_at` when it holds more than two bytes and starts
with "AT"; the bytes 0x1A and 0x1B end it with an error.  When the buffer is
full (`cmd_max_len - 1` bytes) and input is left, the command is dropped and
the parser starts again with the next byte.

`bta_ag_process_at` finds the first entry of the command table whose name
matches the text after "AT" (`utl_strucmp`), classifies the argument after
the name (none, `?`, `=?`, `=value` or free-form), checks it against what
the entry accepts and, for an integer `=value`, its range, and calls either
the command callback or the error callback: exactly one callback per command.

Each byte is handled by the same step (`atByte`), and a full buffer is
emptied just before the next byte is taken, whether that byte comes in the
same call or a later one (`atParseLoop_eq_feed`).  A line longer than the
buffer is not dropped whole: once `cmd_max_len - 1` of its bytes have filled
the buffer, what follows is parsed as a command of its own
(`atParse_after_full_buffer`).
-/

/-! ## Commands and callbacks -/

/-- `BTA_AG_AT_NONE`: no argument. -/
def btaAgAtNone : UInt8 := 0x01

/-- `BTA_AG_AT_SET`: `=value`. -/
def btaAgAtSet : UInt8 := 0x02

/-- `BTA_AG_AT_READ`: `?`. -/
def btaAgAtRead : UInt8 := 0x04

/-- `BTA_AG_AT_TEST`: `=?`. -/
def btaAgAtTest : UInt8 := 0x08

/-- `BTA_AG_AT_FREE`: a free-form argument. -/
def btaAgAtFree : UInt8 := 0x10

/-- `BTA_AG_AT_STR`: a string argument. -/
def btaAgAtStr : UInt8 := 0

/-- `BTA_AG_AT_INT`: an integer argument. -/
def btaAgAtInt : UInt8 := 1

/-- `BTA_AG_LOCAL_EVT_BRSF`. -/
def btaAgLocalEvtBrsf : Nat := 0x104

/-- `tBTA_AG_AT_CMD`: an entry of a command table; `max` is an `int16_t`. -/
structure AtCmd where
  pCmd : String
  commandId : Nat
  argType : UInt8
  fmt : UInt8
  min : UInt8
  max : Int
  deriving DecidableEq, Repr

/-- A callback of the interpreter: `p_cmd_cback` with the command id, the
argument type, the argument up to `p_end` and the integer argument, or
`p_err_cback` with whether the command is unknown and the text it is given. -/
inductive AtEvent where
  | cmd (commandId : Nat) (argType : UInt8) (arg : List Char) (intArg : Int)
  | err (unknown : Bool) (text : Option (List Char))
  deriving DecidableEq, Repr

/-! ## utl.cc -/

/-- The digit loop of `utl_str2int`, with the value so far; the end of the
list is the terminating null byte. -/
def str2intDigits : List Char → Int → Int
  | [], _ => -1
  | c :: rest, val =>
    if c < '0' ∨ c > '9' then -1
    else
      let val := val + ((c.toNat - '0'.toNat : Nat) : Int)
      if val > 32767 then -1
      else if rest.headD '\x00' = '\x00' then val
      else str2intDigits rest (val * 10)

/-- `utl_str2int`: leading spaces, then decimal digits to the end of the
string; -1 for anything else and for a value above 32767. -/
def utlStr2int (s : List Char) : Int :=
  let s := s.dropWhile (· = ' ')
  if s.headD '\x00' = '\x00' then -1 else str2intDigits s 0

/-- `utl_strucmp`: `p_t` in upper case against `p_s` until either ends; a
match (0) when `p_s` ends first or both do, 1 when `p_t` ends first. -/
def utlStrucmp : List Char → List Char → Int
  | [], _ => 0
  | a :: _, [] => if a ≠ '\x00' then 1 else 0
  | a :: s, c :: t =>
    if c = '\x00' then (if a ≠ '\x00' then 1 else 0)
    else if a = '\x00' then 0
    else
      let c := if 'a' ≤ c ∧ c ≤ 'z' then Char.ofNat (c.toNat - 0x20) else c
      if a ≠ c then -1 else utlStrucmp s t

/-! ## bta_ag_process_at -/

/-- `std::atoll`: white space, a sign, and the decimal digits after it.  (A
value beyond the range of `long long` is undefined in C; it is kept whole.) -/
def atoll (s : List Char) : Int :=
  let s := s.dropWhile fun c => c = ' ' ∨ c = '\t' ∨ c = '\n' ∨ c = '\x0b' ∨ c = '\x0c' ∨ c = '\r'
  let signed : Bool × List Char :=
    match s with
    | '-' :: rest => (true, rest)
    | '+' :: rest => (false, rest)
    | rest => (false, rest)
  let value : Int := (signed.2.takeWhile Char.isDigit).foldl (fun v c => 10 * v + ((c.toNat - '0'.toNat : Nat) : Int)) 0
  if signed.1 then -value else value

/-- The argument of `AT+BRSF=` under HFP 1.9: a 32-bit value, -1 outside
`[0, 2^32)`, with the bits above the twelve defined features cleared. -/
def brsfArg (pArg : List Char) : Int :=
  let v := atoll pArg
  let v := if v ≥ 2 ^ 32 ∨ v < 0 then -1 else v
  let v := if v > 0 ∧ v.toNat >>> 12 ≠ 0 then ((v.toNat &&& 0xfff : Nat) : Int) else v
  toInt16 v

/-- The lookup loop of `bta_ag_process_at`: the first entry whose name
matches, up to the end-of-table entry with an empty name. -/
def lookup (text : List Char) : List AtCmd → Option AtCmd
  | [] => none
  | entry :: rest =>
    if entry.pCmd.toList.headD '\x00' = '\x00' then none
    else if utlStrucmp entry.pCmd.toList text = 0 then some entry
    else lookup text rest

/-- The type of the argument after the command name, and the argument the
callback gets: past the `=` of a set. -/
def classifyArg (pArg : List Char) : UInt8 × List Char :=
  if pArg.getD 0 '\x00' = '\x00' then (btaAgAtNone, pArg)
  else if pArg.getD 0 '\x00' = '?' ∧ pArg.getD 1 '\x00' = '\x00' then (btaAgAtRead, pArg)
  else if pArg.getD 0 '\x00' = '=' ∧ pArg.getD 1 '\x00' ≠ '\x00' then
    if pArg.getD 1 '\x00' = '?' ∧ pArg.getD 2 '\x00' = '\x00' then (btaAgAtTest, pArg)
    else (btaAgAtSet, pArg.drop 1)
  else (btaAgAtFree, pArg)

/-- `bta_ag_process_at` on the command after "AT" (`p_end` is its end), with
the flag `bta_ag_cmd_brsf_allow_uint32`. -/
def processAt (brsfAllowUint32 : Bool) (pAtTbl : List AtCmd) (text : List Char) : AtEvent :=
  match lookup text pAtTbl with
  | none => .err true (some text)
  | some entry =>
    if entry.pCmd.length > text.length then .err false none
    else
      let arg := classifyArg (text.drop entry.pCmd.length)
      if arg.1 &&& entry.argType ≠ 0 then
        if arg.1 = btaAgAtSet ∧ entry.fmt = btaAgAtInt then
          let intArg :=
            if brsfAllowUint32 ∧ entry.commandId = btaAgLocalEvtBrsf then brsfArg arg.2 else utlStr2int arg.2
          if intArg < (entry.min.toNat : Int) ∨ intArg > entry.max then .err false none
          else .cmd entry.commandId arg.1 arg.2 intArg
        else .cmd entry.commandId arg.1 arg.2 0
      else .err false none

/-! ## bta_ag_at_parse -/

/-- `tBTA_AG_AT_CB`: the command table, the size of the command buffer, at
least 2 (`BTA_AG_CMD_MAX` is 512), and the bytes of the command so far, those
of `p_cmd_buf` before `cmd_pos`. -/
structure AtCb where
  pAtTbl : List AtCmd
  cmdMaxLen : Nat
  cmdBuf : List Char
  twoLe : 2 ≤ cmdMaxLen

section Parse

variable (brsfAllowUint32 : Bool)

/-- The body of the inner loop of `bta_ag_at_parse`, for a byte that fits in
the buffer. -/
def atByte (cb : AtCb) (c : Char) : AtCb × List AtEvent :=
  if cb.cmdBuf = [] ∧ c = '\x00' then (cb, [])
  else if c = '\r' ∨ c = '\n' then
    let line := cb.cmdBuf
    let events :=
      if line.length > 2 ∧ (line.getD 0 '\x00' = 'A' ∨ line.getD 0 '\x00' = 'a') ∧
          (line.getD 1 '\x00' = 'T' ∨ line.getD 1 '\x00' = 't') then
        [processAt brsfAllowUint32 cb.pAtTbl (line.drop 2)]
      else []
    ({ cb with cmdBuf := [] }, events)
  else if c = '\x1a' ∨ c = '\x1b' then ({ cb with cmdBuf := [] }, [.err true (some (cb.cmdBuf ++ [c]))])
  else ({ cb with cmdBuf := cb.cmdBuf ++ [c] }, [])

/-- The loops of `bta_ag_at_parse` from byte `i` of `p_buf`: the inner loop
takes bytes while the buffer has room, and the outer one empties a full
buffer while input is left. -/
def atParseLoop (cb : AtCb) (pBuf : List Char) (i : Nat) : AtCb × List AtEvent :=
  if i < pBuf.length then
    if cb.cmdBuf.length < cb.cmdMaxLen - 1 then
      let step := atByte brsfAllowUint32 cb (pBuf.getD i '\x00')
      let rest := atParseLoop step.1 pBuf (i + 1)
      (rest.1, step.2 ++ rest.2)
    else atParseLoop { cb with cmdBuf := [] } pBuf i
  else (cb, [])
termination_by (pBuf.length - i, cb.cmdBuf.length)
decreasing_by
  · exact Prod.Lex.left _ _ (by omega)
  · have room := cb.twoLe
    exact Prod.Lex.right _ (by simp only [List.length_nil]; omega)

/-- `bta_ag_at_parse` on the `len` bytes of `p_buf`. -/
def atParse (cb : AtCb) (pBuf : List Char) : AtCb × List AtEvent := atParseLoop brsfAllowUint32 cb pBuf 0

/-- A byte fed to the interpreter: a full buffer is emptied, and the byte is
then taken by `atByte`. -/
def atFeed (cb : AtCb) (c : Char) : AtCb × List AtEvent :=
  atByte brsfAllowUint32 (if cb.cmdBuf.length < cb.cmdMaxLen - 1 then cb else { cb with cmdBuf := [] }) c

/-- The bytes of a stream fed one after the other, with the callbacks in order. -/
def atFeedAll : AtCb → List Char → AtCb × List AtEvent
  | cb, [] => (cb, [])
  | cb, c :: rest =>
    let step := atFeed brsfAllowUint32 cb c
    let after := atFeedAll step.1 rest
    (after.1, step.2 ++ after.2)

/-- The bytes of the stream cut into calls of `bta_ag_at_parse`, with the
callbacks of every call in order. -/
def atParseChunks (cb : AtCb) : List (List Char) → AtCb × List AtEvent
  | [] => (cb, [])
  | chunk :: chunks =>
    let call := atParse brsfAllowUint32 cb chunk
    let after := atParseChunks call.1 chunks
    (after.1, call.2 ++ after.2)

/-! ## One stream, however it is cut -/

theorem atFeed_room {cb : AtCb} (room : cb.cmdBuf.length < cb.cmdMaxLen - 1) (c : Char) :
    atFeed brsfAllowUint32 cb c = atByte brsfAllowUint32 cb c := by
  rw [atFeed, if_pos room]

-- a full buffer is emptied before the next byte, whether the parser or the feed empties it
theorem atFeedAll_reset {cb : AtCb} (full : ¬ cb.cmdBuf.length < cb.cmdMaxLen - 1) (c : Char) (rest : List Char) :
    atFeedAll brsfAllowUint32 { cb with cmdBuf := [] } (c :: rest) = atFeedAll brsfAllowUint32 cb (c :: rest) := by
  have room : ({ cb with cmdBuf := [] } : AtCb).cmdBuf.length < ({ cb with cmdBuf := [] } : AtCb).cmdMaxLen - 1 := by
    have twoLe := cb.twoLe
    simp only [List.length_nil]
    omega
  rw [atFeedAll, atFeedAll, atFeed_room brsfAllowUint32 room, atFeed, if_neg full]

/-- The loops of `bta_ag_at_parse` feed the bytes from `i` one after the
other. -/
theorem atParseLoop_eq_feed (cb : AtCb) (pBuf : List Char) (i : Nat) :
    atParseLoop brsfAllowUint32 cb pBuf i = atFeedAll brsfAllowUint32 cb (pBuf.drop i) := by
  fun_induction atParseLoop brsfAllowUint32 cb pBuf i with
  | case1 cb i inside room step rest ih =>
    dsimp only [rest, step] at ih ⊢
    rw [ih, List.drop_eq_getElem_cons inside, atFeedAll, atFeed_room brsfAllowUint32 room,
      List.getD_eq_getElem _ _ inside]
  | case2 cb i inside full ih =>
    rw [ih, List.drop_eq_getElem_cons inside, atFeedAll_reset brsfAllowUint32 full]
  | case3 cb i ended =>
    rw [List.drop_eq_nil_of_le (by omega), atFeedAll]

theorem atFeedAll_append (cb : AtCb) (front back : List Char) :
    atFeedAll brsfAllowUint32 cb (front ++ back) =
      ((atFeedAll brsfAllowUint32 (atFeedAll brsfAllowUint32 cb front).1 back).1,
        (atFeedAll brsfAllowUint32 cb front).2 ++ (atFeedAll brsfAllowUint32 (atFeedAll brsfAllowUint32 cb front).1 back).2) := by
  induction front generalizing cb with
  | nil => simp [atFeedAll]
  | cons c front ih => simp [atFeedAll, ih]

theorem atParse_eq_feed (cb : AtCb) (pBuf : List Char) :
    atParse brsfAllowUint32 cb pBuf = atFeedAll brsfAllowUint32 cb pBuf := by
  rw [atParse, atParseLoop_eq_feed, List.drop_zero]

/-! ## Lines -/

/-- A byte that neither ends a command nor aborts it. -/
def Plain (c : Char) : Prop := c ≠ '\r' ∧ c ≠ '\n' ∧ c ≠ '\x1a' ∧ c ≠ '\x1b'

instance : DecidablePred Plain := fun c => inferInstanceAs (Decidable (c ≠ '\r' ∧ c ≠ '\n' ∧ c ≠ '\x1a' ∧ c ≠ '\x1b'))

-- plain bytes that fit are added to the command, with no callback
theorem atFeedAll_plain {cb : AtCb} {bytes : List Char} (plain : ∀ c ∈ bytes, Plain c)
    (fits : cb.cmdBuf.length + bytes.length ≤ cb.cmdMaxLen - 1) (start : cb.cmdBuf = [] → bytes.head? ≠ some '\x00') :
    atFeedAll brsfAllowUint32 cb bytes = ({ cb with cmdBuf := cb.cmdBuf ++ bytes }, []) := by
  induction bytes generalizing cb with
  | nil => simp [atFeedAll]
  | cons c rest ih =>
    obtain ⟨notCr, notLf, notSub, notEsc⟩ := plain c (by simp)
    have room : cb.cmdBuf.length < cb.cmdMaxLen - 1 := by
      simp only [List.length_cons] at fits
      omega
    have notSkipped : ¬ (cb.cmdBuf = [] ∧ c = '\x00') := fun ⟨empty, nul⟩ => start empty (by simp [nul])
    have taken : atByte brsfAllowUint32 cb c = ({ cb with cmdBuf := cb.cmdBuf ++ [c] }, []) := by
      rw [atByte, if_neg notSkipped, if_neg (fun ends => ends.elim notCr notLf),
        if_neg (fun aborts => aborts.elim notSub notEsc)]
    have after := @ih { cb with cmdBuf := cb.cmdBuf ++ [c] } (fun c member => plain c (by simp [member]))
      (by simp only [List.length_append, List.length_cons, List.length_nil] at fits ⊢; omega)
      (fun empty => absurd empty (by simp))
    simp only [atFeedAll, atFeed_room brsfAllowUint32 room, taken, after, List.append_assoc, List.singleton_append,
      List.nil_append]

/-- Once a line has filled the buffer, the rest of it is parsed as if the
buffer had been empty: its tail is taken as a command of its own. -/
theorem atParse_after_full_buffer {cb : AtCb} (empty : cb.cmdBuf = []) {junk : List Char}
    (plain : ∀ c ∈ junk, Plain c) (first : junk.head? ≠ some '\x00') (full : junk.length = cb.cmdMaxLen - 1)
    (rest : List Char) :
    (atParse brsfAllowUint32 cb (junk ++ rest)).2 = (atParse brsfAllowUint32 cb rest).2 := by
  cases cb with
  | mk pAtTbl cmdMaxLen cmdBuf twoLe =>
    simp only at empty full
    subst empty
    have filled : atFeedAll brsfAllowUint32 ⟨pAtTbl, cmdMaxLen, [], twoLe⟩ junk = (⟨pAtTbl, cmdMaxLen, junk, twoLe⟩, []) :=
      atFeedAll_plain brsfAllowUint32 plain (by simp only [List.length_nil]; omega) (fun _ => first)
    rw [atParse_eq_feed, atParse_eq_feed, atFeedAll_append, filled, List.nil_append]
    cases rest with
    | nil => simp [atFeedAll]
    | cons c rest =>
      -- the byte after the junk finds the buffer full, and the parser empties it
      have notRoom : ¬ (⟨pAtTbl, cmdMaxLen, junk, twoLe⟩ : AtCb).cmdBuf.length < cmdMaxLen - 1 := by
        simp only [full]
        omega
      rw [← atFeedAll_reset brsfAllowUint32 notRoom]

end Parse

/-! ## The command table of HFP -/

/-- `bta_ag_hfp_cmd` of bta_ag_cmd.cc, without its end-of-table entry, with
the values of the event ids. -/
def btaAgHfpCmd : List AtCmd :=
  [⟨"A", 10, btaAgAtNone, btaAgAtStr, 0, 0⟩,
    ⟨"D", 11, btaAgAtNone ||| btaAgAtFree, btaAgAtStr, 0, 0⟩,
    ⟨"+VGS", 7, btaAgAtSet, btaAgAtInt, 0, 15⟩,
    ⟨"+VGM", 8, btaAgAtSet, btaAgAtInt, 0, 15⟩,
    ⟨"+CCWA", 0x101, btaAgAtSet, btaAgAtInt, 0, 1⟩,
    ⟨"+CHLD", 12, btaAgAtSet ||| btaAgAtTest, btaAgAtStr, 0, 4⟩,
    ⟨"+CHUP", 13, btaAgAtNone, btaAgAtStr, 0, 0⟩,
    ⟨"+CIND", 14, btaAgAtRead ||| btaAgAtTest, btaAgAtStr, 0, 0⟩,
    ⟨"+CLIP", 0x102, btaAgAtSet, btaAgAtInt, 0, 1⟩,
    ⟨"+CMER", 0x103, btaAgAtSet, btaAgAtStr, 0, 0⟩,
    ⟨"+VTS", 15, btaAgAtSet, btaAgAtStr, 0, 0⟩,
    ⟨"+BINP", 16, btaAgAtSet, btaAgAtInt, 1, 1⟩,
    ⟨"+BLDN", 17, btaAgAtNone, btaAgAtStr, 0, 0⟩,
    ⟨"+BVRA", 18, btaAgAtSet, btaAgAtInt, 0, 1⟩,
    ⟨"+BRSF", btaAgLocalEvtBrsf, btaAgAtSet, btaAgAtInt, 0, 32767⟩,
    ⟨"+NREC", 19, btaAgAtSet, btaAgAtInt, 0, 0⟩,
    ⟨"+CNUM", 20, btaAgAtNone, btaAgAtStr, 0, 0⟩,
    ⟨"+BTRH", 21, btaAgAtRead ||| btaAgAtSet, btaAgAtInt, 0, 2⟩,
    ⟨"+CLCC", 22, btaAgAtNone, btaAgAtStr, 0, 0⟩,
    ⟨"+COPS", 23, btaAgAtRead ||| btaAgAtSet, btaAgAtStr, 0, 0⟩,
    ⟨"+CMEE", 0x105, btaAgAtSet, btaAgAtInt, 0, 1⟩,
    ⟨"+BIA", 32, btaAgAtSet, btaAgAtStr, 0, 20⟩,
    ⟨"+CBC", 25, btaAgAtSet, btaAgAtInt, 0, 100⟩,
    ⟨"+BCC", 0x106, btaAgAtNone, btaAgAtStr, 0, 0⟩,
    ⟨"+BCS", 27, btaAgAtSet, btaAgAtInt, 0, 32767⟩,
    ⟨"+BIND", 28, btaAgAtSet ||| btaAgAtRead ||| btaAgAtTest, btaAgAtStr, 0, 0⟩,
    ⟨"+BIEV", 29, btaAgAtSet, btaAgAtStr, 0, 0⟩,
    ⟨"+BAC", 26, btaAgAtSet, btaAgAtStr, 0, 0⟩,
    ⟨"+%QAC", 253, btaAgAtSet, btaAgAtStr, 0, 0⟩,
    ⟨"+%QCS", 254, btaAgAtSet, btaAgAtInt, 0, 32767⟩]

-- a dial command after 511 other bytes of the same line, on a buffer of BTA_AG_CMD_MAX bytes
theorem atParse_overlong_line_dispatches_suffix (brsfAllowUint32 : Bool) :
    let cb : AtCb := ⟨btaAgHfpCmd, 512, [], by decide⟩
    let line := List.replicate 511 'X' ++ ['A', 'T', 'D', '1', ';']
    cb.cmdMaxLen - 1 < line.length ∧
      (atParse brsfAllowUint32 cb (line ++ ['\r'])).2 = [.cmd 11 btaAgAtFree ['1', ';'] 0] := by
  intro cb line
  constructor
  · show 512 - 1 < (List.replicate 511 'X' ++ ['A', 'T', 'D', '1', ';']).length
    rw [List.length_append, List.length_replicate]
    decide
  · have junk : ∀ c ∈ List.replicate 511 'X', Plain c := by
      intro c member
      rw [List.eq_of_mem_replicate member]
      decide
    have first : (List.replicate 511 'X').head? ≠ some '\x00' := by
      rw [List.head?_replicate]
      decide
    rw [List.append_assoc, atParse_after_full_buffer brsfAllowUint32 rfl junk first (List.length_replicate),
      atParse_eq_feed]
    -- the rest of the line is "ATD1;" and its carriage return
    cases brsfAllowUint32 <;> decide

end Hfp
end BluetoothStack
