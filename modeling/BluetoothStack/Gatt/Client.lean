import BluetoothStack.Gatt.Defs
import BluetoothStack.Library.FuelLoop

namespace BluetoothStack
namespace Gatt

open ByteStream FuelLoop

/-!
# The client's Read By Type responses and notifications

`gatt_process_read_by_type_rsp` of `gatt_cl.cc` takes apart the response to
a Read By Type or Read By Group Type request of a discovery or a read: a
length byte, then entries of that many bytes, each a handle and a value.
`gatt_process_notification` takes apart a handle value notification or
indication, and a multiple handle value notification, a list of tuples of a
handle, a length and a value.  Both read the PDU through a pointer that the
code moves without checking it against the PDU's length.  The PDU is memory
from the pointer `p_data` on, as in the server's handlers.

The entry loop keeps its pointer on entry boundaries, so every discovery
result names the handle at the start of an entry of the announced length
(`gattProcessReadByTypeRsp_results_aligned`).  Where the parsing departs
from the PDU's layout is shown at the end: a read by UUID reports the later
entries as part of the first one's value, a length byte of zero is not
rejected, and a multiple notification drops its last tuple when that
tuple's value is empty.
-/

/-! ## Client constants -/

def gattRspReadByType : Nat := 0x09
def gattRspReadByGrpType : Nat := 0x11
def gattHandleValueNotif : Nat := 0x1B
def gattHandleValueInd : Nat := 0x1D
def gattHandleMultiValueNotif : Nat := 0x23

def gattInternalError : Nat := 0x81

/-- `GATT_NOTIFICATION_MIN_LEN`. -/
def gattNotificationMinLen : Nat := 2
/-- `GATT_READ_BY_TYPE_RSP_MIN_LEN`. -/
def gattReadByTypeRspMinLen : Nat := 1

/-- `tGATT_DISC_TYPE`. -/
def gattDiscSrvcAll : Nat := 1
def gattDiscSrvcByUuid : Nat := 2
def gattDiscIncSrvc : Nat := 3
def gattDiscChar : Nat := 4
def gattDiscCharDscpt : Nat := 5

/-- `tGATT_READ_TYPE`. -/
def gattReadByType : Nat := 1
def gattReadByHandle : Nat := 2
def gattReadCharValue : Nat := 5

/-- `disc_type_to_uuid`, read past its six entries as zero. -/
def discTypeToUuid (discType : Nat) : Nat :=
  [0, gattUuidPriService, gattUuidPriService, gattUuidIncludeService, gattUuidCharDeclare, 0].getD discType 0

/-- `tGATTC_OPTYPE`. -/
inductive GattcOptype where
  | none
  | discovery
  | read
  | write
  | exeWrite
  | config
  | notification
  | indication
deriving DecidableEq, Repr

/-! ## Client records -/

/-- `tGATT_DISC_VALUE`: the member of the union a discovery result fills. -/
inductive DiscValue where
  | groupValue (eHandle : Nat) (serviceType : Uuid)
  | inclService (serviceType : Uuid) (sHandle eHandle : Nat)
  | dclrValue (charProp valHandle : Nat) (charUuid : Uuid)
deriving DecidableEq

/-- `tGATT_DISC_RES`. -/
structure DiscRes where
  type : Uuid
  handle : Nat
  value : DiscValue
deriving DecidableEq

/-- `tGATT_VALUE` as a client callback gets it: the handle, the length and
the first `len` bytes of `value`. -/
structure AttValue where
  handle : Nat
  len : Nat
  value : List UInt8
deriving DecidableEq

/-- The fields of `tGATT_CLCB` that the Read By Type response handler reads
and writes.  `hasDiscResCb` is `p_reg && p_reg->app_cb.p_disc_res_cb`. -/
structure ClCb where
  operation : GattcOptype
  opSubtype : Nat
  hasDiscResCb : Bool
  sHandle : Nat
  counter : Nat
  uuid : Uuid
  pAttrBuf : Option (List UInt8)
  waitForReadRsp : Bool
  nextDiscStartHdl : Nat
  readUuid128Result : DiscRes
deriving DecidableEq

/-- The `cb_data.att_value` that `gatt_end_operation` hands the application
of a read: the handle and the counter, at most `GATT_MAX_ATTR_LEN`, and that
many bytes from the data pointer when there is one and the counter is not
zero. -/
def gattEndOperationValue (clcb : ClCb) (pData : Option Nat) (mem : Nat → UInt8) : AttValue :=
  if clcb.operation = .read then
    let len := if clcb.counter > gattMaxAttrLen then gattMaxAttrLen else clcb.counter
    { handle := clcb.sHandle, len,
      value := match pData with
        | some p => if clcb.counter ≠ 0 then window mem p len else List.replicate len 0
        | none => List.replicate len 0 }
  else ⟨0, 0, []⟩

/-- How a response handler hands the procedure on. -/
inductive ClNext where
  /-- It returns at once. -/
  | ignored
  /-- `gatt_end_operation` with a status and the value it reports. -/
  | endOperation (status : Nat) (value : AttValue)
  /-- `gatt_act_read` from an offset. -/
  | actRead (offset : Nat)
  /-- `gatt_act_discovery`. -/
  | actDiscovery
deriving DecidableEq

/-! ## The Read By Type response -/

/-- The state of the entry loop of `gatt_process_read_by_type_rsp`: the
control block, the bytes `len` left, the read pointer `p`, the last `handle`
read and the results handed to `p_disc_res_cb` so far. -/
structure RbtLoop where
  clcb : ClCb
  len : Nat
  p : Nat
  handle : Nat
  results : List DiscRes

/-- What the handler ends with. -/
structure RbtOutcome where
  clcb : ClCb
  results : List DiscRes
  next : ClNext
deriving DecidableEq

namespace RbtLoop

/-- After the loop: the procedure goes on after the last handle read. -/
def finish (st : RbtLoop) : RbtOutcome :=
  let clcb := { st.clcb with sHandle := if st.handle = 0 then 0 else (st.handle + 1) % 65536 }
  { clcb, results := st.results, next := if clcb.operation = .discovery then .actDiscovery else .actRead 0 }

/-- `gatt_end_operation` from inside the loop. -/
def endOperation (st : RbtLoop) (clcb : ClCb) (status : Nat) (pData : Option Nat) (mem : Nat → UInt8) :
    RbtOutcome :=
  { clcb, results := st.results, next := .endOperation status (gattEndOperationValue clcb pData mem) }

/-- The end of a round that keeps its entry: `len -= (value_len +
handle_len)`, and in a discovery the result goes to `p_disc_res_cb`. -/
def keep (st : RbtLoop) (clcb : ClCb) (handleLen valueLen p handle : Nat) (result : DiscRes) : RbtLoop :=
  { clcb, len := st.len - (valueLen + handleLen), p, handle,
    results := if clcb.operation = .discovery ∧ clcb.hasDiscResCb then st.results ++ [result] else st.results }

end RbtLoop

namespace RbtLoop

/-- An entry of a discovery of all services: the end handle of the group,
read into `handle` too, and the service UUID; a UUID of another size ends
the loop. -/
def srvcAllEntry (st : RbtLoop) (mem : Nat → UInt8) (handleLen valueLen : Nat) (type : Uuid) (handle : Nat) :
    Flow RbtLoop RbtOutcome :=
  let p := st.p + 2
  let eHandle := u16leAt mem p
  if !gattHandleIsValid eHandle then .exit (st.endOperation st.clcb gattInvalidHandle none mem)
  else
    match gattParseUuidFromCmd mem (p + 2) valueLen Uuid.kEmpty with
    | none => .exit { st with handle := eHandle }.finish
    | some serviceType =>
      .next (st.keep st.clcb handleLen valueLen (p + 2 + valueLen) eHandle
        ⟨type, handle, .groupValue eHandle serviceType⟩)

/-- An entry of a discovery of included services: the handle range, and a
16-bit UUID, or none, which hands the procedure to a Read of the 128-bit
UUID. -/
def inclSrvcEntry (st : RbtLoop) (mem : Nat → UInt8) (handleLen valueLen : Nat) (type : Uuid) (handle : Nat) :
    Flow RbtLoop RbtOutcome :=
  let p := st.p + 2
  let clcb := st.clcb
  if valueLen < 4 then .exit (st.endOperation clcb gattInvalidPdu none mem)
  else
    let sHandle := u16leAt mem p
    let eHandle := u16leAt mem (p + 2)
    if !gattHandleIsValid sHandle || !gattHandleIsValid eHandle then
      .exit (st.endOperation clcb gattInvalidHandle none mem)
    else if valueLen = 6 then
      .next (st.keep clcb handleLen valueLen (p + 6) handle
        ⟨type, handle, .inclService (Uuid.from16Bit (u16leAt mem (p + 4)).toUInt16) sHandle eHandle⟩)
    else if valueLen = 4 then
      let clcb := { clcb with
        sHandle := sHandle, waitForReadRsp := true, nextDiscStartHdl := (handle + 1) % 65536,
        readUuid128Result := ⟨type, handle, .inclService Uuid.kEmpty sHandle eHandle⟩,
        opSubtype := clcb.opSubtype ||| 0x90 }
      .exit { clcb, results := st.results, next := .actRead 0 }
    else .exit (st.endOperation clcb gattInvalidPdu (some (p + 4)) mem)

/-- The first entry of a read by type: what follows its handle is the value,
read on with Read Blob requests when it fills the PDU. -/
def readByTypeEntry (st : RbtLoop) (mem : Nat → UInt8) (payloadSize handle : Nat) : Flow RbtLoop RbtOutcome :=
  let p := st.p + 2
  -- `counter = len - 2`: every byte after the handle
  let clcb := { st.clcb with counter := st.len - 2, sHandle := handle }
  -- `counter == payload_size - 4`, compared as `int`
  if clcb.counter + 4 = payloadSize then
    let clcb := { clcb with
      opSubtype := gattReadByHandle,
      pAttrBuf := some (clcb.pAttrBuf.getD (List.replicate gattMaxAttrLen 0)) }
    if clcb.counter ≤ gattMaxAttrLen then
      let clcb := { clcb with pAttrBuf := clcb.pAttrBuf.map (fun buf => writeBytes buf 0 (window mem p clcb.counter)) }
      .exit { clcb, results := st.results, next := .actRead clcb.counter }
    else .exit (st.endOperation clcb gattInternalError (some p) mem)
  else .exit (st.endOperation clcb gattSuccess (some p) mem)

/-- An entry of a characteristic declaration, for a discovery of
characteristics or a read of characteristic values by UUID: the properties,
the value handle and the UUID.  An entry of another UUID than the one asked
for is skipped, and a read goes on with the first one that matches. -/
def charEntry (st : RbtLoop) (mem : Nat → UInt8) (handleLen valueLen : Nat) (type : Uuid) (handle : Nat) :
    Flow RbtLoop RbtOutcome :=
  let p := st.p + 2
  let clcb := st.clcb
  if valueLen < 3 then .exit (st.endOperation clcb gattInvalidPdu none mem)
  else
    let charProp := (mem p).toNat
    let valHandle := u16leAt mem (p + 1)
    if !gattHandleIsValid valHandle then .exit (st.endOperation clcb gattInvalidHandle none mem)
    else
      match gattParseUuidFromCmd mem (p + 3) (valueLen - 3) Uuid.kEmpty with
      | none => .exit (st.endOperation clcb gattSuccess none mem)
      | some charUuid =>
        if !clcb.uuid.isEmpty && !charUuid.isEmpty && charUuid != clcb.uuid then
          -- `len -= (value_len + 2)`, with 2 for the handle part whatever the opcode
          .next { st with len := st.len - (valueLen + 2), p := p + valueLen, handle := handle }
        else if clcb.operation = .read then
          .exit
            { clcb := { clcb with sHandle := valHandle, opSubtype := clcb.opSubtype ||| 0x80 },
              results := st.results, next := .actRead 0 }
        else
          .next (st.keep clcb handleLen valueLen (p + valueLen) handle
            ⟨type, handle, .dclrValue charProp valHandle charUuid⟩)

end RbtLoop

/-- One round of the entry loop of `gatt_process_read_by_type_rsp`, with the
value length already less the handle part (`value_len -= handle_len`, an
`uint8_t`): the handle, then the entry as the procedure reads it.  A Read By
Group Type response of a discovery of all services holds service groups;
otherwise the procedure decides. -/
def readByTypeRound (mem : Nat → UInt8) (opCode payloadSize handleLen valueLen : Nat) (st : RbtLoop) :
    Flow RbtLoop RbtOutcome :=
  if st.len < handleLen + valueLen then .exit st.finish
  else
    let handle := u16leAt mem st.p
    let clcb := st.clcb
    let type := Uuid.from16Bit (discTypeToUuid clcb.opSubtype).toUInt16
    if !gattHandleIsValid handle then .exit (st.endOperation clcb gattInvalidHandle none mem)
    else if clcb.operation = .discovery ∧ clcb.opSubtype = gattDiscSrvcAll ∧ opCode = gattRspReadByGrpType then
      st.srvcAllEntry mem handleLen valueLen type handle
    else if clcb.operation = .discovery ∧ clcb.opSubtype = gattDiscIncSrvc then
      st.inclSrvcEntry mem handleLen valueLen type handle
    else if clcb.operation = .read ∧ clcb.opSubtype = gattReadByType then
      st.readByTypeEntry mem payloadSize handle
    else st.charEntry mem handleLen valueLen type handle

/-- `gatt_process_read_by_type_rsp` on the `len` bytes of the response at
`pData` (after its opcode).  The checks of the length byte compare `int`s;
every round consumes at least two bytes, so `len` rounds are enough. -/
def gattProcessReadByTypeRsp (clcb : ClCb) (payloadSize opCode len : Nat) (mem : Nat → UInt8) (pData : Nat) :
    Option RbtOutcome :=
  let start : RbtLoop := ⟨clcb, len - 1, pData + 1, 0, []⟩
  if !clcb.hasDiscResCb ∧ clcb.operation = .discovery then some ⟨clcb, [], .ignored⟩
  else if len < gattReadByTypeRspMinLen then some (start.endOperation clcb gattInvalidPdu none mem)
  else
    let valueLen := (mem pData).toNat
    if payloadSize < valueLen + 2 ∨ len < valueLen + 1 then some (start.endOperation clcb gattError none mem)
    else
      let handleLen := if opCode = gattRspReadByGrpType then 4 else 2
      run (readByTypeRound mem opCode payloadSize handleLen ((valueLen + 256 - handleLen) % 256)) len start

/-! ## Notifications -/

/-- What `gatt_process_notification` does: the values it hands every
registered client in turn, `ind_count`, and whether it confirms the
indication at once or starts the timer for the clients' confirmations. -/
structure NotificationOutcome where
  delivered : List AttValue
  indCount : Nat
  confirmationSent : Bool
  ackTimerStarted : Bool
deriving DecidableEq

/-- The state of the loop over the further tuples of a multiple handle value
notification: `rem_len` (an `int16_t`), the read pointer and the values
delivered so far. -/
structure MultiNotifLoop where
  remLen : Int
  p : Nat
  delivered : List AttValue

/-- One round of that loop: a tuple is read while more than four bytes are
left, its length cut to what is left, and a length above
`GATT_MAX_ATTR_LEN` stops the loop. -/
def multiNotifRound (mem : Nat → UInt8) (st : MultiNotifLoop) : Flow MultiNotifLoop (List AttValue) :=
  if st.remLen ≤ 4 then .exit st.delivered
  else
    let handle := u16leAt mem st.p
    let remLen := (st.remLen - 4).bmod 65536
    -- `std::min((uint16_t)rem_len, value.len)`
    let len := min (remLen % 65536).toNat (u16leAt mem (st.p + 2))
    if len > gattMaxAttrLen then .exit st.delivered
    else .next ⟨(remLen - len).bmod 65536, st.p + 4 + len, st.delivered ++ [⟨handle, len, window mem (st.p + 4) len⟩]⟩

/-- The length of the first value of a notification and where it starts: a
multiple handle value notification gives it after the handle, and it must
fit in the PDU; a single value is the rest of the PDU. -/
def notificationHeader (opCode len : Nat) (mem : Nat → UInt8) (pData : Nat) : Option (Nat × Nat) :=
  if opCode = gattHandleMultiValueNotif then
    if len < gattNotificationMinLen + 2 then none
    else if u16leAt mem (pData + 2) > len - 4 then none
    else some (u16leAt mem (pData + 2), pData + 4)
  else some (len - 2, pData + 2)

/-- `gatt_process_notification` on the `len` bytes of the PDU at `pData`,
with `indCount` the link's `ind_count` and `apps` the registered clients
with a completion callback.  `rem_len` is below `2 ^ 15`, and each round of
the tuple loop lowers it. -/
def gattProcessNotification (indCount apps opCode len : Nat) (mem : Nat → UInt8) (pData : Nat) :
    Option NotificationOutcome :=
  let indication := opCode = gattHandleValueInd
  let discarded : NotificationOutcome := ⟨[], indCount, false, false⟩
  if len < gattNotificationMinLen then some discarded
  else
    let handle := u16leAt mem pData
    if !gattHandleIsValid handle then some { discarded with confirmationSent := indication }
    else
      match notificationHeader opCode len mem pData with
      | none => some discarded
      | some (valueLen, p) =>
        if valueLen > gattMaxAttrLen then some discarded
        else
          let acked : NotificationOutcome :=
            if indication then ⟨[], apps, apps = 0, apps ≠ 0⟩ else discarded
          let first : AttValue := ⟨handle, valueLen, window mem p valueLen⟩
          if opCode ≠ gattHandleMultiValueNotif then some { acked with delivered := [first] }
          else
            -- `(int16_t)len - (4 + value.len)`
            let remLen := ((len : Int).bmod 65536 - (4 + valueLen)).bmod 65536
            (run (multiNotifRound mem) (2 ^ 15) ⟨remLen, p + valueLen, [first]⟩).map fun delivered =>
              { acked with delivered }

/-! ## The rounds of the entry loop -/

namespace RbtLoop

@[simp] theorem keep_clcb (st : RbtLoop) (clcb : ClCb) (handleLen valueLen p handle : Nat) (result : DiscRes) :
    (st.keep clcb handleLen valueLen p handle result).clcb = clcb := rfl
@[simp] theorem keep_len (st : RbtLoop) (clcb : ClCb) (handleLen valueLen p handle : Nat) (result : DiscRes) :
    (st.keep clcb handleLen valueLen p handle result).len = st.len - (valueLen + handleLen) := rfl
@[simp] theorem keep_p (st : RbtLoop) (clcb : ClCb) (handleLen valueLen p handle : Nat) (result : DiscRes) :
    (st.keep clcb handleLen valueLen p handle result).p = p := rfl

/-- The ways a round of the entry loop goes on to the next entry, from the
entry's `handle`: a service group, whose end handle becomes the last handle
read, an included service with a 16-bit UUID, a characteristic declaration,
or a declaration of another UUID than the one asked for, skipped. -/
inductive Goes (handle handleLen valueLen : Nat) (st : RbtLoop) : RbtLoop → Prop where
  | group (eHandle : Nat) (result : DiscRes) (four : handleLen = 4) (named : result.handle = handle) :
      Goes handle handleLen valueLen st (st.keep st.clcb handleLen valueLen (st.p + 2 + 2 + valueLen) eHandle result)
  | included (result : DiscRes) (incl : st.clcb.opSubtype = gattDiscIncSrvc) (six : valueLen = 6)
      (named : result.handle = handle) :
      Goes handle handleLen valueLen st (st.keep st.clcb handleLen valueLen (st.p + 2 + 6) handle result)
  | declaration (result : DiscRes)
      (notGroup : ¬(st.clcb.operation = .discovery ∧ st.clcb.opSubtype = gattDiscSrvcAll ∧ handleLen = 4))
      (named : result.handle = handle) :
      Goes handle handleLen valueLen st (st.keep st.clcb handleLen valueLen (st.p + 2 + valueLen) handle result)
  | skipped
      (notGroup : ¬(st.clcb.operation = .discovery ∧ st.clcb.opSubtype = gattDiscSrvcAll ∧ handleLen = 4)) :
      Goes handle handleLen valueLen st
        { st with len := st.len - (valueLen + 2), p := st.p + 2 + valueLen, handle := handle }

variable {mem : Nat → UInt8} {st st' : RbtLoop} {handleLen valueLen : Nat} {type : Uuid} {handle : Nat}

theorem srvcAllEntry_next (four : handleLen = 4) (going : st.srvcAllEntry mem handleLen valueLen type handle = .next st') :
    Goes handle handleLen valueLen st st' := by
  unfold srvcAllEntry at going
  dsimp only at going
  split_ifs at going
  split at going
  · cases going
  · cases going
    exact .group _ _ four rfl

theorem inclSrvcEntry_next (incl : st.clcb.opSubtype = gattDiscIncSrvc)
    (going : st.inclSrvcEntry mem handleLen valueLen type handle = .next st') :
    Goes handle handleLen valueLen st st' := by
  unfold inclSrvcEntry at going
  dsimp only at going
  split_ifs at going with short invalid six
  cases going
  exact .included _ incl six rfl

theorem readByTypeEntry_ne_next (payloadSize : Nat) : st.readByTypeEntry mem payloadSize handle ≠ .next st' := by
  unfold readByTypeEntry
  dsimp only
  split_ifs <;> nofun

theorem charEntry_next
    (notGroup : ¬(st.clcb.operation = .discovery ∧ st.clcb.opSubtype = gattDiscSrvcAll ∧ handleLen = 4))
    (going : st.charEntry mem handleLen valueLen type handle = .next st') :
    Goes handle handleLen valueLen st st' := by
  unfold charEntry at going
  dsimp only at going
  by_cases short : valueLen < 3
  · rw [if_pos short] at going
    cases going
  by_cases invalid : (!gattHandleIsValid (u16leAt mem (st.p + 2 + 1))) = true
  · rw [if_neg short, if_pos invalid] at going
    cases going
  rw [if_neg short, if_neg invalid] at going
  split at going
  · cases going
  · split_ifs at going
    · cases going
      exact .skipped notGroup
    · cases going
      exact .declaration _ notGroup rfl

/-! What a round that goes on does to the loop state. -/

theorem Goes.moved (goes : Goes handle handleLen valueLen st st') (fits : handleLen + valueLen ≤ st.len)
    (two : 2 ≤ handleLen) :
    st'.clcb = st.clcb ∧ st.p + 2 ≤ st'.p ∧ st'.p + st'.len ≤ st.p + st.len ∧ st'.len + 2 ≤ st.len := by
  cases goes with
  | group eHandle result four => simp only [keep_clcb, keep_p, keep_len, true_and]; omega
  | included result incl six => simp only [keep_clcb, keep_p, keep_len, true_and]; omega
  | declaration result => simp only [keep_clcb, keep_p, keep_len, true_and]; omega
  | skipped => simp only [true_and]; omega

/-- Unless a Read By Group Type response comes to another procedure than a
discovery of all services, a round that goes on moves past exactly one
entry of `handle_len + value_len` bytes. -/
theorem Goes.aligned (goes : Goes handle handleLen valueLen st st')
    (consistent : handleLen = 4 → st.clcb.operation = .discovery ∧ st.clcb.opSubtype = gattDiscSrvcAll)
    (sized : handleLen = 2 ∨ handleLen = 4) :
    st'.p = st.p + (handleLen + valueLen) ∧ st'.len = st.len - (handleLen + valueLen) := by
  -- a round that is not a service group has a handle part of two bytes
  have two : ¬(st.clcb.operation = .discovery ∧ st.clcb.opSubtype = gattDiscSrvcAll ∧ handleLen = 4) →
      handleLen = 2 := by
    intro notGroup
    rcases sized with two | four
    · exact two
    · exact absurd ⟨(consistent four).1, (consistent four).2, four⟩ notGroup
  cases goes with
  | group eHandle result four =>
      simp only [keep_p, keep_len]
      omega
  | included result incl six =>
      have notGroup : ¬(st.clcb.operation = .discovery ∧ st.clcb.opSubtype = gattDiscSrvcAll ∧ handleLen = 4) :=
        fun ⟨_, all, _⟩ => by rw [incl] at all; cases all
      simp only [keep_p, keep_len, two notGroup]
      omega
  | declaration result notGroup =>
      simp only [keep_p, keep_len, two notGroup]
      omega
  | skipped notGroup =>
      dsimp only
      rw [two notGroup]
      omega

/-- A round that goes on hands on at most one result, for the entry's handle. -/
theorem Goes.results (goes : Goes handle handleLen valueLen st st') :
    st'.results = st.results ∨ ∃ result : DiscRes, result.handle = handle ∧ st'.results = st.results ++ [result] := by
  cases goes with
  | group eHandle result four named | included result incl six named | declaration result notGroup named =>
      unfold keep
      split_ifs
      · exact .inr ⟨result, named, rfl⟩
      · exact .inl rfl
  | skipped => exact .inl rfl

/-! A round that leaves the loop hands on the results it found. -/

theorem srvcAllEntry_exit {out : RbtOutcome}
    (leaving : st.srvcAllEntry mem handleLen valueLen type handle = .exit out) : out.results = st.results := by
  unfold srvcAllEntry at leaving
  dsimp only at leaving
  split_ifs at leaving
  · cases leaving
    rfl
  · split at leaving
    · cases leaving
      rfl
    · cases leaving

theorem inclSrvcEntry_exit {out : RbtOutcome}
    (leaving : st.inclSrvcEntry mem handleLen valueLen type handle = .exit out) : out.results = st.results := by
  unfold inclSrvcEntry at leaving
  dsimp only at leaving
  split_ifs at leaving <;> (cases leaving; rfl)

theorem readByTypeEntry_exit {out : RbtOutcome} (payloadSize : Nat)
    (leaving : st.readByTypeEntry mem payloadSize handle = .exit out) : out.results = st.results := by
  unfold readByTypeEntry at leaving
  dsimp only at leaving
  split_ifs at leaving <;> (cases leaving; rfl)

theorem charEntry_exit {out : RbtOutcome}
    (leaving : st.charEntry mem handleLen valueLen type handle = .exit out) : out.results = st.results := by
  unfold charEntry at leaving
  dsimp only at leaving
  by_cases short : valueLen < 3
  · rw [if_pos short] at leaving
    cases leaving
    rfl
  by_cases invalid : (!gattHandleIsValid (u16leAt mem (st.p + 2 + 1))) = true
  · rw [if_neg short, if_pos invalid] at leaving
    cases leaving
    rfl
  rw [if_neg short, if_neg invalid] at leaving
  split at leaving
  · cases leaving
    rfl
  · split_ifs at leaving
    cases leaving
    rfl

end RbtLoop

theorem readByTypeRound_exit {mem : Nat → UInt8} {opCode payloadSize handleLen valueLen : Nat} {st : RbtLoop}
    {out : RbtOutcome} (leaving : readByTypeRound mem opCode payloadSize handleLen valueLen st = .exit out) :
    out.results = st.results := by
  unfold readByTypeRound at leaving
  dsimp only at leaving
  split_ifs at leaving
  · cases leaving
    rfl
  · cases leaving
    rfl
  · exact RbtLoop.srvcAllEntry_exit leaving
  · exact RbtLoop.inclSrvcEntry_exit leaving
  · exact RbtLoop.readByTypeEntry_exit payloadSize leaving
  · exact RbtLoop.charEntry_exit leaving

/-- A round that goes on has read a valid handle at the pointer, with an
entry's bytes left, and moved on in one of the ways of `RbtLoop.Goes`. -/
theorem readByTypeRound_next {mem : Nat → UInt8} {opCode payloadSize handleLen valueLen : Nat} {st st' : RbtLoop}
    (sized : handleLen = if opCode = gattRspReadByGrpType then 4 else 2)
    (going : readByTypeRound mem opCode payloadSize handleLen valueLen st = .next st') :
    handleLen + valueLen ≤ st.len ∧ RbtLoop.Goes (u16leAt mem st.p) handleLen valueLen st st' := by
  unfold readByTypeRound at going
  by_cases done : st.len < handleLen + valueLen
  · rw [if_pos done] at going
    cases going
  rw [if_neg done] at going
  dsimp only at going
  refine ⟨by omega, ?_⟩
  by_cases invalid : (!gattHandleIsValid (u16leAt mem st.p)) = true
  · rw [if_pos invalid] at going
    cases going
  rw [if_neg invalid] at going
  by_cases group : st.clcb.operation = .discovery ∧ st.clcb.opSubtype = gattDiscSrvcAll ∧ opCode = gattRspReadByGrpType
  · rw [if_pos group] at going
    exact RbtLoop.srvcAllEntry_next (by rw [sized, if_pos group.2.2]) going
  rw [if_neg group] at going
  -- without a Read By Group Type response a handle part of four bytes is no service group
  have notGroup : ¬(st.clcb.operation = .discovery ∧ st.clcb.opSubtype = gattDiscSrvcAll ∧ handleLen = 4) := by
    rintro ⟨discovery, all, four⟩
    have grp : opCode = gattRspReadByGrpType := by
      by_contra other
      rw [sized, if_neg other] at four
      cases four
    exact group ⟨discovery, all, grp⟩
  by_cases incl : st.clcb.operation = .discovery ∧ st.clcb.opSubtype = gattDiscIncSrvc
  · rw [if_pos incl] at going
    exact RbtLoop.inclSrvcEntry_next incl.2 going
  rw [if_neg incl] at going
  by_cases read : st.clcb.operation = .read ∧ st.clcb.opSubtype = gattReadByType
  · rw [if_pos read] at going
    exact absurd going (RbtLoop.readByTypeEntry_ne_next payloadSize)
  rw [if_neg read] at going
  exact RbtLoop.charEntry_next notGroup going

/-- The handle part of an entry is two or four bytes. -/
theorem handleLen_two_or_four {opCode handleLen : Nat} (sized : handleLen = if opCode = gattRspReadByGrpType then 4 else 2) :
    handleLen = 2 ∨ handleLen = 4 := by
  split_ifs at sized
  · exact .inr sized
  · exact .inl sized

/-- A round that goes on keeps the control block and consumes at least two
bytes, moving the pointer at most as far as `len` went down. -/
theorem readByTypeRound_moved {mem : Nat → UInt8} {opCode payloadSize handleLen valueLen : Nat} {st st' : RbtLoop}
    (sized : handleLen = if opCode = gattRspReadByGrpType then 4 else 2)
    (going : readByTypeRound mem opCode payloadSize handleLen valueLen st = .next st') :
    st'.clcb = st.clcb ∧ st.p + 2 ≤ st'.p ∧ st'.p + st'.len ≤ st.p + st.len ∧ st'.len + 2 ≤ st.len := by
  obtain ⟨fits, goes⟩ := readByTypeRound_next sized going
  exact goes.moved fits (by rcases handleLen_two_or_four sized with two | four <;> omega)

/-! ## The whole response -/

section Response

variable {clcb : ClCb} {payloadSize opCode len : Nat} {mem : Nat → UInt8} {pData : Nat}

/-- The results a discovery hands on were read at entry boundaries: each is
for the handle at the start of one of the entries of as many bytes as the
length byte says, inside the response.  This needs the length byte to hold
the handle part, and a Read By Group Type response to come to a discovery
of all services, as the request it answers is sent for no other. -/
theorem gattProcessReadByTypeRsp_results_aligned {out : RbtOutcome}
    (consistent : opCode = gattRspReadByGrpType → clcb.operation = .discovery ∧ clcb.opSubtype = gattDiscSrvcAll)
    (handlePart : (if opCode = gattRspReadByGrpType then 4 else 2) ≤ (mem pData).toNat)
    (ran : gattProcessReadByTypeRsp clcb payloadSize opCode len mem pData = some out) :
    ∀ result ∈ out.results, ∃ k, (k + 1) * (mem pData).toNat ≤ len - 1 ∧
      result.handle = u16leAt mem (pData + 1 + k * (mem pData).toNat) := by
  unfold gattProcessReadByTypeRsp at ran
  dsimp only at ran
  by_cases ignored : (!clcb.hasDiscResCb) = true ∧ clcb.operation = .discovery
  · rw [if_pos ignored] at ran
    cases ran
    nofun
  by_cases short : len < gattReadByTypeRspMinLen
  · rw [if_neg ignored, if_pos short] at ran
    cases ran
    nofun
  by_cases bad : payloadSize < (mem pData).toNat + 2 ∨ len < (mem pData).toNat + 1
  · rw [if_neg ignored, if_neg short, if_pos bad] at ran
    cases ran
    nofun
  rw [if_neg ignored, if_neg short, if_neg bad] at ran
  generalize length : (mem pData).toNat = entry at handlePart bad ⊢
  rw [length] at ran
  generalize sized : (if opCode = gattRspReadByGrpType then 4 else 2) = handleLen at handlePart ran
  have noWrap : (entry + 256 - handleLen) % 256 = entry - handleLen := by
    have := UInt8.toNat_lt (mem pData)
    omega
  rw [noWrap] at ran
  -- the loop stays on entry boundaries, with the results of the entries before
  let Inv : RbtLoop → Prop := fun st => st.clcb = clcb ∧ ∃ k, st.p = pData + 1 + k * entry ∧
    st.len + k * entry = len - 1 ∧ ∀ result ∈ st.results, ∃ j, (j + 1) * entry ≤ len - 1 ∧
      result.handle = u16leAt mem (pData + 1 + j * entry)
  refine run_induction Inv (fun out : RbtOutcome => ∀ result ∈ out.results, ∃ k, (k + 1) * entry ≤ len - 1 ∧
      result.handle = u16leAt mem (pData + 1 + k * entry)) ?_ ?_ ?_ ran
  · rintro st st' ⟨kept, k, at_k, left, found⟩ going
    obtain ⟨fits, goes⟩ := readByTypeRound_next sized.symm going
    have consistent' : handleLen = 4 → st.clcb.operation = .discovery ∧ st.clcb.opSubtype = gattDiscSrvcAll := by
      intro four
      rw [kept]
      apply consistent
      by_contra other
      rw [← sized, if_neg other] at four
      cases four
    obtain ⟨moved, shortened⟩ := goes.aligned consistent' (handleLen_two_or_four sized.symm)
    have whole : handleLen + (entry - handleLen) = entry := by omega
    rw [whole] at moved shortened fits
    refine ⟨(readByTypeRound_moved sized.symm going).1.trans kept, k + 1, ?_, ?_, ?_⟩
    · rw [moved, at_k, Nat.succ_mul]
      omega
    · rw [shortened]
      rw [Nat.succ_mul]
      omega
    · rcases goes.results with same | ⟨result, named, added⟩
      · rw [same]
        exact found
      · intro r member
        rw [added, List.mem_append, List.mem_singleton] at member
        rcases member with earlier | rfl
        · exact found r earlier
        · exact ⟨k, by rw [Nat.succ_mul]; omega, by rw [named, at_k]⟩
  · rintro st out ⟨-, -, -, -, found⟩ leaving
    rw [readByTypeRound_exit leaving]
    exact found
  · exact ⟨rfl, 0, by simp, by simp, nofun⟩

theorem gattProcessReadByTypeRsp_results_aligned_services :
    let clcb : ClCb :=
      { operation := .discovery, opSubtype := gattDiscSrvcAll, hasDiscResCb := true, sHandle := 1, counter := 0,
        uuid := Uuid.from16Bit 0x2800, pAttrBuf := none, waitForReadRsp := false, nextDiscStartHdl := 0,
        readUuid128Result := ⟨Uuid.kEmpty, 0, .inclService Uuid.kEmpty 0 0⟩ }
    let mem := store (fun _ => 0) 0 [6, 0x01, 0x00, 0x05, 0x00, 0x00, 0x18, 0x06, 0x00, 0x09, 0x00, 0x01, 0x18]
    ∃ out, gattProcessReadByTypeRsp clcb 23 gattRspReadByGrpType 13 mem 0 = some out ∧
      ∀ result ∈ out.results, ∃ k, (k + 1) * (mem 0).toNat ≤ 13 - 1 ∧
        result.handle = u16leAt mem (0 + 1 + k * (mem 0).toNat) := by
  intro clcb mem
  obtain ⟨out, ran⟩ : ∃ out, gattProcessReadByTypeRsp clcb 23 gattRspReadByGrpType 13 mem 0 = some out :=
    Option.isSome_iff_exists.mp (by decide)
  exact ⟨out, ran, gattProcessReadByTypeRsp_results_aligned (fun _ => ⟨rfl, rfl⟩) (by decide) ran⟩

end Response

/-! ## Where the parsing departs from the PDU -/

/-- A read of characteristic values by UUID (Battery Level), from handle 1. -/
def readBatteryLevel : ClCb :=
  { operation := .read, opSubtype := gattReadByType, hasDiscResCb := false, sHandle := 1, counter := 0,
    uuid := Uuid.from16Bit 0x2A19, pAttrBuf := none, waitForReadRsp := false, nextDiscStartHdl := 0,
    readUuid128Result := ⟨Uuid.kEmpty, 0, .inclService Uuid.kEmpty 0 0⟩ }

/-- Three responses the client takes apart otherwise than they are laid out.
A Read By Type response with two entries of a handle and two bytes reports
six bytes as the value of the first entry, the second entry with them.  A
length byte of zero, less than the handle part, is not rejected: the read
goes on with a Read By Type request from handle 0.  A multiple handle value
notification whose last tuple has an empty value hands the clients only
the first tuple. -/
theorem readByTypeRsp_misreads_and_notification_drops_tuple :
    (gattProcessReadByTypeRsp readBatteryLevel 23 gattRspReadByType 9
        (store (fun _ => 0) 0 [4, 0x03, 0x00, 0xAA, 0xBB, 0x05, 0x00, 0xCC, 0xDD]) 0).map (·.next) =
      some (.endOperation gattSuccess ⟨3, 6, [0xAA, 0xBB, 0x05, 0x00, 0xCC, 0xDD]⟩) ∧
    (gattProcessReadByTypeRsp readBatteryLevel 23 gattRspReadByType 3 (store (fun _ => 0) 0 [0, 0x03, 0x00]) 0).map
        (fun out => (out.next, out.clcb.sHandle, out.clcb.opSubtype)) =
      some (.actRead 0, 0, gattReadByType) ∧
    (gattProcessNotification 0 1 gattHandleMultiValueNotif 9
        (store (fun _ => 0) 0 [0x01, 0x00, 0x01, 0x00, 0xAA, 0x02, 0x00, 0x00, 0x00]) 0).map (·.delivered) =
      some [⟨1, 1, [0xAA]⟩] := by
  refine ⟨?_, ?_, ?_⟩ <;> decide

end Gatt
end BluetoothStack
