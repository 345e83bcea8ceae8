import BluetoothStack.Gatt.Server

namespace BluetoothStack
namespace Gatt

open ByteStream

/-!
# How the server answers a request

An ATT request is answered once: by one PDU, an Error Response or the
matching response, or by the application, with the request left as the
bearer's outstanding command.  A command or a confirmation is not answered.
Two handlers of `gatt_server_handle_client_req` answer otherwise:

* A Find By Type Value for the primary service type whose value is not a
  UUID of two or sixteen bytes is answered twice
  (`gattServerHandleClientReq_findTypeValue_answers_twice`): the handler
  sends `GATT_INVALID_PDU` and goes on to build its response anyway.
* `gatts_process_read_by_type_req` walks the services that overlap the range
  `[s_hdl, e_hdl]` and lets `gatts_db_read_attr_value_by_type` add, from
  each, the attributes of the requested type as handle and value pairs.
  That function never looks at `e_hdl`, so a service that overlaps the
  range contributes its attributes past the range; and an attribute that
  cannot be read after pairs were already added turns the whole answer
  into an Error Response that names it
  (`readByType_ignores_end_and_discards_pairs`).
-/

/-! ## Response PDUs -/

/-- The response PDU an output is, if it is one. -/
def SrOut.response? : SrOut → Option Pdu
  | .pdu _ msg => some msg
  | _ => none

/-- The response PDUs among what a handler handed on, in order. -/
def responses (out : List SrOut) : List Pdu := out.filterMap SrOut.response?

@[simp]
theorem responses_nil : responses [] = [] := rfl

@[simp]
theorem responses_append (first second : List SrOut) :
    responses (first ++ second) = responses first ++ responses second :=
  List.filterMap_append

@[simp]
theorem responses_pdu (cid : Nat) (msg : Pdu) : responses [.pdu cid msg] = [msg] := rfl

@[simp]
theorem responses_gattSrSendReqCallback {env : ServerEnv} {connId transId : Nat} {type : GattsReqType}
    {data : GattsData} : responses (gattSrSendReqCallback env connId transId type data) = [] := by
  unfold gattSrSendReqCallback
  split <;> rfl

/-! ## Sending -/

section Sending

variable {state : SrState} {cid errCode opCode handle : Nat}

/-- An Error Response is sent whenever the bearer has a payload size. -/
theorem gattSendErrorRsp_eq (opened : gattTcbGetPayloadSize state.tcb cid ≠ 0) :
    gattSendErrorRsp state cid errCode opCode handle false =
      ⟨state.tcb, state.out ++ [.pdu cid (attpBuildErrCmd opCode handle errCode)]⟩ := by
  unfold gattSendErrorRsp
  simp only [opened, if_false, Bool.false_eq_true]
  rfl

theorem attpSendSrMsg_some (msg : Pdu) :
    attpSendSrMsg state cid (some msg) = ⟨state.tcb, state.out ++ [.pdu cid { msg with offset := 0 }]⟩ := rfl

/-- The end of most handlers: the response when its build succeeded, an
Error Response with the build's status otherwise; one PDU either way. -/
theorem sendRspOrError_eq (state : SrState) {status : Nat} {msg : Pdu} (opened : gattTcbGetPayloadSize state.tcb cid ≠ 0) :
    (if status ≠ gattSuccess then gattSendErrorRsp state cid status opCode handle false
      else attpSendSrMsg state cid (some msg)) =
      ⟨state.tcb, state.out ++
        [.pdu cid (if status ≠ gattSuccess then attpBuildErrCmd opCode handle status else { msg with offset := 0 })]⟩ := by
  by_cases failed : status ≠ gattSuccess
  · rw [if_pos failed, if_pos failed, gattSendErrorRsp_eq opened]
  · rw [if_neg failed, if_neg failed, attpSendSrMsg_some]

end Sending

/-! ## The dispatcher -/

section Dispatch

variable {env : ServerEnv} {tcb : Tcb} {cid opCode len p : Nat} {mem : Nat → UInt8}

/-- A PDU that fits the payload size, on an idle bearer of a client that is
change-aware, goes to the handler of its opcode. -/
theorem gattServerHandleClientReq_of_aware (idle : gattSrCmdEmpty tcb cid = true)
    (fits : len < gattTcbGetPayloadSize tcb cid) (aware : gattSrIsClChangeAware tcb = true) :
    gattServerHandleClientReq env tcb cid opCode len mem p = gattServerDispatchReq env ⟨tcb, []⟩ cid opCode len mem p := by
  have notBusy : ¬((!gattSrCmdEmpty tcb cid) = true ∧ opCode ≠ gattHandleValueConf) := by
    rw [idle]
    exact fun busy => Bool.false_ne_true busy.1
  unfold gattServerHandleClientReq
  rw [if_neg notBusy, if_neg (Nat.not_le.mpr fits)]
  simp only [gattsProcessDbOutOfSync, aware, if_true, Bool.false_eq_true, if_false]

theorem gattServerDispatchReq_primaryService {state : SrState}
    (discovery : opCode = gattReqReadByGrpType ∨ opCode = gattReqFindTypeValue) :
    gattServerDispatchReq env state cid opCode len mem p = gattsProcessPrimaryServiceReq env state cid opCode len mem p := by
  unfold gattServerDispatchReq
  rw [if_pos discovery]

end Dispatch

/-! ## Service discovery -/

section PrimaryService

variable {env : ServerEnv} {state : SrState} {cid opCode len p : Nat} {mem : Nat → UInt8}

theorem readHandles_of_success (range : (readHandles mem len p).status = gattSuccess) :
    4 ≤ len ∧ readHandles mem len p = ⟨gattSuccess, u16leAt mem p, u16leAt mem (p + 2), len - 4, p + 4⟩ := by
  unfold readHandles at range ⊢
  by_cases short : len < 4
  · rw [if_pos short] at range
    cases range
  · rw [if_neg short] at range ⊢
    dsimp only at range ⊢
    rw [range]
    exact ⟨Nat.not_lt.mp short, rfl⟩

/-- The packet of a Find By Type Value with a valid range: the type is the two
bytes after the range, and the value is what follows. -/
theorem gattsValidatePacketFormat_findTypeValue (range : (readHandles mem len p).status = gattSuccess)
    (long : 6 ≤ len) :
    gattsValidatePacketFormat gattReqFindTypeValue len mem p =
      ⟨⟨gattSuccess, u16leAt mem p, u16leAt mem (p + 2), len - 6, p + 6⟩, Uuid.from16Bit (u16leAt mem (p + 4)).toUInt16⟩ := by
  obtain ⟨-, read⟩ := readHandles_of_success range
  have typeFits : ¬len - 4 < 2 := by omega
  unfold gattsValidatePacketFormat
  simp only [read, ne_eq, not_true_eq_false, if_false, typeFits, if_true, gattParseUuidFromCmd]
  rw [show len - 4 - 2 = len - 6 by omega, show p + 4 + 2 = p + 6 by omega]

theorem gattParseUuidFromCmd_eq_none (mem : Nat → UInt8) (p : Nat) {uuidSize : Nat} (uuid : Uuid)
    (odd : uuidSize ≠ 0 ∧ uuidSize ≠ 2 ∧ uuidSize ≠ 16) : gattParseUuidFromCmd mem p uuidSize uuid = none := by
  unfold gattParseUuidFromCmd
  rw [if_neg odd.2.1, if_neg odd.2.2, if_neg odd.1]

/-- A Find By Type Value of the primary service type with a value that is not
a UUID: the handler refuses it, then answers it again from the service
list. -/
theorem gattsProcessPrimaryServiceReq_refusedValue (env : ServerEnv) (state : SrState) (opened : gattTcbGetPayloadSize state.tcb cid ≠ 0)
    (range : (readHandles mem len p).status = gattSuccess) (typed : u16leAt mem (p + 4) = gattUuidPriService)
    (long : 6 ≤ len) (notUuid : len - 6 ≠ 0 ∧ len - 6 ≠ 2 ∧ len - 6 ≠ 16) :
    ∃ last, gattsProcessPrimaryServiceReq env state cid gattReqFindTypeValue len mem p =
      ⟨state.tcb, state.out ++
        [.pdu cid (attpBuildErrCmd gattReqFindTypeValue (u16leAt mem p) gattInvalidPdu), .pdu cid last]⟩ := by
  unfold gattsProcessPrimaryServiceReq
  simp only [gattsValidatePacketFormat_findTypeValue range long, typed, ne_self_iff_false, if_false, if_true,
    gattParseUuidFromCmd_eq_none mem (p + 6) Uuid.kEmpty notUuid, gattSendErrorRsp_eq opened, opened]
  -- the refusal is sent; the response built after it is the second PDU
  set refusal := SrOut.pdu cid (attpBuildErrCmd gattReqFindTypeValue (u16leAt mem p) gattInvalidPdu)
  rw [sendRspOrError_eq ⟨state.tcb, state.out ++ [refusal]⟩ opened, List.append_assoc]
  exact ⟨_, rfl⟩

end PrimaryService

/-! ## The double answer -/

section FindTypeValue

variable {env : ServerEnv} {tcb : Tcb} {cid len p : Nat} {mem : Nat → UInt8}

/-- A Find By Type Value for the primary service type, on an idle bearer,
whose value is not a UUID of two or sixteen bytes is answered twice: first
with `GATT_INVALID_PDU`, then with the response the handler builds anyway. -/
theorem gattServerHandleClientReq_findTypeValue_answers_twice (idle : gattSrCmdEmpty tcb cid = true)
    (aware : gattSrIsClChangeAware tcb = true) (fits : len < gattTcbGetPayloadSize tcb cid)
    (range : (readHandles mem len p).status = gattSuccess) (typed : u16leAt mem (p + 4) = gattUuidPriService)
    (long : 6 ≤ len) (notUuid : len - 6 ≠ 0 ∧ len - 6 ≠ 2 ∧ len - 6 ≠ 16) :
    (responses (gattServerHandleClientReq env tcb cid gattReqFindTypeValue len mem p).out).length = 2 ∧
      (responses (gattServerHandleClientReq env tcb cid gattReqFindTypeValue len mem p).out).head? =
        some (attpBuildErrCmd gattReqFindTypeValue (u16leAt mem p) gattInvalidPdu) := by
  have opened : gattTcbGetPayloadSize tcb cid ≠ 0 := by omega
  rw [gattServerHandleClientReq_of_aware idle fits aware, gattServerDispatchReq_primaryService (.inr rfl)]
  obtain ⟨last, handled⟩ := gattsProcessPrimaryServiceReq_refusedValue env ⟨tcb, []⟩
    opened range typed long notUuid
  rw [handled]
  exact ⟨rfl, rfl⟩

/-- A server holding one primary service, Battery (0x180F), at handles 1 to 5. -/
def batteryServer : ServerEnv :=
  ⟨[⟨1, 5, true, 3,
    [⟨1, Uuid.from16Bit gattUuidPriService.toUInt16, gattPermRead, .primaryService,
      some { (default : AttrValue) with uuid := Uuid.from16Bit 0x180F }⟩]⟩],
    0, 0, 0, 517, [], fun _ => true⟩

/-- An LE link with the default payload size, idle and change-aware. -/
def idleLeTcb : Tcb :=
  ⟨0, l2capAttCid, false, gattDefBleMtuSize, gattDefBleMtuSize, SrCmd.cleared, SrCmd.cleared, 0, fun _ => 0, 0, 0,
    false, true, ⟨false, false, false, false, 0⟩, []⟩

/-- Find By Type Value from 0x0001 to 0xFFFF for the primary service type
with the three-byte value 01 02 03. -/
def findServiceByThreeBytes : List UInt8 := [0x01, 0x00, 0xFF, 0xFF, 0x00, 0x28, 0x01, 0x02, 0x03]

theorem gattServerHandleClientReq_findTypeValue_answers_twice_batteryServer :
    (responses (gattServerHandleClientReq batteryServer idleLeTcb l2capAttCid gattReqFindTypeValue 9
      (fun i => findServiceByThreeBytes.getD i 0) 0).out).length = 2 ∧
    (responses (gattServerHandleClientReq batteryServer idleLeTcb l2capAttCid gattReqFindTypeValue 9
      (fun i => findServiceByThreeBytes.getD i 0) 0).out).head? =
        some (attpBuildErrCmd gattReqFindTypeValue 1 gattInvalidPdu) :=
  gattServerHandleClientReq_findTypeValue_answers_twice (by decide) (by decide) (by decide) (by decide) (by decide)
    (by decide) (by decide)

end FindTypeValue

/-! ## Read By Type past the range -/

/-- A characteristic declaration at `handle` for the value at `valueHandle`,
readable with `perm`. -/
def charDeclaration (handle valueHandle perm : Nat) : Attr :=
  ⟨handle, Uuid.from16Bit gattUuidCharDeclare.toUInt16, perm, .characteristic,
    some { (default : AttrValue) with charDeclProperty := 0x02, charValHandle := valueHandle }⟩

/-- A characteristic value of type `uuid`, left to the application. -/
def charValue (handle uuid : Nat) : Attr := ⟨handle, Uuid.from16Bit uuid.toUInt16, gattPermRead, .characteristic, none⟩

/-- The Battery service at handles 1 to 5: Battery Level (0x2A19) declared at 2
with its value at 3, and 0x2A1A declared at 4, readable with `secondPerm`,
with its value at 5. -/
def twoCharacteristicServer (secondPerm : Nat) : ServerEnv :=
  ⟨[⟨1, 5, true, 3,
    [⟨1, Uuid.from16Bit gattUuidPriService.toUInt16, gattPermRead, .primaryService,
      some { (default : AttrValue) with uuid := Uuid.from16Bit 0x180F }⟩,
     charDeclaration 2 3 gattPermRead, charValue 3 0x2A19, charDeclaration 4 5 secondPerm, charValue 5 0x2A1A]⟩],
    0, 0, 0, 517, [], fun _ => true⟩

/-- Read By Type of the characteristic declarations (0x2803) from 0x0001 to
`eHdl`. -/
def readCharacteristicDeclarations (eHdl : Nat) : List UInt8 := [0x01, 0x00, eHdl.toUInt8, 0x00, 0x03, 0x28]

/-- Asked for the declarations from 1 to 3, the server also lists the one at
4; and when the declaration at 4 cannot be read, the declaration at 2 is
dropped and an Error Response names handle 4. -/
theorem readByType_ignores_end_and_discards_pairs :
    (responses (gattServerHandleClientReq (twoCharacteristicServer gattPermRead) idleLeTcb l2capAttCid
      gattReqReadByType 6 (fun i => (readCharacteristicDeclarations 3).getD i 0) 0).out).map Pdu.bytes =
        [[0x09, 7, 0x02, 0x00, 0x02, 0x03, 0x00, 0x19, 0x2A, 0x04, 0x00, 0x02, 0x05, 0x00, 0x1A, 0x2A]] ∧
    (responses (gattServerHandleClientReq (twoCharacteristicServer 0) idleLeTcb l2capAttCid
      gattReqReadByType 6 (fun i => (readCharacteristicDeclarations 5).getD i 0) 0).out).map Pdu.bytes =
        [(attpBuildErrCmd gattReqReadByType 4 gattReadNotPermit).bytes] := by
  constructor <;> decide

end Gatt
end BluetoothStack
