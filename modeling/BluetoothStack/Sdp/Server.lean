import BluetoothStack.Sdp.RequestCodec

namespace BluetoothStack
namespace Sdp

open ByteStream FuelLoop

/-!
# The service attribute request handler

`process_service_attr_req` answers a request for the attributes of one
record.  It writes the attribute entries the request names into a buffer of
`max_list_len` bytes, walking each range of the request by searching again
from one past the ID it last wrote; a response that does not take every entry
ends with a continuation state, and the client asks again with the offset it
was given.  On a first request the entries are preceded by a sequence header
whose length the server counts separately, with `sdpu_get_attrib_seq_len`,
over the request's list as it came.

The handler is modelled with the request bytes, the connection fields it
reads and writes, and the bytes of the PDU it sends; the dynamic PBAP, AVRCP,
A2DP and HFP version rewrites are left out.  Both walks add one to an
attribute ID in 16 bits, so a range that ends at `0xFFFF` on a record that
holds `0xFFFF` starts over from `0x0000`: the buffer loop still stops when the
buffer is full, but the count of `sdpu_get_attrib_seq_len` never ends, and
the first response to such a request is never sent.
-/

/-! ## State -/

/-- `tSDP_CONT_INFO`: where the next response of a request goes on. -/
structure ContInfo where
  nextAttrIndex : Nat
  nextAttrStartId : Nat
  attrOffset : Nat
deriving DecidableEq, Repr

/-- The fields of `tCONN_CB` the attribute handler reads and writes. -/
structure ConnCb where
  remMtuSize : Nat
  contOffset : Nat
  listLen : Nat
  contInfo : ContInfo
deriving DecidableEq, Repr

/-- The locals of the attribute loop of `process_service_attr_req`: the entry
index, the attribute ID list as the loop rewrites its ranges, the bytes of
`rsp_list` up to `p_rsp`, and the continuation information. -/
structure AttrLoop where
  xx : Nat
  attrSeq : List AttEnt
  rsp : List UInt8
  contInfo : ContInfo

/-- How the attribute loop ends: with an error PDU to send, or with the
response built. -/
inductive AttrLoopEnd where
  | error (code : Nat) (loop : AttrLoop)
  | done (loop : AttrLoop)

/-- `sdpu_build_n_send_error` with no error text, as every `SDP_TEXT_*` of the
server is `NULL`: the PDU it sends. -/
def sdpuBuildNSendError (transNum errorCode : Nat) : List UInt8 :=
  UInt8.ofNat sdpPduErrorResponse :: u16be transNum ++ u16be 2 ++ u16be errorCode

/-! ## The attribute loop -/

namespace AttrLoop

/-- `p_rsp = sdpu_build_attrib_entry(p_rsp, p_attr)`. -/
def appendEntry (loop : AttrLoop) (rec : SdpRecord) (attr : SdpAttribute) : AttrLoop :=
  { loop with rsp := loop.rsp ++ sdpuBuildAttribEntry rec attr }

/-- `p_rsp = sdpu_build_partial_attrib_entry(p_rsp, p_attr, len, &attr_offset)`. -/
def appendPiece (loop : AttrLoop) (rec : SdpRecord) (attr : SdpAttribute) (len : Nat) : AttrLoop :=
  let piece := sdpuBuildPartialAttribEntry rec attr len loop.contInfo.attrOffset
  { loop with rsp := loop.rsp ++ piece.1, contInfo := { loop.contInfo with attrOffset := piece.2 } }

/-- A response that stops at an attribute goes on from it next time. -/
def pauseAt (loop : AttrLoop) (attr : SdpAttribute) : AttrLoop :=
  { loop with contInfo := { loop.contInfo with nextAttrIndex := loop.xx, nextAttrStartId := attr.id } }

/-- `p_ccb->cont_info.attr_offset = 0`. -/
def clearOffset (loop : AttrLoop) : AttrLoop :=
  { loop with contInfo := { loop.contInfo with attrOffset := 0 } }

/-- The end of a round that wrote an attribute to its end: a range stays at
its entry and searches on from one past the attribute's ID, a `uint16_t`
(`xx--` before the loop's `xx++`); a single ID goes on to the next entry. -/
def advance (loop : AttrLoop) (ent : AttEnt) (attr : SdpAttribute) : AttrLoop :=
  if ent.start ≠ ent.stop then { loop with attrSeq := loop.attrSeq.set loop.xx ⟨(attr.id + 1) % 65536, ent.stop⟩ }
  else { loop with xx := loop.xx + 1 }

@[simp]
theorem appendEntry_contInfo (loop : AttrLoop) (rec : SdpRecord) (attr : SdpAttribute) :
    (loop.appendEntry rec attr).contInfo = loop.contInfo := rfl

@[simp]
theorem advance_contInfo (loop : AttrLoop) (ent : AttEnt) (attr : SdpAttribute) :
    (loop.advance ent attr).contInfo = loop.contInfo := by
  unfold advance
  split_ifs <;> rfl

@[simp]
theorem advance_rsp (loop : AttrLoop) (ent : AttEnt) (attr : SdpAttribute) :
    (loop.advance ent attr).rsp = loop.rsp := by
  unfold advance
  split_ifs <;> rfl

@[simp]
theorem pauseAt_rsp (loop : AttrLoop) (attr : SdpAttribute) : (loop.pauseAt attr).rsp = loop.rsp := rfl

@[simp]
theorem clearOffset_rsp (loop : AttrLoop) : loop.clearOffset.rsp = loop.rsp := rfl

@[simp]
theorem appendEntry_rsp (loop : AttrLoop) (rec : SdpRecord) (attr : SdpAttribute) :
    (loop.appendEntry rec attr).rsp = loop.rsp ++ sdpuBuildAttribEntry rec attr := rfl

@[simp]
theorem appendPiece_rsp (loop : AttrLoop) (rec : SdpRecord) (attr : SdpAttribute) (len : Nat) :
    (loop.appendPiece rec attr len).rsp =
      loop.rsp ++ (sdpuBuildPartialAttribEntry rec attr len loop.contInfo.attrOffset).1 := rfl

end AttrLoop

/-- One round of the attribute loop of `process_service_attr_req`, from the
search for the entry's next attribute to the range update. -/
def attrLoopBody (rec : SdpRecord) (maxListLen : Nat) (loop : AttrLoop) : Flow AttrLoop AttrLoopEnd :=
  if loop.attrSeq.length ≤ loop.xx then .exit (.done loop)
  else
    let ent := loop.attrSeq.getD loop.xx ⟨0, 0⟩
    match sdpDbFindAttrInRec rec ent.start ent.stop with
    | none => .next { loop with xx := loop.xx + 1 }
    | some attr =>
        let remLen := toInt16 (maxListLen - loop.rsp.length)
        if remLen ≤ 0 then .exit (.done (loop.pauseAt attr))
        else
          let attrLen := sdpuGetAttribEntryLen attr
          if loop.contInfo.attrOffset ≠ 0 then
            -- the rest of an attribute the previous response cut
            if attrLen < loop.contInfo.attrOffset then .exit (.error sdpInvalidContState loop)
            else
              let loop := loop.appendPiece rec attr remLen.toNat
              if loop.contInfo.attrOffset ≠ attrLen then .exit (.done loop)
              else .next (loop.clearOffset.advance ent attr)
          else if remLen < attrLen then
            if sdpMaxAttrLen ≤ attrLen then .exit (.error sdpNoResources loop)
            else .exit (.done ((loop.appendPiece rec attr remLen.toNat).pauseAt attr))
          else .next ((loop.appendEntry rec attr).advance ent attr)

/-! ## The handler -/

/-- `max_list_len`, capped at the MTU less the response header; the cap is
computed in `int` and stored in 16 bits. -/
def capMaxListLen (maxListLen remMtuSize : Nat) : Nat :=
  let cap : Int := remMtuSize - sdpMaxAttrRsphdrLen
  if cap < maxListLen then (cap % 65536).toNat else maxListLen

/-- The loop's start on a first request: from the first entry, three bytes in
for the sequence header. -/
def firstAttrLoop (attrSeq : List AttEnt) (contInfo : ContInfo) : AttrLoop :=
  ⟨0, attrSeq, [0, 0, 0], contInfo⟩

/-- The loop's start on a continuation request: from the entry and the ID the
previous response stopped at. -/
def contAttrLoop (attrSeq : List AttEnt) (contInfo : ContInfo) : AttrLoop :=
  ⟨contInfo.nextAttrIndex,
    attrSeq.set contInfo.nextAttrIndex
      ⟨contInfo.nextAttrStartId, (attrSeq.getD contInfo.nextAttrIndex ⟨0, 0⟩).stop⟩,
    [], contInfo⟩

/-- The response after the attribute loop, from the reset of
`next_attr_index` to the send: the connection after it and the PDU, or `none`
when `sdpu_get_attrib_seq_len` runs out of fuel.  A first response puts the
sequence header in front, three bytes for a list over `0xFF` bytes, else two
with the buffer's first byte left unsent. -/
def attrRsp (fuel : Nat) (rec : SdpRecord) (attrSeqSav : List AttEnt) (isCont : Bool) (ccb : ConnCb)
    (transNum : Nat) (loop : AttrLoop) : Option (ConnCb × List UInt8) :=
  let contInfo := if loop.xx = loop.attrSeq.length then { loop.contInfo with nextAttrIndex := 0 } else loop.contInfo
  let lenToSend := loop.rsp.length % 65536
  -- the list length, the buffer, the offset it is sent from and the bytes sent
  let framed : Option (Nat × List UInt8 × Nat × Nat) :=
    if isCont then some (ccb.listLen, loop.rsp, 0, lenToSend)
    else (sdpuGetAttribSeqLen fuel rec attrSeqSav).map fun seqLen =>
      let listLen := (seqLen + 3) % 65536
      if 255 < listLen then
        (listLen, UInt8.ofNat (dataEleSeqDescType * 8 + sizeInNextWord) :: u16be (listLen - 3) ++ loop.rsp.drop 3,
          0, lenToSend)
      else
        ((listLen + 65535) % 65536,
          loop.rsp.take 1 ++ [UInt8.ofNat (dataEleSeqDescType * 8 + sizeInNextByte), UInt8.ofNat (listLen + 253)] ++
            loop.rsp.drop 3,
          1, (lenToSend + 65535) % 65536)
  framed.map fun (listLen, rspList, contOffset, lenToSend) =>
    let sent := (ccb.contOffset + lenToSend) % 65536
    let cont := if sent < listLen then UInt8.ofNat sdpContinuationLen :: u16be sent else [0]
    ({ ccb with contOffset := sent, listLen, contInfo },
      UInt8.ofNat sdpPduServiceAttrRsp :: u16be transNum ++ u16be (2 + lenToSend + cont.length) ++
        u16be lenToSend ++ (rspList.drop contOffset).take lenToSend ++ cont)

/-- The attribute loop and the response after it. -/
def attrReqBody (fuel : Nat) (rec : SdpRecord) (maxListLen : Nat) (attrSeqSav : List AttEnt) (isCont : Bool)
    (ccb : ConnCb) (transNum : Nat) (start : AttrLoop) : Option (ConnCb × List UInt8) :=
  match run (attrLoopBody rec maxListLen) fuel start with
  | none => none
  | some (.error code loop) => some ({ ccb with contInfo := loop.contInfo }, sdpuBuildNSendError transNum code)
  | some (.done loop) => attrRsp fuel rec attrSeqSav isCont ccb transNum loop

/-- `process_service_attr_req` on the parameters at `p_req`, for at most
`fuel` rounds of each of its loops: the connection after it and the PDU it
sends, or `none` when a loop runs out of fuel. -/
def processServiceAttrReq (fuel : Nat) (db : List SdpRecord) (ccb : ConnCb) (transNum paramLen : Nat)
    (mem : Nat → UInt8) (pReq pReqEnd : Nat) : Option (ConnCb × List UInt8) :=
  let error (code : Nat) := some (ccb, sdpuBuildNSendError transNum code)
  if pReqEnd < pReq + 4 + 2 then error sdpInvalidServRecHdl
  else
    let recHandle := u32beAt mem pReq
    let paramLen := (paramLen + 65536 - 4) % 65536
    let maxListLen := u16beAt mem (pReq + 4)
    let paramLen := (paramLen + 65536 - 2) % 65536
    let maxListLen := capMaxListLen maxListLen ccb.remMtuSize
    match sdpuExtractAttrSeq mem (pReq + 6) paramLen with
    | none => error sdpInvalidReqSyntax
    | some (attrSeq, p) =>
        if attrSeq = [] ∨ pReqEnd < p + 1 then error sdpInvalidReqSyntax
        else
          match sdpDbFindRecord db recHandle with
          | none => error sdpInvalidServRecHdl
          | some rec =>
              if maxListLen < 4 then error sdpIllegalParameter
              else if pReqEnd < p + 1 then error sdpInvalidContState
              else if mem p ≠ 0 then
                if mem p ≠ UInt8.ofNat sdpContinuationLen ∨ pReqEnd < p + 1 + 2 then error sdpInvalidContState
                else if u16beAt mem (p + 1) ≠ ccb.contOffset then error sdpInvalidContState
                else attrReqBody fuel rec maxListLen attrSeq true ccb transNum (contAttrLoop attrSeq ccb.contInfo)
              else
                let ccb := { ccb with contOffset := 0, contInfo := { ccb.contInfo with nextAttrIndex := 0, attrOffset := 0 } }
                attrReqBody fuel rec maxListLen attrSeq false ccb transNum (firstAttrLoop attrSeq ccb.contInfo)

/-! ## A first request never ends in an error -/

section First

variable {rec : SdpRecord} {maxListLen : Nat} {loop : AttrLoop}

/-- A round with no piece pending leaves none pending and ends in no error
when every entry of the record is shorter than `SDP_MAX_ATTR_LEN`: the
continuation check is not reached, and no entry is too long to cut. -/
theorem attrLoopBody_fresh (short : ∀ attr ∈ rec.attrs, sdpuGetAttribEntryLen attr < sdpMaxAttrLen)
    (fresh : loop.contInfo.attrOffset = 0) :
    (∀ loop', attrLoopBody rec maxListLen loop = .next loop' → loop'.contInfo.attrOffset = 0) ∧
      ∀ code last, attrLoopBody rec maxListLen loop ≠ .exit (.error code last) := by
  unfold attrLoopBody
  by_cases atEnd : loop.attrSeq.length ≤ loop.xx
  · rw [if_pos atEnd]
    exact ⟨fun _ going => (nomatch going), fun _ _ leaving => (nomatch leaving)⟩
  rw [if_neg atEnd]
  dsimp only
  split
  · exact ⟨fun _ going => by cases going; exact fresh, fun _ _ leaving => (nomatch leaving)⟩
  rename_i attr found
  have fits := short attr (List.mem_of_find?_eq_some found)
  -- with no piece pending the continuation check is not reached
  have notPending : ¬loop.contInfo.attrOffset ≠ 0 := fun pending => pending fresh
  rw [if_neg notPending]
  split_ifs with full cut tooLong
  · exact ⟨fun _ going => (nomatch going), fun _ _ leaving => (nomatch leaving)⟩
  · exact absurd tooLong (Nat.not_le.mpr fits)
  · exact ⟨fun _ going => (nomatch going), fun _ _ leaving => (nomatch leaving)⟩
  · refine ⟨fun _ going => ?_, fun _ _ leaving => (nomatch leaving)⟩
    cases going
    simpa only [AttrLoop.advance_contInfo, AttrLoop.appendEntry_contInfo] using fresh

/-- On a first request the loop, where it ends, ends with a response built. -/
theorem attrLoop_fresh_done (short : ∀ attr ∈ rec.attrs, sdpuGetAttribEntryLen attr < sdpMaxAttrLen) {fuel : Nat}
    {start : AttrLoop} {last : AttrLoopEnd} (fresh : start.contInfo.attrOffset = 0)
    (ran : run (attrLoopBody rec maxListLen) fuel start = some last) : ∃ loop, last = .done loop := by
  refine run_induction (fun loop => loop.contInfo.attrOffset = 0) (fun last => ∃ loop, last = .done loop)
    ?_ ?_ fresh ran
  · intro loop loop' kept going
    exact (attrLoopBody_fresh short kept).1 loop' going
  · intro loop last kept leaving
    cases last with
    | error code errLoop => exact absurd leaving ((attrLoopBody_fresh short kept).2 code errLoop)
    | done doneLoop => exact ⟨doneLoop, rfl⟩

/-- A first request is answered only once `sdpu_get_attrib_seq_len` has
counted the request's list. -/
theorem attrReqBody_first_uncounted (short : ∀ attr ∈ rec.attrs, sdpuGetAttribEntryLen attr < sdpMaxAttrLen)
    {fuel : Nat} {attrSeqSav : List AttEnt} {ccb : ConnCb} {transNum : Nat} {start : AttrLoop}
    (fresh : start.contInfo.attrOffset = 0) (uncounted : sdpuGetAttribSeqLen fuel rec attrSeqSav = none) :
    attrReqBody fuel rec maxListLen attrSeqSav false ccb transNum start = none := by
  unfold attrReqBody
  cases ran : run (attrLoopBody rec maxListLen) fuel start with
  | none => rfl
  | some last =>
      obtain ⟨loop, rfl⟩ := attrLoop_fresh_done short fresh ran
      simp only [attrRsp, uncounted, Bool.false_eq_true, if_false, Option.map_none]

end First

/-! ## The request for all attributes -/

/-- The parameters of the client's first `SDP_PDU_SERVICE_ATTR_REQ`, as
`process_service_search_rsp` writes them: the record handle, the most bytes
of attributes it takes, its attribute ID list (the wildcard range when it has
no filters) and no continuation state. -/
def serviceAttrReqParams (handle maxAttrListSize : Nat) (attrFilters : Option (List Nat)) : List UInt8 :=
  u32be handle ++ u16be maxAttrListSize ++ sdpuBuildAttribSeq attrFilters ++ [0]

/-- What the server reads of the client's request for all attributes: the
handle, the byte count, the wildcard range, and no continuation state after
it. -/
theorem serviceAttrReqParams_read {handle maxAttrListSize : Nat} {mem : Nat → UInt8} {pReq : Nat}
    (handleFits : handle < 2 ^ 32) (sizeFits : maxAttrListSize < 65536)
    (placed : window mem pReq (serviceAttrReqParams handle maxAttrListSize none).length =
      serviceAttrReqParams handle maxAttrListSize none) :
    u32beAt mem pReq = handle ∧ u16beAt mem (pReq + 4) = maxAttrListSize ∧
      sdpuExtractAttrSeq mem (pReq + 6) 8 = some ([⟨0, 0xFFFF⟩], pReq + 6 + 7) ∧ mem (pReq + 6 + 7) = 0 := by
  have total : (serviceAttrReqParams handle maxAttrListSize none).length = 4 + 2 + 7 + 1 := rfl
  rw [total] at placed
  unfold serviceAttrReqParams at placed
  obtain ⟨fields, noCont⟩ := window_eq_append
    (show (u32be handle ++ u16be maxAttrListSize ++ sdpuBuildAttribSeq none).length = 4 + 2 + 7 from rfl) placed
  obtain ⟨header, range⟩ := window_eq_append
    (show (u32be handle ++ u16be maxAttrListSize).length = 4 + 2 from rfl) fields
  obtain ⟨handleBytes, sizeBytes⟩ := window_eq_append (show (u32be handle).length = 4 from rfl) header
  have wildcard : sdpuExtractAttrSeq mem (pReq + 6) 8 = some ([⟨0, 0xFFFF⟩], pReq + 6 + 7) :=
    sdpuExtractAttrSeq_wildcard range (by decide)
  refine ⟨u32beAt_of_window handleBytes handleFits, u16beAt_of_window sizeBytes sizeFits, wildcard, ?_⟩
  exact (window_eq_cons noCont).1

/-- The server never answers the client's first request for all attributes of
a record that holds the ID `0xFFFF` but not `0xFFFE`: the buffer loop stops,
but counting the wildcard range for the sequence header adds one to `0xFFFF`
in 16 bits and walks the record again without end. -/
theorem processServiceAttrReq_allAttributes_hangs {db : List SdpRecord} {rec : SdpRecord} {ccb : ConnCb}
    {handle maxAttrListSize : Nat} {mem : Nat → UInt8} {pReq : Nat}
    (found : sdpDbFindRecord db handle = some rec)
    (top : ∃ attr ∈ rec.attrs, attr.id = 0xFFFF) (noBelow : ∀ attr ∈ rec.attrs, attr.id ≠ 0xFFFE)
    (idsFit : ∀ attr ∈ rec.attrs, attr.id < 65536)
    (short : ∀ attr ∈ rec.attrs, sdpuGetAttribEntryLen attr < sdpMaxAttrLen)
    (handleFits : handle < 2 ^ 32) (sizeFits : maxAttrListSize < 65536)
    (allowed : 4 ≤ capMaxListLen maxAttrListSize ccb.remMtuSize)
    (placed : window mem pReq (serviceAttrReqParams handle maxAttrListSize none).length =
      serviceAttrReqParams handle maxAttrListSize none)
    (fuel transNum : Nat) :
    processServiceAttrReq fuel db ccb transNum (serviceAttrReqParams handle maxAttrListSize none).length mem pReq
      (pReq + (serviceAttrReqParams handle maxAttrListSize none).length) = none := by
  obtain ⟨handleRead, sizeRead, parsed, noCont⟩ := serviceAttrReqParams_read handleFits sizeFits placed
  have total : (serviceAttrReqParams handle maxAttrListSize none).length = 14 := rfl
  rw [total]
  unfold processServiceAttrReq
  dsimp only
  rw [if_neg (by omega), handleRead, sizeRead, show (14 + 65536 - 4) % 65536 = 10 from rfl,
    show (10 + 65536 - 2) % 65536 = 8 from rfl, parsed]
  dsimp only
  rw [if_neg (by simp), found]
  dsimp only
  rw [if_neg (Nat.not_lt.mpr allowed), if_neg (by omega), if_neg (fun pending => pending noCont)]
  exact attrReqBody_first_uncounted short rfl (sdpuGetAttribSeqLen_diverges top noBelow idsFit [] (by decide) fuel)

/-- A record with the attribute of its handle, ID `0x0000`, and one of ID
`0xFFFF`. -/
def topRecord : SdpRecord where
  recordHandle := 0x00010000
  freePadPtr := 5
  numAttributes := 2
  attributes := [⟨4, some 0, 0x0000, uintDescType⟩, ⟨1, some 4, 0xFFFF, uintDescType⟩]
  attrPad := fun _ => 0

/-- `sdpu_get_attrib_seq_len` on `topRecord` for the one range 0x0000-0xFFFF
never returns, whatever the fuel: after the attribute 0xFFFF the start of the
range wraps to 0x0000 and the walk finds 0x0000 again. -/
theorem sdpuGetAttribSeqLen_topRecord_never_returns (fuel : Nat) :
    sdpuGetAttribSeqLen fuel topRecord [⟨0x0000, 0xFFFF⟩] = none :=
  sdpuGetAttribSeqLen_diverges (by decide) (by decide) (by decide) [] (by decide) fuel

/-- The client's request for all attributes of `topRecord`, over a connection
with the largest MTU, is never answered. -/
theorem processServiceAttrReq_allAttributes_hangs_topRecord :
    processServiceAttrReq 1000 [topRecord] ⟨1024, 0, 0, ⟨0, 0, 0⟩⟩ 0 14
      (fun i => (serviceAttrReqParams 0x00010000 1008 none).getD i 0) 0 14 = none :=
  @processServiceAttrReq_allAttributes_hangs [topRecord] topRecord ⟨1024, 0, 0, ⟨0, 0, 0⟩⟩ 0x00010000 1008
    (fun i => (serviceAttrReqParams 0x00010000 1008 none).getD i 0) 0 rfl (by decide) (by decide) (by decide)
    (by decide) (by decide) (by decide) (by decide) (by decide) 1000 0

end Sdp
end BluetoothStack
