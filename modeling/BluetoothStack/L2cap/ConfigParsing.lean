import BluetoothStack.L2cap.Signalling

namespace BluetoothStack
namespace L2cap

open ByteStream

/-!
# Configuration options: what the parsers make of them

The option area of a configuration command is, in the standard, a list of
type-length-value options (`Tlv.decode`).  Here the request's option loop is
shown to walk exactly that list: on an area of whole options it computes the
fold of `configReqStep` over the options, and it hands a configuration to the
state machine only when the area is one.  The reject builder copies exactly
the options the request's parser counted.  The response's option loop agrees
with the list only while every option is known and has its defined length;
an unknown option's value is read as further options.
-/

/-- Whether `l2cu_send_peer_config_rej` copies an option: its type is
unknown and its hint bit is clear. -/
def rejectedOption (item : Tlv.Item) : Bool :=
  (CfgType.ofCode (item.code.toNat &&& 0x7F)).isNone && (item.code.toNat &&& 0x80 == 0)

/-- What one option of a configuration request does, by its type and length:
a known option of its defined length is stored, a known option of another
length ends the command, and an unknown option is passed over and, unless
it is a hint, counted for the reject. -/
def configReqStep (found : CfgInfo × Bool × Nat) (item : Tlv.Item) : Option (CfgInfo × Bool × Nat) :=
  match CfgType.ofCode (item.code.toNat &&& 0x7F) with
  | some cfgType =>
      if item.value.length = cfgType.len then some (cfgType.store item.value found.1, found.2) else none
  | none =>
      if item.code.toNat &&& 0x80 = 0 then
        some (found.1, true, found.2.2 + item.value.length + l2capCfgOptionOverhead)
      else some found

/-! ## The request's option loop walks the option list -/

/-- On an area of whole options, the request's option loop is the fold of
`configReqStep` over the options. -/
theorem configReqOptions_eq_foldlM (mem : Nat → UInt8) (cmdLen pNextCmd p : Nat) (info : CfgInfo)
    (cfgRej : Bool) (cfgRejLen : Nat) :
    ∀ items, Tlv.decode (window mem p (pNextCmd - p)) = some items → pNextCmd - p ≤ cmdLen →
      configReqOptions mem cmdLen pNextCmd p info cfgRej cfgRejLen =
        items.foldlM configReqStep (info, cfgRej, cfgRejLen) := by
  fun_induction configReqOptions mem cmdLen pNextCmd p info cfgRej cfgRejLen with
  | case1 p info cfgRej cfgRejLen inside short =>
      intro items decoded _
      obtain ⟨_, fits, -⟩ := Tlv.decode_window decoded (by omega)
      omega
  | case2 p info cfgRej cfgRejLen inside long cfgCode cfgLen cfgType known wrongLen =>
      intro items decoded _
      obtain ⟨others, -, rfl, -⟩ := Tlv.decode_window decoded (by omega)
      simp [configReqStep, cfgCode, cfgLen, known, wrongLen]
  | case3 p info cfgRej cfgRejLen inside long cfgCode cfgLen cfgType known rightLen overrun =>
      intro items decoded _
      obtain ⟨_, fits, -⟩ := Tlv.decode_window decoded (by omega)
      omega
  | case4 p info cfgRej cfgRejLen inside long cfgCode cfgLen cfgType known rightLen fits ih =>
      intro items decoded bounded
      obtain ⟨others, -, rfl, decodedRest⟩ := Tlv.decode_window decoded (by omega)
      have rest : pNextCmd - p - 2 - cfgLen = pNextCmd - (p + 2 + cfgLen) := by omega
      rw [rest] at decodedRest
      rw [ih others decodedRest (by omega)]
      simp [configReqStep, cfgCode, cfgLen, known, not_not.mp rightLen]
  | case5 p info cfgRej cfgRejLen inside long cfgCode cfgLen unknown sane overrun =>
      intro items decoded _
      obtain ⟨_, fits, -⟩ := Tlv.decode_window decoded (by omega)
      omega
  | case6 p info cfgRej cfgRejLen inside long cfgCode cfgLen unknown sane fits notHint ih =>
      intro items decoded bounded
      obtain ⟨others, -, rfl, decodedRest⟩ := Tlv.decode_window decoded (by omega)
      have rest : pNextCmd - p - 2 - cfgLen = pNextCmd - (p + 2 + cfgLen) := by omega
      rw [rest] at decodedRest
      rw [ih others decodedRest (by omega)]
      simp [configReqStep, cfgCode, cfgLen, unknown, notHint]
  | case7 p info cfgRej cfgRejLen inside long cfgCode cfgLen unknown sane fits hint ih =>
      intro items decoded bounded
      obtain ⟨others, -, rfl, decodedRest⟩ := Tlv.decode_window decoded (by omega)
      have rest : pNextCmd - p - 2 - cfgLen = pNextCmd - (p + 2 + cfgLen) := by omega
      rw [rest] at decodedRest
      rw [ih others decodedRest (by omega)]
      simp [configReqStep, cfgCode, unknown, hint]
  | case8 p info cfgRej cfgRejLen inside long cfgCode cfgLen unknown insane =>
      intro items decoded bounded
      obtain ⟨_, fits, -⟩ := Tlv.decode_window decoded (by omega)
      unfold l2capCfgOptionOverhead at insane
      omega
  | case9 p info cfgRej cfgRejLen outside =>
      intro items decoded _
      rw [show pNextCmd - p = 0 by omega, Tlv.decode_window_zero, Option.some_inj] at decoded
      rw [← decoded]
      rfl

/-! ## The reject copies what the request counted -/

/-- The fold counts, for the reject, exactly the bytes of the rejected options. -/
theorem foldlM_configReqStep_rejLen (items : List Tlv.Item) :
    ∀ {found found' : CfgInfo × Bool × Nat}, items.foldlM configReqStep found = some found' →
      found'.2.2 = found.2.2 + (Tlv.encode (items.filter rejectedOption)).length := by
  induction items with
  | nil =>
      rintro found found' ⟨⟩
      simp
  | cons item items ih =>
      intro found found' folded
      rw [List.foldlM_cons] at folded
      obtain ⟨next, step, rest⟩ := Option.bind_eq_some_iff.mp folded
      rw [ih rest]
      unfold configReqStep at step
      split at step
      · -- a known option keeps the count
        rename_i cfgType known
        split_ifs at step
        cases step
        simp [rejectedOption, known]
      · -- an unknown option is counted unless it is a hint
        rename_i unknown
        split_ifs at step with notHint <;> cases step
        · simp [rejectedOption, unknown, notHint, l2capCfgOptionOverhead]
          omega
        · simp [rejectedOption, unknown, notHint]

/-- On an area of whole options, the reject builder copies the rejected
options, as long as `buf_space` holds them. -/
theorem configRejOptions_eq_encode (mem : Nat → UInt8) (dataLen pDataEnd pData bufSpace : Nat) :
    ∀ items, Tlv.decode (window mem pData (pDataEnd - pData)) = some items → pDataEnd - pData ≤ dataLen →
      (Tlv.encode (items.filter rejectedOption)).length ≤ bufSpace →
      configRejOptions mem dataLen pDataEnd pData bufSpace = Tlv.encode (items.filter rejectedOption) := by
  fun_induction configRejOptions mem dataLen pDataEnd pData bufSpace with
  | case1 pData bufSpace inside cfgCode cfgLen cfgType known ih =>
      intro items decoded bounded room
      obtain ⟨others, fits, rfl, decodedRest⟩ := Tlv.decode_window decoded (by omega)
      have next : pData + cfgLen + l2capCfgOptionOverhead = pData + 2 + cfgLen := by
        unfold l2capCfgOptionOverhead
        omega
      have rest : pDataEnd - pData - 2 - cfgLen = pDataEnd - (pData + 2 + cfgLen) := by omega
      have skipped : rejectedOption ⟨mem pData, window mem (pData + 2) cfgLen⟩ = false := by
        simp [rejectedOption, cfgCode, known]
      rw [rest] at decodedRest
      rw [next] at ih ⊢
      rw [List.filter_cons_of_neg (by simpa using skipped)] at room ⊢
      exact ih others decodedRest (by omega) room
  | case2 pData bufSpace inside cfgCode cfgLen unknown sane notHint fits ih =>
      intro items decoded bounded room
      obtain ⟨others, _, rfl, decodedRest⟩ := Tlv.decode_window decoded (by omega)
      have next : pData + cfgLen + l2capCfgOptionOverhead = pData + 2 + cfgLen := by
        unfold l2capCfgOptionOverhead
        omega
      have rest : pDataEnd - pData - 2 - cfgLen = pDataEnd - (pData + 2 + cfgLen) := by omega
      have copied : rejectedOption ⟨mem pData, window mem (pData + 2) cfgLen⟩ = true := by
        simp [rejectedOption, cfgCode, unknown, notHint]
      rw [rest] at decodedRest
      rw [next] at ih ⊢
      rw [List.filter_cons_of_pos copied, Tlv.encode_cons, List.length_append, Tlv.Item.encode_length,
        window_length] at room
      rw [List.filter_cons_of_pos copied, Tlv.encode_cons, Tlv.Item.encode_window,
        ih others decodedRest (by omega) (by unfold l2capCfgOptionOverhead; omega)]
      rfl
  | case3 pData bufSpace inside cfgCode cfgLen unknown sane notHint short =>
      intro items decoded bounded room
      obtain ⟨others, _, rfl, _⟩ := Tlv.decode_window decoded (by omega)
      have copied : rejectedOption ⟨mem pData, window mem (pData + 2) cfgLen⟩ = true := by
        simp [rejectedOption, cfgCode, unknown, notHint]
      rw [List.filter_cons_of_pos copied, Tlv.encode_cons, List.length_append, Tlv.Item.encode_length,
        window_length] at room
      unfold l2capCfgOptionOverhead at short
      omega
  | case4 pData bufSpace inside cfgCode cfgLen unknown sane hint ih =>
      intro items decoded bounded room
      obtain ⟨others, _, rfl, decodedRest⟩ := Tlv.decode_window decoded (by omega)
      have next : pData + cfgLen + l2capCfgOptionOverhead = pData + 2 + cfgLen := by
        unfold l2capCfgOptionOverhead
        omega
      have rest : pDataEnd - pData - 2 - cfgLen = pDataEnd - (pData + 2 + cfgLen) := by omega
      have skipped : rejectedOption ⟨mem pData, window mem (pData + 2) cfgLen⟩ = false := by
        simp [rejectedOption, cfgCode, hint]
      rw [rest] at decodedRest
      rw [next] at ih ⊢
      rw [List.filter_cons_of_neg (by simpa using skipped)] at room ⊢
      exact ih others decodedRest (by omega) room
  | case5 pData bufSpace inside cfgCode cfgLen unknown insane =>
      intro items decoded bounded _
      obtain ⟨_, fits, -⟩ := Tlv.decode_window decoded (by omega)
      unfold l2capCfgOptionOverhead at insane
      omega
  | case6 pData bufSpace outside =>
      intro items decoded _ _
      rw [show pDataEnd - pData = 0 by omega, Tlv.decode_window_zero, Option.some_inj] at decoded
      rw [← decoded]
      rfl

/-- A Configuration Request whose option area holds whole options is
rejected with exactly its unknown options that are not hints: the request's
parser counts their bytes, and `l2cu_send_peer_config_rej` copies them and
announces that count. -/
theorem configReqCmd_reject_copies {mem : Nat → UInt8} {p cmdLen : Nat} {info : CfgInfo}
    {parsed : ConfigReqParsed} {items : List Tlv.Item} (found : configReqCmd mem p cmdLen info = some parsed)
    (small : cmdLen ≤ btSmallBufferSize)
    (decoded : Tlv.decode (window mem (p + l2capConfigReqLen) (cmdLen - l2capConfigReqLen)) = some items)
    (remoteId remoteCid : Nat) :
    parsed.cfgRejLen = (Tlv.encode (items.filter rejectedOption)).length ∧
      l2cuSendPeerConfigRej mem remoteId remoteCid parsed.cfgStart (cmdLen - l2capConfigReqLen)
          parsed.cfgRejLen =
        some (configRejHeader remoteId remoteCid parsed.cfgRejLen ++ Tlv.encode (items.filter rejectedOption)) := by
  unfold configReqCmd at found
  dsimp only at found
  split_ifs at found with short
  obtain ⟨options, parsedOptions, rfl⟩ := Option.map_eq_some_iff.mp found
  have area : p + cmdLen - (p + 4) = cmdLen - l2capConfigReqLen := by
    unfold l2capConfigReqLen
    omega
  rw [configReqOptions_eq_foldlM mem cmdLen (p + cmdLen) (p + 4) _ false 0 items
    (by rw [area]; exact decoded) (by omega)] at parsedOptions
  have counted := foldlM_configReqStep_rejLen items parsedOptions
  rw [Nat.zero_add] at counted
  refine ⟨counted, ?_⟩
  -- the count is at most the option area, far below the builder's limit
  have bounded : (Tlv.encode (items.filter rejectedOption)).length ≤ cmdLen := by
    have whole := Tlv.encode_filter_length_le rejectedOption items
    rw [Tlv.encode_of_decode decoded, window_length] at whole
    omega
  have withinLimit : ¬0xFFFF - (btHdrSize + hciDataPreambleSize + l2capPktOverhead + l2capCmdOverhead +
      l2capConfigRspLen) < (Tlv.encode (items.filter rejectedOption)).length := by
    unfold btSmallBufferSize at small
    unfold btHdrSize hciDataPreambleSize l2capPktOverhead l2capCmdOverhead l2capConfigRspLen
    omega
  unfold l2cuSendPeerConfigRej
  dsimp only
  rw [counted, if_neg withinLimit,
    configRejOptions_eq_encode mem (cmdLen - l2capConfigReqLen) _ (p + 4) _ items
      (by rw [Nat.add_sub_cancel_left]; exact decoded) (by omega) le_rfl]

theorem configReqCmd_reject_copies_unknownOption :
    let mem := fun i => [0x40, 0x00, 0x00, 0x00, 0x01, 0x02, 0xA0, 0x02, 0x10, 0x02, 0xAA, 0xBB].getD i (0 : UInt8)
    let items : List Tlv.Item := [⟨0x01, [0xA0, 0x02]⟩, ⟨0x10, [0xAA, 0xBB]⟩]
    ∃ parsed, configReqCmd mem 0 12 CfgInfo.cleared = some parsed ∧
      parsed.cfgRejLen = (Tlv.encode (items.filter rejectedOption)).length ∧
      l2cuSendPeerConfigRej mem 7 0x41 parsed.cfgStart (12 - l2capConfigReqLen) parsed.cfgRejLen =
        some (configRejHeader 7 0x41 parsed.cfgRejLen ++ Tlv.encode (items.filter rejectedOption)) := by
  intro mem items
  obtain ⟨parsed, found⟩ : ∃ parsed, configReqCmd mem 0 12 CfgInfo.cleared = some parsed :=
    Option.isSome_iff_exists.mp (by decide +kernel)
  have area : window mem (0 + l2capConfigReqLen) (12 - l2capConfigReqLen) = Tlv.encode items := by decide
  have decoded : Tlv.decode (window mem (0 + l2capConfigReqLen) (12 - l2capConfigReqLen)) = some items := by
    rw [area]
    exact Tlv.decode_encode _ (by decide)
  exact ⟨parsed, found, configReqCmd_reject_copies found (by decide) decoded 7 0x41⟩

/-! ## The response's option loop -/

/-- What a Configuration Response's option does in the standard's reading
of the option list, for a response of known options only: it is stored if
it has its defined length. -/
def configRspStep (info : CfgInfo) (item : Tlv.Item) : Option CfgInfo :=
  match CfgType.ofCode (item.code.toNat &&& 0x7F) with
  | some cfgType => if item.value.length = cfgType.len then some (cfgType.store item.value info) else none
  | none => none

/-- A Configuration Response for local CID `0x0040`, result `L2CAP_CFG_OK`,
whose option area is one unknown option: type `0x10` with four bytes of
value. -/
def unknownOptionConfigRsp : List UInt8 :=
  [0x40, 0x00, 0x00, 0x00, 0x00, 0x00, 0x10, 0x04, 0x01, 0x02, 0x34, 0x12]

/-- The option list of `unknownOptionConfigRsp` is that one unknown option,
but the parser steps over its header only and reads its value as an MTU
option of `0x1234`, which it hands to the state machine. -/
theorem configRspCmd_unknown_option_read_as_mtu :
    configRspCmd (fun i => unknownOptionConfigRsp.getD i 0) 0 12 CfgInfo.cleared =
        some (0x40, { CfgInfo.cleared with mtuPresent := true, mtu := 0x1234 }) ∧
      Tlv.decode (window (fun i => unknownOptionConfigRsp.getD i 0) 6 6) =
        some [⟨0x10, [0x01, 0x02, 0x34, 0x12]⟩] := by
  have area : window (fun i => unknownOptionConfigRsp.getD i 0) 6 6 =
      Tlv.encode [⟨0x10, [0x01, 0x02, 0x34, 0x12]⟩] := by decide
  have unknown : CfgType.ofCode ((unknownOptionConfigRsp.getD 6 0).toNat &&& 0x7F) = none := by decide
  have mtu : CfgType.ofCode ((unknownOptionConfigRsp.getD 8 0).toNat &&& 0x7F) = some .mtu := by decide
  refine ⟨?_, by rw [area]; exact Tlv.decode_encode _ (by decide)⟩
  unfold configRspCmd
  dsimp only
  rw [if_neg (by decide), configRspOptions_unknown unknown (by decide),
    configRspOptions_known mtu (by decide), configRspOptions_done (by decide)]
  decide

end L2cap
end BluetoothStack
