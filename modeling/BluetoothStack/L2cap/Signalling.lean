import BluetoothStack.L2cap.FcrDefs
import BluetoothStack.Library.ByteStream
import BluetoothStack.Library.Tlv

namespace BluetoothStack
namespace L2cap

open ByteStream

/-!
# BR/EDR signalling: commands and configuration options

`process_l2cap_cmd` walks the commands of a packet received on the BR/EDR
signalling channel with a cursor `p`, against two ends: the end of the
packet, `p_pkt_end`, and the end of the current command, `p_next_cmd`.  A
Configuration Request or Response carries, after its fixed fields, a list of
options, each a type byte, a length byte and a value.  The request's parser
holds every known option to its defined length and steps over unknown ones by
their length byte; the response's parser reads each known option's fixed
fields without looking at the length byte, and after an unknown option's
two header bytes reads its value as the next option.
`l2cu_send_peer_config_rej` walks the request's options again to copy the
unknown ones into a Configuration Response.

The cursor reads memory, a function from positions to bytes.  The packet
holds one range of it; a read outside the range is a read of whatever the
buffer holds there, which is what the statements about bounds vary.  A
handler's `return`, which ends `process_l2cap_cmd`, is `none`.  The effects
of the handlers on channels (`l2c_csm_execute`) are represented by what they
hand to the state machine.
-/

/-- `L2CAP_CMD_OVERHEAD`. -/
def l2capCmdOverhead : Nat := 4
/-- `L2CAP_CONFIG_REQ_LEN`. -/
def l2capConfigReqLen : Nat := 4
/-- `L2CAP_CONFIG_RSP_LEN`. -/
def l2capConfigRspLen : Nat := 6
/-- `L2CAP_CFG_OPTION_OVERHEAD`, the type and length bytes of an option. -/
def l2capCfgOptionOverhead : Nat := 2
/-- `BT_SMALL_BUFFER_SIZE`, the largest command `process_l2cap_cmd` takes. -/
def btSmallBufferSize : Nat := 660
/-- `L2CAP_CMD_CONFIG_RSP`. -/
def l2capCmdConfigRsp : Nat := 0x05
/-- `L2CAP_SIGNALLING_CID`. -/
def l2capSignallingCid : Nat := 1
/-- `L2CAP_CFG_UNKNOWN_OPTIONS`. -/
def l2capCfgUnknownOptions : Nat := 3
/-- `HCI_DATA_PREAMBLE_SIZE`. -/
def hciDataPreambleSize : Nat := 4

/-! ## Configuration information -/

/-- `FLOW_SPEC`, the value of a QoS option. -/
structure FlowSpec where
  qosFlags : Nat
  serviceType : Nat
  tokenRate : Nat
  tokenBucketSize : Nat
  peakBandwidth : Nat
  latency : Nat
  delayVariation : Nat
  deriving DecidableEq, Repr

/-- `tL2CAP_FCR_OPTS`, the value of a retransmission and flow control option. -/
structure FcrOpts where
  mode : Nat
  txWinSz : Nat
  maxTransmit : Nat
  rtransTout : Nat
  monTout : Nat
  mps : Nat
  deriving DecidableEq, Repr

/-- `tHCI_EXT_FLOW_SPEC`, the value of an extended flow specification option. -/
structure ExtFlowSpec where
  id : Nat
  stype : Nat
  maxSduSize : Nat
  sduInterTime : Nat
  accessLatency : Nat
  flushTimeout : Nat
  deriving DecidableEq, Repr

/-- `tL2CAP_CFG_INFO`, what a configuration command hands to the channel
state machine. -/
structure CfgInfo where
  result : Nat
  mtuPresent : Bool
  mtu : Nat
  qosPresent : Bool
  qos : FlowSpec
  flushToPresent : Bool
  flushTo : Nat
  fcrPresent : Bool
  fcr : FcrOpts
  fcsPresent : Bool
  fcs : Nat
  extFlowSpecPresent : Bool
  extFlowSpec : ExtFlowSpec
  flags : Nat
  deriving DecidableEq, Repr

/-- The `cfg_info` of `process_l2cap_cmd` after its `memset`. -/
def CfgInfo.cleared : CfgInfo :=
  ⟨0, false, 0, false, ⟨0, 0, 0, 0, 0, 0, 0⟩, false, 0, false, ⟨0, 0, 0, 0, 0, 0⟩, false, 0, false,
    ⟨0, 0, 0, 0, 0, 0⟩, 0⟩

/-- The configuration options the parsers know, `L2CAP_CFG_TYPE_*`. -/
inductive CfgType where
  | mtu
  | flushTout
  | qos
  | fcr
  | fcs
  | extFlow
  deriving DecidableEq, Repr

/-- The option an option type byte names, once its hint bit is masked off. -/
def CfgType.ofCode : Nat → Option CfgType
  | 0x01 => some .mtu
  | 0x02 => some .flushTout
  | 0x03 => some .qos
  | 0x04 => some .fcr
  | 0x05 => some .fcs
  | 0x06 => some .extFlow
  | _ => none

/-- The length of an option's value, as the parsers read it. -/
def CfgType.len : CfgType → Nat
  | .mtu => 2
  | .flushTout => 2
  | .qos => 2 + 5 * 4
  | .fcr => 3 + 3 * 2
  | .fcs => 1
  | .extFlow => 2 + 2 + 3 * 4

/-- One case of the parsers' option switch: the option's present flag is
set and its fields are read, least significant byte first, from the bytes of
its value. -/
def CfgType.store (value : List UInt8) (info : CfgInfo) (cfgType : CfgType) : CfgInfo :=
  let byte (i : Nat) : UInt8 := value.getD i 0
  match cfgType with
  | .mtu => { info with mtuPresent := true, mtu := u16leAt byte 0 }
  | .flushTout => { info with flushToPresent := true, flushTo := u16leAt byte 0 }
  | .qos =>
      { info with
        qosPresent := true
        qos := ⟨(byte 0).toNat, (byte 1).toNat, u32leAt byte 2, u32leAt byte 6, u32leAt byte 10,
          u32leAt byte 14, u32leAt byte 18⟩ }
  | .fcr =>
      { info with
        fcrPresent := true
        fcr := ⟨(byte 0).toNat, (byte 1).toNat, (byte 2).toNat, u16leAt byte 3, u16leAt byte 5,
          u16leAt byte 7⟩ }
  | .fcs => { info with fcsPresent := true, fcs := (byte 0).toNat }
  | .extFlow =>
      { info with
        extFlowSpecPresent := true
        extFlowSpec := ⟨(byte 0).toNat, (byte 1).toNat, u16leAt byte 2, u32leAt byte 4, u32leAt byte 8,
          u32leAt byte 12⟩ }

/-- The present flags a configuration command clears before its options;
`ext_flow_spec_present` is not among them. -/
def CfgInfo.clearPresent (info : CfgInfo) : CfgInfo :=
  { info with
    flushToPresent := false
    mtuPresent := false
    qosPresent := false
    fcrPresent := false
    fcsPresent := false }

/-! ## Configuration Request -/

/-- The option loop of `L2CAP_CMD_CONFIG_REQ`, from the cursor to the end of
the command, which is also `p_cfg_end`.  A known option must have its
defined length and fit in the command; an unknown one is stepped over by its
length byte and, unless its hint bit is set, counted for the reject.  An
unknown option longer than the whole command ends the loop and makes the
request rejected. -/
def configReqOptions (mem : Nat → UInt8) (cmdLen pNextCmd p : Nat) (info : CfgInfo) (cfgRej : Bool)
    (cfgRejLen : Nat) : Option (CfgInfo × Bool × Nat) :=
  if p < pNextCmd then
    if pNextCmd < p + 2 then none
    else
      let cfgCode := (mem p).toNat
      let cfgLen := (mem (p + 1)).toNat
      match CfgType.ofCode (cfgCode &&& 0x7F) with
      | some cfgType =>
          if cfgLen ≠ cfgType.len then none
          else if pNextCmd < p + 2 + cfgLen then none
          else
            configReqOptions mem cmdLen pNextCmd (p + 2 + cfgLen)
              (cfgType.store (window mem (p + 2) cfgLen) info) cfgRej cfgRejLen
      | none =>
          if cfgLen + l2capCfgOptionOverhead ≤ cmdLen then
            if pNextCmd < p + 2 + cfgLen then none
            else if cfgCode &&& 0x80 = 0 then
              configReqOptions mem cmdLen pNextCmd (p + 2 + cfgLen) info true
                (cfgRejLen + cfgLen + l2capCfgOptionOverhead)
            else configReqOptions mem cmdLen pNextCmd (p + 2 + cfgLen) info cfgRej cfgRejLen
          else some (info, true, cfgRejLen)
  else some (info, cfgRej, cfgRejLen)
termination_by pNextCmd - p

/-- What `L2CAP_CMD_CONFIG_REQ` finds in a command whose data starts at `p`:
the local CID, where the options start, the configuration, whether to reject
and the length of the options to reject. -/
structure ConfigReqParsed where
  lcid : Nat
  cfgStart : Nat
  info : CfgInfo
  cfgRej : Bool
  cfgRejLen : Nat

/-- The parsing part of `L2CAP_CMD_CONFIG_REQ`. -/
def configReqCmd (mem : Nat → UInt8) (p cmdLen : Nat) (info : CfgInfo) : Option ConfigReqParsed :=
  let pNextCmd := p + cmdLen
  if pNextCmd < p + 4 then none
  else
    let info := CfgInfo.clearPresent { info with flags := u16leAt mem (p + 2) }
    (configReqOptions mem cmdLen pNextCmd (p + 4) info false 0).map fun found =>
      ⟨u16leAt mem p, p + 4, found.1, found.2.1, found.2.2⟩

/-- The loop of `l2cu_send_peer_config_rej` that copies the rejected options
from the request: it steps over known options by their length byte and
copies unknown ones that are not hints, while they fit in `buf_space`. -/
def configRejOptions (mem : Nat → UInt8) (dataLen pDataEnd pData bufSpace : Nat) : List UInt8 :=
  if pData < pDataEnd then
    let cfgCode := (mem pData).toNat
    let cfgLen := (mem (pData + 1)).toNat
    match CfgType.ofCode (cfgCode &&& 0x7F) with
    | some _ => configRejOptions mem dataLen pDataEnd (pData + cfgLen + l2capCfgOptionOverhead) bufSpace
    | none =>
        if cfgLen + l2capCfgOptionOverhead ≤ dataLen then
          if cfgCode &&& 0x80 = 0 then
            if cfgLen + l2capCfgOptionOverhead ≤ bufSpace then
              window mem pData (cfgLen + l2capCfgOptionOverhead) ++
                configRejOptions mem dataLen pDataEnd (pData + cfgLen + l2capCfgOptionOverhead)
                  (bufSpace - (cfgLen + l2capCfgOptionOverhead))
            else []
          else configRejOptions mem dataLen pDataEnd (pData + cfgLen + l2capCfgOptionOverhead) bufSpace
        else []
  else []
termination_by pDataEnd - pData
decreasing_by all_goals (unfold l2capCfgOptionOverhead; omega)

/-- The L2CAP header and the fixed fields of the Configuration Response that
`l2cu_send_peer_config_rej` builds, result `L2CAP_CFG_UNKNOWN_OPTIONS`; its
length fields count `rej_len` bytes of options. -/
def configRejHeader (remoteId remoteCid rejLen : Nat) : List UInt8 :=
  u16le (l2capCmdOverhead + l2capConfigRspLen + rejLen) ++ u16le l2capSignallingCid ++
    [UInt8.ofNat l2capCmdConfigRsp, UInt8.ofNat remoteId] ++ u16le (l2capConfigRspLen + rejLen) ++
    u16le remoteCid ++ u16le 0 ++ u16le l2capCfgUnknownOptions

/-- `l2cu_send_peer_config_rej`: the L2CAP packet of the Configuration
Response, its header followed by the options copied from the request.  The
HCI header in front is left out. -/
def l2cuSendPeerConfigRej (mem : Nat → UInt8) (remoteId remoteCid pData dataLen rejLen : Nat) :
    Option (List UInt8) :=
  let len := btHdrSize + hciDataPreambleSize + l2capPktOverhead + l2capCmdOverhead + l2capConfigRspLen
  if 0xFFFF - len < rejLen then none
  else some (configRejHeader remoteId remoteCid rejLen ++ configRejOptions mem dataLen (pData + dataLen) pData rejLen)

/-! ## Configuration Response -/

/-- The option loop of `L2CAP_CMD_CONFIG_RSP`.  The length byte of an option
is read and not used: a known option's fields are read at their fixed sizes,
and after an unknown option the loop goes on right behind its two header
bytes. -/
def configRspOptions (mem : Nat → UInt8) (pNextCmd p : Nat) (info : CfgInfo) : Option CfgInfo :=
  if p < pNextCmd then
    if pNextCmd < p + 2 then none
    else
      match CfgType.ofCode ((mem p).toNat &&& 0x7F) with
      | some cfgType =>
          if pNextCmd < p + 2 + cfgType.len then none
          else
            configRspOptions mem pNextCmd (p + 2 + cfgType.len)
              (cfgType.store (window mem (p + 2) cfgType.len) info)
      | none => configRspOptions mem pNextCmd (p + 2) info
  else some info
termination_by pNextCmd - p

theorem configRspOptions_known {mem : Nat → UInt8} {pNextCmd p : Nat} {info : CfgInfo} {cfgType : CfgType}
    (known : CfgType.ofCode ((mem p).toNat &&& 0x7F) = some cfgType) (fits : p + 2 + cfgType.len ≤ pNextCmd) :
    configRspOptions mem pNextCmd p info =
      configRspOptions mem pNextCmd (p + 2 + cfgType.len) (cfgType.store (window mem (p + 2) cfgType.len) info) := by
  rw [configRspOptions, if_pos (by omega), if_neg (by omega), known]
  dsimp only
  rw [if_neg (by omega)]

theorem configRspOptions_unknown {mem : Nat → UInt8} {pNextCmd p : Nat} {info : CfgInfo}
    (unknown : CfgType.ofCode ((mem p).toNat &&& 0x7F) = none) (fits : p + 2 ≤ pNextCmd) :
    configRspOptions mem pNextCmd p info = configRspOptions mem pNextCmd (p + 2) info := by
  rw [configRspOptions, if_pos (by omega), if_neg (by omega), unknown]

theorem configRspOptions_done {mem : Nat → UInt8} {pNextCmd p : Nat} {info : CfgInfo} (outside : pNextCmd ≤ p) :
    configRspOptions mem pNextCmd p info = some info := by
  rw [configRspOptions, if_neg (by omega)]

/-- The parsing part of `L2CAP_CMD_CONFIG_RSP`: the local CID and the
configuration handed to the state machine. -/
def configRspCmd (mem : Nat → UInt8) (p cmdLen : Nat) (info : CfgInfo) : Option (Nat × CfgInfo) :=
  let pNextCmd := p + cmdLen
  if pNextCmd < p + 6 then none
  else
    let info := CfgInfo.clearPresent { info with flags := u16leAt mem (p + 2), result := u16leAt mem (p + 4) }
    (configRspOptions mem pNextCmd (p + 6) info).map fun info => (u16leAt mem p, info)

/-! ## The command walk -/

/-- One command of a signalling packet: its code and identifier, and where
its data starts and how long it is. -/
structure SigCmd where
  cmdCode : Nat
  id : Nat
  start : Nat
  cmdLen : Nat
  deriving DecidableEq, Repr

/-- How the walk over the commands of a packet stops: fewer than four bytes
are left (`trailing` if any are), a command is longer than
`BT_SMALL_BUFFER_SIZE` (rejected as `L2CAP_CMD_REJ_MTU_EXCEEDED`), or a
command runs past the end of the packet. -/
inductive WalkEnd where
  | endOfPacket (trailing : Bool)
  | tooLong (id : Nat)
  | truncated
  deriving DecidableEq, Repr

/-- The commands `process_l2cap_cmd` walks from the cursor to the end of the
packet, with how the walk stops, when every handler goes on to the next
command; a handler that returns cuts the walk short. -/
def sigCommands (mem : Nat → UInt8) (pPktEnd p : Nat) : List SigCmd × WalkEnd :=
  if pPktEnd < p + 4 then ([], .endOfPacket (p != pPktEnd))
  else
    let cmdLen := u16leAt mem (p + 2)
    if btSmallBufferSize < cmdLen then ([], .tooLong (mem (p + 1)).toNat)
    else if pPktEnd < p + 4 + cmdLen then ([], .truncated)
    else
      let later := sigCommands mem pPktEnd (p + 4 + cmdLen)
      (⟨(mem p).toNat, (mem (p + 1)).toNat, p + 4, cmdLen⟩ :: later.1, later.2)
termination_by pPktEnd - p

end L2cap
end BluetoothStack
