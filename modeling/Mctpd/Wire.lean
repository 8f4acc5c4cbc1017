import Mathlib.Data.List.GetD
import Mathlib.Logic.Function.Iterate

/-!
# Control messages on the wire

The bytes `mctpd` puts in a control request and reads out of a control
response. Every control message starts with the three-byte header of
`mctp_ctrl_msg_hdr`: the message type, `rq_dgram_inst` (the request flag and
the 5-bit instance ID) and the command code; a response carries its
completion code right after it, at `completionCodeIndex`.

The instance IDs come from one rolling counter, `createInstanceId`, shared by
every request the daemon formats (`getFormattedReq`); `getInstanceId` reads
the ID back out of a header byte. The constants and layouts of
`libmctp-cmds.h` and `libmctp-msgtypes.h` are not part of the repository;
they are modelled from the spec's description of the header, each marked so.

* `getInstanceId_getRqDgramInst`: the instance ID read back from a formatted
  request is the one `createInstanceId` returned;
* `createInstanceId_iterate`: after `n` calls from the initial `0`, the
  counter holds `n % 32`.
-/

namespace Mctpd

/-- The state of a control transaction: `PacketState`, declared in
    `MCTPBinding.hpp`, which is not part of the repository; these are the five
    states `MCTPBinding.cpp` uses. -/
inductive PacketState
  | pushedForTransmission
  | transmitted
  | receivedResponse
  | noResponse
  | invalidPacket
  deriving DecidableEq, Repr

/-- `ctrlTxPollInterval`: the period of the transaction tick, in ms. -/
def ctrlTxPollInterval : UInt32 := 5

/-- `minCmdRespSize`: a header and a completion code. -/
def minCmdRespSize : Nat := 4

/-- `completionCodeIndex`: the completion code follows the 3-byte header. -/
def completionCodeIndex : Nat := 3

/-! ## The control header -/

/-- Modelled from the spec: `MCTP_CTRL_HDR_INSTANCE_ID_MASK` of `libmctp-cmds.h`,
    the bounded-width rolling correlation field of the header (five bits). -/
def mctpCtrlHdrInstanceIdMask : UInt8 := 0x1F

/-- Modelled from the spec: `MCTP_CTRL_HDR_FLAG_REQUEST`, the request-flag bit. -/
def mctpCtrlHdrFlagRequest : UInt8 := 0x80

/-- Modelled from the spec: `MCTP_CTRL_HDR_MSG_TYPE`, the message type of a
    control message. -/
def mctpCtrlHdrMsgType : UInt8 := 0x00

/-- Modelled from the spec: `MCTP_CTRL_CC_SUCCESS`, the success completion code. -/
def mctpCtrlCcSuccess : UInt8 := 0x00

/-- `getInstanceId`: the instance ID of an `rq_dgram_inst` byte. -/
def getInstanceId (msg : UInt8) : UInt8 := msg &&& mctpCtrlHdrInstanceIdMask

/-- `createInstanceId`: advances the static `instanceId` (passed in) and
    returns its new value, which is also what the function returns. -/
def createInstanceId (instanceId : UInt8) : UInt8 :=
  (instanceId + 1) &&& mctpCtrlHdrInstanceIdMask

/-- `getRqDgramInst`, given the instance ID `createInstanceId` returned. -/
def getRqDgramInst (instanceID : UInt8) : UInt8 := instanceID ||| mctpCtrlHdrFlagRequest

/-- The instance ID of a message: that of its `rq_dgram_inst` byte. A message
    too short to have one reads `0` there (the C++ reads past the buffer). -/
def msgInstanceId (msg : List UInt8) : UInt8 := getInstanceId (msg.getD 1 0)

theorem createInstanceId_of_lt : ∀ c : Fin 32,
    createInstanceId c.val.toUInt8 = ((c.val + 1) % 32).toUInt8 := by
  decide

theorem getInstanceId_getRqDgramInst_of_lt : ∀ c : Fin 32,
    getInstanceId (getRqDgramInst c.val.toUInt8) = c.val.toUInt8 := by
  decide

/-- `n` calls of `createInstanceId` from the initial `0`. -/
theorem createInstanceId_iterate (n : Nat) :
    createInstanceId^[n] 0 = (n % 32).toUInt8 := by
  induction n with
  | zero => rfl
  | succ n ih =>
    rw [Function.iterate_succ_apply', ih, createInstanceId_of_lt ⟨n % 32, Nat.mod_lt _ (by omega)⟩,
      Nat.mod_add_mod]

/-! ## Requests -/

/-- `mctp_ctrl_cmd_set_eid_op`: the operation of a Set Endpoint ID request. -/
inductive SetEidOp
  | setEid
  | forceEid
  | resetEid
  | setDiscoveredFlag
  deriving DecidableEq, Repr

/-- The operation's byte. -/
def SetEidOp.toUInt8 : SetEidOp → UInt8
  | .setEid => 0
  | .forceEid => 1
  | .resetEid => 2
  | .setDiscoveredFlag => 3

/-- The control commands `getFormattedReq` formats (its template parameter
    `cmd`), with their request parameters. -/
inductive CtrlCmd
  | getEndpointId
  | setEndpointId (operation : SetEidOp) (eid : UInt8)
  | getEndpointUuid
  | getVersionSupport (msgTypeNo : UInt8)
  | getMessageTypeSupport
  | getVendorMessageSupport (setSelector : UInt8)
  deriving DecidableEq, Repr

/-- Modelled from the spec: the command codes `MCTP_CTRL_CMD_*` of `libmctp-cmds.h`. -/
def CtrlCmd.code : CtrlCmd → UInt8
  | .setEndpointId .. => 0x01
  | .getEndpointId => 0x02
  | .getEndpointUuid => 0x03
  | .getVersionSupport _ => 0x04
  | .getMessageTypeSupport => 0x05
  | .getVendorMessageSupport _ => 0x06

/-- Modelled from the spec: the request fields `mctp_encode_ctrl_cmd_*` write
    after the header. -/
def CtrlCmd.params : CtrlCmd → List UInt8
  | .setEndpointId op eid => [op.toUInt8, eid]
  | .getVersionSupport msgTypeNo => [msgTypeNo]
  | .getVendorMessageSupport setSelector => [setSelector]
  | _ => []

/-- `getFormattedReq<cmd>`: the request buffer, the shared header (with the
    `rq_dgram_inst` byte given) followed by the command's fields. -/
def getFormattedReq (cmd : CtrlCmd) (rqDgramInst : UInt8) : List UInt8 :=
  [mctpCtrlHdrMsgType, rqDgramInst, cmd.code] ++ cmd.params

theorem getFormattedReq_ne_nil (cmd : CtrlCmd) (rq : UInt8) : getFormattedReq cmd rq ≠ [] := by
  simp [getFormattedReq]

/-- A formatted request carries the instance ID `createInstanceId` returned. -/
theorem getInstanceId_getRqDgramInst (cmd : CtrlCmd) (n : Nat) :
    msgInstanceId (getFormattedReq cmd (getRqDgramInst (n % 32).toUInt8)) = (n % 32).toUInt8 :=
  getInstanceId_getRqDgramInst_of_lt ⟨n % 32, Nat.mod_lt _ (by omega)⟩

/-! ## Message types -/

/-- Modelled from the spec: `MCTP_MESSAGE_TYPE_MCTP_CTRL` of `libmctp-msgtypes.h`,
    the tag of the control protocol. -/
def mctpMessageTypeMctpCtrl : UInt8 := 0x00

/-- Modelled from the spec: `MCTP_MESSAGE_TYPE_PLDM`. -/
def mctpMessageTypePldm : UInt8 := 0x01

/-- Modelled from the spec: `MCTP_MESSAGE_TYPE_NCSI`. -/
def mctpMessageTypeNcsi : UInt8 := 0x02

/-- Modelled from the spec: `MCTP_MESSAGE_TYPE_ETHERNET`. -/
def mctpMessageTypeEthernet : UInt8 := 0x03

/-- Modelled from the spec: `MCTP_MESSAGE_TYPE_NVME`. -/
def mctpMessageTypeNvme : UInt8 := 0x04

/-- Modelled from the spec: `MCTP_MESSAGE_TYPE_SPDM`. -/
def mctpMessageTypeSpdm : UInt8 := 0x05

/-- Modelled from the spec: `MCTP_MESSAGE_TYPE_VDPCI`. -/
def mctpMessageTypeVdpci : UInt8 := 0x7E

/-- Modelled from the spec: `MCTP_MESSAGE_TYPE_VDIANA`. -/
def mctpMessageTypeVdiana : UInt8 := 0x7F

/-! ## Responses -/

/-- Modelled from the spec: `mctp_is_mctp_ctrl_msg` of libmctp, a message with
    a whole control header whose leading message-type tag is the control one. -/
def mctpIsMctpCtrlMsg (msg : List UInt8) : Bool :=
  3 ≤ msg.length && msg.getD 0 0 == mctpCtrlHdrMsgType

/-- Modelled from the spec: `mctp_ctrl_msg_is_req` of libmctp, a control
    message whose request flag is set. -/
def mctpCtrlMsgIsReq (msg : List UInt8) : Bool :=
  mctpIsMctpCtrlMsg msg && (msg.getD 1 0 &&& mctpCtrlHdrFlagRequest) != 0

/-- Modelled from the spec: `sizeof(mctp_ctrl_resp_get_eid)`, the header, the
    completion code, `eid`, `eid_type` and the medium data. -/
def sizeofGetEidResp : Nat := 7

/-- Modelled from the spec: `sizeof(mctp_ctrl_resp_set_eid)`, the header, the
    completion code, the status, `eid_set` and the pool size. -/
def sizeofSetEidResp : Nat := 7

/-- Modelled from the spec: `sizeof(mctp_ctrl_resp_get_uuid)`, the header, the
    completion code and the 16-byte `uuid`. -/
def sizeofGetUuidResp : Nat := 20

/-- `getEidRespPtr->eid`. -/
def getEidRespEid (resp : List UInt8) : UInt8 := resp.getD 4 0

/-- `getEidRespPtr->eid_type`. -/
def getEidRespEidType (resp : List UInt8) : UInt8 := resp.getD 5 0

/-- `setEidRespPtr->eid_set`. -/
def setEidRespEidSet (resp : List UInt8) : UInt8 := resp.getD 5 0

/-- `getUuidRespPtr->uuid`, the 16 bytes after the completion code, or `none`
    when they are not all inside the buffer: reading them is then undefined
    behaviour in the C++. -/
def getUuidRespUuid (resp : List UInt8) : Option (List UInt8) :=
  if sizeofGetUuidResp ≤ resp.length then some ((resp.drop 4).take 16) else none

end Mctpd
