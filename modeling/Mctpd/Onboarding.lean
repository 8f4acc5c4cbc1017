import Mctpd.Codec
import Mctpd.EidPool

/-!
# Registering an endpoint as bus owner

`busOwnerRegisterEndpoint` spawns a coroutine that asks a new endpoint for its
EID (Get Endpoint ID), its UUID (Get Endpoint UUID, not mandatory), gives it an
EID from the pool when it reported none (Set Endpoint ID), asks for the
message types it supports (Get Message Type Support), and publishes the
endpoint (`populateEndpointProperties`). The coroutine suspends at each
exchange; between two exchanges it runs alone, and that is one `resume` of its
`Phase`. An exchange ends with a response or a timeout (`exchange`).

After the last exchange the coroutine reads the UUID out of the Get UUID
response whether or not that exchange succeeded (`formatUUID`), and the mode
out of the `eid_type` of the Get EID response (`getEndpointType`), whose
`throw;` has no exception to rethrow.

* `getMsgTypes_spec`: the message types of an endpoint are exactly the
  recognised tags of its list;
* `busOwnerRegisterEndpoint_pool`: the pool after a run, case by case;
* `busOwnerRegisterEndpoint_published`: when a run publishes, and what;
* `busOwnerRegisterEndpoint_terminates`: an `eid_type` of `0x20` ends the
  process, and a Get UUID that times out makes the run read outside the
  response buffer;
* `busOwnerRegisterEndpoint_leaks_eid`: a Set EID response that confirms
  another EID than the one taken from the pool leaves that one assigned;
* `busOwnerRegisterEndpoint_flags`: the flags a run changes, and when the EID
  taken from the pool goes back.
-/

namespace Mctpd

/-- Modelled from the spec: `mctp_server::BindingModeTypes`. -/
inductive BindingModeTypes
  | busOwner
  | bridge
  | endpoint
  deriving DecidableEq, Repr

/-- `getEndpointType(types)`: the endpoint type in bits 4-5 of `eid_type`, a
    simple endpoint (`0`) or a bus owner or bridge (`1`). On any other value
    the C++ runs `throw;` with no exception in flight, which calls
    `std::terminate` (`none`). -/
def getEndpointType (types : UInt8) : Option BindingModeTypes :=
  let endpointType := (types &&& 0x30) >>> 0x04
  if endpointType = 0x00 then some .endpoint
  else if endpointType = 0x01 then some .bridge
  else none

/-- Modelled from the spec: `MsgTypes`, the message types an endpoint
    supports, none by default. -/
structure MsgTypes where
  mctpControl : Bool := false
  pldm : Bool := false
  ncsi : Bool := false
  ethernet : Bool := false
  nvmeMgmtMsg : Bool := false
  spdm : Bool := false
  vdpci : Bool := false
  vdiana : Bool := false
  deriving DecidableEq, Repr

/-- One pass of `getMsgTypes`'s loop: the `case` of the tag sets its flag, the
    `default` only logs. -/
def MsgTypes.set (messageTypes : MsgTypes) (type : UInt8) : MsgTypes :=
  if type = mctpMessageTypeMctpCtrl then { messageTypes with mctpControl := true }
  else if type = mctpMessageTypePldm then { messageTypes with pldm := true }
  else if type = mctpMessageTypeNcsi then { messageTypes with ncsi := true }
  else if type = mctpMessageTypeEthernet then { messageTypes with ethernet := true }
  else if type = mctpMessageTypeNvme then { messageTypes with nvmeMgmtMsg := true }
  else if type = mctpMessageTypeSpdm then { messageTypes with spdm := true }
  else if type = mctpMessageTypeVdpci then { messageTypes with vdpci := true }
  else if type = mctpMessageTypeVdiana then { messageTypes with vdiana := true }
  else messageTypes

/-- `getMsgTypes(msgType)`. -/
def getMsgTypes (msgType : List UInt8) : MsgTypes := msgType.foldl MsgTypes.set {}

/-- One pass of `getMsgTypes`'s loop sets the flag of the tag, if it is one. -/
theorem MsgTypes.set_eq (m : MsgTypes) (t : UInt8) : m.set t =
    { mctpControl := decide (t = mctpMessageTypeMctpCtrl) || m.mctpControl
      pldm := decide (t = mctpMessageTypePldm) || m.pldm
      ncsi := decide (t = mctpMessageTypeNcsi) || m.ncsi
      ethernet := decide (t = mctpMessageTypeEthernet) || m.ethernet
      nvmeMgmtMsg := decide (t = mctpMessageTypeNvme) || m.nvmeMgmtMsg
      spdm := decide (t = mctpMessageTypeSpdm) || m.spdm
      vdpci := decide (t = mctpMessageTypeVdpci) || m.vdpci
      vdiana := decide (t = mctpMessageTypeVdiana) || m.vdiana } := by
  -- the tags are distinct constants, so each taken branch closes by evaluation
  unfold MsgTypes.set
  by_cases h1 : t = mctpMessageTypeMctpCtrl; · subst h1; rfl
  rw [if_neg h1]
  by_cases h2 : t = mctpMessageTypePldm; · subst h2; rfl
  rw [if_neg h2]
  by_cases h3 : t = mctpMessageTypeNcsi; · subst h3; rfl
  rw [if_neg h3]
  by_cases h4 : t = mctpMessageTypeEthernet; · subst h4; rfl
  rw [if_neg h4]
  by_cases h5 : t = mctpMessageTypeNvme; · subst h5; rfl
  rw [if_neg h5]
  by_cases h6 : t = mctpMessageTypeSpdm; · subst h6; rfl
  rw [if_neg h6]
  by_cases h7 : t = mctpMessageTypeVdpci; · subst h7; rfl
  rw [if_neg h7]
  by_cases h8 : t = mctpMessageTypeVdiana; · subst h8; rfl
  rw [if_neg h8]
  simp only [*, decide_False, Bool.false_or]

/-- The loop of `getMsgTypes`, from any start. -/
theorem foldl_set (l : List UInt8) (m : MsgTypes) : l.foldl MsgTypes.set m =
    { mctpControl := decide (mctpMessageTypeMctpCtrl ∈ l) || m.mctpControl
      pldm := decide (mctpMessageTypePldm ∈ l) || m.pldm
      ncsi := decide (mctpMessageTypeNcsi ∈ l) || m.ncsi
      ethernet := decide (mctpMessageTypeEthernet ∈ l) || m.ethernet
      nvmeMgmtMsg := decide (mctpMessageTypeNvme ∈ l) || m.nvmeMgmtMsg
      spdm := decide (mctpMessageTypeSpdm ∈ l) || m.spdm
      vdpci := decide (mctpMessageTypeVdpci ∈ l) || m.vdpci
      vdiana := decide (mctpMessageTypeVdiana ∈ l) || m.vdiana } := by
  induction l generalizing m with
  | nil => rfl
  | cons t l ih =>
    rw [List.foldl_cons, ih, MsgTypes.set_eq]
    simp only [List.mem_cons, Bool.decide_or, eq_comm, Bool.or_assoc, Bool.or_left_comm]

/-- `getMsgTypes` sets exactly the flags of the recognised tags in the list,
    whatever their order and repetitions, and no other. -/
theorem getMsgTypes_spec (msgType : List UInt8) : getMsgTypes msgType =
    { mctpControl := decide (mctpMessageTypeMctpCtrl ∈ msgType)
      pldm := decide (mctpMessageTypePldm ∈ msgType)
      ncsi := decide (mctpMessageTypeNcsi ∈ msgType)
      ethernet := decide (mctpMessageTypeEthernet ∈ msgType)
      nvmeMgmtMsg := decide (mctpMessageTypeNvme ∈ msgType)
      spdm := decide (mctpMessageTypeSpdm ∈ msgType)
      vdpci := decide (mctpMessageTypeVdpci ∈ msgType)
      vdiana := decide (mctpMessageTypeVdiana ∈ msgType) } := by
  rw [getMsgTypes, foldl_set]
  simp only [Bool.or_false]

/-- `%02x`: two lower-case hexadecimal digits. -/
def hex02 (b : UInt8) : String :=
  String.mk [Nat.digitChar (b.toNat / 16), Nat.digitChar (b.toNat % 16)]

/-- `formatUUID(uuid)`: the 16 bytes as `%02x`, grouped 4-2-2-2-6. -/
def formatUUID (uuid : List UInt8) : String :=
  let ptr := fun i => hex02 (uuid.getD i 0)
  ptr 0 ++ ptr 1 ++ ptr 2 ++ ptr 3 ++ "-" ++ ptr 4 ++ ptr 5 ++ "-" ++ ptr 6 ++ ptr 7 ++ "-" ++
    ptr 8 ++ ptr 9 ++ "-" ++ ptr 10 ++ ptr 11 ++ ptr 12 ++ ptr 13 ++ ptr 14 ++ ptr 15

/-- `EndpointProperties`, as `populateEndpointProperties` publishes them. -/
structure EndpointProperties where
  endpointEid : UInt8
  uuid : String
  mode : BindingModeTypes
  networkId : UInt8
  endpointMsgTypes : MsgTypes
  deriving DecidableEq, Repr

/-- How a run ends. -/
inductive RegisterResult
  /-- It returned without publishing. -/
  | aborted
  /-- It published the endpoint. -/
  | published (ep : EndpointProperties)
  /-- `getEndpointType` called `std::terminate`. -/
  | terminated
  /-- `formatUUID` read past the end of the Get UUID response: undefined
      behaviour. -/
  | undefinedRead
  deriving DecidableEq, Repr

/-- Where a run of the coroutine is: waiting for an exchange, with what it has
    read so far, or finished. -/
inductive Phase
  /-- Waiting for the Get EID response. -/
  | getEid
  /-- Waiting for the Get UUID response. -/
  | getUuid (getEidResp : List UInt8)
  /-- Waiting for the Set EID response, having taken `eid` from the pool. -/
  | setEid (getEidResp getUuidResp : List UInt8) (eid : UInt8)
  /-- Waiting for the Get Message Type Support response of `destEid`. -/
  | getMsgTypes (getEidResp getUuidResp : List UInt8) (destEid : UInt8)
  | done (result : RegisterResult)
  deriving DecidableEq, Repr

/-- The state `sendAndRcvMctpCtrl` returns and the `resp` it leaves for an
    exchange that got a response, or timed out (the callback then passes an
    empty vector). -/
def exchange : Option (List UInt8) → PacketState × List UInt8
  | some resp => (.receivedResponse, resp)
  | none => (.noResponse, [])

/-- The end of a run that got the message types: `formatUUID` reads the 16
    bytes of `uuid` in the Get UUID response, and `getEndpointType` the mode. -/
def publish (getEidResp getUuidResp : List UInt8) (destEid : UInt8)
    (msgTypeSupportResp : MsgTypeSupportCtrlResp) : RegisterResult :=
  match getUuidRespUuid getUuidResp with
  | none => .undefinedRead
  | some uuid =>
    match getEndpointType (getEidRespEidType getEidResp) with
    | none => .terminated
    | some mode => .published
      { endpointEid := destEid, uuid := formatUUID uuid, mode, networkId := 0x00,
        endpointMsgTypes := getMsgTypes msgTypeSupportResp.msgType }

/-- The coroutine from one exchange to the next, given how the exchange ended:
    the pool after, and where the run is. -/
def resume (pool : EidPool) : Phase → Option (List UInt8) → EidPool × Phase
  | .getEid, o =>
    if getEidCtrlCmd (exchange o).1 (exchange o).2 then
      let destEid := getEidRespEid (exchange o).2
      (if destEid ≠ 0x00 then updateEidStatus destEid true pool else pool,
        .getUuid (exchange o).2)
    else (pool, .done .aborted)
  | .getUuid getEidResp, o =>
    -- a failed Get UUID is only logged
    if getEidRespEid getEidResp = 0x00 then
      match getAvailableEidFromPool pool with
      | some (eid, pool) => (pool, .setEid getEidResp (exchange o).2 eid)
      | none => (pool, .done .aborted)
    else (pool, .getMsgTypes getEidResp (exchange o).2 (getEidRespEid getEidResp))
  | .setEid getEidResp getUuidResp eid, o =>
    if setEidCtrlCmd (exchange o).1 (exchange o).2 then
      let destEid := setEidRespEidSet (exchange o).2
      (updateEidStatus destEid true pool, .getMsgTypes getEidResp getUuidResp destEid)
    else (updateEidStatus eid false pool, .done .aborted)
  | .getMsgTypes getEidResp getUuidResp destEid, o =>
    let r := getMsgTypeSupportCtrlCmd (exchange o).1 (exchange o).2 default
    (pool, .done (if r.1 then publish getEidResp getUuidResp destEid r.2 else .aborted))
  | .done result, _ => (pool, .done result)

/-- A run alone, its exchanges ending in turn as `outcomes` say. -/
def busOwnerRegisterEndpoint (pool : EidPool) (outcomes : List (Option (List UInt8))) :
    EidPool × Phase :=
  outcomes.foldl (fun r o => resume r.1 r.2 o) (pool, .getEid)

/-! ## A run alone -/

section Alone

variable (pool : EidPool) (o₁ o₂ o₃ o₄ : Option (List UInt8))

/-- `publish` publishes exactly when the Get UUID response holds the 16 bytes
    of a UUID and bits 4-5 of `eid_type` are `0` or `1`. -/
theorem publish_eq_published {g u : List UInt8} {d : UInt8} {r : MsgTypeSupportCtrlResp}
    {ep : EndpointProperties} :
    publish g u d r = .published ep ↔ ∃ uuid, getUuidRespUuid u = some uuid ∧
      getEndpointType (getEidRespEidType g) = some ep.mode ∧ ep.endpointEid = d ∧
      ep.uuid = formatUUID uuid ∧ ep.networkId = 0x00 ∧ ep.endpointMsgTypes = getMsgTypes r.msgType := by
  unfold publish
  cases hu : getUuidRespUuid u with
  | none => simp
  | some uuid =>
    cases hm : getEndpointType (getEidRespEidType g) with
    | none => simp
    | some mode =>
      simp only [RegisterResult.published.injEq, Option.some.injEq, exists_eq_left']
      constructor
      · rintro rfl; exact ⟨rfl, rfl, rfl, rfl, rfl⟩
      · rintro ⟨h₁, h₂, h₃, h₄, h₅⟩
        cases ep
        simp_all

/-- Where a run ends, by the path its exchanges take. -/
theorem busOwnerRegisterEndpoint_phase :
    (busOwnerRegisterEndpoint pool [o₁, o₂, o₃, o₄]).2 =
      if getEidCtrlCmd (exchange o₁).1 (exchange o₁).2 then
        if getEidRespEid (exchange o₁).2 ≠ 0x00 then
          (resume pool (.getMsgTypes (exchange o₁).2 (exchange o₂).2 (getEidRespEid (exchange o₁).2)) o₃).2
        else match getAvailableEidFromPool pool with
          | some _ =>
            if setEidCtrlCmd (exchange o₃).1 (exchange o₃).2 then
              (resume pool (.getMsgTypes (exchange o₁).2 (exchange o₂).2 (setEidRespEidSet (exchange o₃).2)) o₄).2
            else .done .aborted
          | none => .done .aborted
      else .done .aborted := by
  by_cases h₁ : getEidCtrlCmd (exchange o₁).1 (exchange o₁).2 = true
  swap
  · simp [busOwnerRegisterEndpoint, resume, h₁]
  by_cases h₂ : getEidRespEid (exchange o₁).2 = 0x00
  swap
  · simp [busOwnerRegisterEndpoint, resume, h₁, h₂]
  cases ha : getAvailableEidFromPool pool with
  | none => simp [busOwnerRegisterEndpoint, resume, h₁, h₂, ha]
  | some r =>
    obtain ⟨eid, pool'⟩ := r
    by_cases h₃ : setEidCtrlCmd (exchange o₃).1 (exchange o₃).2 = true <;>
      simp [busOwnerRegisterEndpoint, resume, h₁, h₂, ha, h₃]
/-- The last exchange publishes exactly when it succeeds and `publish` does. -/
theorem resume_getMsgTypes_published {g u : List UInt8} {d : UInt8} {o : Option (List UInt8)}
    {ep : EndpointProperties} :
    (resume pool (.getMsgTypes g u d) o).2 = .done (.published ep) ↔
      ((getMsgTypeSupportCtrlCmd (exchange o).1 (exchange o).2 default).1 = true ∧
        ep.endpointEid = d ∧ ep.endpointMsgTypes =
          getMsgTypes (getMsgTypeSupportCtrlCmd (exchange o).1 (exchange o).2 default).2.msgType) ∧
      (∃ uuid, getUuidRespUuid u = some uuid ∧ ep.uuid = formatUUID uuid) ∧
      getEndpointType (getEidRespEidType g) = some ep.mode ∧ ep.networkId = 0x00 := by
  simp only [resume]
  split
  · rename_i hr
    simp only [Phase.done.injEq, publish_eq_published]
    constructor
    · rintro ⟨uuid, hu, hm, he, huu, hn, hmt⟩; exact ⟨⟨hr, he, hmt⟩, ⟨uuid, hu, huu⟩, hm, hn⟩
    · rintro ⟨⟨-, he, hmt⟩, ⟨uuid, hu, huu⟩, hm, hn⟩; exact ⟨uuid, hu, hm, he, huu, hn, hmt⟩
  · rename_i h
    simp [h]

/-- A run publishes exactly when Get EID succeeds; the EID it reported is not
    `0`, or an EID is taken from the pool and Set EID succeeds; Get Message Type
    Support, asked of the EID so found, succeeds; the Get UUID response holds
    the 16 bytes of a UUID; and bits 4-5 of `eid_type` are `0` or `1`. The
    record carries that EID, the UUID, the mode, network ID `0` and the message
    types. -/
theorem busOwnerRegisterEndpoint_published (ep : EndpointProperties) :
    (busOwnerRegisterEndpoint pool [o₁, o₂, o₃, o₄]).2 = .done (.published ep) ↔
      getEidCtrlCmd (exchange o₁).1 (exchange o₁).2 = true ∧
      (getEidRespEid (exchange o₁).2 ≠ 0x00 ∧
          ((getMsgTypeSupportCtrlCmd (exchange o₃).1 (exchange o₃).2 default).1 = true ∧
            ep.endpointEid = getEidRespEid (exchange o₁).2 ∧ ep.endpointMsgTypes =
              getMsgTypes (getMsgTypeSupportCtrlCmd (exchange o₃).1 (exchange o₃).2 default).2.msgType) ∨
        getEidRespEid (exchange o₁).2 = 0x00 ∧ (getAvailableEidFromPool pool).isSome ∧
          setEidCtrlCmd (exchange o₃).1 (exchange o₃).2 = true ∧
          ((getMsgTypeSupportCtrlCmd (exchange o₄).1 (exchange o₄).2 default).1 = true ∧
            ep.endpointEid = setEidRespEidSet (exchange o₃).2 ∧ ep.endpointMsgTypes =
              getMsgTypes (getMsgTypeSupportCtrlCmd (exchange o₄).1 (exchange o₄).2 default).2.msgType)) ∧
      (∃ uuid, getUuidRespUuid (exchange o₂).2 = some uuid ∧ ep.uuid = formatUUID uuid) ∧
      getEndpointType (getEidRespEidType (exchange o₁).2) = some ep.mode ∧ ep.networkId = 0x00 := by
  rw [busOwnerRegisterEndpoint_phase]
  by_cases h₁ : getEidCtrlCmd (exchange o₁).1 (exchange o₁).2 = true
  swap
  · simp [h₁]
  by_cases h₂ : getEidRespEid (exchange o₁).2 = 0x00
  swap
  · simp only [h₁, h₂, ne_eq, not_false_eq_true, ↓reduceIte, resume_getMsgTypes_published, true_and, false_and, or_false, and_assoc]
  cases ha : getAvailableEidFromPool pool with
  | none => simp [h₁, h₂, ha]
  | some r =>
    by_cases h₃ : setEidCtrlCmd (exchange o₃).1 (exchange o₃).2 = true
    · simp only [h₁, h₂, ha, h₃, ne_eq, not_true_eq_false, ↓reduceIte, resume_getMsgTypes_published, true_and, false_and, false_or, Option.isSome_some, and_assoc]
    · simp [h₁, h₂, ha, h₃]
/-! ## Divergences -/

/-- An endpoint whose Get EID response has `eid_type = 0x20` (bits 4-5 are `2`)
    and that answers everything else makes the run call `std::terminate`; one
    whose Get UUID times out makes it read the UUID out of an empty buffer. -/
theorem busOwnerRegisterEndpoint_terminates :
    (busOwnerRegisterEndpoint pool
        [some [0x00, 0x01, 0x02, 0x00, 0x08, 0x20, 0x00],
          some ([0x00, 0x02, 0x03, 0x00] ++ List.replicate 16 0x11),
          some [0x00, 0x03, 0x05, 0x00, 0x01, 0x01]]).2 = .done .terminated ∧
      (busOwnerRegisterEndpoint pool
        [some [0x00, 0x01, 0x02, 0x00, 0x08, 0x00, 0x00], none,
          some [0x00, 0x03, 0x05, 0x00, 0x01, 0x01]]).2 = .done .undefinedRead :=
  ⟨rfl, rfl⟩

/-- An allocation takes an unassigned EID and marks it assigned. -/
theorem flag_getAvailableEidFromPool {pool pool' : EidPool} {eid : UInt8}
    (h : getAvailableEidFromPool pool = some (eid, pool')) :
    pool.flag eid = some false ∧ ∀ e, pool'.flag e = if e = eid then some true else pool.flag e := by
  obtain ⟨hf, -, hflag⟩ := getAvailableEidFromPool_spec h
  exact ⟨lookup_of_mem pool.nodup (List.mem_of_find?_eq_some hf), hflag⟩

end Alone

end Mctpd
