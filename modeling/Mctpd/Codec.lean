import Mctpd.Wire

/-!
# Validating control responses

What the control-command wrappers of `MctpBinding` accept, once
`sendAndRcvMctpCtrl` has returned its state and left the response bytes in the
caller's buffer. (The request each wrapper formats and submits is the engine's
business, `Mctpd.Engine`.)

The fixed-size responses (Get EID, Set EID, Get UUID) share one check,
`checkRespSizeAndCompletionCode`, applied to the size of each response
structure: `fixedCtrlCmd` is that family, and the three wrappers are its
members. The two responses with a count-prefixed list (Get Message Type
Support, Get MCTP Version Support) read a five-byte prefix, the header, the
completion code and the count, and then the list.

Every byte the model reads is read as `resp[i]` with its bound proved from the
checks made before it, as the C++ reads them: no read past the buffer can be
written down here.

* `fixedCtrlCmd_iff`: a fixed-size command succeeds exactly on a received
  response of the structure's size with a success completion code;
* `fixedCtrlCmds_iff`: the same for Get EID, Set EID and Get UUID;
* `getMsgTypeSupportCtrlCmd_spec`, `getMctpVersionSupportCtrlCmd_spec`: the
  list commands succeed exactly on a received response *longer* than the
  five-byte prefix, with a success completion code and a length matching the
  count, and only then fill in their list;
* `getMsgTypeSupportCtrlCmd_rejects_empty_list`: so a well-formed response
  announcing no message type is rejected.
-/

namespace Mctpd

/-- `checkMinRespSize`: room for the header and the completion code. -/
def checkMinRespSize (resp : List UInt8) : Bool := minCmdRespSize ≤ resp.length

theorem completionCodeIndex_lt {resp : List UInt8} (h : checkMinRespSize resp = true) :
    completionCodeIndex < resp.length := by
  simp only [checkMinRespSize, minCmdRespSize, decide_eq_true_eq] at h
  exact h

/-- `checkRespSizeAndCompletionCode<structure>`, for a structure of
    `sizeofStructure` bytes. -/
def checkRespSizeAndCompletionCode (sizeofStructure : Nat) (resp : List UInt8) : Bool :=
  if h : checkMinRespSize resp then
    have := completionCodeIndex_lt h
    resp[completionCodeIndex] == mctpCtrlCcSuccess && resp.length == sizeofStructure
  else false

/-- A fixed-size control command, once `sendAndRcvMctpCtrl` returned `state` and
    left `resp` in the caller's buffer: it succeeds if a response was received
    and it passes `checkRespSizeAndCompletionCode<structure>`. -/
def fixedCtrlCmd (sizeofStructure : Nat) (state : PacketState) (resp : List UInt8) : Bool :=
  state == .receivedResponse && checkRespSizeAndCompletionCode sizeofStructure resp

/-- `getEidCtrlCmd`: `mctp_ctrl_resp_get_eid`. -/
def getEidCtrlCmd : PacketState → List UInt8 → Bool := fixedCtrlCmd sizeofGetEidResp

/-- `setEidCtrlCmd`: `mctp_ctrl_resp_set_eid`. -/
def setEidCtrlCmd : PacketState → List UInt8 → Bool := fixedCtrlCmd sizeofSetEidResp

/-- `getUuidCtrlCmd`: `mctp_ctrl_resp_get_uuid`. -/
def getUuidCtrlCmd : PacketState → List UInt8 → Bool := fixedCtrlCmd sizeofGetUuidResp

/-- For every structure holding at least the header and the completion code. -/
theorem checkRespSizeAndCompletionCode_iff {sizeofStructure : Nat}
    (hsize : minCmdRespSize ≤ sizeofStructure) (resp : List UInt8) :
    checkRespSizeAndCompletionCode sizeofStructure resp = true ↔
      resp.length = sizeofStructure ∧ resp.getD completionCodeIndex 0 = mctpCtrlCcSuccess := by
  unfold checkRespSizeAndCompletionCode
  split
  · rename_i h
    rw [List.getD_eq_getElem _ _ (completionCodeIndex_lt h)]
    simp only [Bool.and_eq_true, beq_iff_eq, and_comm]
  · rename_i h
    simp only [checkMinRespSize, decide_eq_true_eq, Bool.not_eq_true, decide_eq_false_iff_not,
      Bool.false_eq_true, false_iff, not_and] at h ⊢
    omega

theorem fixedCtrlCmd_iff {sizeofStructure : Nat} (hsize : minCmdRespSize ≤ sizeofStructure)
    (state : PacketState) (resp : List UInt8) :
    fixedCtrlCmd sizeofStructure state resp = true ↔ state = .receivedResponse ∧
      resp.length = sizeofStructure ∧ resp.getD completionCodeIndex 0 = mctpCtrlCcSuccess := by
  simp only [fixedCtrlCmd, Bool.and_eq_true, beq_iff_eq, checkRespSizeAndCompletionCode_iff hsize]

/-! ## Count-prefixed lists -/

/-- `mctp_ctrl_msg_hdr`. -/
structure MctpCtrlMsgHdr where
  icMsgType : UInt8
  rqDgramInst : UInt8
  commandCode : UInt8
  deriving DecidableEq, Repr, Inhabited

/-- `MsgTypeSupportCtrlResp`: the prefix as read, and the list of message types. -/
structure MsgTypeSupportCtrlResp where
  ctrlMsgHeader : MctpCtrlMsgHdr
  completionCode : UInt8
  msgTypeCount : UInt8
  msgType : List UInt8
  deriving DecidableEq, Repr, Inhabited

/-- `MctpVersionSupportCtrlResp`: the prefix as read, and the version entries. -/
structure MctpVersionSupportCtrlResp where
  ctrlMsgHeader : MctpCtrlMsgHdr
  completionCode : UInt8
  verNoEntryCount : UInt8
  verNoEntry : List (List UInt8)
  deriving DecidableEq, Repr, Inhabited

/-- `minMsgTypeRespLen`: the header, the completion code and the count. -/
def minMsgTypeRespLen : Nat := 5

/-- `mctpVersionLen`: the size of one version entry. -/
def mctpVersionLen : Nat := 4

/-- The prefix check both list commands make after `checkMinRespSize`: a
    success completion code, and a response longer than the prefix. -/
def listPrefixOk (resp : List UInt8) (h : checkMinRespSize resp = true) : Prop :=
  have := completionCodeIndex_lt h
  resp[completionCodeIndex] = mctpCtrlCcSuccess ∧ minMsgTypeRespLen < resp.length

instance (resp : List UInt8) (h : checkMinRespSize resp = true) :
    Decidable (listPrefixOk resp h) :=
  inferInstanceAs (Decidable (_ ∧ _))

theorem header_lt {resp : List UInt8} (h : checkMinRespSize resp = true) (i : Nat) (hi : i < 4) :
    i < resp.length := by
  have := completionCodeIndex_lt h
  simp only [completionCodeIndex] at this
  omega

theorem count_lt {resp : List UInt8} {h : checkMinRespSize resp = true}
    (hp : listPrefixOk resp h) : 4 < resp.length := by
  have := hp.2
  simp only [minMsgTypeRespLen] at this
  omega

/-- The header as copied out of the response's first three bytes. -/
def readHdr (resp : List UInt8) (h : checkMinRespSize resp = true) : MctpCtrlMsgHdr :=
  have := header_lt h 2 (by decide)
  ⟨resp[0], resp[1], resp[2]⟩

/-- `getMsgTypeSupportCtrlCmd`, once `sendAndRcvMctpCtrl` returned `state` and
    `resp`, writing into `*msgTypeSupportResp`: whether it succeeded, and the
    structure it leaves. -/
def getMsgTypeSupportCtrlCmd (state : PacketState) (resp : List UInt8)
    (msgTypeSupportResp : MsgTypeSupportCtrlResp) : Bool × MsgTypeSupportCtrlResp :=
  if state ≠ .receivedResponse then (false, msgTypeSupportResp) else
  if h : checkMinRespSize resp then
    have := completionCodeIndex_lt h
    let completionCode := resp[completionCodeIndex]
    if hp : listPrefixOk resp h then
      have := count_lt hp
      let r := { msgTypeSupportResp with
        ctrlMsgHeader := readHdr resp h, completionCode, msgTypeCount := resp[4] }
      if resp.length - minMsgTypeRespLen ≠ r.msgTypeCount.toNat then (false, r)
      else (true, { r with msgType := resp.drop minMsgTypeRespLen })
    else (false, { msgTypeSupportResp with ctrlMsgHeader := readHdr resp h, completionCode })
  else (false, msgTypeSupportResp)

/-- The version entries the loop of `getMctpVersionSupportCtrlCmd` copies out:
    entry `iter` (from `1`) is the slice from `5 + 4 * (iter - 1)` to
    `5 + 4 * iter`. -/
def verNoEntries (resp : List UInt8) (count : Nat) : List (List UInt8) :=
  (List.range count).map fun i => (resp.drop (minMsgTypeRespLen + mctpVersionLen * i)).take mctpVersionLen

/-- `getMctpVersionSupportCtrlCmd`, once `sendAndRcvMctpCtrl` returned `state`
    and `resp`, writing into `*mctpVersionSupportCtrlResp`. The entries are
    appended (`push_back`) to what the structure held. -/
def getMctpVersionSupportCtrlCmd (state : PacketState) (resp : List UInt8)
    (mctpVersionSupportCtrlResp : MctpVersionSupportCtrlResp) :
    Bool × MctpVersionSupportCtrlResp :=
  if state ≠ .receivedResponse then (false, mctpVersionSupportCtrlResp) else
  if h : checkMinRespSize resp then
    have := completionCodeIndex_lt h
    let completionCode := resp[completionCodeIndex]
    if hp : listPrefixOk resp h then
      have := count_lt hp
      let r := { mctpVersionSupportCtrlResp with
        ctrlMsgHeader := readHdr resp h, completionCode, verNoEntryCount := resp[4] }
      if resp.length - minMsgTypeRespLen ≠ r.verNoEntryCount.toNat * mctpVersionLen then (false, r)
      else (true, { r with verNoEntry := r.verNoEntry ++ verNoEntries resp r.verNoEntryCount.toNat })
    else (false, { mctpVersionSupportCtrlResp with ctrlMsgHeader := readHdr resp h, completionCode })
  else (false, mctpVersionSupportCtrlResp)

/-! ### What the list commands accept -/

theorem listPrefixOk_iff {resp : List UInt8} (h : checkMinRespSize resp = true) :
    listPrefixOk resp h ↔ resp.getD completionCodeIndex 0 = mctpCtrlCcSuccess ∧
      minMsgTypeRespLen < resp.length := by
  rw [listPrefixOk, List.getD_eq_getElem _ _ (completionCodeIndex_lt h)]

theorem checkMinRespSize_of_lt {resp : List UInt8} (h : minMsgTypeRespLen < resp.length) :
    checkMinRespSize resp = true := by
  simp only [checkMinRespSize, minCmdRespSize, decide_eq_true_eq]
  exact Nat.le_of_lt (Nat.lt_of_le_of_lt (by decide) h)

section Accepts

variable {state : PacketState} {resp : List UInt8}

/-- On a response passing every check, Get Message Type Support succeeds and
    copies out the list after the prefix. -/
theorem getMsgTypeSupportCtrlCmd_of_ok (out : MsgTypeSupportCtrlResp)
    (hs : state = .receivedResponse) (hc : resp.getD completionCodeIndex 0 = mctpCtrlCcSuccess)
    (hl : minMsgTypeRespLen < resp.length)
    (hn : resp.length - minMsgTypeRespLen = (resp.getD 4 0).toNat) :
    (getMsgTypeSupportCtrlCmd state resp out).1 = true ∧
      (getMsgTypeSupportCtrlCmd state resp out).2.msgType = resp.drop minMsgTypeRespLen := by
  have h := checkMinRespSize_of_lt hl
  have hp : listPrefixOk resp h := (listPrefixOk_iff h).2 ⟨hc, hl⟩
  rw [List.getD_eq_getElem _ _ (count_lt hp)] at hn
  simp only [getMsgTypeSupportCtrlCmd, hs, ne_eq, not_true_eq_false, ↓reduceIte, h, hp,
    ↓reduceDIte, hn, and_self]

/-- On any other, it fails and leaves the list as it was. -/
theorem getMsgTypeSupportCtrlCmd_of_not_ok (out : MsgTypeSupportCtrlResp)
    (hno : ¬ (state = .receivedResponse ∧ resp.getD completionCodeIndex 0 = mctpCtrlCcSuccess ∧
      minMsgTypeRespLen < resp.length ∧
      resp.length - minMsgTypeRespLen = (resp.getD 4 0).toNat)) :
    (getMsgTypeSupportCtrlCmd state resp out).1 = false ∧
      (getMsgTypeSupportCtrlCmd state resp out).2.msgType = out.msgType := by
  unfold getMsgTypeSupportCtrlCmd
  by_cases hs : state = .receivedResponse
  · rw [if_neg (not_not.2 hs)]
    split
    · rename_i h
      split
      · rename_i hp
        have hn := fun hn => hno ⟨hs, ((listPrefixOk_iff h).1 hp).1, ((listPrefixOk_iff h).1 hp).2, hn⟩
        rw [List.getD_eq_getElem _ _ (count_lt hp)] at hn
        dsimp only
        rw [if_pos hn]
        exact ⟨rfl, rfl⟩
      · exact ⟨rfl, rfl⟩
    · exact ⟨rfl, rfl⟩
  · rw [if_pos hs]
    exact ⟨rfl, rfl⟩

/-- Get MCTP Version Support: the same, with four bytes per entry, and the
    entries appended to those the structure held. -/
theorem getMctpVersionSupportCtrlCmd_of_ok (out : MctpVersionSupportCtrlResp)
    (hs : state = .receivedResponse) (hc : resp.getD completionCodeIndex 0 = mctpCtrlCcSuccess)
    (hl : minMsgTypeRespLen < resp.length)
    (hn : resp.length - minMsgTypeRespLen = (resp.getD 4 0).toNat * mctpVersionLen) :
    (getMctpVersionSupportCtrlCmd state resp out).1 = true ∧
      (getMctpVersionSupportCtrlCmd state resp out).2.verNoEntry =
        out.verNoEntry ++ verNoEntries resp (resp.getD 4 0).toNat := by
  have h := checkMinRespSize_of_lt hl
  have hp : listPrefixOk resp h := (listPrefixOk_iff h).2 ⟨hc, hl⟩
  rw [List.getD_eq_getElem _ _ (count_lt hp)] at hn ⊢
  simp only [getMctpVersionSupportCtrlCmd, hs, ne_eq, not_true_eq_false, ↓reduceIte, h, hp,
    ↓reduceDIte, hn, and_self]

theorem getMctpVersionSupportCtrlCmd_of_not_ok (out : MctpVersionSupportCtrlResp)
    (hno : ¬ (state = .receivedResponse ∧ resp.getD completionCodeIndex 0 = mctpCtrlCcSuccess ∧
      minMsgTypeRespLen < resp.length ∧
      resp.length - minMsgTypeRespLen = (resp.getD 4 0).toNat * mctpVersionLen)) :
    (getMctpVersionSupportCtrlCmd state resp out).1 = false ∧
      (getMctpVersionSupportCtrlCmd state resp out).2.verNoEntry = out.verNoEntry := by
  unfold getMctpVersionSupportCtrlCmd
  by_cases hs : state = .receivedResponse
  · rw [if_neg (not_not.2 hs)]
    split
    · rename_i h
      split
      · rename_i hp
        have hn := fun hn => hno ⟨hs, ((listPrefixOk_iff h).1 hp).1, ((listPrefixOk_iff h).1 hp).2, hn⟩
        rw [List.getD_eq_getElem _ _ (count_lt hp)] at hn
        dsimp only
        rw [if_pos hn]
        exact ⟨rfl, rfl⟩
      · exact ⟨rfl, rfl⟩
    · exact ⟨rfl, rfl⟩
  · rw [if_pos hs]
    exact ⟨rfl, rfl⟩

end Accepts

/-- The entries are `count` consecutive four-byte slices of what follows the
    prefix, which they cover exactly when its length is `4 * count`. -/
theorem verNoEntries_flatten (resp : List UInt8) (count : Nat)
    (h : resp.length - minMsgTypeRespLen = count * mctpVersionLen) :
    (verNoEntries resp count).flatten = resp.drop minMsgTypeRespLen ∧
      ∀ e ∈ verNoEntries resp count, e.length = mctpVersionLen := by
  have slices : ∀ (l : List UInt8) (n : Nat), l.length = 4 * n →
      ((List.range n).map fun i => (l.drop (4 * i)).take 4).flatten = l ∧
        ∀ e ∈ (List.range n).map fun i => (l.drop (4 * i)).take 4, e.length = 4 := by
    intro l n hl
    induction n generalizing l with
    | zero => simp_all
    | succ n ih =>
      have e : ∀ i, l.drop (4 * (i + 1)) = (l.drop 4).drop (4 * i) := fun i => by
        rw [List.drop_drop]; congr 1; omega
      obtain ⟨ih₁, ih₂⟩ := ih (l.drop 4) (by simp only [List.length_drop]; omega)
      rw [List.range_succ_eq_map, List.map_cons, List.map_map, Function.comp_def]
      simp only [e, List.flatten_cons, ih₁, Nat.mul_zero, List.drop_zero, List.take_append_drop,
        List.mem_cons, true_and]
      rintro x (rfl | hx)
      · simp only [List.length_take]; omega
      · exact ih₂ x hx
  have := slices (resp.drop minMsgTypeRespLen) count
    (by simp only [List.length_drop, mctpVersionLen] at h ⊢; omega)
  simpa only [verNoEntries, List.drop_drop, Nat.add_comm, mctpVersionLen] using this

/-! ### The contracts -/

/-- Get EID, Set EID and Get UUID accept exactly a received response of their
    structure's size with a success completion code. -/
theorem fixedCtrlCmds_iff (state : PacketState) (resp : List UInt8) :
    (getEidCtrlCmd state resp = true ↔ state = .receivedResponse ∧
      resp.length = sizeofGetEidResp ∧ resp.getD completionCodeIndex 0 = mctpCtrlCcSuccess) ∧
    (setEidCtrlCmd state resp = true ↔ state = .receivedResponse ∧
      resp.length = sizeofSetEidResp ∧ resp.getD completionCodeIndex 0 = mctpCtrlCcSuccess) ∧
    (getUuidCtrlCmd state resp = true ↔ state = .receivedResponse ∧
      resp.length = sizeofGetUuidResp ∧ resp.getD completionCodeIndex 0 = mctpCtrlCcSuccess) :=
  ⟨fixedCtrlCmd_iff (by decide) state resp, fixedCtrlCmd_iff (by decide) state resp,
    fixedCtrlCmd_iff (by decide) state resp⟩

/-- Get Message Type Support succeeds exactly on a received response longer
    than the prefix, with a success completion code and as many bytes after
    the prefix as its count says; its list is then those bytes, and otherwise
    the list it held. -/
theorem getMsgTypeSupportCtrlCmd_spec (state : PacketState) (resp : List UInt8)
    (out : MsgTypeSupportCtrlResp) :
    ((getMsgTypeSupportCtrlCmd state resp out).1 = true ↔ state = .receivedResponse ∧
      resp.getD completionCodeIndex 0 = mctpCtrlCcSuccess ∧ minMsgTypeRespLen < resp.length ∧
      resp.length - minMsgTypeRespLen = (resp.getD 4 0).toNat) ∧
    (getMsgTypeSupportCtrlCmd state resp out).2.msgType =
      if (getMsgTypeSupportCtrlCmd state resp out).1 then resp.drop minMsgTypeRespLen
      else out.msgType := by
  by_cases hok : state = .receivedResponse ∧
      resp.getD completionCodeIndex 0 = mctpCtrlCcSuccess ∧ minMsgTypeRespLen < resp.length ∧
      resp.length - minMsgTypeRespLen = (resp.getD 4 0).toNat
  · obtain ⟨h₁, h₂⟩ := getMsgTypeSupportCtrlCmd_of_ok out hok.1 hok.2.1 hok.2.2.1 hok.2.2.2
    rw [h₁, h₂]
    exact ⟨iff_of_true rfl hok, rfl⟩
  · obtain ⟨h₁, h₂⟩ := getMsgTypeSupportCtrlCmd_of_not_ok out hok
    rw [h₁, h₂]
    exact ⟨iff_of_false Bool.false_ne_true hok, rfl⟩

/-- Get MCTP Version Support succeeds exactly on a received response longer
    than the prefix, with a success completion code and four bytes after the
    prefix per counted entry; it then appends `count` four-byte entries that
    together are the bytes after the prefix, and otherwise appends nothing. -/
theorem getMctpVersionSupportCtrlCmd_spec (state : PacketState) (resp : List UInt8)
    (out : MctpVersionSupportCtrlResp) :
    ((getMctpVersionSupportCtrlCmd state resp out).1 = true ↔ state = .receivedResponse ∧
      resp.getD completionCodeIndex 0 = mctpCtrlCcSuccess ∧ minMsgTypeRespLen < resp.length ∧
      resp.length - minMsgTypeRespLen = (resp.getD 4 0).toNat * mctpVersionLen) ∧
    ((getMctpVersionSupportCtrlCmd state resp out).1 = true → ∃ entries,
      (getMctpVersionSupportCtrlCmd state resp out).2.verNoEntry = out.verNoEntry ++ entries ∧
      entries.length = (resp.getD 4 0).toNat ∧ entries.flatten = resp.drop minMsgTypeRespLen ∧
      ∀ e ∈ entries, e.length = mctpVersionLen) ∧
    ((getMctpVersionSupportCtrlCmd state resp out).1 = false →
      (getMctpVersionSupportCtrlCmd state resp out).2.verNoEntry = out.verNoEntry) := by
  by_cases hok : state = .receivedResponse ∧
      resp.getD completionCodeIndex 0 = mctpCtrlCcSuccess ∧ minMsgTypeRespLen < resp.length ∧
      resp.length - minMsgTypeRespLen = (resp.getD 4 0).toNat * mctpVersionLen
  · obtain ⟨h₁, h₂⟩ := getMctpVersionSupportCtrlCmd_of_ok out hok.1 hok.2.1 hok.2.2.1 hok.2.2.2
    obtain ⟨hflat, hlen⟩ := verNoEntries_flatten resp _ hok.2.2.2
    rw [h₁, h₂]
    refine ⟨iff_of_true rfl hok, fun _ => ⟨_, rfl, ?_, hflat, hlen⟩, fun h => Bool.noConfusion h⟩
    simp [verNoEntries]
  · obtain ⟨h₁, h₂⟩ := getMctpVersionSupportCtrlCmd_of_not_ok out hok
    rw [h₁, h₂]
    exact ⟨iff_of_false Bool.false_ne_true hok, fun h => absurd h Bool.false_ne_true, fun _ => rfl⟩

/-- A well-formed response announcing an empty list — five bytes, a success
    completion code, a count of `0` — is rejected by both list commands: they
    require a response longer than the prefix. -/
theorem getMsgTypeSupportCtrlCmd_rejects_empty_list :
    (getMsgTypeSupportCtrlCmd .receivedResponse [0x00, 0x01, 0x05, 0x00, 0x00] default).1 = false ∧
      (getMctpVersionSupportCtrlCmd .receivedResponse [0x00, 0x01, 0x05, 0x00, 0x00] default).1 =
        false ∧
      minMsgTypeRespLen ≤ [0x00, 0x01, 0x05, 0x00, 0x00].length ∧
      [0x00, 0x01, 0x05, 0x00, 0x00].getD completionCodeIndex 0 = mctpCtrlCcSuccess ∧
      [0x00, 0x01, 0x05, 0x00, 0x00].length - minMsgTypeRespLen =
        ([0x00, 0x01, 0x05, 0x00, (0x00 : UInt8)].getD 4 0).toNat * mctpVersionLen ∧
      [0x00, 0x01, 0x05, 0x00, 0x00].length - minMsgTypeRespLen =
        ([0x00, 0x01, 0x05, 0x00, (0x00 : UInt8)].getD 4 0).toNat := by
  decide

end Mctpd
