import Mctpd.Engine.Bookkeeping

/-!
# Correlating responses with requests

A control response names its request only by the 5-bit instance ID of its
header, and `handleCtrlResp` hands it to the first queued request carrying the
same ID. The IDs come from one counter, `createInstanceId`, shared by every
request `getFormattedReq` formats, so they repeat every 32 requests.

`CorrInv` ties each formatted call to the `createInstanceId` call that gave
its ID (the ghost `Call.formattedAt`), over every run.

* `pending_instanceId`: a pending request carries the ID that
  `createInstanceId` returned when the request was formatted;
* `pending_instanceId_inj`: when every pending request was formatted within
  the last 32 calls of `createInstanceId`, no two carry the same ID;
* `handleCtrlResp_unique`: then a control response goes to the one pending
  call whose request carries its ID, removing only that call's tuple, or to
  none, leaving the queue as it was;
* `instanceId_correlation`: all of it, over every run;
* `instanceId_aliasing`: past 32 requests that fails. The calls format their
  requests in order (`FormattedInOrder`), and the queue is in the order of the
  calls, so of two pending requests formatted 32 calls apart, the earlier one
  takes a response to the later, which stays pending.
-/

namespace Mctpd

namespace Engine

/-- The counter of `createInstanceId` and the IDs of the formatted requests. -/
structure CorrInv (s : Engine) : Prop where
  counter : s.instanceId = (s.instanceIdCalls % 32).toUInt8
  /-- A formatted request carries the ID of its `createInstanceId` call. -/
  formatted : ∀ h k, (s.call h).formattedAt = some k →
    k < s.instanceIdCalls ∧ msgInstanceId (s.call h).req = ((k + 1) % 32).toUInt8
  /-- Each `createInstanceId` call formats one request. -/
  formatted_inj : ∀ h₁ h₂ k, (s.call h₁).formattedAt = some k →
    (s.call h₂).formattedAt = some k → h₁ = h₂

/-- Every pending request was formatted within the last 32 calls of
    `createInstanceId`. -/
def FormattedWithin (s : Engine) : Prop :=
  ∀ h, s.Pending h → ∃ k, (s.call h).formattedAt = some k ∧ s.instanceIdCalls ≤ k + 32

theorem corrInv_init : CorrInv init where
  counter := rfl
  formatted _ _ h := Option.noConfusion h
  formatted_inj _ _ _ h := Option.noConfusion h

variable {s : Engine}

/-- The calls after a new one, `c`. -/
theorem call_of_append {s' : Engine} {c : Call} (hc : s'.calls = s.calls ++ [c]) (h : Nat) :
    s'.call h = if h < s.calls.length then s.call h else if h = s.calls.length then c
      else default := by
  split
  · rw [call, hc, call_append_of_lt s ‹_›]
  · split
    · subst h; rw [call, hc, call_append_self]
    · exact List.getD_eq_default _ _ (by simp [hc]; omega)

/-- A formatted request after a new call, `c`: an earlier call's, or `c`'s. -/
theorem formatted_of_append {s' : Engine} {c : Call} (hc : s'.calls = s.calls ++ [c]) {h k : Nat}
    (hk : (s'.call h).formattedAt = some k) :
    (h < s.calls.length ∧ s'.call h = s.call h) ∨
      (h = s.calls.length ∧ s'.call h = c ∧ c.formattedAt = some k) := by
  rw [call_of_append hc] at hk ⊢
  by_cases h₁ : h < s.calls.length
  · exact .inl ⟨h₁, if_pos h₁⟩
  · by_cases h₂ : h = s.calls.length
    · rw [if_neg h₁, if_pos h₂] at hk ⊢; exact .inr ⟨h₂, rfl, hk⟩
    · rw [if_neg h₁, if_neg h₂] at hk; cases hk

/-- A new call with an unformatted request. -/
theorem CorrInv.append_unformatted {s' : Engine} {c : Call} (hi : CorrInv s)
    (hc : s'.calls = s.calls ++ [c]) (hf : c.formattedAt = none)
    (hid : s'.instanceId = s.instanceId) (hn : s'.instanceIdCalls = s.instanceIdCalls) :
    CorrInv s' := by
  have hold : ∀ h k, (s'.call h).formattedAt = some k → s'.call h = s.call h := fun h k hk =>
    match formatted_of_append hc hk with
    | .inl ⟨_, he⟩ => he
    | .inr ⟨_, _, hck⟩ => Option.noConfusion (hf.symm.trans hck)
  refine ⟨by rw [hid, hn]; exact hi.counter, fun h k hk => ?_, fun h₁ h₂ k h₁k h₂k => ?_⟩
  · have he := hold h k hk
    rw [he] at hk ⊢; rw [hn]; exact hi.formatted h k hk
  · have he₁ := hold _ _ h₁k
    have he₂ := hold _ _ h₂k
    rw [he₁] at h₁k; rw [he₂] at h₂k
    exact hi.formatted_inj h₁ h₂ k h₁k h₂k

/-- A new call with a request formatted by the next `createInstanceId` call. -/
theorem CorrInv.append_formatted {s' : Engine} {c : Call} (hi : CorrInv s)
    (hc : s'.calls = s.calls ++ [c]) (hf : c.formattedAt = some s.instanceIdCalls)
    (hreq : msgInstanceId c.req = ((s.instanceIdCalls + 1) % 32).toUInt8)
    (hid : s'.instanceId = ((s.instanceIdCalls + 1) % 32).toUInt8)
    (hn : s'.instanceIdCalls = s.instanceIdCalls + 1) : CorrInv s' := by
  have hcases : ∀ h k, (s'.call h).formattedAt = some k →
      (h < s.calls.length ∧ s'.call h = s.call h) ∨
        (h = s.calls.length ∧ s'.call h = c ∧ k = s.instanceIdCalls) := fun h k hk =>
    (formatted_of_append hc hk).imp_right fun ⟨e, he, hck⟩ =>
      ⟨e, he, Option.some_inj.1 (hck.symm.trans hf)⟩
  refine ⟨by rw [hid, hn], fun h k hk => ?_, fun h₁ h₂ k h₁k h₂k => ?_⟩
  · rw [hn]
    rcases hcases h k hk with ⟨-, he⟩ | ⟨-, he, rfl⟩ <;> rw [he] at hk ⊢
    · have := hi.formatted h k hk; exact ⟨by omega, this.2⟩
    · exact ⟨by omega, hreq⟩
  · rcases hcases h₁ k h₁k with ⟨-, he₁⟩ | ⟨e₁, -, hk₁⟩ <;>
      rcases hcases h₂ k h₂k with ⟨-, he₂⟩ | ⟨e₂, -, hk₂⟩
    · rw [he₁] at h₁k; rw [he₂] at h₂k; exact hi.formatted_inj h₁ h₂ k h₁k h₂k
    · rw [he₁] at h₁k; exact absurd (hi.formatted h₁ k h₁k).1 (by omega)
    · rw [he₂] at h₂k; exact absurd (hi.formatted h₂ k h₂k).1 (by omega)
    · exact e₁.trans e₂.symm

/-- Every step keeps the correlation. -/
theorem CorrInv.step (cfg : Config) (hi : CorrInv s) (e : Event) : CorrInv (s.step cfg e) := by
  cases e with
  | sendAndRcvMctpCtrl req destEid bindingPrivate =>
    exact hi.append_unformatted (sendAndRcvMctpCtrl_calls cfg s _ _ _ _) rfl
      (sendAndRcvMctpCtrl_instanceId cfg s _ _ _ _) (sendAndRcvMctpCtrl_instanceIdCalls cfg s _ _ _ _)
  | ctrlCmd cmd destEid bindingPrivate =>
    have hid : createInstanceId s.instanceId = ((s.instanceIdCalls + 1) % 32).toUInt8 := by
      rw [hi.counter, createInstanceId_of_lt ⟨_, Nat.mod_lt _ (by omega)⟩, Nat.mod_add_mod]
    refine hi.append_formatted (sendAndRcvMctpCtrl_calls cfg _ _ _ _ _) rfl ?_
      ((sendAndRcvMctpCtrl_instanceId cfg _ _ _ _ _).trans hid)
      (sendAndRcvMctpCtrl_instanceIdCalls cfg _ _ _ _ _)
    rw [hid]
    exact getInstanceId_getRqDgramInst cmd _
  | ctrlTxTimer ec sendOk =>
    obtain ⟨hc, hid, hn⟩ := step_of_not_call cfg s (.ctrlTxTimer ec sendOk)
      (fun _ _ _ h => Event.noConfusion h) (fun _ _ _ h => Event.noConfusion h)
    exact ⟨by rw [hid, hn]; exact hi.counter, by simpa only [call, hc, hn] using hi.formatted,
      by simpa only [call, hc] using hi.formatted_inj⟩
  | rxMessage srcEid msg =>
    obtain ⟨hc, hid, hn⟩ := step_of_not_call cfg s (.rxMessage srcEid msg)
      (fun _ _ _ h => Event.noConfusion h) (fun _ _ _ h => Event.noConfusion h)
    exact ⟨by rw [hid, hn]; exact hi.counter, by simpa only [call, hc, hn] using hi.formatted,
      by simpa only [call, hc] using hi.formatted_inj⟩
  | wake h =>
    obtain ⟨hc, hid, hn⟩ := step_of_not_call cfg s (.wake h)
      (fun _ _ _ h => Event.noConfusion h) (fun _ _ _ h => Event.noConfusion h)
    exact ⟨by rw [hid, hn]; exact hi.counter, by simpa only [call, hc, hn] using hi.formatted,
      by simpa only [call, hc] using hi.formatted_inj⟩

theorem corrInv_run (cfg : Config) (evs : List Event) : CorrInv (run cfg evs) := by
  induction evs using List.reverseRecOn with
  | nil => exact corrInv_init
  | append_singleton evs e ih => rw [run_append_singleton]; exact ih.step cfg e

/-! ## Distinct IDs -/

theorem toUInt8_mod_inj {a b : Nat} (h : (a % 32).toUInt8 = (b % 32).toUInt8) :
    a % 32 = b % 32 := by
  have := congrArg UInt8.toNat h
  change a % 32 % 256 = b % 32 % 256 at this
  omega

/-- A pending request carries the ID `createInstanceId` returned when the
    request was formatted. -/
theorem CorrInv.pending_instanceId (hi : CorrInv s) {h k : Nat}
    (hk : (s.call h).formattedAt = some k) :
    msgInstanceId (s.call h).req = createInstanceId^[k + 1] 0 := by
  rw [createInstanceId_iterate]; exact (hi.formatted h k hk).2

/-- Requests formatted within the last 32 calls of `createInstanceId` carry
    distinct IDs. -/
theorem CorrInv.pending_instanceId_inj (hi : CorrInv s) (hw : FormattedWithin s) {h₁ h₂ : Nat}
    (hp₁ : s.Pending h₁) (hp₂ : s.Pending h₂)
    (he : msgInstanceId (s.call h₁).req = msgInstanceId (s.call h₂).req) : h₁ = h₂ := by
  obtain ⟨k₁, hk₁, hw₁⟩ := hw h₁ hp₁
  obtain ⟨k₂, hk₂, hw₂⟩ := hw h₂ hp₂
  obtain ⟨hl₁, hi₁⟩ := hi.formatted h₁ k₁ hk₁
  obtain ⟨hl₂, hi₂⟩ := hi.formatted h₂ k₂ hk₂
  have hmod := toUInt8_mod_inj (hi₁.symm.trans (he.trans hi₂))
  have : k₁ = k₂ := by omega
  subst this
  exact hi.formatted_inj h₁ h₂ k₁ hk₁ hk₂

/-! ## Delivery -/

/-- Erasing the first match is filtering out the one element that matches. -/
theorem eraseP_eq_filter {p : CtrlTx → Bool} {h : Nat} : ∀ {q : List CtrlTx},
    (q.map CtrlTx.callback).Nodup → (∀ tx ∈ q, p tx = true ↔ tx.callback = h) →
      q.eraseP p = q.filter fun tx => tx.callback ≠ h
  | [], _, _ => rfl
  | a :: q, hn, hp => by
    rw [List.map_cons, List.nodup_cons] at hn
    have hq : ∀ tx ∈ q, p tx = true ↔ tx.callback = h := fun tx htx =>
      hp tx (List.mem_cons_of_mem _ htx)
    by_cases ha : p a
    · have hah := (hp a (List.mem_cons_self _ _)).1 ha
      rw [List.eraseP_cons_of_pos ha, List.filter_cons_of_neg (by simpa using hah)]
      refine (List.filter_eq_self.2 fun tx htx => ?_).symm
      have : tx.callback ≠ h := fun he => hn.1 (by rw [hah, ← he]; exact List.mem_map_of_mem _ htx)
      simpa using this
    · have hah : a.callback ≠ h := fun he => ha ((hp a (List.mem_cons_self _ _)).2 he)
      rw [List.eraseP_cons_of_neg ha, eraseP_eq_filter hn.2 hq,
        List.filter_cons_of_pos (by simpa using hah)]

/-- With distinct IDs, a control response goes to the one pending call whose
    request carries its ID, removing that call's tuple and no other, or to
    none, leaving the queue as it was. -/
theorem handleCtrlResp_unique (hq : QueueInv s) (hi : CorrInv s) (hw : FormattedWithin s)
    (msg : List UInt8) :
    (∃ h, s.Pending h ∧ msgInstanceId (s.call h).req = msgInstanceId msg ∧
        (s.handleCtrlResp msg).invoked = s.invoked ++ [(h, .receivedResponse, msg)] ∧
        (s.handleCtrlResp msg).ctrlTxQueue = s.ctrlTxQueue.filter fun tx => tx.callback ≠ h) ∨
      ((∀ h, s.Pending h → msgInstanceId (s.call h).req ≠ msgInstanceId msg) ∧
        (s.handleCtrlResp msg).invoked = s.invoked ∧
        (s.handleCtrlResp msg).ctrlTxQueue = s.ctrlTxQueue) := by
  have hmatch : ∀ tx ∈ s.ctrlTxQueue, respMatches msg tx = true ↔
      msgInstanceId (s.call tx.callback).req = msgInstanceId msg := fun tx htx => by
    rw [respMatches, beq_iff_eq, (hq.entry tx htx).1]
  have hpend : ∀ tx ∈ s.ctrlTxQueue, s.Pending tx.callback := fun tx htx =>
    (hq.mem_queue _).1 (List.mem_map_of_mem _ htx)
  rw [handleCtrlResp_invoked, handleCtrlResp_ctrlTxQueue]
  cases hf : s.ctrlTxQueue.find? (respMatches msg) with
  | some tx =>
    have htx := List.mem_of_find?_eq_some hf
    have hid := (hmatch tx htx).1 (List.find?_some hf)
    refine .inl ⟨tx.callback, hpend tx htx, hid, rfl, eraseP_eq_filter hq.nodup fun t ht => ?_⟩
    rw [hmatch t ht]
    constructor
    · intro he
      exact hi.pending_instanceId_inj hw (hpend t ht) (hpend tx htx) (he.trans hid.symm)
    · intro he; rw [he]; exact hid
  | none =>
    have hno := List.find?_eq_none.1 hf
    refine .inr ⟨fun h hp he => ?_, List.append_nil _, List.eraseP_of_forall_not hno⟩
    obtain ⟨tx, htx, rfl⟩ := List.mem_map.1 ((hq.mem_queue h).2 hp)
    exact hno tx htx ((hmatch tx htx).2 he)

/-- Over every run: every request `getFormattedReq` formatted carries the ID
    `createInstanceId` returned for it; when all pending requests were
    formatted within the last 32 calls of `createInstanceId`, their IDs are
    distinct, and an inbound control response goes to exactly the pending call
    whose request carries its ID, leaving every other queued tuple as it was,
    or to none, leaving the queue unchanged. -/
theorem instanceId_correlation (cfg : Config) (evs : List Event) (srcEid : UInt8)
    (msg : List UInt8) :
    (∀ h k, ((run cfg evs).call h).formattedAt = some k →
      msgInstanceId ((run cfg evs).call h).req = createInstanceId^[k + 1] 0) ∧
    (FormattedWithin (run cfg evs) →
      (∀ h₁ h₂, (run cfg evs).Pending h₁ → (run cfg evs).Pending h₂ →
        msgInstanceId ((run cfg evs).call h₁).req = msgInstanceId ((run cfg evs).call h₂).req →
        h₁ = h₂) ∧
      ((mctpIsMctpCtrlMsg msg && !mctpCtrlMsgIsReq msg) = true →
        (∃ h, (run cfg evs).Pending h ∧
          msgInstanceId ((run cfg evs).call h).req = msgInstanceId msg ∧
          (run cfg (evs ++ [.rxMessage srcEid msg])).invoked =
            (run cfg evs).invoked ++ [(h, .receivedResponse, msg)] ∧
          (run cfg (evs ++ [.rxMessage srcEid msg])).ctrlTxQueue =
            (run cfg evs).ctrlTxQueue.filter fun tx => tx.callback ≠ h) ∨
        ((∀ h, (run cfg evs).Pending h →
            msgInstanceId ((run cfg evs).call h).req ≠ msgInstanceId msg) ∧
          (run cfg (evs ++ [.rxMessage srcEid msg])).invoked = (run cfg evs).invoked ∧
          (run cfg (evs ++ [.rxMessage srcEid msg])).ctrlTxQueue = (run cfg evs).ctrlTxQueue))) := by
  have hi := corrInv_run cfg evs
  refine ⟨fun h k hk => hi.pending_instanceId hk, fun hw => ⟨fun h₁ h₂ hp₁ hp₂ he =>
    hi.pending_instanceId_inj hw hp₁ hp₂ he, fun hmsg => ?_⟩⟩
  rw [run_append_singleton]
  simp only [step]
  rw [rxMessage_of_ctrlResp _ srcEid hmsg]
  exact handleCtrlResp_unique (queueInv_run cfg evs) hi hw msg

/-- Two Get Endpoint ID requests, formatted by the first two calls of
    `createInstanceId` (IDs `1` and `2`), and a response carrying ID `2`. -/
theorem instanceId_correlation_two_requests :
    FormattedWithin (run (Config.mk 2 100)
        [.ctrlCmd .getEndpointId 8 [], .ctrlCmd .getEndpointId 9 []]) ∧
      (mctpIsMctpCtrlMsg [0x00, 0x02, 0x02, 0x00] &&
        !mctpCtrlMsgIsReq [0x00, 0x02, 0x02, 0x00]) = true ∧
      ((∃ h, (run (Config.mk 2 100)
          [.ctrlCmd .getEndpointId 8 [], .ctrlCmd .getEndpointId 9 []]).Pending h ∧
          msgInstanceId ((run (Config.mk 2 100)
            [.ctrlCmd .getEndpointId 8 [], .ctrlCmd .getEndpointId 9 []]).call h).req =
            msgInstanceId [0x00, 0x02, 0x02, 0x00] ∧
          (run (Config.mk 2 100) [.ctrlCmd .getEndpointId 8 [], .ctrlCmd .getEndpointId 9 [],
            .rxMessage 9 [0x00, 0x02, 0x02, 0x00]]).invoked =
            (run (Config.mk 2 100)
              [.ctrlCmd .getEndpointId 8 [], .ctrlCmd .getEndpointId 9 []]).invoked ++
              [(h, .receivedResponse, [0x00, 0x02, 0x02, 0x00])] ∧
          (run (Config.mk 2 100) [.ctrlCmd .getEndpointId 8 [], .ctrlCmd .getEndpointId 9 [],
            .rxMessage 9 [0x00, 0x02, 0x02, 0x00]]).ctrlTxQueue =
            (run (Config.mk 2 100)
              [.ctrlCmd .getEndpointId 8 [], .ctrlCmd .getEndpointId 9 []]).ctrlTxQueue.filter
              fun tx => tx.callback ≠ h) ∨
        ((∀ h, (run (Config.mk 2 100)
            [.ctrlCmd .getEndpointId 8 [], .ctrlCmd .getEndpointId 9 []]).Pending h →
            msgInstanceId ((run (Config.mk 2 100)
              [.ctrlCmd .getEndpointId 8 [], .ctrlCmd .getEndpointId 9 []]).call h).req ≠
              msgInstanceId [0x00, 0x02, 0x02, 0x00]) ∧
          (run (Config.mk 2 100) [.ctrlCmd .getEndpointId 8 [], .ctrlCmd .getEndpointId 9 [],
            .rxMessage 9 [0x00, 0x02, 0x02, 0x00]]).invoked =
            (run (Config.mk 2 100)
              [.ctrlCmd .getEndpointId 8 [], .ctrlCmd .getEndpointId 9 []]).invoked ∧
          (run (Config.mk 2 100) [.ctrlCmd .getEndpointId 8 [], .ctrlCmd .getEndpointId 9 [],
            .rxMessage 9 [0x00, 0x02, 0x02, 0x00]]).ctrlTxQueue =
            (run (Config.mk 2 100)
              [.ctrlCmd .getEndpointId 8 [], .ctrlCmd .getEndpointId 9 []]).ctrlTxQueue)) :=
  have hw : FormattedWithin (run (Config.mk 2 100)
      [.ctrlCmd .getEndpointId 8 [], .ctrlCmd .getEndpointId 9 []]) := fun h hp => by
    match h, (hp.1 : h < 2) with
    | 0, _ => exact ⟨0, rfl, by decide⟩
    | 1, _ => exact ⟨1, rfl, by decide⟩
  ⟨hw, by decide, ((instanceId_correlation (Config.mk 2 100)
    [.ctrlCmd .getEndpointId 8 [], .ctrlCmd .getEndpointId 9 []] 9
    [0x00, 0x02, 0x02, 0x00]).2 hw).2 (by decide)⟩

/-! ## Aliasing

Past 32 requests the IDs repeat. The queue is in the order of the calls, and
the calls format their requests in order, so `handleCtrlResp` hands a response
to the earliest pending request carrying its ID: of two pending requests
formatted 32 calls of `createInstanceId` apart, the earlier one takes the
response to the later. -/

/-- The calls format their requests in order. -/
def FormattedInOrder (s : Engine) : Prop :=
  ∀ h₁ h₂ k₁ k₂, (s.call h₁).formattedAt = some k₁ → (s.call h₂).formattedAt = some k₂ →
    k₁ < k₂ → h₁ < h₂

/-- A new call whose request, if formatted, was formatted last. -/
theorem FormattedInOrder.append {s' : Engine} {c : Call} (ho : FormattedInOrder s)
    (hi : CorrInv s) (hc : s'.calls = s.calls ++ [c])
    (hf : ∀ k, c.formattedAt = some k → s.instanceIdCalls ≤ k) : FormattedInOrder s' := by
  intro h₁ h₂ k₁ k₂ hk₁ hk₂ hlt
  rcases formatted_of_append hc hk₁ with ⟨l₁, he₁⟩ | ⟨e₁, -, hc₁⟩ <;>
    rcases formatted_of_append hc hk₂ with ⟨-, he₂⟩ | ⟨e₂, -, hc₂⟩
  · rw [he₁] at hk₁; rw [he₂] at hk₂; exact ho h₁ h₂ k₁ k₂ hk₁ hk₂ hlt
  · omega
  · -- an earlier call's request was formatted before `c`'s
    rw [he₂] at hk₂
    have := (hi.formatted h₂ k₂ hk₂).1
    have := hf k₁ hc₁
    omega
  · rw [hc₁, Option.some_inj] at hc₂; omega

theorem FormattedInOrder.of_calls {s' : Engine} (ho : FormattedInOrder s)
    (hc : s'.calls = s.calls) : FormattedInOrder s' := by
  simpa only [FormattedInOrder, call, hc] using ho

/-- Every step keeps the order. -/
theorem FormattedInOrder.step (cfg : Config) (ho : FormattedInOrder s) (hi : CorrInv s)
    (e : Event) : FormattedInOrder (s.step cfg e) := by
  cases e with
  | sendAndRcvMctpCtrl req destEid bindingPrivate =>
    exact ho.append hi (sendAndRcvMctpCtrl_calls cfg s _ _ _ _) fun _ h => Option.noConfusion h
  | ctrlCmd cmd destEid bindingPrivate =>
    exact ho.append hi (sendAndRcvMctpCtrl_calls cfg _ _ _ _ _) fun _ h => (Option.some.inj h).le
  | ctrlTxTimer ec sendOk =>
    exact ho.of_calls (step_of_not_call cfg s (.ctrlTxTimer ec sendOk)
      (fun _ _ _ h => Event.noConfusion h) (fun _ _ _ h => Event.noConfusion h)).1
  | rxMessage srcEid msg =>
    exact ho.of_calls (step_of_not_call cfg s (.rxMessage srcEid msg)
      (fun _ _ _ h => Event.noConfusion h) (fun _ _ _ h => Event.noConfusion h)).1
  | wake h =>
    exact ho.of_calls (step_of_not_call cfg s (.wake h)
      (fun _ _ _ h => Event.noConfusion h) (fun _ _ _ h => Event.noConfusion h)).1

theorem formattedInOrder_run (cfg : Config) (evs : List Event) :
    FormattedInOrder (run cfg evs) := by
  induction evs using List.reverseRecOn with
  | nil => exact fun _ _ _ _ h => Option.noConfusion h
  | append_singleton evs e ih =>
    rw [run_append_singleton]; exact ih.step cfg (corrInv_run cfg evs) e

/-- In a queue in the order of the calls, the first match comes no later than
    any other. -/
theorem find?_callback_le {p : CtrlTx → Bool} : ∀ {q : List CtrlTx} {t tx : CtrlTx},
    (q.map CtrlTx.callback).Pairwise (· < ·) → t ∈ q → p t = true → q.find? p = some tx →
      tx.callback ≤ t.callback
  | [], _, _, _, ht, _, _ => absurd ht (List.not_mem_nil _)
  | a :: q, t, tx, hs, ht, hp, hf => by
    rw [List.map_cons, List.pairwise_cons] at hs
    by_cases ha : p a
    · rw [List.find?_cons_of_pos _ ha] at hf
      cases hf
      rcases List.mem_cons.1 ht with rfl | ht
      · exact le_rfl
      · exact (hs.1 _ (List.mem_map_of_mem _ ht)).le
    · rw [List.find?_cons_of_neg _ ha] at hf
      rcases List.mem_cons.1 ht with rfl | ht
      · exact absurd hp ha
      · exact find?_callback_le hs.2 ht hp hf

/-- Of two pending requests formatted 32 calls of `createInstanceId` apart, the
    earlier carries the later's ID: a response with that ID goes to a call no
    later than the earlier one, and the later one stays pending. -/
theorem handleCtrlResp_aliased (hq : QueueInv s) (hi : CorrInv s) (ho : FormattedInOrder s)
    {h₁ h₂ k : Nat} {msg : List UInt8}
    (hmsg : (mctpIsMctpCtrlMsg msg && !mctpCtrlMsgIsReq msg) = true)
    (hp₁ : s.Pending h₁) (hp₂ : s.Pending h₂) (hk₁ : (s.call h₁).formattedAt = some k)
    (hk₂ : (s.call h₂).formattedAt = some (k + 32))
    (hid : msgInstanceId (s.call h₂).req = msgInstanceId msg) :
    ∃ h ≤ h₁, (s.handleCtrlResp msg).invoked = s.invoked ++ [(h, .receivedResponse, msg)] ∧
      (s.handleCtrlResp msg).Pending h₂ := by
  have hlt := ho h₁ h₂ k (k + 32) hk₁ hk₂ (by omega)
  have hsame : msgInstanceId (s.call h₁).req = msgInstanceId (s.call h₂).req := by
    rw [(hi.formatted h₁ k hk₁).2, (hi.formatted h₂ _ hk₂).2,
      show k + 32 + 1 = k + 1 + 32 * 1 by omega, Nat.add_mul_mod_self_left]
  obtain ⟨t, ht, rfl⟩ := List.mem_map.1 ((hq.mem_queue h₁).2 hp₁)
  have hm : respMatches msg t = true := by
    rw [respMatches, beq_iff_eq, (hq.entry t ht).1, hsame, hid]
  obtain ⟨tx, hf⟩ := Option.isSome_iff_exists.1 (List.find?_isSome.2 ⟨t, ht, hm⟩)
  have hle := find?_callback_le hq.sorted ht hm hf
  refine ⟨tx.callback, hle, by rw [handleCtrlResp_invoked, hf]; rfl, ?_⟩
  rw [← (hq.handleCtrlResp hmsg).mem_queue, handleCtrlResp_ctrlTxQueue,
    mem_eraseP_iff hq.nodup hf]
  exact ⟨(hq.mem_queue h₂).2 hp₂, by omega⟩

/-- Over every run: of two pending requests formatted 32 calls of
    `createInstanceId` apart, a control response answering the later one is
    handed to a call no later than the earlier one, and the later one stays
    pending. -/
theorem instanceId_aliasing (cfg : Config) (evs : List Event) (srcEid : UInt8)
    {h₁ h₂ k : Nat} {msg : List UInt8}
    (hp₁ : (run cfg evs).Pending h₁) (hp₂ : (run cfg evs).Pending h₂)
    (hk₁ : ((run cfg evs).call h₁).formattedAt = some k)
    (hk₂ : ((run cfg evs).call h₂).formattedAt = some (k + 32))
    (hans : answers ((run cfg evs).call h₂).req msg = true) :
    h₁ < h₂ ∧ ∃ h ≤ h₁,
      (run cfg (evs ++ [.rxMessage srcEid msg])).invoked =
        (run cfg evs).invoked ++ [(h, .receivedResponse, msg)] ∧
      (run cfg (evs ++ [.rxMessage srcEid msg])).Pending h₂ := by
  rw [answers, Bool.and_eq_true, beq_iff_eq] at hans
  refine ⟨formattedInOrder_run cfg evs h₁ h₂ k _ hk₁ hk₂ (by omega), ?_⟩
  rw [run_append_singleton]
  simp only [step]
  rw [rxMessage_of_ctrlResp _ srcEid hans.1]
  exact handleCtrlResp_aliased (queueInv_run cfg evs) (corrInv_run cfg evs)
    (formattedInOrder_run cfg evs) hans.1 hp₁ hp₂ hk₁ hk₂ hans.2

set_option maxRecDepth 1000 in
/-- 33 Get Endpoint ID requests: the first and the last both carry ID `1`, and
    the response carrying it goes to the first. -/
theorem instanceId_aliasing_33_requests :
    0 < 32 ∧ ∃ h ≤ 0,
      (run (Config.mk 2 100) (List.replicate 33 (.ctrlCmd .getEndpointId 8 []) ++
        [.rxMessage 8 [0x00, 0x01, 0x02, 0x00]])).invoked =
        (run (Config.mk 2 100) (List.replicate 33 (.ctrlCmd .getEndpointId 8 []))).invoked ++
          [(h, .receivedResponse, [0x00, 0x01, 0x02, 0x00])] ∧
      (run (Config.mk 2 100) (List.replicate 33 (.ctrlCmd .getEndpointId 8 []) ++
        [.rxMessage 8 [0x00, 0x01, 0x02, 0x00]])).Pending 32 :=
  instanceId_aliasing (Config.mk 2 100) (List.replicate 33 (.ctrlCmd .getEndpointId 8 [])) 8
    (k := 0) (by decide) (by decide) rfl rfl (by decide)

end Engine

end Mctpd
