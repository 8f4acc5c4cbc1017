import Mctpd.Engine.Dispatch

/-!
# What the engine sends

Every `sendMctpMessage` of the engine is recorded in `sent`, with, a ghost,
the call whose tuple it sends. A call's request goes out once when it is
pushed (`pushToCtrlTxQueue`), and again at each tick that retries it, each
retry taking one from the tuple's `retryCount`, which starts at
`ctrlTxRetryCount`.

* `SentInv`: every transmission is of the non-empty request of a call, to the
  call's EID, with its binding data; a queued tuple's sends and the retries it
  has left add up to `1 + ctrlTxRetryCount`; and no call has more sends;
* `SentInv.step`, `sentInv_run`: every step keeps it;
* `transmissions`: over every run, the engine sends only what it was asked
  to send, never an empty request, and each request at most
  `1 + ctrlTxRetryCount` times;
* `sendOk_unobserved`: what the sends return is never observed. A tick
  records `transmitted` in a tuple it sent, and a failed send costs a retry as
  a successful one does; two runs that differ only in what their sends return
  end alike but for the states of the queued tuples.
-/

namespace Mctpd

/-! ## One tick on one tuple -/

section Poll

variable {D : UInt32} {ok : Bool} {t t' : CtrlTx}

/-- A tick sends the tuple's request, to its EID, with its binding data. -/
theorem sent_of_poll {x : Nat × UInt8 × List UInt8 × List UInt8}
    (h : (pollCtrlTx D ok t).sent? = some x) :
    x = (t.callback, t.destEid, t.req, t.bindingPrivate) := by
  rcases pollCtrlTx_cases D ok t with ⟨-, -, -, -, hp⟩ | ⟨-, -, -, hp⟩ | ⟨-, hp⟩ <;>
    rw [hp] at h <;> cases h
  rfl

/-- A tick that sends a tuple again keeps it. -/
theorem kept_of_sent (h : ((pollCtrlTx D ok t).sent?).isSome) :
    ∃ t', (pollCtrlTx D ok t).kept? = some t' := by
  rcases pollCtrlTx_cases D ok t with ⟨-, -, -, -, hp⟩ | ⟨-, -, -, hp⟩ | ⟨-, hp⟩ <;>
    rw [hp] at h ⊢ <;> first | exact ⟨_, rfl⟩ | cases h

/-- A tick keeps the tuple's callback, and spends one of its retries exactly
    when it sends it again. -/
theorem kept_retry (h : (pollCtrlTx D ok t).kept? = some t') :
    t'.callback = t.callback ∧
      t'.retryCount.toNat + (if ((pollCtrlTx D ok t).sent?).isSome then 1 else 0) =
        t.retryCount.toNat := by
  rcases pollCtrlTx_cases D ok t with ⟨-, -, hr, -, hp⟩ | ⟨-, -, -, hp⟩ | ⟨-, hp⟩ <;>
    rw [hp] at h ⊢ <;> cases h
  · have := lt_iff_u8.1 hr
    refine ⟨rfl, ?_⟩
    simp only [Polled.sent?, Option.isSome_some, ↓reduceIte, toNat_sub_one_u8 hr]
    omega
  · exact ⟨rfl, rfl⟩

end Poll

namespace Engine

/-! ## The sends of a call -/

/-- The `sendMctpMessage` calls made for call `h`'s request. -/
def sends (s : Engine) (h : Nat) : Nat := s.sent.countP fun x => x.1 == h

/-- The sends a tick makes for call `h`: one for each of its tuples it retries. -/
theorem countP_tick_sent (cfg : Config) (sendOk : CtrlTx → Bool) (h : Nat) :
    ∀ q : List CtrlTx, ((tick cfg sendOk q).filterMap Polled.sent?).countP (fun x => x.1 == h) =
      q.countP fun t => t.callback == h &&
        ((pollCtrlTx cfg.ctrlTxRetryDelay (sendOk t) t).sent?).isSome
  | [] => rfl
  | t :: q => by
    have ih := countP_tick_sent cfg sendOk h q
    have ht : tick cfg sendOk (t :: q) =
        pollCtrlTx cfg.ctrlTxRetryDelay (sendOk t) t :: tick cfg sendOk q := rfl
    rw [ht, List.filterMap_cons, List.countP_cons, ← ih]
    cases hs : (pollCtrlTx cfg.ctrlTxRetryDelay (sendOk t) t).sent? with
    | none => simp
    | some x => rw [sent_of_poll hs]; simp [List.countP_cons]

/-- With distinct callbacks, at most the tuple with callback `h` counts. -/
theorem countP_callback_of_not_mem (p : CtrlTx → Bool) {q : List CtrlTx} {h : Nat}
    (hh : h ∉ q.map CtrlTx.callback) : q.countP (fun t => t.callback == h && p t) = 0 :=
  List.countP_eq_zero.2 fun t ht hp => hh (by
    simp only [Bool.and_eq_true, beq_iff_eq] at hp
    exact hp.1 ▸ List.mem_map_of_mem _ ht)

theorem countP_callback (p : CtrlTx → Bool) : ∀ {q : List CtrlTx},
    (q.map CtrlTx.callback).Nodup → ∀ {t}, t ∈ q →
      q.countP (fun t' => t'.callback == t.callback && p t') = if p t then 1 else 0
  | [], _, _, ht => absurd ht (List.not_mem_nil _)
  | t' :: q, hn, t, ht => by
    rw [List.map_cons, List.nodup_cons] at hn
    rw [List.countP_cons]
    rcases List.mem_cons.1 ht with rfl | ht
    · rw [countP_callback_of_not_mem p hn.1]
      simp
    · have hne : t'.callback ≠ t.callback := fun he =>
        hn.1 (he ▸ List.mem_map_of_mem _ ht)
      rw [countP_callback p hn.2 ht]
      simp [hne]

/-! ## The invariant -/

/-- What the engine has sent. -/
structure SentInv (cfg : Config) (s : Engine) : Prop where
  /-- Every transmission is of the non-empty request of a call, to its EID,
      with its binding data. -/
  ofCall : ∀ x ∈ s.sent, x.1 < s.calls.length ∧ (s.call x.1).req ≠ [] ∧
    x.2 = ((s.call x.1).destEid, (s.call x.1).req, (s.call x.1).bindingPrivate)
  /-- A queued tuple's sends and the retries it has left add up. -/
  budget : ∀ tx ∈ s.ctrlTxQueue,
    sends s tx.callback + tx.retryCount.toNat = 1 + cfg.ctrlTxRetryCount.toNat
  bound : ∀ h, sends s h ≤ 1 + cfg.ctrlTxRetryCount.toNat

variable {cfg : Config} {s s' : Engine}

theorem sentInv_init : SentInv cfg init where
  ofCall _ h := absurd h (List.not_mem_nil _)
  budget _ h := absurd h (List.not_mem_nil _)
  bound _ := Nat.zero_le _

theorem QueueInv.callback_lt (hq : s.QueueInv) {tx : CtrlTx} (htx : tx ∈ s.ctrlTxQueue) :
    tx.callback < s.calls.length :=
  ((hq.mem_queue _).1 (List.mem_map_of_mem _ htx)).1

/-- A step that sends nothing, makes calls at most, and keeps some of the
    queued tuples keeps the invariant. -/
theorem SentInv.of_frame (hs : SentInv cfg s) (hsent : s'.sent = s.sent)
    (hcalls : s.calls <+: s'.calls) (hq : ∀ tx ∈ s'.ctrlTxQueue, tx ∈ s.ctrlTxQueue) :
    SentInv cfg s' where
  ofCall x hx := by
    obtain ⟨hlt, hne, hx⟩ := hs.ofCall x (hsent ▸ hx)
    rw [call_of_extends hcalls hlt]
    exact ⟨Nat.lt_of_lt_of_le hlt hcalls.length_le, hne, hx⟩
  budget tx htx := by rw [sends, hsent]; exact hs.budget tx (hq tx htx)
  bound h := by rw [sends, hsent]; exact hs.bound h

/-- Pushing the tuple of a new call with a non-empty request sends it once,
    with all its retries left. -/
theorem SentInv.push (hq : ∀ tx ∈ s.ctrlTxQueue, tx.callback < s.calls.length)
    (hs : SentInv cfg s) {c : Call} (hr : c.req ≠ []) (hcalls : s'.calls = s.calls ++ [c])
    (hqueue : s'.ctrlTxQueue = s.ctrlTxQueue ++
      [cfg.newCtrlTx .pushedForTransmission c.destEid c.bindingPrivate c.req s.calls.length])
    (hsent : s'.sent = s.sent ++ [(s.calls.length, c.destEid, c.req, c.bindingPrivate)]) :
    SentInv cfg s' := by
  have hsends : ∀ h, sends s' h = sends s h + if s.calls.length = h then 1 else 0 := fun h => by
    simp only [sends, hsent, List.countP_append, List.countP_cons, List.countP_nil, beq_iff_eq,
      Nat.zero_add]
  -- the new call is `s.calls.length`, which nothing was sent for
  have h0 : sends s s.calls.length = 0 := List.countP_eq_zero.2 fun x hx he =>
    Nat.ne_of_lt (hs.ofCall x hx).1 (by simpa using he)
  have hcall : ∀ h, h < s.calls.length → s'.call h = s.call h := fun _ hh =>
    call_of_extends (hcalls ▸ List.prefix_append _ _) hh
  have hnew : s'.call s.calls.length = c := by rw [call, hcalls]; exact call_append_self s c
  have hlen : s'.calls.length = s.calls.length + 1 := by
    rw [hcalls, List.length_append, List.length_singleton]
  refine ⟨fun x hx => ?_, fun tx htx => ?_, fun h => ?_⟩
  · rw [hsent] at hx
    rcases List.mem_append.1 hx with hx | hx
    · obtain ⟨hlt, hne, hx⟩ := hs.ofCall x hx
      rw [hcall _ hlt, hlen]
      exact ⟨Nat.lt_succ_of_lt hlt, hne, hx⟩
    · rw [List.mem_singleton.1 hx, hnew, hlen]
      exact ⟨Nat.lt_succ_self _, hr, rfl⟩
  · rw [hqueue] at htx
    rw [hsends]
    rcases List.mem_append.1 htx with htx | htx
    · rw [if_neg (Nat.ne_of_gt (hq tx htx))]
      exact hs.budget tx htx
    · rw [List.mem_singleton.1 htx]
      simp only [Config.newCtrlTx, ↓reduceIte, h0]
  · rw [hsends]
    have := hs.bound h
    split
    · rename_i hh; rw [← hh, h0]; omega
    · omega

/-- A call sends its request once, if it is not empty, and queues a tuple with
    all its retries left. -/
theorem SentInv.sendAndRcvMctpCtrl (hq : ∀ tx ∈ s.ctrlTxQueue, tx.callback < s.calls.length)
    (hs : SentInv cfg s) (req : List UInt8) (destEid : UInt8) (bindingPrivate : List UInt8)
    (formattedAt : Option Nat) :
    SentInv cfg (s.sendAndRcvMctpCtrl cfg req destEid bindingPrivate formattedAt) := by
  by_cases hr : req = []
  · subst hr
    exact hs.of_frame rfl (List.prefix_append _ _) fun _ h => h
  exact hs.push hq (c := ⟨req, destEid, bindingPrivate, formattedAt⟩) hr
    (sendAndRcvMctpCtrl_calls ..) (by rw [sendAndRcvMctpCtrl_of_ne_nil cfg s hr])
    (by rw [sendAndRcvMctpCtrl_of_ne_nil cfg s hr])

/-- A tick sends again, once, each tuple it retries, and spends one of its
    retries. -/
theorem SentInv.tick (hq : s.QueueInv) (hs : SentInv cfg s) (sendOk : CtrlTx → Bool)
    (hq' : s'.ctrlTxQueue = (tick cfg sendOk s.ctrlTxQueue).filterMap Polled.kept?)
    (hsent : s'.sent = s.sent ++ (tick cfg sendOk s.ctrlTxQueue).filterMap Polled.sent?)
    (hcalls : s'.calls = s.calls) : SentInv cfg s' := by
  -- the sends for call `h`: those before, and one if its tuple is retried
  have hsends : ∀ h, sends s' h = sends s h + s.ctrlTxQueue.countP fun t => t.callback == h &&
      ((pollCtrlTx cfg.ctrlTxRetryDelay (sendOk t) t).sent?).isSome := fun h => by
    rw [sends, hsent, List.countP_append, countP_tick_sent]; rfl
  have hcall : ∀ h, s'.call h = s.call h := fun h => by rw [call, call, hcalls]
  refine ⟨fun x hx => ?_, fun tx htx => ?_, fun h => ?_⟩
  · rw [hcall, hcalls]
    rw [hsent] at hx
    rcases List.mem_append.1 hx with hx | hx
    · exact hs.ofCall x hx
    · obtain ⟨p, hp, hx⟩ := List.mem_filterMap.1 hx
      obtain ⟨t, ht, rfl⟩ := List.mem_map.1 hp
      rw [sent_of_poll hx]
      obtain ⟨hreq, hdest, hbp, -⟩ := hq.entry t ht
      exact ⟨hq.callback_lt ht, hreq ▸ ((hq.mem_queue _).1 (List.mem_map_of_mem _ ht)).2.1,
        by rw [hreq, hdest, hbp]⟩
  · rw [hq'] at htx
    obtain ⟨p, hp, hk⟩ := List.mem_filterMap.1 htx
    obtain ⟨t, ht, rfl⟩ := List.mem_map.1 hp
    obtain ⟨hcb, hretry⟩ := kept_retry hk
    have := hs.budget t ht
    rw [hsends, hcb, countP_callback _ hq.nodup ht]
    omega
  · rw [hsends]
    have := hs.bound h
    by_cases hh : h ∈ s.ctrlTxQueue.map CtrlTx.callback
    · obtain ⟨t, ht, rfl⟩ := List.mem_map.1 hh
      rw [countP_callback _ hq.nodup ht]
      split
      · -- a retried tuple had a retry left
        rename_i hre
        obtain ⟨t', hk⟩ := kept_of_sent hre
        have hr := (kept_retry hk).2
        rw [if_pos hre] at hr
        have := hs.budget t ht
        omega
      · omega
    · rw [countP_callback_of_not_mem _ hh]
      exact this

/-- The handler of a tick keeps the invariant. -/
theorem SentInv.ctrlTxTimerHandler (hq : s.QueueInv) (hs : SentInv cfg s) (ec : ErrorCode)
    (sendOk : CtrlTx → Bool) : SentInv cfg (s.ctrlTxTimerHandler cfg ec sendOk) := by
  have ht : SentInv cfg { s with
      ctrlTxQueue := (Engine.tick cfg sendOk s.ctrlTxQueue).filterMap Polled.kept?
      sent := s.sent ++ (Engine.tick cfg sendOk s.ctrlTxQueue).filterMap Polled.sent? } :=
    hs.tick hq sendOk rfl rfl rfl
  unfold Engine.ctrlTxTimerHandler processCtrlTxQueue
  dsimp only
  split
  · exact hs.of_frame rfl (List.prefix_refl _) fun _ h => h
  · split <;> exact ht.of_frame rfl (List.prefix_refl _) fun _ h => h

/-- A message sends nothing, makes no call, and keeps some of the queue. -/
theorem SentInv.rxMessage (hs : SentInv cfg s) (srcEid : UInt8) (msg : List UInt8) :
    SentInv cfg (s.rxMessage srcEid msg) := by
  by_cases hty : msg.getD 0 0 = mctpMessageTypeMctpCtrl
  · cases hmsg : (mctpIsMctpCtrlMsg msg && !mctpCtrlMsgIsReq msg)
    · rw [rxMessage_of_not_ctrlResp s srcEid hty hmsg]; exact hs
    · rw [rxMessage_of_ctrlResp s srcEid hmsg]
      exact hs.of_frame rfl (List.prefix_refl _) fun _ h => List.mem_of_mem_eraseP
        (by rwa [handleCtrlResp_ctrlTxQueue] at h)
  · rw [rxMessage_of_tag_ne s srcEid hty]
    exact hs.of_frame rfl (List.prefix_refl _) fun _ h => h

theorem SentInv.step (hq : s.QueueInv) (hs : SentInv cfg s) (e : Event) :
    SentInv cfg (s.step cfg e) := by
  cases e with
  | sendAndRcvMctpCtrl req destEid bindingPrivate =>
    exact hs.sendAndRcvMctpCtrl (fun _ h => hq.callback_lt h) _ _ _ _
  | ctrlCmd cmd destEid bindingPrivate =>
    simp only [Engine.step]
    exact SentInv.sendAndRcvMctpCtrl (s := { s with
      instanceId := createInstanceId s.instanceId, instanceIdCalls := s.instanceIdCalls + 1 })
      (fun _ h => hq.callback_lt h) ⟨hs.1, hs.2, hs.3⟩ _ _ _ _
  | ctrlTxTimer ec sendOk =>
    simp only [Engine.step]
    split
    · exact hs
    · exact hs.ctrlTxTimerHandler hq ec sendOk
  | rxMessage srcEid msg => exact hs.rxMessage srcEid msg
  | wake h =>
    simp only [Engine.step, Engine.wake]
    split
    · exact hs.of_frame rfl (List.prefix_refl _) fun _ h => h
    · exact hs

theorem sentInv_run (cfg : Config) (evs : List Event) : SentInv cfg (run cfg evs) := by
  induction evs using List.reverseRecOn with
  | nil => exact sentInv_init
  | append_singleton evs e ih =>
    rw [run_append_singleton]
    exact ih.step (queueInv_run cfg evs) e

/-- What the engine sends, over every run: each `sendMctpMessage` is of the
    non-empty request of a call, to the call's EID, with its binding data, so
    an empty request is never sent; a queued call's sends and the retries its
    tuple has left add up to `1 + ctrlTxRetryCount`; and no call's request is
    sent more than `1 + ctrlTxRetryCount` times. -/
theorem transmissions (cfg : Config) (evs : List Event) :
    (∀ x ∈ (run cfg evs).sent, x.1 < (run cfg evs).calls.length ∧
      ((run cfg evs).call x.1).req ≠ [] ∧
      x.2 = (((run cfg evs).call x.1).destEid, ((run cfg evs).call x.1).req,
        ((run cfg evs).call x.1).bindingPrivate)) ∧
    (∀ tx ∈ (run cfg evs).ctrlTxQueue,
      sends (run cfg evs) tx.callback + tx.retryCount.toNat = 1 + cfg.ctrlTxRetryCount.toNat) ∧
    ∀ h, sends (run cfg evs) h ≤ 1 + cfg.ctrlTxRetryCount.toNat :=
  have hs := sentInv_run cfg evs
  ⟨hs.ofCall, hs.budget, hs.bound⟩

/-- With two retries and no response, a Get EID request goes out three times. -/
example : sends (run ⟨2, 10⟩ (.ctrlCmd .getEndpointId 8 [] ::
    List.replicate 6 (.ctrlTxTimer .success fun _ => true))) 0 = 3 := by decide

end Engine

/-! ## Send failures

The state of a queued tuple is written by a tick that sends it (`transmitted`
if `sendMctpMessage` succeeded), and read only to compare it with
`receivedResponse`, which no queued tuple holds. -/

/-- The tuple with its state forgotten. -/
def CtrlTx.eraseState (tx : CtrlTx) : CtrlTx := { tx with state := .pushedForTransmission }

@[simp] theorem CtrlTx.eraseState_eraseState (tx : CtrlTx) :
    tx.eraseState.eraseState = tx.eraseState := rfl

@[simp] theorem respMatches_eraseState (msg : List UInt8) (tx : CtrlTx) :
    respMatches msg tx.eraseState = respMatches msg tx := rfl

@[simp] theorem received_eraseState (msg : List UInt8) (tx : CtrlTx) :
    CtrlTx.received msg tx.eraseState = CtrlTx.received msg tx := rfl

/-- A tick does the same to a tuple that is not `receivedResponse`, whatever
    its state and whatever its send returns, but for the state it records. -/
theorem pollCtrlTx_eraseState (D : UInt32) (ok ok₀ : Bool) {tx : CtrlTx}
    (h : tx.state ≠ .receivedResponse) :
    (pollCtrlTx D ok tx).kept?.map CtrlTx.eraseState =
        (pollCtrlTx D ok₀ tx.eraseState).kept?.map CtrlTx.eraseState ∧
      (pollCtrlTx D ok tx).sent? = (pollCtrlTx D ok₀ tx.eraseState).sent? ∧
      (pollCtrlTx D ok tx).expired? = (pollCtrlTx D ok₀ tx.eraseState).expired? := by
  unfold pollCtrlTx
  by_cases c₁ : 0 < tx.maxRespDelay - ctrlTxPollInterval
  · by_cases c₂ : 0 < tx.retryCount ∧
        tx.maxRespDelay - ctrlTxPollInterval ≤ tx.retryCount.toUInt32 * D <;>
      simp [CtrlTx.eraseState, c₁, c₂, h, Polled.kept?, Polled.sent?, Polled.expired?]
  · simp [CtrlTx.eraseState, c₁, Polled.kept?, Polled.sent?, Polled.expired?]

/-- Two events alike but for what the `sendMctpMessage` calls of a tick return. -/
inductive Event.Alike : Event → Event → Prop
  | refl (e : Event) : Event.Alike e e
  | ctrlTxTimer (ec : ErrorCode) (sendOk sendOk' : CtrlTx → Bool) :
      Event.Alike (.ctrlTxTimer ec sendOk) (.ctrlTxTimer ec sendOk')

namespace Engine

/-- The engine with the states of its queued tuples forgotten. -/
def eraseStates (s : Engine) : Engine :=
  { s with ctrlTxQueue := s.ctrlTxQueue.map CtrlTx.eraseState }

theorem QueueInv.state_ne {s : Engine} (hi : QueueInv s) :
    ∀ tx ∈ s.ctrlTxQueue, tx.state ≠ .receivedResponse := fun tx htx => by
  rcases (hi.entry tx htx).2.2.2 with h | h <;> rw [h] <;> decide

/-! Each operation of the engine commutes with forgetting the states. -/

theorem eraseStates_sendAndRcvMctpCtrl (cfg : Config) (s : Engine) (req : List UInt8)
    (destEid : UInt8) (bindingPrivate : List UInt8) (formattedAt : Option Nat) :
    (s.sendAndRcvMctpCtrl cfg req destEid bindingPrivate formattedAt).eraseStates =
      (s.eraseStates.sendAndRcvMctpCtrl cfg req destEid bindingPrivate formattedAt).eraseStates := by
  by_cases hr : req.isEmpty
  · simp [sendAndRcvMctpCtrl, eraseStates, hr]
  · by_cases hx : s.ctrlTxTimerExpired <;>
      simp [sendAndRcvMctpCtrl, pushToCtrlTxQueue, processCtrlTxQueue, eraseStates, hr, hx]

theorem tick_eraseStates (cfg : Config) (ok ok₀ : CtrlTx → Bool) {q : List CtrlTx}
    (hq : ∀ tx ∈ q, tx.state ≠ .receivedResponse) :
    ((tick cfg ok q).filterMap Polled.kept?).map CtrlTx.eraseState =
        ((tick cfg ok₀ (q.map CtrlTx.eraseState)).filterMap Polled.kept?).map CtrlTx.eraseState ∧
      (tick cfg ok q).filterMap Polled.sent? =
        (tick cfg ok₀ (q.map CtrlTx.eraseState)).filterMap Polled.sent? ∧
      (tick cfg ok q).filterMap Polled.expired? =
        (tick cfg ok₀ (q.map CtrlTx.eraseState)).filterMap Polled.expired? := by
  simp only [tick, List.map_map, List.filterMap_map, List.map_filterMap]
  exact ⟨List.filterMap_congr fun tx htx => (pollCtrlTx_eraseState _ _ _ (hq tx htx)).1,
    List.filterMap_congr fun tx htx => (pollCtrlTx_eraseState _ _ _ (hq tx htx)).2.1,
    List.filterMap_congr fun tx htx => (pollCtrlTx_eraseState _ _ _ (hq tx htx)).2.2⟩

theorem eraseStates_ctrlTxTimerHandler (cfg : Config) (s : Engine) (ec : ErrorCode)
    (ok ok₀ : CtrlTx → Bool) (hs : ∀ tx ∈ s.ctrlTxQueue, tx.state ≠ .receivedResponse) :
    (s.ctrlTxTimerHandler cfg ec ok).eraseStates =
      (s.eraseStates.ctrlTxTimerHandler cfg ec ok₀).eraseStates := by
  obtain ⟨hk, hsent, hx⟩ := tick_eraseStates cfg ok ok₀ hs
  -- the tick empties the queue in both or in neither
  have hlen := congrArg List.length hk
  simp only [List.length_map] at hlen
  have hnil : (tick cfg ok s.ctrlTxQueue).filterMap Polled.kept? = [] ↔
      (tick cfg ok₀ (s.ctrlTxQueue.map CtrlTx.eraseState)).filterMap Polled.kept? = [] := by
    rw [← List.length_eq_zero, ← List.length_eq_zero, hlen]
  by_cases hec : ec = .success
  · by_cases he : (tick cfg ok s.ctrlTxQueue).filterMap Polled.kept? = []
    · simp [ctrlTxTimerHandler, eraseStates, invokeAll, processCtrlTxQueue, hec, he, hnil.1 he,
        hsent, hx]
    · simp [ctrlTxTimerHandler, eraseStates, invokeAll, processCtrlTxQueue, hec, he,
        mt hnil.2 he, hk, hsent, hx]
  · simp [ctrlTxTimerHandler, eraseStates, hec]

theorem eraseStates_handleCtrlResp (s : Engine) (msg : List UInt8) :
    (s.handleCtrlResp msg).eraseStates = (s.eraseStates.handleCtrlResp msg).eraseStates := by
  simp [Engine.handleCtrlResp, handleCtrlResp_eq, eraseStates, invokeAll, List.eraseP_map,
    List.find?_map, Function.comp_def]

theorem eraseStates_rxMessage (s : Engine) (srcEid : UInt8) (msg : List UInt8) :
    (s.rxMessage srcEid msg).eraseStates = (s.eraseStates.rxMessage srcEid msg).eraseStates := by
  unfold rxMessage
  dsimp only
  split_ifs <;> first | exact eraseStates_handleCtrlResp _ msg | simp [eraseStates]

theorem eraseStates_wake (s : Engine) (h : Nat) :
    (s.wake h).eraseStates = (s.eraseStates.wake h).eraseStates := by
  by_cases hc : h < s.calls.length ∧ s.returned h = none ∧ s.pktState h ≠ .pushedForTransmission <;>
    simp [wake, eraseStates, hc]

/-- A step from a state whose queued tuples are not `receivedResponse`, and
    the alike step from that state with the states forgotten, end alike. -/
theorem eraseStates_step (cfg : Config) (s : Engine)
    (hs : ∀ tx ∈ s.ctrlTxQueue, tx.state ≠ .receivedResponse) {e e' : Event} (he : e.Alike e') :
    (s.step cfg e).eraseStates = (s.eraseStates.step cfg e').eraseStates := by
  have htick : ∀ ec ok ok₀, (s.step cfg (.ctrlTxTimer ec ok)).eraseStates =
      (s.eraseStates.step cfg (.ctrlTxTimer ec ok₀)).eraseStates := fun ec ok ok₀ => by
    by_cases hw : s.ctrlTxTimerWaits = 0
    · simp [Engine.step, hw, eraseStates]
    · simp only [Engine.step, eraseStates] at hw ⊢
      rw [if_neg hw, if_neg hw]
      exact eraseStates_ctrlTxTimerHandler cfg s ec ok ok₀ hs
  cases he with
  | ctrlTxTimer ec ok ok₀ => exact htick ec ok ok₀
  | refl e =>
    cases e with
    | sendAndRcvMctpCtrl req destEid bindingPrivate =>
      exact eraseStates_sendAndRcvMctpCtrl cfg s _ _ _ _
    | ctrlCmd cmd destEid bindingPrivate =>
      exact eraseStates_sendAndRcvMctpCtrl cfg { s with
        instanceId := createInstanceId s.instanceId, instanceIdCalls := s.instanceIdCalls + 1 } _ _ _ _
    | ctrlTxTimer ec ok => exact htick ec ok ok
    | rxMessage srcEid msg => exact eraseStates_rxMessage s srcEid msg
    | wake h => exact eraseStates_wake s h

/-- Alike events from states alike but for their tuples' states end alike. -/
theorem eraseStates_foldl (cfg : Config) {evs evs' : List Event}
    (h : List.Forall₂ Event.Alike evs evs') {s t : Engine} (hs : QueueInv s) (ht : QueueInv t)
    (hst : s.eraseStates = t.eraseStates) :
    (evs.foldl (Engine.step cfg) s).eraseStates = (evs'.foldl (Engine.step cfg) t).eraseStates := by
  induction h generalizing s t with
  | nil => exact hst
  | @cons e e' _ _ he _ ih =>
    exact ih (hs.step cfg e) (ht.step cfg e') (by
      rw [eraseStates_step cfg s hs.state_ne he, hst,
        ← eraseStates_step cfg t ht.state_ne (.refl e')])

/-- What `sendMctpMessage` returns is never observed: two runs whose events
    differ only in what the sends of their ticks return end with the same
    calls, callbacks invoked, returns, transmissions, signals, timer and
    instance ID, and the same queued tuples with the same deadlines and retries
    left; only the tuples' states differ. A failed send is not resolved at
    once, and costs a retry as a successful one does. -/
theorem sendOk_unobserved (cfg : Config) {evs evs' : List Event}
    (h : List.Forall₂ Event.Alike evs evs') :
    (run cfg evs).eraseStates = (run cfg evs').eraseStates :=
  eraseStates_foldl cfg h queueInv_init queueInv_init rfl

/-- A Get EID request and two ticks, the second retrying it, with every send
    succeeding or every send failing: the runs end alike, though the queued
    tuple's state differs. -/
theorem sendOk_unobserved_get_eid :
    (run ⟨2, 10⟩ [.ctrlCmd .getEndpointId 8 [], .ctrlTxTimer .success fun _ => true,
        .ctrlTxTimer .success fun _ => true]).eraseStates =
      (run ⟨2, 10⟩ [.ctrlCmd .getEndpointId 8 [], .ctrlTxTimer .success fun _ => false,
        .ctrlTxTimer .success fun _ => false]).eraseStates ∧
    (run ⟨2, 10⟩ [.ctrlCmd .getEndpointId 8 [], .ctrlTxTimer .success fun _ => true,
        .ctrlTxTimer .success fun _ => true]).ctrlTxQueue ≠
      (run ⟨2, 10⟩ [.ctrlCmd .getEndpointId 8 [], .ctrlTxTimer .success fun _ => false,
        .ctrlTxTimer .success fun _ => false]).ctrlTxQueue :=
  ⟨sendOk_unobserved _ (.cons (.refl _) (.cons (.ctrlTxTimer _ _ _) (.cons (.ctrlTxTimer _ _ _) .nil))),
    by decide⟩

end Engine

end Mctpd
