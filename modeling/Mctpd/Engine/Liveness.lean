import Mctpd.Engine.Bookkeeping
import Mctpd.Engine.Timer

/-!
# Every call is answered

A call that waits for an answer is resolved by a response or by its tuple
expiring. The tuple's countdown is unsigned: it drops by `5` modulo `2^32` at
every tick, and the tuple expires at the tick where it reads `5` before it
(`pollCtrlTx_kept`). So a tuple has `ticksLeft` ticks to live: the first
`j ≥ 1` with `5 * j ≡ maxRespDelay (mod 2^32)`, which is `maxRespDelay`
times the inverse of `5` modulo `2^32`, and at most `2^32`.

A tick takes one from the ticks the tuple of a waiting call has left; no
other step changes them, as the tuple is then the same one
(`ticksLeftOf_step`). As long as no wait of the timer completes with an error,
the tick is armed whenever a tuple is queued (`TimerInv`), so:

* `callback_invoked`: every call that waits for an answer has its callback
  invoked, with `noResponse` or with a frame that answers its request, once
  `2^32` ticks have run after it, whatever else happens in between.
-/

namespace Mctpd

/-- The event is a wait of the timer completing with success: a tick. -/
def Event.isTick : Event → Bool
  | .ctrlTxTimer .success _ => true
  | _ => false

/-! ## The ticks a tuple has left -/

/-- `3435973837` is the inverse of `5` modulo `2^32`. -/
theorem five_mul_inv : 5 * 3435973837 ≡ 1 [MOD 2 ^ 32] := by decide

/-- The ticks a tuple that gets no response has left before it expires: the
    first `j ≥ 1` with `5 * j ≡ maxRespDelay (mod 2^32)`. -/
def ticksLeft (tx : CtrlTx) : Nat :=
  if tx.maxRespDelay.toNat * 3435973837 % 2 ^ 32 = 0 then 2 ^ 32
  else tx.maxRespDelay.toNat * 3435973837 % 2 ^ 32

theorem ticksLeft_pos (tx : CtrlTx) : 0 < ticksLeft tx := by
  unfold ticksLeft; split <;> omega

theorem ticksLeft_le (tx : CtrlTx) : ticksLeft tx ≤ 2 ^ 32 := by
  unfold ticksLeft; split <;> omega

/-- Stepping a residue `r'` to `r = r' + 1 (mod 2^32)`, other than to `1`, takes
    one from the ticks it stands for, `2^32` standing for `0`. -/
theorem residue_succ {r r' : Nat} (hr' : r' < 2 ^ 32) (hr : (r' + 1) % 2 ^ 32 = r) (h1 : r ≠ 1) :
    (if r' = 0 then 2 ^ 32 else r') + 1 = if r = 0 then 2 ^ 32 else r := by
  split_ifs <;> omega

/-- A tick that keeps a tuple takes one from the ticks it has left. -/
theorem ticksLeft_of_kept {D : UInt32} {ok : Bool} {t t' : CtrlTx}
    (hs : t.state ≠ .receivedResponse) (h : (pollCtrlTx D ok t).kept? = some t') :
    ticksLeft t' + 1 = ticksLeft t := by
  obtain ⟨hnone, hkept⟩ := pollCtrlTx_kept D ok hs
  have hM5 : t.maxRespDelay.toNat ≠ 5 := fun h5 => by rw [← hnone] at h5; rw [h5] at h; cases h
  have hlt : t.maxRespDelay.toNat < 2 ^ 32 := t.maxRespDelay.toNat_lt_size
  have hM' : t'.maxRespDelay.toNat + 5 ≡ t.maxRespDelay.toNat [MOD 2 ^ 32] := by
    unfold Nat.ModEq; rw [(hkept t' h).1]; omega
  -- the residue `maxRespDelay * 5⁻¹` goes down by one
  have hc : t'.maxRespDelay.toNat * 3435973837 + 1 ≡ t.maxRespDelay.toNat * 3435973837
      [MOD 2 ^ 32] :=
    calc t'.maxRespDelay.toNat * 3435973837 + 1
        ≡ t'.maxRespDelay.toNat * 3435973837 + 5 * 3435973837 [MOD 2 ^ 32] :=
          Nat.ModEq.add_left _ five_mul_inv.symm
      _ = (t'.maxRespDelay.toNat + 5) * 3435973837 := (Nat.add_mul _ _ _).symm
      _ ≡ t.maxRespDelay.toNat * 3435973837 [MOD 2 ^ 32] := hM'.mul_right _
  have hr : (t'.maxRespDelay.toNat * 3435973837 % 2 ^ 32 + 1) % 2 ^ 32 =
      t.maxRespDelay.toNat * 3435973837 % 2 ^ 32 := by
    rw [← hc, Nat.add_mod, Nat.mod_mod, ← Nat.add_mod]
  -- and it was not `1`, which would make the countdown read `5`
  have h1 : t.maxRespDelay.toNat * 3435973837 % 2 ^ 32 ≠ 1 := fun h1 => by
    have : t.maxRespDelay.toNat ≡ 5 [MOD 2 ^ 32] :=
      calc t.maxRespDelay.toNat = t.maxRespDelay.toNat * 1 := (Nat.mul_one _).symm
        _ ≡ t.maxRespDelay.toNat * (5 * 3435973837) [MOD 2 ^ 32] :=
          Nat.ModEq.mul_left _ five_mul_inv.symm
        _ = 5 * (t.maxRespDelay.toNat * 3435973837) := Nat.mul_left_comm _ _ _
        _ ≡ 5 * 1 [MOD 2 ^ 32] := Nat.ModEq.mul_left _ (h1.trans (by decide : 1 = 1 % 2 ^ 32))
    exact hM5 ((Nat.mod_eq_of_lt hlt).symm.trans this)
  exact residue_succ (Nat.mod_lt _ (by decide)) hr h1

namespace Engine

/-- The ticks call `h` has left: those of its tuple, `0` if none is queued. -/
def ticksLeftOf (s : Engine) (h : Nat) : Nat :=
  ((s.ctrlTxQueue.find? fun tx => tx.callback == h).map ticksLeft).getD 0

theorem ticksLeftOf_eq {s : Engine} {tx : CtrlTx} (hn : (s.ctrlTxQueue.map CtrlTx.callback).Nodup)
    (htx : tx ∈ s.ctrlTxQueue) : ticksLeftOf s tx.callback = ticksLeft tx := by
  unfold ticksLeftOf
  cases hf : s.ctrlTxQueue.find? fun t => t.callback == tx.callback with
  | none => exact absurd (List.find?_eq_none.1 hf tx htx) (by simp)
  | some t =>
    have hc : t.callback = tx.callback := by simpa using List.find?_some hf
    rw [List.inj_on_of_nodup_map hn (List.mem_of_find?_eq_some hf) htx hc]
    rfl

/-! ## Where the tuples after a step come from -/

section Steps

variable (cfg : Config) (s : Engine)

/-- A step other than a tick keeps some of the queued tuples and may add the
    tuple of a new call. -/
theorem mem_step_of_not_tick {e : Event} (he : e.isTick = false) {x : CtrlTx}
    (hx : x ∈ (s.step cfg e).ctrlTxQueue) : x ∈ s.ctrlTxQueue ∨ x.callback = s.calls.length := by
  -- the queue after `sendAndRcvMctpCtrl` on a state with the same queue and calls
  have hsend : ∀ (s' : Engine) req destEid bindingPrivate formattedAt,
      s'.ctrlTxQueue = s.ctrlTxQueue → s'.calls = s.calls →
      x ∈ (s'.sendAndRcvMctpCtrl cfg req destEid bindingPrivate formattedAt).ctrlTxQueue →
      x ∈ s.ctrlTxQueue ∨ x.callback = s.calls.length := by
    intro s' req destEid bindingPrivate formattedAt hq hc hx
    by_cases hr : req = []
    · subst hr; exact .inl (hq ▸ hx)
    · rw [sendAndRcvMctpCtrl_of_ne_nil cfg s' hr] at hx
      rcases List.mem_append.1 hx with hx | hx
      · exact .inl (hq ▸ hx)
      · rw [List.mem_singleton.1 hx, ← hc]; exact .inr rfl
  cases e with
  | sendAndRcvMctpCtrl req destEid bindingPrivate => exact hsend s _ _ _ _ rfl rfl hx
  | ctrlCmd cmd destEid bindingPrivate =>
    exact hsend { s with instanceId := createInstanceId s.instanceId
                         instanceIdCalls := s.instanceIdCalls + 1 }
      (getFormattedReq cmd (getRqDgramInst (createInstanceId s.instanceId))) destEid
      bindingPrivate (some s.instanceIdCalls) rfl rfl hx
  | ctrlTxTimer ec sendOk =>
    refine .inl ?_
    have hec : ec ≠ .success := fun h => by subst h; cases he
    simp only [step] at hx
    split at hx
    · exact hx
    · simp only [ctrlTxTimerHandler, if_pos hec] at hx
      exact hx
  | rxMessage srcEid msg =>
    refine .inl ?_
    simp only [step, rxMessage] at hx
    split at hx
    · rw [handleCtrlResp_ctrlTxQueue] at hx
      split at hx <;> exact List.mem_of_mem_eraseP hx
    · split at hx <;> exact hx
  | wake h => exact .inl ((wake_timer s h).2.2 ▸ hx)

/-- A tick counts down the queued tuples and keeps those that did not
    expire. -/
theorem mem_step_of_tick (sendOk : CtrlTx → Bool) (hw : s.ctrlTxTimerWaits ≠ 0) {x : CtrlTx}
    (hx : x ∈ (s.step cfg (.ctrlTxTimer .success sendOk)).ctrlTxQueue) :
    ∃ t ∈ s.ctrlTxQueue, (pollCtrlTx cfg.ctrlTxRetryDelay (sendOk t) t).kept? = some x := by
  simp only [step, if_neg hw, ctrlTxTimerHandler, processCtrlTxQueue, ne_eq, not_true_eq_false,
    ↓reduceIte] at hx
  have hx' : x ∈ (tick cfg sendOk s.ctrlTxQueue).filterMap Polled.kept? := by
    split at hx <;> exact hx
  obtain ⟨p, hp, hk⟩ := List.mem_filterMap.1 hx'
  obtain ⟨t, ht, rfl⟩ := List.mem_map.1 hp
  exact ⟨t, ht, hk⟩

/-- A call waiting after a step made before it was waiting before it. -/
theorem Pending.of_step {e : Event} {h : Nat} (hh : h < s.calls.length)
    (hp : (s.step cfg e).Pending h) : s.Pending h := by
  obtain ⟨-, hreq, hinv⟩ := hp
  refine ⟨hh, call_step_of_lt cfg s e hh ▸ hreq, fun hm => hinv ?_⟩
  rcases step_frame cfg s e with ⟨-, new, hi⟩ | ⟨c, -, hi⟩ <;> rw [hi]
  · rw [List.map_append]; exact List.mem_append_left _ hm
  · exact hm

end Steps

variable {cfg : Config} {s : Engine} {h : Nat}

/-- A tick takes one from the ticks a waiting call has left; any other step
    leaves them. -/
theorem ticksLeftOf_step (hi : QueueInv s) (ht : TimerInv s) {e : Event}
    (he : e.completesWithError = false) (hp : s.Pending h) (hp' : (s.step cfg e).Pending h) :
    ticksLeftOf (s.step cfg e) h + (if e.isTick then 1 else 0) = ticksLeftOf s h := by
  obtain ⟨tx, htx, rfl⟩ := List.mem_map.1 ((hi.mem_queue h).2 hp)
  have hi' := hi.step cfg e
  obtain ⟨tx', htx', hcb⟩ := List.mem_map.1 ((hi'.mem_queue _).2 hp')
  rw [← hcb, ticksLeftOf_eq hi'.nodup htx', hcb, ticksLeftOf_eq hi.nodup htx]
  cases htick : e.isTick
  · -- the same tuple
    rcases mem_step_of_not_tick cfg s htick htx' with hmem | hnew
    · rw [List.inj_on_of_nodup_map hi.nodup hmem htx hcb]; rfl
    · exact absurd (hcb ▸ hnew ▸ hp.1) (Nat.lt_irrefl _)
  · -- the tuple counted down
    obtain ⟨sendOk, rfl⟩ : ∃ sendOk, e = .ctrlTxTimer .success sendOk := by
      cases e with
      | ctrlTxTimer ec sendOk => cases ec <;> first | exact ⟨sendOk, rfl⟩ | cases htick
      | _ => cases htick
    have hw : s.ctrlTxTimerWaits ≠ 0 := by rw [ht.armed (List.ne_nil_of_mem htx)]; decide
    obtain ⟨t, hts, hk⟩ := mem_step_of_tick cfg s sendOk hw htx'
    have hst := (hi.entry t hts).2.2.2
    have hct : t.callback = tx.callback := (kept_entry cfg sendOk hst hk).1 ▸ hcb
    rw [List.inj_on_of_nodup_map hi.nodup hts htx hct] at hk hst
    exact ticksLeft_of_kept (by rcases hst with h | h <;> rw [h] <;> decide) hk

/-- A call waiting after the events `evs` made before them waited before them. -/
theorem Pending.of_foldl : ∀ (evs : List Event) {s : Engine}, h < s.calls.length →
    (evs.foldl (step cfg) s).Pending h → s.Pending h
  | [], _, _, hp => hp
  | e :: evs, s, hh, hp =>
    Pending.of_step cfg s hh (Pending.of_foldl evs
      (Nat.lt_of_lt_of_le hh (calls_prefix_step cfg s e).length_le) hp)

/-- The events `evs` keep the calls made before them. -/
theorem calls_prefix_foldl : ∀ (evs : List Event) (s : Engine),
    s.calls <+: (evs.foldl (step cfg) s).calls
  | [], _ => List.prefix_refl _
  | e :: evs, s => (calls_prefix_step cfg s e).trans (calls_prefix_foldl evs _)

/-- A waiting call has between `1` and `2^32` ticks left. -/
theorem ticksLeftOf_pos_le (hi : QueueInv s) (hp : s.Pending h) :
    0 < ticksLeftOf s h ∧ ticksLeftOf s h ≤ 2 ^ 32 := by
  obtain ⟨tx, htx, rfl⟩ := List.mem_map.1 ((hi.mem_queue h).2 hp)
  rw [ticksLeftOf_eq hi.nodup htx]
  exact ⟨ticksLeft_pos tx, ticksLeft_le tx⟩

/-- Over the events `evs` from `s`, none completing with an error, a call that
    waits throughout loses one tick to live per tick. -/
theorem ticksLeftOf_foldl : ∀ (evs : List Event) {s : Engine}, QueueInv s → TimerInv s →
    (∀ e ∈ evs, e.completesWithError = false) → s.Pending h →
    (evs.foldl (step cfg) s).Pending h →
    (evs.filter Event.isTick).length + ticksLeftOf (evs.foldl (step cfg) s) h = ticksLeftOf s h
  | [], _, _, _, _, _, _ => Nat.zero_add _
  | e :: evs, s, hi, ht, herr, hp, hp' => by
    have he := herr e (List.mem_cons_self _ _)
    have hp₁ : (s.step cfg e).Pending h :=
      Pending.of_foldl evs (Nat.lt_of_lt_of_le hp.1 (calls_prefix_step cfg s e).length_le) hp'
    have ih := ticksLeftOf_foldl evs (hi.step cfg e) (ht.step cfg e he)
      (fun e' he' => herr e' (List.mem_cons_of_mem _ he')) hp₁ hp'
    have hstep := ticksLeftOf_step hi ht he hp hp₁
    rw [List.foldl_cons, List.filter_cons]
    cases htick : e.isTick <;>
      simp only [htick, Bool.false_eq_true, ↓reduceIte, List.length_cons] at hstep ⊢ <;> omega

/-- The events `evs` keep the bookkeeping. -/
theorem QueueInv.foldl : ∀ (evs : List Event) {s : Engine}, QueueInv s →
    QueueInv (evs.foldl (Engine.step cfg) s)
  | [], _, hi => hi
  | e :: evs, _, hi => QueueInv.foldl evs (hi.step cfg e)

/-- From any state with the bookkeeping and the tick armed as it should be, a
    call that waits for an answer, or has had it, has its callback invoked once
    `2^32` ticks have run, none completing with an error. -/
theorem invoked_of_ticks (evs : List Event) (hi : QueueInv s) (ht : TimerInv s)
    (herr : ∀ e ∈ evs, e.completesWithError = false) (hh : h < s.calls.length)
    (hreq : (s.call h).req ≠ []) (hticks : 2 ^ 32 ≤ (evs.filter Event.isTick).length) :
    ∃ r, (h, r.1, r.2) ∈ (evs.foldl (step cfg) s).invoked ∧ Resolves (s.call h).req r := by
  have hi' : QueueInv (evs.foldl (step cfg) s) := hi.foldl evs
  obtain ⟨l, hl⟩ := calls_prefix_foldl evs s
  have hcall : (evs.foldl (step cfg) s).call h = s.call h := by
    rw [call, call, ← hl, List.getD_append _ _ _ _ hh]
  by_cases hinv : h ∈ (evs.foldl (step cfg) s).invoked.map Prod.fst
  · obtain ⟨c, hc, rfl⟩ := List.mem_map.1 hinv
    exact ⟨c.2, hc, hcall ▸ (hi'.invoked c hc).2.2.2.2⟩
  · -- otherwise the call waits throughout, and each tick took one of its ticks left
    have hp' : (evs.foldl (step cfg) s).Pending h :=
      ⟨by rw [← hl, List.length_append]; exact Nat.lt_add_right _ hh, hcall ▸ hreq, hinv⟩
    have hp := Pending.of_foldl evs hh hp'
    have hcount := ticksLeftOf_foldl evs hi ht herr hp hp'
    have := (ticksLeftOf_pos_le hi' hp').1
    have := (ticksLeftOf_pos_le hi hp).2
    omega

/-- Every call that waits for an answer has its callback invoked, with
    `noResponse` or with a frame that answers its request, once `2^32` ticks
    have run after it, whatever else happens in between, as long as no wait of
    the timer completes with an error. -/
theorem callback_invoked (cfg : Config) (evs evs' : List Event) (h : Nat)
    (herr : ∀ e ∈ evs ++ evs', e.completesWithError = false) (hp : (run cfg evs).Pending h)
    (hticks : 2 ^ 32 ≤ (evs'.filter Event.isTick).length) :
    ∃ r, (h, r.1, r.2) ∈ (run cfg (evs ++ evs')).invoked ∧
      Resolves ((run cfg evs).call h).req r := by
  rw [show run cfg (evs ++ evs') = evs'.foldl (step cfg) (run cfg evs) from
    List.foldl_append _ _ _ _]
  exact invoked_of_ticks evs' (queueInv_run cfg evs)
    (timerInv_run cfg evs fun e he => herr e (List.mem_append_left _ he))
    (fun e he => herr e (List.mem_append_right _ he)) hp.1 hp.2.1 hticks

/-- A Get EID request, then `2^32` ticks: its callback has run. -/
theorem callback_invoked_get_eid :
    (∀ e ∈ [Event.ctrlCmd .getEndpointId 8 []] ++
        List.replicate (2 ^ 32) (Event.ctrlTxTimer .success fun _ => true),
        e.completesWithError = false) ∧
      (run (Config.mk 2 10) [.ctrlCmd .getEndpointId 8 []]).Pending 0 ∧
      2 ^ 32 ≤ ((List.replicate (2 ^ 32) (Event.ctrlTxTimer .success fun _ => true)).filter
        Event.isTick).length ∧
      ∃ r, (0, r.1, r.2) ∈ (run (Config.mk 2 10) ([.ctrlCmd .getEndpointId 8 []] ++
          List.replicate (2 ^ 32) (Event.ctrlTxTimer .success fun _ => true))).invoked ∧
        Resolves ((run (Config.mk 2 10) [.ctrlCmd .getEndpointId 8 []]).call 0).req r := by
  have herr : ∀ e ∈ [Event.ctrlCmd .getEndpointId 8 []] ++
      List.replicate (2 ^ 32) (Event.ctrlTxTimer .success fun _ => true),
      e.completesWithError = false := by
    intro e he
    rcases List.mem_append.1 he with he | he
    · rw [List.mem_singleton.1 he]; rfl
    · rw [List.eq_of_mem_replicate he]; rfl
  have hp : (run (Config.mk 2 10) [.ctrlCmd .getEndpointId 8 []]).Pending 0 := by decide
  have hticks : 2 ^ 32 ≤ ((List.replicate (2 ^ 32)
      (Event.ctrlTxTimer .success fun _ => true)).filter Event.isTick).length := by
    rw [List.filter_replicate, if_pos (show Event.isTick (.ctrlTxTimer .success fun _ => true) = true
      from rfl), List.length_replicate]
  exact ⟨herr, hp, hticks, callback_invoked _ _ _ 0 herr hp hticks⟩

end Engine

end Mctpd
