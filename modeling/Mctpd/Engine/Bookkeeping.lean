import Mctpd.Engine
import Mathlib.Data.List.Nodup

/-!
# Bookkeeping of the control transactions

What the engine keeps track of, over every run: which calls wait for an
answer, which callbacks ran, and what each call returned.

A call is *pending* when it made a non-empty request whose callback has not
run. `QueueInv` says that the queue lists exactly the pending calls, in the
order they were made, each tuple holding its call's request and none resolved;
that a callback runs at most once, either with `noResponse` and no bytes or
with `receivedResponse` and a frame that answers the request; and that a call
returns what its callback was given, or `invalidPacket` for an empty request.

* `QueueInv.resolve`: the common shape of the two steps that remove tuples, a
  tick (`ctrlTxTimerHandler`) and a response (`handleCtrlResp`): they drop the
  tuples whose callbacks they invoke;
* `QueueInv.step`, `queueInv_run`: every step keeps the invariant, so every
  run does;
* `QueueInv.resolvedOnRemoval`: a step invokes exactly the callbacks of the
  tuples it removes from the queue.

`Mctpd.Engine.Dispatch` adds the frames a run delivers, and states all of it
over every run (`engine_bookkeeping`).
-/

namespace Mctpd

namespace Engine

/-- A frame answers a request: it is a control response carrying the
    request's instance ID. -/
def answers (req msg : List UInt8) : Bool :=
  mctpIsMctpCtrlMsg msg && !mctpCtrlMsgIsReq msg && msgInstanceId req == msgInstanceId msg

/-- What a callback may be given for `req`: `noResponse` and no bytes, or
    `receivedResponse` and a frame that answers `req`. -/
def Resolves (req : List UInt8) (r : PacketState × List UInt8) : Prop :=
  r = (.noResponse, []) ∨ r.1 = .receivedResponse ∧ answers req r.2 = true

/-- Call `h` made a non-empty request whose callback has not run. -/
def Pending (s : Engine) (h : Nat) : Prop :=
  h < s.calls.length ∧ (s.call h).req ≠ [] ∧ h ∉ s.invoked.map Prod.fst

instance (s : Engine) (h : Nat) : Decidable (s.Pending h) :=
  inferInstanceAs (Decidable (_ ∧ _ ∧ _))

/-- The bookkeeping of the engine. -/
structure QueueInv (s : Engine) : Prop where
  /-- The queue is in the order of the calls. -/
  sorted : (s.ctrlTxQueue.map CtrlTx.callback).Pairwise (· < ·)
  /-- It holds the pending calls. -/
  mem_queue : ∀ h, h ∈ s.ctrlTxQueue.map CtrlTx.callback ↔ s.Pending h
  /-- A tuple holds its call's request, destination and binding data, and is
      not resolved. -/
  entry : ∀ tx ∈ s.ctrlTxQueue, tx.req = (s.call tx.callback).req ∧
    tx.destEid = (s.call tx.callback).destEid ∧
    tx.bindingPrivate = (s.call tx.callback).bindingPrivate ∧
    (tx.state = .pushedForTransmission ∨ tx.state = .transmitted)
  /-- No callback runs twice. -/
  invoked_nodup : (s.invoked.map Prod.fst).Nodup
  /-- A callback runs for a non-empty request, writes its call's locals, and
      resolves the request. -/
  invoked : ∀ c ∈ s.invoked, c.1 < s.calls.length ∧ (s.call c.1).req ≠ [] ∧
    s.pktState c.1 = c.2.1 ∧ s.resp c.1 = c.2.2 ∧ Resolves (s.call c.1).req c.2
  /-- A pending call still waits. -/
  waiting : ∀ h, s.Pending h → s.pktState h = .pushedForTransmission ∧ s.returned h = none
  /-- A call with an empty request returned `invalidPacket`. -/
  empty : ∀ h < s.calls.length, (s.call h).req = [] → s.returned h = some (.invalidPacket, [])
  /-- Any other call returned what its callback was given. -/
  returned : ∀ h r, s.returned h = some r → h < s.calls.length ∧
    ((s.call h).req = [] ∨ (h, r.1, r.2) ∈ s.invoked)

theorem queueInv_init : QueueInv init where
  sorted := List.Pairwise.nil
  mem_queue _ := iff_of_false (List.not_mem_nil _) fun h => Nat.not_lt_zero _ h.1
  entry _ h := absurd h (List.not_mem_nil _)
  invoked_nodup := List.nodup_nil
  invoked _ h := absurd h (List.not_mem_nil _)
  waiting _ h := absurd h.1 (Nat.not_lt_zero _)
  empty _ h := absurd h (Nat.not_lt_zero _)
  returned _ _ h := Option.noConfusion h

variable {s s' : Engine}

/-- The invariant reads only the queue, the calls, their locals and the
    invocations. -/
theorem QueueInv.congr (hi : QueueInv s) (hq : s'.ctrlTxQueue = s.ctrlTxQueue)
    (hc : s'.calls = s.calls) (hp : s'.pktState = s.pktState) (hr : s'.resp = s.resp)
    (hret : s'.returned = s.returned) (hinv : s'.invoked = s.invoked) : QueueInv s' := by
  obtain ⟨h₁, h₂, h₃, h₄, h₅, h₆, h₇, h₈⟩ := hi
  constructor <;> simp only [Pending, call, hq, hc, hp, hr, hret, hinv] <;> assumption

theorem QueueInv.nodup (hi : QueueInv s) : (s.ctrlTxQueue.map CtrlTx.callback).Nodup :=
  hi.sorted.imp Nat.ne_of_lt

/-! ## Calls -/

section Calls

variable {c : Call}

theorem pending_of_append (hi : QueueInv s) (s' : Engine) (hc : s'.calls = s.calls ++ [c])
    (hinv : s'.invoked = s.invoked) (h : Nat) :
    s'.Pending h ↔ s.Pending h ∨ h = s.calls.length ∧ c.req ≠ [] := by
  have hlen : s'.calls.length = s.calls.length + 1 := by simp [hc]
  rcases Nat.lt_trichotomy h s.calls.length with hh | rfl | hh
  · have : s'.call h = s.call h := by rw [call, hc, call_append_of_lt s hh]
    simp only [Pending, this, hinv, hlen, hh, Nat.lt_succ_of_lt hh, Nat.ne_of_lt hh, false_and,
      or_false, true_and]
  · have : s'.call s.calls.length = c := by rw [call, hc, call_append_self]
    have hni : s.calls.length ∉ s.invoked.map Prod.fst := fun hm => by
      obtain ⟨c', hc', he⟩ := List.mem_map.1 hm
      exact absurd (he ▸ (hi.invoked c' hc').1) (Nat.lt_irrefl _)
    simp only [Pending, this, hinv, hlen, Nat.lt_succ_self, Nat.lt_irrefl, hni, true_and,
      false_and, false_or, not_false_eq_true, and_true]
  · simp only [Pending, hlen]
    omega

theorem returned_length (hi : QueueInv s) : s.returned s.calls.length = none :=
  Option.eq_none_iff_forall_not_mem.2 fun r hr => Nat.lt_irrefl _ (hi.returned _ r hr).1

/-- A call with a non-empty request becomes pending and waits; its tuple is
    appended to the queue. -/
theorem QueueInv.sendAndRcvMctpCtrl_of_ne_nil (cfg : Config) (hi : QueueInv s) {req : List UInt8}
    (hr : req ≠ []) (destEid : UInt8) (bindingPrivate : List UInt8) (formattedAt : Option Nat) :
    QueueInv (s.sendAndRcvMctpCtrl cfg req destEid bindingPrivate formattedAt) := by
  rw [Engine.sendAndRcvMctpCtrl_of_ne_nil cfg s hr]
  set s' : Engine := { s with
    calls := s.calls ++ [Call.mk req destEid bindingPrivate formattedAt]
    pktState := Function.update s.pktState s.calls.length .pushedForTransmission
    ctrlTxQueue := s.ctrlTxQueue ++
      [cfg.newCtrlTx .pushedForTransmission destEid bindingPrivate req s.calls.length]
    sent := s.sent ++ [(s.calls.length, destEid, req, bindingPrivate)]
    ctrlTxTimerExpired := false
    ctrlTxTimerWaits := if s.ctrlTxTimerExpired then s.ctrlTxTimerWaits + 1
      else s.ctrlTxTimerWaits }
  have hp := pending_of_append hi s' rfl rfl
  have hlt : ∀ h ∈ s.ctrlTxQueue.map CtrlTx.callback, h < s.calls.length :=
    fun h hh => ((hi.mem_queue h).1 hh).1
  have hold : ∀ h < s.calls.length, s'.call h = s.call h := fun h hh => call_append_of_lt s hh
  have hnew : s'.call s.calls.length = ⟨req, destEid, bindingPrivate, formattedAt⟩ :=
    call_append_self s _
  have hpk : ∀ h < s.calls.length, s'.pktState h = s.pktState h :=
    fun h hh => Function.update_noteq (Nat.ne_of_lt hh) _ _
  constructor
  · simp only [s', List.map_append, List.map_singleton, List.pairwise_append,
      List.pairwise_singleton, List.mem_singleton, forall_eq, true_and]
    exact ⟨hi.sorted, fun h hh => by simpa [Config.newCtrlTx] using hlt h hh⟩
  · intro h
    rw [hp]
    simp only [s', List.map_append, List.map_singleton, List.mem_append, List.mem_singleton,
      hi.mem_queue, Config.newCtrlTx, hr, ne_eq, not_false_eq_true, and_true]
  · intro tx htx
    rcases List.mem_append.1 htx with htx | htx
    · rw [hold _ (hlt _ (List.mem_map_of_mem _ htx))]
      exact hi.entry tx htx
    · rw [List.mem_singleton.1 htx]
      simp [Config.newCtrlTx, hnew]
  · exact hi.invoked_nodup
  · intro c hc
    obtain ⟨h₁, h₂, h₃, h₄, h₅⟩ := hi.invoked c hc
    exact ⟨by simp [s']; omega, by rw [hold _ h₁]; exact h₂, by rw [hpk _ h₁]; exact h₃, h₄,
      by rw [hold _ h₁]; exact h₅⟩
  · intro h hh
    rcases (hp h).1 hh with hh | ⟨rfl, -⟩
    · rw [hpk _ hh.1]; exact hi.waiting h hh
    · exact ⟨Function.update_same _ _ _, returned_length hi⟩
  · intro h hh he
    rcases Nat.lt_or_eq_of_le (Nat.le_of_lt_succ (by simpa [s'] using hh)) with hh | rfl
    · rw [hold _ hh] at he; exact hi.empty h hh he
    · rw [hnew] at he; exact absurd he hr
  · intro h r hret
    obtain ⟨h₁, h₂⟩ := hi.returned h r hret
    exact ⟨by simp [s']; omega, by rw [hold _ h₁]; exact h₂⟩

/-- A call with an empty request returns `invalidPacket` at once. -/
theorem QueueInv.sendAndRcvMctpCtrl_nil (cfg : Config) (hi : QueueInv s) (destEid : UInt8)
    (bindingPrivate : List UInt8) (formattedAt : Option Nat) :
    QueueInv (s.sendAndRcvMctpCtrl cfg [] destEid bindingPrivate formattedAt) := by
  rw [Engine.sendAndRcvMctpCtrl_nil]
  set s' : Engine := { s with
    calls := s.calls ++ [Call.mk [] destEid bindingPrivate formattedAt]
    returned := Function.update s.returned s.calls.length (some (.invalidPacket, [])) }
  have hp := pending_of_append hi s' rfl rfl
  have hold : ∀ h < s.calls.length, s'.call h = s.call h := fun h hh => call_append_of_lt s hh
  have hret : ∀ h < s.calls.length, s'.returned h = s.returned h :=
    fun h hh => Function.update_noteq (Nat.ne_of_lt hh) _ _
  constructor
  · exact hi.sorted
  · intro h; simpa [hp] using hi.mem_queue h
  · intro tx htx
    rw [hold _ ((hi.mem_queue _).1 (List.mem_map_of_mem _ htx)).1]
    exact hi.entry tx htx
  · exact hi.invoked_nodup
  · intro c hc
    obtain ⟨h₁, h₂, h₃, h₄, h₅⟩ := hi.invoked c hc
    exact ⟨by simp [s']; omega, by rw [hold _ h₁]; exact h₂, h₃, h₄, by rw [hold _ h₁]; exact h₅⟩
  · intro h hh
    have hh := ((hp h).1 hh).resolve_right fun h' => h'.2 rfl
    rw [hret _ hh.1]; exact hi.waiting h hh
  · intro h hh he
    rcases Nat.lt_or_eq_of_le (Nat.le_of_lt_succ (by simpa [s'] using hh)) with hh | rfl
    · rw [hold _ hh] at he; rw [hret _ hh]; exact hi.empty h hh he
    · exact Function.update_same _ _ _
  · intro h r hr
    by_cases hh : h = s.calls.length
    · subst hh; exact ⟨by simp [s'], .inl (by rw [call, call_append_self])⟩
    · have : s'.returned h = s.returned h := Function.update_noteq hh _ _
      obtain ⟨h₁, h₂⟩ := hi.returned h r (this ▸ hr)
      exact ⟨by simp [s']; omega, by rw [hold _ h₁]; exact h₂⟩

theorem QueueInv.sendAndRcvMctpCtrl (cfg : Config) (hi : QueueInv s) (req : List UInt8)
    (destEid : UInt8) (bindingPrivate : List UInt8) (formattedAt : Option Nat) :
    QueueInv (s.sendAndRcvMctpCtrl cfg req destEid bindingPrivate formattedAt) := by
  by_cases hr : req = []
  · subst hr; exact hi.sendAndRcvMctpCtrl_nil cfg destEid bindingPrivate formattedAt
  · exact hi.sendAndRcvMctpCtrl_of_ne_nil cfg hr destEid bindingPrivate formattedAt

end Calls

/-! ## Resolving tuples -/

/-- A step that replaces the queue by one of its sub-lists and invokes, once
    each, the callbacks of exactly the tuples it dropped, with what resolves
    their requests, keeps the invariant. -/
theorem QueueInv.resolve (hi : QueueInv s) {cs : List (Nat × PacketState × List UInt8)}
    (hc : s'.calls = s.calls) (hp : s'.pktState = s.pktState) (hr : s'.resp = s.resp)
    (hret : s'.returned = s.returned) (hinv : s'.invoked = s.invoked)
    (hsub : (s'.ctrlTxQueue.map CtrlTx.callback).Sublist (s.ctrlTxQueue.map CtrlTx.callback))
    (hmem : ∀ h, h ∈ s'.ctrlTxQueue.map CtrlTx.callback ↔
      h ∈ s.ctrlTxQueue.map CtrlTx.callback ∧ h ∉ cs.map Prod.fst)
    (hcs : (cs.map Prod.fst).Sublist (s.ctrlTxQueue.map CtrlTx.callback))
    (hout : ∀ c ∈ cs, Resolves (s.call c.1).req c.2)
    (hentry : ∀ tx' ∈ s'.ctrlTxQueue, ∃ tx ∈ s.ctrlTxQueue, tx'.callback = tx.callback ∧
      tx'.req = tx.req ∧ tx'.destEid = tx.destEid ∧ tx'.bindingPrivate = tx.bindingPrivate ∧
      (tx'.state = .pushedForTransmission ∨ tx'.state = .transmitted)) :
    QueueInv (s'.invokeAll cs) := by
  have hcall : (s'.invokeAll cs).call = s.call := by funext h; simp only [call, invokeAll_calls, hc]
  have hcsn : (cs.map Prod.fst).Nodup := hi.nodup.sublist hcs
  have hcsp : ∀ h ∈ cs.map Prod.fst, s.Pending h := fun h hh => (hi.mem_queue h).1 (hcs.subset hh)
  have hpend : ∀ h, (s'.invokeAll cs).Pending h ↔ s.Pending h ∧ h ∉ cs.map Prod.fst := by
    intro h
    simp only [Pending, call, invokeAll_calls, invokeAll_invoked, hc, hinv, List.map_append,
      List.mem_append, not_or, and_assoc]
  have hkeep : ∀ h ∉ cs.map Prod.fst, (s'.invokeAll cs).pktState h = s.pktState h ∧
      (s'.invokeAll cs).resp h = s.resp h := fun h hh => by
    rw [← hp, ← hr]; exact invokeAll_of_not_mem hh
  have hdone : ∀ c ∈ s.invoked, c.1 ∉ cs.map Prod.fst := fun c hc' hm =>
    (hcsp _ hm).2.2 (List.mem_map_of_mem _ hc')
  constructor
  · exact hi.sorted.sublist hsub
  · intro h; rw [invokeAll_ctrlTxQueue, hmem, hi.mem_queue, hpend]
  · intro tx' htx'
    obtain ⟨tx, htx, hcb, hreq, hdest, hbp, hst⟩ := hentry tx' htx'
    obtain ⟨e₁, e₂, e₃, -⟩ := hi.entry tx htx
    rw [hcall, hcb]
    exact ⟨hreq.trans e₁, hdest.trans e₂, hbp.trans e₃, hst⟩
  · simp only [invokeAll_invoked, hinv, List.map_append]
    exact List.nodup_append.2 ⟨hi.invoked_nodup, hcsn, fun h h₁ h₂ => (hcsp h h₂).2.2 h₁⟩
  · intro c hc'
    simp only [invokeAll_invoked, hinv, List.mem_append] at hc'
    simp only [invokeAll_calls, hc, hcall]
    rcases hc' with hc' | hc'
    · obtain ⟨h₁, h₂, h₃, h₄, h₅⟩ := hi.invoked c hc'
      obtain ⟨k₁, k₂⟩ := hkeep c.1 (hdone c hc')
      exact ⟨h₁, h₂, k₁.trans h₃, k₂.trans h₄, h₅⟩
    · obtain ⟨h₁, h₂, -⟩ := hcsp c.1 (List.mem_map_of_mem _ hc')
      obtain ⟨k₁, k₂⟩ := invokeAll_of_mem (s := s') hcsn hc'
      exact ⟨h₁, h₂, k₁, k₂, hout c hc'⟩
  · intro h hh
    obtain ⟨hh, hn⟩ := (hpend h).1 hh
    simp only [invokeAll_returned, hret, (hkeep h hn).1]
    exact hi.waiting h hh
  · simp only [invokeAll_calls, invokeAll_returned, hc, hret, hcall]
    exact hi.empty
  · intro h r hr'
    simp only [invokeAll_calls, invokeAll_returned, invokeAll_invoked, hc, hret, hinv, hcall,
      List.mem_append] at hr' ⊢
    obtain ⟨h₁, h₂⟩ := hi.returned h r hr'
    exact ⟨h₁, h₂.imp_right .inl⟩

/-! ## Ticks -/

section Tick

variable (cfg : Config) (sendOk : CtrlTx → Bool)

/-- The tuple stays queued through the tick. -/
def stays (tx : CtrlTx) : Bool :=
  (pollCtrlTx cfg.ctrlTxRetryDelay (sendOk tx) tx).kept?.isSome

/-- The callbacks of the tuples a tick keeps and of those it expires. -/
theorem tick_callbacks : ∀ q : List CtrlTx,
    ((tick cfg sendOk q).filterMap Polled.kept?).map CtrlTx.callback =
        (q.filter (stays cfg sendOk)).map CtrlTx.callback ∧
      ((tick cfg sendOk q).filterMap Polled.expired?).map Prod.fst =
        (q.filter fun tx => !stays cfg sendOk tx).map CtrlTx.callback
  | [] => ⟨rfl, rfl⟩
  | tx :: q => by
    obtain ⟨ih₁, ih₂⟩ := tick_callbacks q
    have ht : tick cfg sendOk (tx :: q) =
        pollCtrlTx cfg.ctrlTxRetryDelay (sendOk tx) tx :: tick cfg sendOk q := rfl
    rcases pollCtrlTx_cases cfg.ctrlTxRetryDelay (sendOk tx) tx with
      ⟨-, -, -, -, h⟩ | ⟨-, -, -, h⟩ | ⟨-, h⟩ <;>
    simp [ht, stays, h, Polled.kept?, Polled.expired?, ih₁, ih₂]

/-- With distinct callbacks, a callback is kept exactly when it is queued and
    not expired. -/
theorem mem_kept_iff {q : List CtrlTx} (hn : (q.map CtrlTx.callback).Nodup) (p : CtrlTx → Bool)
    (h : Nat) : h ∈ (q.filter p).map CtrlTx.callback ↔
      h ∈ q.map CtrlTx.callback ∧ h ∉ (q.filter fun tx => !p tx).map CtrlTx.callback := by
  simp only [List.mem_map, List.mem_filter]
  constructor
  · rintro ⟨tx, ⟨htx, hp⟩, rfl⟩
    refine ⟨⟨tx, htx, rfl⟩, ?_⟩
    rintro ⟨tx', ⟨htx', hnp⟩, he⟩
    rw [List.inj_on_of_nodup_map hn htx' htx he, hp] at hnp
    exact Bool.false_ne_true hnp
  · rintro ⟨⟨tx, htx, rfl⟩, hno⟩
    refine ⟨tx, ⟨htx, ?_⟩, rfl⟩
    by_contra hp
    exact hno ⟨tx, ⟨htx, by simpa using hp⟩, rfl⟩

/-- A kept tuple is the queued one, counted down, maybe sent again. -/
theorem kept_entry {tx tx' : CtrlTx} (ht : tx.state = .pushedForTransmission ∨ tx.state = .transmitted)
    (h : (pollCtrlTx cfg.ctrlTxRetryDelay (sendOk tx) tx).kept? = some tx') :
    tx'.callback = tx.callback ∧ tx'.req = tx.req ∧ tx'.destEid = tx.destEid ∧
      tx'.bindingPrivate = tx.bindingPrivate ∧
      (tx'.state = .pushedForTransmission ∨ tx'.state = .transmitted) := by
  rcases pollCtrlTx_cases cfg.ctrlTxRetryDelay (sendOk tx) tx with
    ⟨-, -, -, -, hp⟩ | ⟨-, -, -, hp⟩ | ⟨-, hp⟩ <;> rw [hp] at h <;> cases h
  · refine ⟨rfl, rfl, rfl, rfl, ?_⟩
    cases sendOk tx <;> simp [ht]
  · exact ⟨rfl, rfl, rfl, rfl, ht⟩

/-- An expired tuple's callback gets `noResponse` and no bytes. -/
theorem expired_resolves {c : Nat × PacketState × List UInt8} {q : List CtrlTx}
    (hc : c ∈ (tick cfg sendOk q).filterMap Polled.expired?) : c.2 = (.noResponse, []) := by
  obtain ⟨p, -, hp⟩ := List.mem_filterMap.1 hc
  cases p <;> cases hp
  rfl

/-- A tick keeps the invariant. -/
theorem QueueInv.ctrlTxTimerHandler (hi : QueueInv s) (ec : ErrorCode) :
    QueueInv (s.ctrlTxTimerHandler cfg ec sendOk) := by
  unfold Engine.ctrlTxTimerHandler processCtrlTxQueue
  dsimp only
  obtain ⟨hk, he⟩ := tick_callbacks cfg sendOk s.ctrlTxQueue
  have hres : QueueInv (invokeAll
      { s with
        ctrlTxTimerWaits := s.ctrlTxTimerWaits - 1
        ctrlTxQueue := (tick cfg sendOk s.ctrlTxQueue).filterMap Polled.kept?
        sent := s.sent ++ (tick cfg sendOk s.ctrlTxQueue).filterMap Polled.sent? }
      ((tick cfg sendOk s.ctrlTxQueue).filterMap Polled.expired?)) := hi.resolve rfl rfl rfl rfl rfl
    (by rw [hk]; exact (List.filter_sublist _).map _)
    (fun h => by rw [hk, he]; exact mem_kept_iff hi.nodup _ h)
    (by rw [he]; exact (List.filter_sublist _).map _)
    (fun c hc => .inl (expired_resolves cfg sendOk hc))
    (fun tx' htx' => by
      obtain ⟨p, hp, hp'⟩ := List.mem_filterMap.1 htx'
      obtain ⟨tx, htx, rfl⟩ := List.mem_map.1 hp
      exact ⟨tx, htx, kept_entry cfg sendOk (hi.entry tx htx).2.2.2 hp'⟩)
  split
  · exact hi.congr rfl rfl rfl rfl rfl rfl
  · split
    · exact hres.congr rfl rfl rfl rfl rfl rfl
    · exact hres.congr rfl rfl rfl rfl rfl rfl

end Tick

/-! ## Responses -/

/-- With distinct callbacks, erasing the first match drops exactly its callback. -/
theorem mem_eraseP_iff {p : CtrlTx → Bool} : ∀ {q : List CtrlTx} {tx : CtrlTx},
    (q.map CtrlTx.callback).Nodup → q.find? p = some tx → ∀ h,
      (h ∈ (q.eraseP p).map CtrlTx.callback ↔ h ∈ q.map CtrlTx.callback ∧ h ≠ tx.callback)
  | [], _, _, hf, _ => Option.noConfusion hf
  | a :: q, tx, hn, hf, h => by
    rw [List.map_cons, List.nodup_cons] at hn
    by_cases ha : p a
    · rw [List.find?_cons_of_pos _ ha] at hf
      cases hf
      rw [List.eraseP_cons_of_pos ha, List.map_cons, List.mem_cons]
      exact ⟨fun hh => ⟨.inr hh, fun he => hn.1 (he ▸ hh)⟩, fun ⟨hh, hne⟩ => hh.resolve_left hne⟩
    · rw [List.find?_cons_of_neg _ ha] at hf
      have hne : a.callback ≠ tx.callback := fun he =>
        hn.1 (he ▸ List.mem_map_of_mem _ (List.mem_of_find?_eq_some hf))
      rw [List.eraseP_cons_of_neg ha]
      simp only [List.map_cons, List.mem_cons]
      rw [mem_eraseP_iff hn.2 hf h]
      constructor
      · rintro (rfl | ⟨hh, hne'⟩)
        · exact ⟨.inl rfl, hne⟩
        · exact ⟨.inr hh, hne'⟩
      · rintro ⟨rfl | hh, hne'⟩
        · exact .inl rfl
        · exact .inr ⟨hh, hne'⟩

/-- A control response keeps the invariant. -/
theorem QueueInv.handleCtrlResp (hi : QueueInv s) {msg : List UInt8}
    (hmsg : (mctpIsMctpCtrlMsg msg && !mctpCtrlMsgIsReq msg) = true) :
    QueueInv (s.handleCtrlResp msg) := by
  unfold Engine.handleCtrlResp
  rw [handleCtrlResp_eq]
  dsimp only
  have hsub := (List.eraseP_sublist (p := respMatches msg) s.ctrlTxQueue).map CtrlTx.callback
  have hentry : ∀ tx' ∈ s.ctrlTxQueue.eraseP (respMatches msg), ∃ tx ∈ s.ctrlTxQueue,
      tx'.callback = tx.callback ∧ tx'.req = tx.req ∧ tx'.destEid = tx.destEid ∧
      tx'.bindingPrivate = tx.bindingPrivate ∧
      (tx'.state = .pushedForTransmission ∨ tx'.state = .transmitted) := fun tx' htx' =>
    have htx := List.mem_of_mem_eraseP htx'
    ⟨tx', htx, rfl, rfl, rfl, rfl, (hi.entry tx' htx).2.2.2⟩
  cases hf : s.ctrlTxQueue.find? (respMatches msg) with
  | none =>
    rw [Option.map_none', Option.toList_none]
    refine hi.resolve rfl rfl rfl rfl rfl hsub (fun h => ?_) (List.nil_sublist _)
      (fun _ h => absurd h (List.not_mem_nil _)) hentry
    rw [List.eraseP_of_forall_not fun a ha => by simpa [hf] using List.find?_eq_none.1 hf a ha]
    simp
  | some tx =>
    have htx := List.mem_of_find?_eq_some hf
    rw [Option.map_some', Option.toList_some]
    refine hi.resolve rfl rfl rfl rfl rfl hsub (fun h => ?_) ?_ ?_ hentry
    · simpa using mem_eraseP_iff hi.nodup hf h
    · exact List.singleton_sublist.2 (List.mem_map_of_mem _ htx)
    · intro c hc
      rw [List.mem_singleton] at hc
      subst hc
      have hm := List.find?_some hf
      refine .inr ⟨rfl, ?_⟩
      simp only [respMatches, beq_iff_eq] at hm
      simp only [CtrlTx.received, answers, ← (hi.entry tx htx).1, hm, hmsg, beq_self_eq_true,
        Bool.and_true]

/-! ## Returns -/

/-- A call that wakes after its callback ran returns what the callback was
    given. -/
theorem QueueInv.wake_returned (hi : QueueInv s) {h : Nat} {st : PacketState}
    {bytes : List UInt8} (hc : (h, st, bytes) ∈ s.invoked) :
    (s.wake h).returned h = some (st, bytes) := by
  obtain ⟨h₁, h₂, h₃, h₄, h₅⟩ := hi.invoked _ hc
  dsimp only at h₁ h₂ h₃ h₄ h₅
  unfold wake
  cases hr : s.returned h with
  | some r =>
    -- it returned already: what its one invocation gave
    have hm := (hi.returned h r hr).2.resolve_left h₂
    have := List.inj_on_of_nodup_map hi.invoked_nodup hm hc rfl
    simp only [Prod.mk.injEq] at this
    rw [if_neg fun hg => Option.noConfusion hg.2.1, hr]
    exact congrArg some (Prod.ext this.2.1 this.2.2)
  | none =>
    have hst : st ≠ .pushedForTransmission := by
      rcases h₅ with he | ⟨he, -⟩
      · cases he; decide
      · dsimp only at he; rw [he]; decide
    rw [if_pos ⟨h₁, rfl, by rw [h₃]; exact hst⟩]
    dsimp only
    rw [Function.update_same, h₃, h₄]

/-- A wake keeps the invariant. -/
theorem QueueInv.wake (hi : QueueInv s) (h : Nat) : QueueInv (s.wake h) := by
  unfold Engine.wake
  split
  · rename_i hg
    obtain ⟨hlt, hnone, hst⟩ := hg
    have hne : (s.call h).req ≠ [] := fun he => by
      rw [hi.empty h hlt he] at hnone; exact Option.noConfusion hnone
    have hnp : ¬s.Pending h := fun hp => hst (hi.waiting h hp).1
    have hinv : h ∈ s.invoked.map Prod.fst := by
      by_contra hn; exact hnp ⟨hlt, hne, hn⟩
    obtain ⟨c, hc, rfl⟩ := List.mem_map.1 hinv
    refine { hi with waiting := fun h' hp => ?_, empty := fun h' hh he => ?_, returned := ?_ }
    · have : h' ≠ c.1 := fun he => hnp (he ▸ hp)
      simpa [Function.update_noteq this] using hi.waiting h' hp
    · have : h' ≠ c.1 := fun he' => hne (he' ▸ he)
      simpa [Function.update_noteq this] using hi.empty h' hh he
    · intro h' r hr
      dsimp only at hr ⊢
      by_cases he : h' = c.1
      · subst he
        rw [Function.update_same, Option.some_inj] at hr
        subst hr
        obtain ⟨-, -, h₃, h₄, -⟩ := hi.invoked c hc
        exact ⟨hlt, .inr (by rw [h₃, h₄]; exact hc)⟩
      · rw [Function.update_noteq he] at hr
        exact hi.returned h' r hr
  · exact hi

/-! ## Runs -/

/-- Every step keeps the invariant. -/
theorem QueueInv.step (cfg : Config) (hi : QueueInv s) (e : Event) : QueueInv (s.step cfg e) := by
  cases e with
  | sendAndRcvMctpCtrl req destEid bindingPrivate =>
    exact hi.sendAndRcvMctpCtrl cfg req destEid bindingPrivate none
  | ctrlCmd cmd destEid bindingPrivate =>
    have hi' : QueueInv { s with
        instanceId := createInstanceId s.instanceId
        instanceIdCalls := s.instanceIdCalls + 1 } := hi.congr rfl rfl rfl rfl rfl rfl
    exact hi'.sendAndRcvMctpCtrl cfg (getFormattedReq cmd (getRqDgramInst (createInstanceId s.instanceId)))
      destEid bindingPrivate (some s.instanceIdCalls)
  | ctrlTxTimer ec sendOk =>
    simp only [Engine.step]
    split
    · exact hi
    · exact hi.ctrlTxTimerHandler cfg sendOk ec
  | rxMessage srcEid msg =>
    simp only [Engine.step, Engine.rxMessage]
    have hs : QueueInv (if msg.getD 0 0 ≠ mctpMessageTypeMctpCtrl then
        { s with signals := s.signals ++ [(msg.getD 0 0, srcEid, 0, false, msg)] } else s) := by
      split
      · exact hi.congr rfl rfl rfl rfl rfl rfl
      · exact hi
    split
    · exact hs.handleCtrlResp ‹_›
    · exact hs
  | wake h => exact hi.wake h

/-- Every run keeps the invariant. -/
theorem queueInv_run (cfg : Config) (evs : List Event) : QueueInv (run cfg evs) := by
  induction evs using List.reverseRecOn with
  | nil => exact queueInv_init
  | append_singleton evs e ih => rw [run_append_singleton]; exact ih.step cfg e

/-- From `s` to `s'`, the invocations only grow, and the callbacks invoked are
    those of the tuples removed from the queue. -/
def ResolvedOnRemoval (s s' : Engine) : Prop :=
  ∃ new, s'.invoked = s.invoked ++ new ∧ ∀ h, h ∈ new.map Prod.fst ↔
    h ∈ s.ctrlTxQueue.map CtrlTx.callback ∧ h ∉ s'.ctrlTxQueue.map CtrlTx.callback

/-- A step invokes exactly the callbacks of the tuples it removes. -/
theorem QueueInv.resolvedOnRemoval (cfg : Config) (hi : QueueInv s) (e : Event) :
    ResolvedOnRemoval s (s.step cfg e) := by
  have hi' := hi.step cfg e
  rcases step_frame cfg s e with ⟨hc, new, hn⟩ | ⟨c, hc, hn⟩
  · refine ⟨new, hn, fun h => ?_⟩
    rw [hi.mem_queue, hi'.mem_queue]
    have hcall : (s.step cfg e).call h = s.call h := by simp only [call, hc]
    simp only [Pending, hcall, hc, hn, List.map_append, List.mem_append, not_or, not_and,
      not_not]
    have hnd := hi'.invoked_nodup
    rw [hn, List.map_append] at hnd
    constructor
    · intro hh
      obtain ⟨c, hc', rfl⟩ := List.mem_map.1 hh
      obtain ⟨h₁, h₂, -⟩ := hi'.invoked c (hn ▸ List.mem_append_right _ hc')
      rw [hcall, hc] at *
      exact ⟨⟨h₁, h₂, fun hm => List.disjoint_of_nodup_append hnd hm hh⟩, fun _ _ _ => hh⟩
    · rintro ⟨⟨h₁, h₂, h₃⟩, h₄⟩
      exact h₄ h₁ h₂ h₃
  · refine ⟨[], by rw [hn, List.append_nil], fun h => ?_⟩
    refine iff_of_false (List.not_mem_nil _) fun ⟨hh, hh'⟩ => hh' ?_
    rw [hi'.mem_queue, pending_of_append hi _ hc hn]
    exact .inl ((hi.mem_queue h).1 hh)

end Engine

end Mctpd
