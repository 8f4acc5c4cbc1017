import Mctpd.Engine

/-!
# The tick of the transaction queue

`ctrlTxTimerExpired` says that no tick is armed: `pushToCtrlTxQueue` arms one
(`processCtrlTxQueue`) when it is set, and the handler of a tick re-arms the
timer while the queue is non-empty, or sets the flag again once it is empty.
The handler branches first on the wait's error code, and on an error it
returns before either.

* `timerSafe_run`: over every run, whatever codes the waits complete with, at
  most one wait is pending, and none while `ctrlTxTimerExpired` is set;
* `timerInv_run`: over every run whose waits all complete with success,
  `ctrlTxTimerExpired` is clear exactly when a wait is pending, and a wait is
  pending whenever the queue is non-empty;
* `TimerSafe.error_stalls`: a wait that completes with an error while one is
  pending leaves the queue as it was, with no wait pending and the flag clear
  (`ctrlTxTimer_error_stalls`: so with a transaction queued);
* `stalled_run`: from then on no event arms the timer again, so no queued
  transaction is ever ticked.
-/

namespace Mctpd

/-- The event is a wait completing with an error code. -/
def Event.completesWithError : Event → Bool
  | .ctrlTxTimer ec _ => ec != .success
  | _ => false

namespace Engine

/-- At most one wait is pending, and none while `ctrlTxTimerExpired` is set. -/
def TimerSafe (s : Engine) : Prop :=
  s.ctrlTxTimerWaits ≤ 1 ∧ (s.ctrlTxTimerExpired = true → s.ctrlTxTimerWaits = 0)

/-- The tick is armed exactly when the flag says so, and whenever a
    transaction is queued. -/
structure TimerInv (s : Engine) : Prop where
  waits_le : s.ctrlTxTimerWaits ≤ 1
  expired_iff : s.ctrlTxTimerExpired = false ↔ s.ctrlTxTimerWaits = 1
  armed : s.ctrlTxQueue ≠ [] → s.ctrlTxTimerWaits = 1

/-! ## What each step does to the timer -/

section Steps

variable (cfg : Config) (s : Engine)

theorem sendAndRcvMctpCtrl_timer (req : List UInt8) (destEid : UInt8)
    (bindingPrivate : List UInt8) (formattedAt : Option Nat) :
    let s' := s.sendAndRcvMctpCtrl cfg req destEid bindingPrivate formattedAt
    (s'.ctrlTxTimerExpired = s.ctrlTxTimerExpired ∧ s'.ctrlTxTimerWaits = s.ctrlTxTimerWaits ∧
        s'.ctrlTxQueue = s.ctrlTxQueue) ∨
      (s'.ctrlTxTimerExpired = false ∧ s'.ctrlTxQueue ≠ [] ∧
        s'.ctrlTxTimerWaits = if s.ctrlTxTimerExpired then s.ctrlTxTimerWaits + 1
          else s.ctrlTxTimerWaits) := by
  by_cases hr : req = []
  · subst hr; exact .inl ⟨rfl, rfl, rfl⟩
  · rw [sendAndRcvMctpCtrl_of_ne_nil cfg s hr]
    exact .inr ⟨rfl, by simp, rfl⟩

theorem ctrlTxTimerHandler_timer (ec : ErrorCode) (sendOk : CtrlTx → Bool) :
    let s' := s.ctrlTxTimerHandler cfg ec sendOk
    (ec ≠ .success ∧ s'.ctrlTxQueue = s.ctrlTxQueue ∧
        s'.ctrlTxTimerExpired = s.ctrlTxTimerExpired ∧ s'.ctrlTxTimerWaits = s.ctrlTxTimerWaits - 1) ∨
      (ec = .success ∧ s'.ctrlTxQueue = [] ∧ s'.ctrlTxTimerExpired = true ∧
        s'.ctrlTxTimerWaits = s.ctrlTxTimerWaits - 1) ∨
      (ec = .success ∧ s'.ctrlTxQueue ≠ [] ∧ s'.ctrlTxTimerExpired = false ∧
        s'.ctrlTxTimerWaits = s.ctrlTxTimerWaits - 1 + 1) := by
  unfold ctrlTxTimerHandler processCtrlTxQueue
  dsimp only
  split
  · exact .inl ⟨‹_›, rfl, rfl, rfl⟩
  · rename_i hec
    split
    · exact .inr (.inl ⟨not_not.1 hec, List.isEmpty_iff.1 ‹_›, rfl, rfl⟩)
    · rename_i hne
      exact .inr (.inr ⟨not_not.1 hec, fun h => hne (List.isEmpty_iff.2 h), rfl, rfl⟩)

theorem rxMessage_timer (srcEid : UInt8) (msg : List UInt8) :
    (s.rxMessage srcEid msg).ctrlTxTimerExpired = s.ctrlTxTimerExpired ∧
      (s.rxMessage srcEid msg).ctrlTxTimerWaits = s.ctrlTxTimerWaits ∧
      ((s.rxMessage srcEid msg).ctrlTxQueue ≠ [] → s.ctrlTxQueue ≠ []) := by
  unfold rxMessage
  dsimp only
  generalize hs₁ : (if msg.getD 0 0 ≠ mctpMessageTypeMctpCtrl then
    { s with signals := s.signals ++ [(msg.getD 0 0, srcEid, 0, false, msg)] } else s) = s₁
  have h₁ : s₁.ctrlTxTimerExpired = s.ctrlTxTimerExpired ∧
      s₁.ctrlTxTimerWaits = s.ctrlTxTimerWaits ∧ s₁.ctrlTxQueue = s.ctrlTxQueue := by
    subst hs₁; split <;> exact ⟨rfl, rfl, rfl⟩
  split
  · refine ⟨h₁.1, h₁.2.1, fun h he => h ?_⟩
    rw [handleCtrlResp_ctrlTxQueue, h₁.2.2, he]
    rfl
  · exact ⟨h₁.1, h₁.2.1, fun h => h₁.2.2 ▸ h⟩

theorem wake_timer (h : Nat) :
    (s.wake h).ctrlTxTimerExpired = s.ctrlTxTimerExpired ∧
      (s.wake h).ctrlTxTimerWaits = s.ctrlTxTimerWaits ∧
      (s.wake h).ctrlTxQueue = s.ctrlTxQueue := by
  unfold wake
  split <;> exact ⟨rfl, rfl, rfl⟩

end Steps

/-! ## At most one wait -/

theorem timerSafe_init : TimerSafe init := ⟨Nat.zero_le _, fun _ => rfl⟩

theorem TimerSafe.sendAndRcvMctpCtrl (cfg : Config) {s : Engine} (hs : TimerSafe s)
    (req : List UInt8) (destEid : UInt8) (bindingPrivate : List UInt8) (formattedAt : Option Nat) :
    TimerSafe (s.sendAndRcvMctpCtrl cfg req destEid bindingPrivate formattedAt) := by
  rcases sendAndRcvMctpCtrl_timer cfg s req destEid bindingPrivate formattedAt with
    ⟨h₁, h₂, -⟩ | ⟨h₁, -, h₂⟩
  · rw [TimerSafe, h₁, h₂]; exact hs
  · refine ⟨?_, fun h => absurd (h₁.symm.trans h) Bool.false_ne_true⟩
    rw [h₂]
    cases he : s.ctrlTxTimerExpired
    · exact hs.1
    · simp [hs.2 he]

/-- Every step keeps at most one wait pending, whatever code a wait completes
    with. -/
theorem TimerSafe.step (cfg : Config) {s : Engine} (hs : TimerSafe s) (e : Event) :
    TimerSafe (s.step cfg e) := by
  cases e with
  | sendAndRcvMctpCtrl req destEid bindingPrivate => exact hs.sendAndRcvMctpCtrl cfg _ _ _ _
  | ctrlCmd cmd destEid bindingPrivate =>
    exact TimerSafe.sendAndRcvMctpCtrl (s := { s with
      instanceId := createInstanceId s.instanceId
      instanceIdCalls := s.instanceIdCalls + 1 }) cfg hs
      (getFormattedReq cmd (getRqDgramInst (createInstanceId s.instanceId))) destEid bindingPrivate
      (some s.instanceIdCalls)
  | ctrlTxTimer ec sendOk =>
    simp only [Engine.step]
    split
    · exact hs
    · obtain ⟨hle, -⟩ := hs
      rcases ctrlTxTimerHandler_timer cfg s ec sendOk with
        ⟨-, -, -, h₂⟩ | ⟨-, -, -, h₂⟩ | ⟨-, -, h₁, h₂⟩
      · exact ⟨by omega, fun _ => by omega⟩
      · exact ⟨by omega, fun _ => by omega⟩
      · exact ⟨by omega, fun h => absurd (h₁.symm.trans h) Bool.false_ne_true⟩
  | rxMessage srcEid msg =>
    obtain ⟨h₁, h₂, -⟩ := rxMessage_timer s srcEid msg
    simp only [Engine.step, TimerSafe, h₁, h₂]; exact hs
  | wake h =>
    obtain ⟨h₁, h₂, -⟩ := wake_timer s h
    simp only [Engine.step, TimerSafe, h₁, h₂]; exact hs

/-- Over every run, at most one wait of `ctrlTxTimer` is pending, and none
    while `ctrlTxTimerExpired` is set. -/
theorem timerSafe_run (cfg : Config) (evs : List Event) : TimerSafe (run cfg evs) := by
  induction evs using List.reverseRecOn with
  | nil => exact timerSafe_init
  | append_singleton evs e ih => rw [run_append_singleton]; exact ih.step cfg e

/-! ## Runs without errors -/

theorem timerInv_init : TimerInv init := ⟨Nat.zero_le _, by decide, fun h => absurd rfl h⟩

theorem TimerInv.sendAndRcvMctpCtrl (cfg : Config) {s : Engine} (hs : TimerInv s)
    (req : List UInt8) (destEid : UInt8) (bindingPrivate : List UInt8) (formattedAt : Option Nat) :
    TimerInv (s.sendAndRcvMctpCtrl cfg req destEid bindingPrivate formattedAt) := by
  obtain ⟨hle, hiff, harm⟩ := hs
  rcases sendAndRcvMctpCtrl_timer cfg s req destEid bindingPrivate formattedAt with
    ⟨h₁, h₂, h₃⟩ | ⟨h₁, h₃, h₂⟩
  · exact ⟨h₂ ▸ hle, by rw [h₁, h₂]; exact hiff, fun h => by rw [h₂]; exact harm (h₃ ▸ h)⟩
  · have hw : (s.sendAndRcvMctpCtrl cfg req destEid bindingPrivate formattedAt).ctrlTxTimerWaits
        = 1 := by
      rw [h₂]
      cases he : s.ctrlTxTimerExpired
      · exact hiff.1 he
      · have : s.ctrlTxTimerWaits ≠ 1 := fun h => Bool.noConfusion (he.symm.trans (hiff.2 h))
        simp only [if_true]; omega
    exact ⟨hw.le, iff_of_true h₁ hw, fun _ => hw⟩

/-- Every step but a wait completing with an error keeps the tick armed
    exactly when the flag is clear and whenever a transaction is queued. -/
theorem TimerInv.step (cfg : Config) {s : Engine} (hs : TimerInv s) (e : Event)
    (he : e.completesWithError = false) : TimerInv (s.step cfg e) := by
  cases e with
  | sendAndRcvMctpCtrl req destEid bindingPrivate => exact hs.sendAndRcvMctpCtrl cfg _ _ _ _
  | ctrlCmd cmd destEid bindingPrivate =>
    exact TimerInv.sendAndRcvMctpCtrl (s := { s with
      instanceId := createInstanceId s.instanceId
      instanceIdCalls := s.instanceIdCalls + 1 }) cfg ⟨hs.1, hs.2, hs.3⟩
      (getFormattedReq cmd (getRqDgramInst (createInstanceId s.instanceId))) destEid bindingPrivate
      (some s.instanceIdCalls)
  | ctrlTxTimer ec sendOk =>
    simp only [Engine.step]
    split
    · exact hs
    · obtain ⟨hle, hiff, -⟩ := hs
      have hw : s.ctrlTxTimerWaits = 1 := by omega
      rcases ctrlTxTimerHandler_timer cfg s ec sendOk with
        ⟨hec, -⟩ | ⟨-, h₀, h₁, h₂⟩ | ⟨-, h₀, h₁, h₂⟩
      · simp [Event.completesWithError, hec] at he
      · exact ⟨by omega, by rw [h₁, h₂, hw]; decide, fun h => absurd h₀ h⟩
      · exact ⟨by omega, iff_of_true h₁ (by omega), fun _ => by omega⟩
  | rxMessage srcEid msg =>
    obtain ⟨h₁, h₂, h₃⟩ := rxMessage_timer s srcEid msg
    simp only [Engine.step]
    exact ⟨h₂ ▸ hs.1, by rw [h₁, h₂]; exact hs.2, fun h => h₂ ▸ hs.3 (h₃ h)⟩
  | wake h =>
    obtain ⟨h₁, h₂, h₃⟩ := wake_timer s h
    simp only [Engine.step]
    exact ⟨h₂ ▸ hs.1, by rw [h₁, h₂]; exact hs.2, fun h => h₂ ▸ hs.3 (h₃ ▸ h)⟩

/-- Over every run whose waits all complete with success, at most one wait is
    pending, `ctrlTxTimerExpired` is clear exactly when one is, and one is
    whenever a transaction is queued. -/
theorem timerInv_run (cfg : Config) (evs : List Event)
    (hevs : ∀ e ∈ evs, e.completesWithError = false) : TimerInv (run cfg evs) := by
  induction evs using List.reverseRecOn with
  | nil => exact timerInv_init
  | append_singleton evs e ih =>
    rw [run_append_singleton]
    exact (ih fun e' he' => hevs e' (List.mem_append_left _ he')).step cfg e
      (hevs e (List.mem_append_right _ (List.mem_singleton_self e)))

/-! ## Errors -/

/-- No wait is pending and the flag is clear: nothing will tick the queue. -/
def Stalled (s : Engine) : Prop :=
  s.ctrlTxTimerExpired = false ∧ s.ctrlTxTimerWaits = 0

/-- A wait that completes with an error while one is pending leaves the
    engine stalled, with its queue as it was: the handler returns before it
    re-arms the timer or sets the flag. -/
theorem TimerSafe.error_stalls (cfg : Config) {s : Engine} (hs : TimerSafe s) {ec : ErrorCode}
    (hec : ec ≠ .success) (sendOk : CtrlTx → Bool) (hw : 0 < s.ctrlTxTimerWaits) :
    (s.step cfg (.ctrlTxTimer ec sendOk)).ctrlTxQueue = s.ctrlTxQueue ∧
      Stalled (s.step cfg (.ctrlTxTimer ec sendOk)) := by
  simp only [Engine.step, if_neg hw.ne']
  rcases ctrlTxTimerHandler_timer cfg s ec sendOk with ⟨-, hq, h₁, h₂⟩ | ⟨hs', -⟩ | ⟨hs', -⟩
  · -- the one pending wait completed, and the flag was clear while it was pending
    have hexp : s.ctrlTxTimerExpired = false := Bool.eq_false_iff.2 fun he => hw.ne' (hs.2 he)
    exact ⟨hq, h₁.trans hexp, by rw [h₂]; have := hs.1; omega⟩
  · exact absurd hs' hec
  · exact absurd hs' hec

/-- Once stalled, the engine stays stalled: a push sees the flag clear and
    does not arm the timer, and no wait is left to complete. -/
theorem Stalled.step (cfg : Config) {s : Engine} (hs : Stalled s) (e : Event) :
    Stalled (s.step cfg e) := by
  have hsend : ∀ s : Engine, Stalled s → ∀ req destEid bindingPrivate formattedAt,
      Stalled (s.sendAndRcvMctpCtrl cfg req destEid bindingPrivate formattedAt) := by
    intro s hs req destEid bindingPrivate formattedAt
    rcases sendAndRcvMctpCtrl_timer cfg s req destEid bindingPrivate formattedAt with
      ⟨h₁, h₂, -⟩ | ⟨h₁, -, h₂⟩
    · exact ⟨h₁.trans hs.1, h₂.trans hs.2⟩
    · exact ⟨h₁, by rw [h₂, hs.1, hs.2]; rfl⟩
  cases e with
  | sendAndRcvMctpCtrl req destEid bindingPrivate => exact hsend s hs req destEid bindingPrivate none
  | ctrlCmd cmd destEid bindingPrivate =>
    exact hsend { s with
      instanceId := createInstanceId s.instanceId
      instanceIdCalls := s.instanceIdCalls + 1 } hs
      (getFormattedReq cmd (getRqDgramInst (createInstanceId s.instanceId))) destEid bindingPrivate
      (some s.instanceIdCalls)
  | ctrlTxTimer ec sendOk =>
    simp only [Engine.step, hs.2, if_true]
    exact hs
  | rxMessage srcEid msg =>
    obtain ⟨h₁, h₂, -⟩ := rxMessage_timer s srcEid msg
    exact ⟨h₁.trans hs.1, h₂.trans hs.2⟩
  | wake h =>
    obtain ⟨h₁, h₂, -⟩ := wake_timer s h
    exact ⟨h₁.trans hs.1, h₂.trans hs.2⟩

/-- A stalled engine stays stalled whatever happens next. -/
theorem stalled_run (cfg : Config) {s : Engine} (hs : Stalled s) (evs : List Event) :
    Stalled (evs.foldl (step cfg) s) := by
  induction evs generalizing s with
  | nil => exact hs
  | cons e evs ih => exact ih (hs.step cfg e)

/-- The timer over every run: at most one wait pending, and none while the
    flag is set, whatever codes the waits complete with; when they all
    complete with success, the flag is clear exactly when a wait is pending
    and a wait is pending whenever a transaction is queued; a wait that
    completes with an error while one is pending leaves the queue as it was,
    no wait pending and the flag clear; and from such a state nothing arms the
    timer again. -/
theorem ctrlTxTimer_contract (cfg : Config) (evs : List Event) :
    TimerSafe (run cfg evs) ∧
      ((∀ e ∈ evs, e.completesWithError = false) → TimerInv (run cfg evs)) ∧
      (∀ ec sendOk, ec ≠ .success → 0 < (run cfg evs).ctrlTxTimerWaits →
        (run cfg (evs ++ [.ctrlTxTimer ec sendOk])).ctrlTxQueue = (run cfg evs).ctrlTxQueue ∧
          Stalled (run cfg (evs ++ [.ctrlTxTimer ec sendOk]))) ∧
      (Stalled (run cfg evs) → ∀ evs', Stalled (run cfg (evs ++ evs'))) :=
  ⟨timerSafe_run cfg evs, timerInv_run cfg evs, fun _ sendOk hec hw => by
    rw [run_append_singleton]; exact (timerSafe_run cfg evs).error_stalls cfg hec sendOk hw,
    fun hs evs' => by rw [run, List.foldl_append]; exact stalled_run cfg hs evs'⟩

/-- Two Get Endpoint ID requests, one of them answered, with every wait
    completing with success; and one Get Endpoint ID request whose first wait
    completes with `operation_aborted`, after which a second request is queued
    and the engine stays stalled. -/
theorem ctrlTxTimer_contract_get_eid :
    ((∀ e ∈ [Event.ctrlCmd .getEndpointId 8 [], .ctrlCmd .getEndpointId 9 [],
        .ctrlTxTimer .success fun _ => true, .rxMessage 8 [0x00, 0x01, 0x02, 0x00]],
        e.completesWithError = false) ∧
      TimerInv (run (Config.mk 2 100) [.ctrlCmd .getEndpointId 8 [], .ctrlCmd .getEndpointId 9 [],
        .ctrlTxTimer .success fun _ => true, .rxMessage 8 [0x00, 0x01, 0x02, 0x00]])) ∧
    (ErrorCode.operationAborted ≠ .success ∧
      0 < (run (Config.mk 2 100) [.ctrlCmd .getEndpointId 8 []]).ctrlTxTimerWaits ∧
      (run (Config.mk 2 100)
          [.ctrlCmd .getEndpointId 8 [], .ctrlTxTimer .operationAborted fun _ => true]).ctrlTxQueue =
        (run (Config.mk 2 100) [.ctrlCmd .getEndpointId 8 []]).ctrlTxQueue ∧
      Stalled (run (Config.mk 2 100)
        [.ctrlCmd .getEndpointId 8 [], .ctrlTxTimer .operationAborted fun _ => true])) ∧
    Stalled (run (Config.mk 2 100) [.ctrlCmd .getEndpointId 8 [],
      .ctrlTxTimer .operationAborted fun _ => true, .ctrlCmd .getEndpointId 9 []]) :=
  have hok : ∀ e ∈ [Event.ctrlCmd .getEndpointId 8 [], .ctrlCmd .getEndpointId 9 [],
      .ctrlTxTimer .success fun _ => true, .rxMessage 8 [0x00, 0x01, 0x02, 0x00]],
      e.completesWithError = false := by decide
  have hec : ErrorCode.operationAborted ≠ .success := by decide
  have hw : 0 < (run (Config.mk 2 100) [.ctrlCmd .getEndpointId 8 []]).ctrlTxTimerWaits := by
    decide
  have herr := (ctrlTxTimer_contract (Config.mk 2 100) [.ctrlCmd .getEndpointId 8 []]).2.2.1
    .operationAborted (fun _ => true) hec hw
  ⟨⟨hok, (ctrlTxTimer_contract _ _).2.1 hok⟩, ⟨hec, hw, herr⟩,
    (ctrlTxTimer_contract (Config.mk 2 100) _).2.2.2 herr.2 [.ctrlCmd .getEndpointId 9 []]⟩

/-- A Get Endpoint ID request is queued and its first tick completes with
    `operation_aborted`: the request stays queued, no wait is pending, and the
    flag is clear. -/
theorem ctrlTxTimer_error_stalls :
    (run (Config.mk 2 100)
        [.ctrlCmd .getEndpointId 8 [], .ctrlTxTimer .operationAborted fun _ => true]).ctrlTxQueue
        ≠ [] ∧
      Stalled (run (Config.mk 2 100)
        [.ctrlCmd .getEndpointId 8 [], .ctrlTxTimer .operationAborted fun _ => true]) :=
  ⟨by decide, by unfold Stalled; decide⟩

end Engine

end Mctpd
