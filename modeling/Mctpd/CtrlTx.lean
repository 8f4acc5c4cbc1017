import Mctpd.Wire
import Mathlib.Data.List.Perm.Basic
import Mathlib.Data.Nat.ModEq

/-!
# Control transactions

An entry of `ctrlTxQueue` is a tuple `<state, retryCount, maxRespDelay,
destEid, BindingPrivate, ReqPacket, Callback>`. This module gives the two
things the engine does to entries:

* a tick of `processCtrlTxQueue` runs the predicate of its `std::remove_if` on
  every entry (`pollCtrlTx`): the unsigned countdown `maxRespDelay -= 5`, a
  retransmission when the countdown has crossed the next retry boundary, or
  the removal of the entry with `noResponse` once the countdown reads `0`;
* `handleCtrlResp` finds the first entry whose request carries the response's
  instance ID, invokes its callback and erases it.

A callback is named by the handle of the `sendAndRcvMctpCtrl` call that
registered it (`CtrlTx.callback`); `Mctpd.Engine` gives the calls themselves.

* `pollFor_isSome_iff`: an entry with no response leaves the queue at the
  first tick `k` with `5 * k ≡ maxRespDelay (mod 2^32)`: the countdown is
  unsigned and only `0` stops it;
* `pollFor_expires`: so it leaves the queue within `2^32` ticks, and exactly
  when its budget runs out if the budget is a positive multiple of the tick;
* `pollFor_schedule`: when the delay is a multiple of the tick and the budget
  fits in 32 bits, the entry is sent again exactly at every multiple of the
  delay until the budget runs out;
* `pollFor_misses_deadline`: a delay of `7` ms and no retry leaves the entry
  queued at tick `2`, and until tick `2576980379`;
* `handleCtrlResps_comm`: responses with different instance IDs resolve the
  same entries whatever their order.
-/

namespace Mctpd

/-- A `ctrlTxQueue` tuple. The callback is named by the handle of the
    `sendAndRcvMctpCtrl` call whose locals it writes. -/
structure CtrlTx where
  state : PacketState
  retryCount : UInt8
  maxRespDelay : UInt32
  destEid : UInt8
  bindingPrivate : List UInt8
  req : List UInt8
  callback : Nat
  deriving DecidableEq, Repr

/-- The configuration the engine reads: `ctrlTxRetryCount` and
    `ctrlTxRetryDelay` (ms). -/
structure Config where
  ctrlTxRetryCount : UInt8
  ctrlTxRetryDelay : UInt32
  deriving DecidableEq, Repr

/-- The tuple `pushToCtrlTxQueue` appends: the retry count, and the budget
    `(ctrlTxRetryCount + 1) * ctrlTxRetryDelay` in unsigned arithmetic. -/
def Config.newCtrlTx (cfg : Config) (state : PacketState) (destEid : UInt8)
    (bindingPrivate req : List UInt8) (callback : Nat) : CtrlTx :=
  { state, retryCount := cfg.ctrlTxRetryCount,
    maxRespDelay := (cfg.ctrlTxRetryCount.toUInt32 + 1) * cfg.ctrlTxRetryDelay,
    destEid, bindingPrivate, req, callback }

/-! ## A tick -/

/-- What the predicate of the tick's `std::remove_if` does to one tuple. -/
inductive Polled
  /-- The tuple stays, updated; `resent`: `sendMctpMessage` was called on it. -/
  | keep (tx : CtrlTx) (resent : Bool)
  /-- The tuple is removed, its callback invoked with `noResponse` and an
      empty response. -/
  | expire (tx : CtrlTx)
  deriving DecidableEq, Repr

/-- The predicate of `processCtrlTxQueue`'s `std::remove_if`, with
    `sendOk` the result of the `sendMctpMessage` it may call. -/
def pollCtrlTx (ctrlTxRetryDelay : UInt32) (sendOk : Bool) (tx : CtrlTx) : Polled :=
  let maxRespDelay := tx.maxRespDelay - ctrlTxPollInterval
  if 0 < maxRespDelay ∧ tx.state ≠ .receivedResponse then
    if 0 < tx.retryCount ∧ maxRespDelay ≤ tx.retryCount.toUInt32 * ctrlTxRetryDelay then
      .keep { tx with
        maxRespDelay := maxRespDelay, retryCount := tx.retryCount - 1,
        state := if sendOk then .transmitted else tx.state } true
    else .keep { tx with maxRespDelay := maxRespDelay } false
  else .expire { tx with maxRespDelay := maxRespDelay, state := .noResponse }

/-- The tuple, if it stays. -/
def Polled.kept? : Polled → Option CtrlTx
  | .keep tx _ => some tx
  | .expire _ => none

/-- The transmission `sendMctpMessage(destEid, req, bindingPrivate)`, if any,
    with, a ghost, the tuple's callback. -/
def Polled.sent? : Polled → Option (Nat × UInt8 × List UInt8 × List UInt8)
  | .keep tx true => some (tx.callback, tx.destEid, tx.req, tx.bindingPrivate)
  | _ => none

/-- The callback invocation, if the tuple expired. -/
def Polled.expired? : Polled → Option (Nat × PacketState × List UInt8)
  | .expire tx => some (tx.callback, .noResponse, [])
  | _ => none

/-- The tuple as the predicate left it. -/
def Polled.tx : Polled → CtrlTx
  | .keep tx _ => tx
  | .expire tx => tx

/-- Everything a tick can do to a tuple: send it again and count the retry
    down, only count the deadline down, or expire it. -/
theorem pollCtrlTx_cases (D : UInt32) (ok : Bool) (tx : CtrlTx) :
    (0 < tx.maxRespDelay - ctrlTxPollInterval ∧ tx.state ≠ .receivedResponse ∧
      0 < tx.retryCount ∧ tx.maxRespDelay - ctrlTxPollInterval ≤ tx.retryCount.toUInt32 * D ∧
      pollCtrlTx D ok tx = .keep { tx with
        maxRespDelay := tx.maxRespDelay - ctrlTxPollInterval, retryCount := tx.retryCount - 1,
        state := if ok then .transmitted else tx.state } true) ∨
    (0 < tx.maxRespDelay - ctrlTxPollInterval ∧ tx.state ≠ .receivedResponse ∧
      ¬(0 < tx.retryCount ∧ tx.maxRespDelay - ctrlTxPollInterval ≤ tx.retryCount.toUInt32 * D) ∧
      pollCtrlTx D ok tx = .keep { tx with
        maxRespDelay := tx.maxRespDelay - ctrlTxPollInterval } false) ∨
    (¬(0 < tx.maxRespDelay - ctrlTxPollInterval ∧ tx.state ≠ .receivedResponse) ∧
      pollCtrlTx D ok tx = .expire { tx with
        maxRespDelay := tx.maxRespDelay - ctrlTxPollInterval, state := .noResponse }) := by
  unfold pollCtrlTx
  dsimp only
  by_cases h₁ : 0 < tx.maxRespDelay - ctrlTxPollInterval ∧ tx.state ≠ .receivedResponse
  · rw [if_pos h₁]
    by_cases h₂ : 0 < tx.retryCount ∧
        tx.maxRespDelay - ctrlTxPollInterval ≤ tx.retryCount.toUInt32 * D
    · rw [if_pos h₂]
      exact .inl ⟨h₁.1, h₁.2, h₂.1, h₂.2, rfl⟩
    · rw [if_neg h₂]
      exact .inr (.inl ⟨h₁.1, h₁.2, h₂, rfl⟩)
  · rw [if_neg h₁]
    exact .inr (.inr ⟨h₁, rfl⟩)

/-- A tick never touches what was sent, to whom, or whose callback it is. -/
theorem pollCtrlTx_frame (D : UInt32) (ok : Bool) (tx : CtrlTx) :
    (pollCtrlTx D ok tx).tx.req = tx.req ∧ (pollCtrlTx D ok tx).tx.destEid = tx.destEid ∧
      (pollCtrlTx D ok tx).tx.bindingPrivate = tx.bindingPrivate ∧
      (pollCtrlTx D ok tx).tx.callback = tx.callback := by
  rcases pollCtrlTx_cases D ok tx with ⟨-, -, -, -, h⟩ | ⟨-, -, -, h⟩ | ⟨-, h⟩ <;>
    rw [h] <;> exact ⟨rfl, rfl, rfl, rfl⟩

/-! ## Unsigned arithmetic -/

theorem toNat_sub_u32 (a b : UInt32) : (a - b).toNat = (2 ^ 32 - b.toNat + a.toNat) % 2 ^ 32 := by
  simp [UInt32.toNat, UInt32.sub_def, BitVec.toNat_sub]

theorem toNat_mul_u32 (a b : UInt32) : (a * b).toNat = a.toNat * b.toNat % 2 ^ 32 := by
  simp [UInt32.toNat, UInt32.mul_def, BitVec.toNat_mul]

theorem toNat_add_u32 (a b : UInt32) : (a + b).toNat = (a.toNat + b.toNat) % 2 ^ 32 := by
  simp [UInt32.toNat, UInt32.add_def, BitVec.toNat_add]

theorem lt_iff_u32 {a b : UInt32} : a < b ↔ a.toNat < b.toNat := by
  simp [UInt32.lt_def, BitVec.lt_def, UInt32.toNat]

theorem le_iff_u32 {a b : UInt32} : a ≤ b ↔ a.toNat ≤ b.toNat := by
  simp [UInt32.le_def, BitVec.le_def, UInt32.toNat]

theorem lt_iff_u8 {a b : UInt8} : a < b ↔ a.toNat < b.toNat := by
  simp [UInt8.lt_def, BitVec.lt_def, UInt8.toNat]

theorem toNat_sub_one_u8 {a : UInt8} (h : 0 < a) : (a - 1).toNat = a.toNat - 1 :=
  UInt8.toNat_sub_of_le _ _ (by simpa [UInt8.le_def, UInt8.lt_def, BitVec.le_def, BitVec.lt_def] using h)

theorem toNat_toUInt32_u8 (a : UInt8) : a.toUInt32.toNat = a.toNat := rfl

/-! ## Ticks without a response -/

/-- `k` ticks of a tuple that gets no response, `sendOk j` being the result of a
    send at tick `j + 1`: the tuple while it is queued, `none` once it expired. -/
def pollFor (D : UInt32) (sendOk : Nat → Bool) : Nat → CtrlTx → Option CtrlTx
  | 0, tx => some tx
  | k + 1, tx => (pollFor D sendOk k tx).bind fun t => (pollCtrlTx D (sendOk k) t).kept?

/-- One tick on the countdown: a tuple with no response stays exactly while
    its countdown did not read `5`, and then counts down by `5` modulo `2^32`. -/
theorem pollCtrlTx_kept (D : UInt32) (ok : Bool) {t : CtrlTx} (hs : t.state ≠ .receivedResponse) :
    ((pollCtrlTx D ok t).kept? = none ↔ t.maxRespDelay.toNat = 5) ∧
      ∀ t', (pollCtrlTx D ok t).kept? = some t' →
        t'.maxRespDelay.toNat = (2 ^ 32 - 5 + t.maxRespDelay.toNat) % 2 ^ 32 ∧
          t'.state ≠ .receivedResponse := by
  have hm : (t.maxRespDelay - ctrlTxPollInterval).toNat =
      (2 ^ 32 - 5 + t.maxRespDelay.toNat) % 2 ^ 32 := toNat_sub_u32 _ _
  have hlt : t.maxRespDelay.toNat < 2 ^ 32 := t.maxRespDelay.toNat_lt_size
  rcases pollCtrlTx_cases D ok t with ⟨h₀, -, -, -, h⟩ | ⟨h₀, -, -, h⟩ | ⟨h₀, h⟩
  · rw [lt_iff_u32, hm, UInt32.toNat_zero] at h₀
    rw [h]
    refine ⟨iff_of_false (by simp [Polled.kept?]) (by omega), ?_⟩
    rintro t' ⟨⟩
    refine ⟨hm, ?_⟩
    cases ok <;> simp [hs]
  · rw [lt_iff_u32, hm, UInt32.toNat_zero] at h₀
    rw [h]
    refine ⟨iff_of_false (by simp [Polled.kept?]) (by omega), ?_⟩
    rintro t' ⟨⟩
    exact ⟨hm, hs⟩
  · have h₀ : ¬ 0 < t.maxRespDelay - ctrlTxPollInterval := fun h => h₀ ⟨h, hs⟩
    rw [lt_iff_u32, hm, UInt32.toNat_zero] at h₀
    rw [h]
    refine ⟨iff_of_true rfl (by omega), ?_⟩
    rintro t' ⟨⟩

section Countdown

variable (D : UInt32) (sendOk : Nat → Bool) {tx : CtrlTx}

/-- While queued, the countdown has gone down by `5` per tick, modulo `2^32`. -/
theorem pollFor_countdown (hs : tx.state ≠ .receivedResponse) : ∀ k t,
    pollFor D sendOk k tx = some t →
      (t.maxRespDelay.toNat + 5 * k) % 2 ^ 32 = tx.maxRespDelay.toNat ∧ t.state ≠ .receivedResponse
  | 0, t, h => by
    cases h
    exact ⟨Nat.mod_eq_of_lt tx.maxRespDelay.toNat_lt_size, hs⟩
  | k + 1, t, h => by
    obtain ⟨t₀, h₀, h₁⟩ := Option.bind_eq_some.1 h
    obtain ⟨ih, hst⟩ := pollFor_countdown hs k t₀ h₀
    obtain ⟨hm, hst'⟩ := (pollCtrlTx_kept D (sendOk k) hst).2 t h₁
    exact ⟨by rw [hm]; omega, hst'⟩

/-- A tuple with no response is still queued after `k` ticks exactly when no
    tick `j ≤ k` has `5 * j ≡ maxRespDelay (mod 2^32)`. -/
theorem pollFor_isSome_iff (hs : tx.state ≠ .receivedResponse) : ∀ k,
    (pollFor D sendOk k tx).isSome ↔ ∀ j, 1 ≤ j → j ≤ k → 5 * j % 2 ^ 32 ≠ tx.maxRespDelay.toNat
  | 0 => by simp only [pollFor, Option.isSome_some, true_iff]; omega
  | k + 1 => by
    have ih := pollFor_isSome_iff hs k
    cases h : pollFor D sendOk k tx with
    | none =>
      simp only [pollFor, h, Option.none_bind, Option.isSome_none, Bool.false_eq_true, false_iff]
      simp only [h, Option.isSome_none, Bool.false_eq_true, false_iff, not_forall] at ih
      obtain ⟨j, h₁, h₂, hj⟩ := ih
      exact fun hall => hall j h₁ (by omega) (not_not.1 hj)
    | some t =>
      obtain ⟨hc, hst⟩ := pollFor_countdown D sendOk hs k t h
      have hlt : t.maxRespDelay.toNat < 2 ^ 32 := t.maxRespDelay.toNat_lt_size
      simp only [h, Option.isSome_some, true_iff] at ih
      simp only [pollFor, h, Option.some_bind, Option.isSome_iff_ne_none, ne_eq,
        (pollCtrlTx_kept D (sendOk k) hst).1]
      constructor
      · intro h5 j h₁ h₂
        rcases Nat.lt_or_eq_of_le h₂ with h₂ | rfl
        · exact ih j h₁ (Nat.le_of_lt_succ h₂)
        · omega
      · intro hall h5
        exact hall (k + 1) (by omega) le_rfl (by omega)

end Countdown

/-- A tuple that gets no response leaves the queue within `2^32` ticks,
    however its countdown wraps; when its budget is a positive multiple of the
    tick, exactly at tick budget / 5. -/
theorem pollFor_expires (D : UInt32) (sendOk : Nat → Bool) {tx : CtrlTx}
    (hs : tx.state ≠ .receivedResponse) :
    pollFor D sendOk (2 ^ 32) tx = none ∧
      (tx.maxRespDelay.toNat % 5 = 0 → 0 < tx.maxRespDelay.toNat →
        pollFor D sendOk (tx.maxRespDelay.toNat / 5) tx = none ∧
          ∀ k, k < tx.maxRespDelay.toNat / 5 → (pollFor D sendOk k tx).isSome) := by
  have hiff := pollFor_isSome_iff D sendOk hs
  have hlt : tx.maxRespDelay.toNat < 2 ^ 32 := tx.maxRespDelay.toNat_lt_size
  refine ⟨Option.not_isSome_iff_eq_none.1 fun h => ?_, fun h5 hpos =>
    ⟨Option.not_isSome_iff_eq_none.1 fun h => ?_, fun k hk => (hiff k).2 fun j _ h₂ => ?_⟩⟩
  · -- `3435973837` is the inverse of `5` modulo `2^32`
    by_cases h0 : tx.maxRespDelay.toNat = 0
    · exact (hiff _).1 h (2 ^ 32) (by decide) le_rfl (by omega)
    · exact (hiff _).1 h (tx.maxRespDelay.toNat * 3435973837 % 2 ^ 32) (by omega) (by omega)
        (by omega)
  · exact (hiff _).1 h (tx.maxRespDelay.toNat / 5) (by omega) le_rfl (by omega)
  · have h5j : 5 * j < tx.maxRespDelay.toNat := by omega
    rw [Nat.mod_eq_of_lt (by omega)]
    omega

/-- A Get EID request sent with two retries of `10` ms: a budget of `30` ms,
    which runs out at tick `6`. -/
theorem pollFor_expires_budget :
    (⟨.transmitted, 2, 30, 8, [], [0x00, 0x81, 0x02], 0⟩ : CtrlTx).state ≠ .receivedResponse ∧
      pollFor 10 (fun _ => true) (2 ^ 32) ⟨.transmitted, 2, 30, 8, [], [0x00, 0x81, 0x02], 0⟩ =
        none ∧
      pollFor 10 (fun _ => true) 6 ⟨.transmitted, 2, 30, 8, [], [0x00, 0x81, 0x02], 0⟩ = none ∧
      ∀ k, k < 6 →
        (pollFor 10 (fun _ => true) k ⟨.transmitted, 2, 30, 8, [], [0x00, 0x81, 0x02], 0⟩).isSome :=
  have hs : (⟨.transmitted, 2, 30, 8, [], [0x00, 0x81, 0x02], 0⟩ : CtrlTx).state ≠
      .receivedResponse := fun h => PacketState.noConfusion h
  ⟨hs, (pollFor_expires 10 _ hs).1, (pollFor_expires 10 _ hs).2 (by decide) (by decide)⟩

/-- `3435973837` is the inverse of `5` modulo `2^32`. -/
theorem eq_of_five_mul_mod {j : Nat} (hj : 5 * j % 2 ^ 32 = 7) : j % 2 ^ 32 = 2576980379 := by
  have h₁ : 5 * j ≡ 7 [MOD 2 ^ 32] := hj
  have h₂ : 3435973837 * 5 ≡ 1 [MOD 2 ^ 32] := by decide
  calc j % 2 ^ 32 = 1 * j % 2 ^ 32 := by rw [Nat.one_mul]
    _ = 3435973837 * 5 * j % 2 ^ 32 := h₂.symm.mul_right j
    _ = 3435973837 * 7 % 2 ^ 32 := by rw [Nat.mul_assoc]; exact h₁.mul_left _
    _ = 2576980379 := by decide

/-- With a delay of `7` ms and no retry, the budget is `7` ms, but the
    countdown goes `7, 2, 4294967293, …`: the transaction is still queued at
    tick `2` (`5 * 2 ≥ 7`), and stays queued until tick `2576980379`, the
    first `k` with `5 * k ≡ 7 (mod 2^32)`. -/
theorem pollFor_misses_deadline (sendOk : Nat → Bool) (destEid : UInt8)
    (bindingPrivate req : List UInt8) (callback : Nat) :
    7 ≤ 5 * 2 ∧ (pollFor 7 sendOk 2576980378
        ((Config.mk 0 7).newCtrlTx .pushedForTransmission destEid bindingPrivate req callback)).isSome ∧
      (pollFor 7 sendOk 2576980379
        ((Config.mk 0 7).newCtrlTx .pushedForTransmission destEid bindingPrivate req callback)).isSome =
        false := by
  set tx := (Config.mk 0 7).newCtrlTx .pushedForTransmission destEid bindingPrivate req callback
  have hM : tx.maxRespDelay.toNat = 7 := rfl
  have hs : tx.state ≠ .receivedResponse := fun h => PacketState.noConfusion h
  have hiff := pollFor_isSome_iff 7 sendOk hs
  rw [hM] at hiff
  refine ⟨by decide, (hiff 2576980378).2 fun j _ h₂ hj => ?_, ?_⟩
  · have := eq_of_five_mul_mod hj
    clear hj
    omega
  · rw [Bool.eq_false_iff, ne_eq, hiff]
    exact fun hall => hall 2576980379 (by decide) le_rfl (by decide)

/-! ## The retransmission schedule -/

/-- The arithmetic of one tick of the schedule: with the countdown at
    `(R + 1) * 5d - 5k` and `R - k / d` retries left, tick `k + 1` resends
    exactly when `d` divides `k + 1`. -/
theorem retry_due_iff {R d k : Nat} (hd : 0 < d) (hk : k + 1 < (R + 1) * d) :
    (0 < R - k / d ∧ (R + 1) * (5 * d) - 5 * (k + 1) ≤ (R - k / d) * (5 * d)) ↔ d ∣ k + 1 := by
  have hdm := Nat.div_add_mod' k d
  have hr := Nat.mod_lt k hd
  have hdvd : d ∣ k + 1 ↔ k % d + 1 = d := by
    conv_lhs => rw [← hdm, Nat.add_assoc, Nat.dvd_add_right (Nat.dvd_mul_left d _)]
    exact ⟨fun h => le_antisymm (by omega) (Nat.le_of_dvd (by omega) h), fun h => by rw [h]⟩
  have hq : k / d < R ↔ k / d * d < R * d := (Nat.mul_lt_mul_right hd).symm
  have e₁ : (R + 1) * (5 * d) = 5 * (R * d + d) := by rw [Nat.mul_left_comm, Nat.add_mul, Nat.one_mul]
  have e₂ : (R - k / d) * (5 * d) = 5 * (R * d - k / d * d) := by
    rw [Nat.mul_left_comm, Nat.sub_mul]
  rw [Nat.add_mul, Nat.one_mul] at hk
  rw [hdvd, e₁, e₂]
  omega

theorem newCtrlTx_maxRespDelay (cfg : Config) (state : PacketState) (destEid : UInt8)
    (bindingPrivate req : List UInt8) (callback : Nat)
    (hfit : (cfg.ctrlTxRetryCount.toNat + 1) * cfg.ctrlTxRetryDelay.toNat < 2 ^ 32) :
    (cfg.newCtrlTx state destEid bindingPrivate req callback).maxRespDelay.toNat =
      (cfg.ctrlTxRetryCount.toNat + 1) * cfg.ctrlTxRetryDelay.toNat := by
  have h8 : cfg.ctrlTxRetryCount.toNat < 256 := cfg.ctrlTxRetryCount.toNat_lt_size
  have h1 : (1 : UInt32).toNat = 1 := rfl
  simp only [Config.newCtrlTx, toNat_mul_u32, toNat_add_u32, toNat_toUInt32_u8, h1]
  rw [Nat.mod_eq_of_lt (by omega : cfg.ctrlTxRetryCount.toNat + 1 < 2 ^ 32), Nat.mod_eq_of_lt hfit]

/-- One tick of the schedule: a tuple `k` ticks old, with the countdown at
    `(R + 1) * D - 5k` and `R - k / d` retries left, stays queued at tick
    `k + 1` below the budget, with `R - (k + 1) / d` retries left, and is sent
    again exactly when `d` divides `k + 1`. -/
theorem pollCtrlTx_schedule {D : UInt32} {d R k : Nat} (ok : Bool) {t : CtrlTx}
    (hD : D.toNat = 5 * d) (hd : 0 < d) (hfit : (R + 1) * (5 * d) < 2 ^ 32)
    (hk : k + 1 < (R + 1) * d) (hs : t.state ≠ .receivedResponse)
    (hm : t.maxRespDelay.toNat = (R + 1) * (5 * d) - 5 * k) (hr : t.retryCount.toNat = R - k / d) :
    ∃ t', (pollCtrlTx D ok t).kept? = some t' ∧ t'.state ≠ .receivedResponse ∧
      t'.maxRespDelay.toNat = (R + 1) * (5 * d) - 5 * (k + 1) ∧
      t'.retryCount.toNat = R - (k + 1) / d ∧ ((pollCtrlTx D ok t).sent?.isSome ↔ d ∣ k + 1) := by
  have e : (R + 1) * (5 * d) = 5 * ((R + 1) * d) := Nat.mul_left_comm _ _ _
  have hkd : k / d ≤ R := by
    have := (Nat.div_lt_iff_lt_mul hd).2 (show k < (R + 1) * d by omega)
    omega
  have hmul : (R - k / d) * (5 * d) ≤ (R + 1) * (5 * d) :=
    Nat.mul_le_mul_right _ (Nat.le_succ_of_le (Nat.sub_le _ _))
  have h5 : ctrlTxPollInterval.toNat = 5 := rfl
  have hsub : (t.maxRespDelay - ctrlTxPollInterval).toNat = (R + 1) * (5 * d) - 5 * (k + 1) := by
    rw [toNat_sub_u32, hm, h5]; omega
  have hprod : (t.retryCount.toUInt32 * D).toNat = (R - k / d) * (5 * d) := by
    rw [toNat_mul_u32, toNat_toUInt32_u8, hr, hD, Nat.mod_eq_of_lt (by omega)]
  have hdue := retry_due_iff (R := R) hd hk
  have hkept := (pollCtrlTx_kept D ok hs).2
  have hpos₀ : 0 < (t.maxRespDelay - ctrlTxPollInterval).toNat := by rw [hsub]; omega
  rcases pollCtrlTx_cases D ok t with ⟨-, -, hpos, hle, h⟩ | ⟨-, -, hn, h⟩ | ⟨hn, -⟩
  · -- the retry is due: `d` divides `k + 1`
    have hdvd : d ∣ k + 1 := by
      rw [lt_iff_u8, hr] at hpos
      rw [le_iff_u32, hsub, hprod] at hle
      exact hdue.1 ⟨hpos, hle⟩
    have hpos' : 0 < t.retryCount := by rw [lt_iff_u8, hr]; exact (hdue.2 hdvd).1
    obtain ⟨-, hst'⟩ := hkept _ (by rw [h]; rfl)
    refine ⟨_, by rw [h]; rfl, hst', hsub, ?_, by rw [h]; exact iff_of_true rfl hdvd⟩
    show (t.retryCount - 1).toNat = _
    rw [toNat_sub_one_u8 hpos', hr, Nat.succ_div_of_dvd hdvd]
    omega
  · -- it is not
    have hndvd : ¬ d ∣ k + 1 := fun hdvd => hn ⟨by rw [lt_iff_u8, hr]; exact (hdue.2 hdvd).1,
      by rw [le_iff_u32, hsub, hprod]; exact (hdue.2 hdvd).2⟩
    obtain ⟨-, hst'⟩ := hkept _ (by rw [h]; rfl)
    refine ⟨_, by rw [h]; rfl, hst', hsub, ?_, by rw [h]; exact iff_of_false Bool.false_ne_true hndvd⟩
    show t.retryCount.toNat = _
    rw [hr, Nat.succ_div_of_not_dvd hndvd]
  · exact absurd ⟨lt_iff_u32.2 hpos₀, hs⟩ hn

theorem pollFor_schedule_run {D : UInt32} {d R : Nat} (sendOk : Nat → Bool) {tx : CtrlTx}
    (hD : D.toNat = 5 * d) (hd : 0 < d) (hfit : (R + 1) * (5 * d) < 2 ^ 32)
    (hs : tx.state ≠ .receivedResponse) (hm : tx.maxRespDelay.toNat = (R + 1) * (5 * d))
    (hr : tx.retryCount.toNat = R) : ∀ k, k < (R + 1) * d → ∃ t,
      pollFor D sendOk k tx = some t ∧ t.state ≠ .receivedResponse ∧
      t.maxRespDelay.toNat = (R + 1) * (5 * d) - 5 * k ∧ t.retryCount.toNat = R - k / d
  | 0, _ => ⟨tx, rfl, hs, by rw [hm]; rfl, by rw [hr, Nat.zero_div]; rfl⟩
  | k + 1, hk => by
    obtain ⟨t, ht, hst, hmt, hrt⟩ := pollFor_schedule_run sendOk hD hd hfit hs hm hr k (by omega)
    obtain ⟨t', hkept, hst', hm', hr', -⟩ := pollCtrlTx_schedule (sendOk k) hD hd hfit hk hst hmt hrt
    exact ⟨t', by rw [pollFor, ht, Option.some_bind, hkept], hst', hm', hr'⟩

/-- When the delay is a positive multiple `5 * d` of the tick and the budget
    `(R + 1) * D` fits in 32 bits, a tuple that gets no response is still
    queued before each tick below the budget, and that tick sends it again
    exactly when `d` divides the tick's number: once per delay, `R` times. -/
theorem pollFor_schedule (cfg : Config) (sendOk : Nat → Bool) (state : PacketState)
    (destEid : UInt8) (bindingPrivate req : List UInt8) (callback d : Nat)
    (hD : cfg.ctrlTxRetryDelay.toNat = 5 * d) (hd : 0 < d)
    (hfit : (cfg.ctrlTxRetryCount.toNat + 1) * cfg.ctrlTxRetryDelay.toNat < 2 ^ 32)
    (hs : state ≠ .receivedResponse) :
    ∀ k, k + 1 < (cfg.ctrlTxRetryCount.toNat + 1) * d → ∃ t,
      pollFor cfg.ctrlTxRetryDelay sendOk k
          (cfg.newCtrlTx state destEid bindingPrivate req callback) = some t ∧
        ((pollCtrlTx cfg.ctrlTxRetryDelay (sendOk k) t).sent?.isSome ↔ d ∣ k + 1) := by
  intro k hk
  have hm := newCtrlTx_maxRespDelay cfg state destEid bindingPrivate req callback hfit
  rw [hD] at hfit hm
  obtain ⟨t, ht, hst, hmt, hrt⟩ :=
    pollFor_schedule_run sendOk hD hd hfit hs hm rfl k (by omega)
  obtain ⟨-, -, -, -, -, hsent⟩ := pollCtrlTx_schedule (sendOk k) hD hd hfit hk hst hmt hrt
  exact ⟨t, ht, hsent⟩

/-- A request with two retries of `10` ms is sent again at ticks `2` and `4`. -/
theorem pollFor_schedule_twice :
    (Config.mk 2 10).ctrlTxRetryDelay.toNat = 5 * 2 ∧ 0 < 2 ∧
      ((Config.mk 2 10).ctrlTxRetryCount.toNat + 1) * (Config.mk 2 10).ctrlTxRetryDelay.toNat <
        2 ^ 32 ∧ PacketState.pushedForTransmission ≠ .receivedResponse ∧
      ∀ k, k + 1 < ((Config.mk 2 10).ctrlTxRetryCount.toNat + 1) * 2 → ∃ t,
        pollFor (Config.mk 2 10).ctrlTxRetryDelay (fun _ => true) k
            ((Config.mk 2 10).newCtrlTx .pushedForTransmission 8 [] [0x00, 0x81, 0x02] 0) = some t ∧
          ((pollCtrlTx (Config.mk 2 10).ctrlTxRetryDelay true t).sent?.isSome ↔ 2 ∣ k + 1) :=
  ⟨rfl, by decide, by decide, by decide,
    pollFor_schedule _ _ _ _ _ _ _ 2 rfl (by decide) (by decide) (by decide)⟩

/-! ## Responses -/

/-- The predicate of `handleCtrlResp`'s `std::find_if`: the request carries the
    response's instance ID. -/
def respMatches (msg : List UInt8) (tx : CtrlTx) : Bool :=
  msgInstanceId tx.req == msgInstanceId msg

/-- `handleCtrlResp` on the queue: the first tuple whose request matches gets
    its callback invoked and is erased. The queue after, and that tuple. -/
def handleCtrlResp (msg : List UInt8) (q : List CtrlTx) : List CtrlTx × Option CtrlTx :=
  match q.find? (respMatches msg) with
  | some tx => (q.eraseP (respMatches msg), some tx)
  | none => (q, none)

/-- The invocation `callback(receivedResponse, resp)` for a matched tuple. -/
def CtrlTx.received (msg : List UInt8) (tx : CtrlTx) : Nat × PacketState × List UInt8 :=
  (tx.callback, .receivedResponse, msg)

/-- `handleCtrlResp` on the responses `msgs` in turn: the queue after, and the
    callbacks invoked with their arguments, in order. -/
def handleCtrlResps (q : List CtrlTx) :
    List (List UInt8) → List CtrlTx × List (Nat × PacketState × List UInt8)
  | [] => (q, [])
  | msg :: msgs =>
    let r := handleCtrlResp msg q
    let rs := handleCtrlResps r.1 msgs
    (rs.1, (r.2.map (CtrlTx.received msg)).toList ++ rs.2)

/-- Erasing the first match is a no-op when nothing matches. -/
theorem handleCtrlResp_eq (msg : List UInt8) (q : List CtrlTx) :
    handleCtrlResp msg q = (q.eraseP (respMatches msg), q.find? (respMatches msg)) := by
  unfold handleCtrlResp
  split
  · rename_i h
    rw [h]
  · rename_i h
    rw [List.eraseP_of_forall_not fun a ha hp => by
      simpa [h] using List.find?_eq_none.1 h a ha hp]
    exact congrArg _ h.symm

/-- Erasing the first element of another kind does not move the first match. -/
theorem find?_eraseP_of_disjoint {p r : CtrlTx → Bool} :
    ∀ {l : List CtrlTx}, (∀ a ∈ l, ¬(p a ∧ r a)) → (l.eraseP r).find? p = l.find? p
  | [], _ => rfl
  | a :: l, h => by
    by_cases hr : r a
    · have hp : p a = false := by simpa [hr] using h a (List.mem_cons_self _ _)
      simp [List.eraseP_cons_of_pos hr, hp]
    · rw [List.eraseP_cons_of_neg hr]
      by_cases hp : p a
      · simp [hp]
      · simp [hp, find?_eraseP_of_disjoint fun b hb => h b (List.mem_cons_of_mem _ hb)]

/-- Two responses with different instance IDs resolve the same tuples, with
    the same arguments, whichever arrives first, and leave the same queue. -/
theorem handleCtrlResps_comm (q : List CtrlTx) {f₁ f₂ : List UInt8}
    (h : msgInstanceId f₁ ≠ msgInstanceId f₂) :
    (handleCtrlResps q [f₁, f₂]).1 = (handleCtrlResps q [f₂, f₁]).1 ∧
      (handleCtrlResps q [f₁, f₂]).2.Perm (handleCtrlResps q [f₂, f₁]).2 := by
  have hd : ∀ a ∈ q, ¬(respMatches f₁ a ∧ respMatches f₂ a) := fun a _ ⟨h₁, h₂⟩ =>
    h ((beq_iff_eq.1 h₁).symm.trans (beq_iff_eq.1 h₂))
  have hd' : ∀ a ∈ q, ¬(respMatches f₂ a ∧ respMatches f₁ a) := fun a ha h' => hd a ha h'.symm
  simp only [handleCtrlResps, handleCtrlResp_eq, List.append_nil]
  rw [find?_eraseP_of_disjoint hd, find?_eraseP_of_disjoint hd', List.eraseP_comm fun a ha =>
    not_and_or.1 (hd a ha)]
  exact ⟨rfl, List.perm_append_comm⟩

/-- Two queued Get EID requests with instance IDs `1` and `2`, answered in
    either order. -/
theorem handleCtrlResps_comm_two_requests :
    let q := [(Config.mk 2 100).newCtrlTx .pushedForTransmission 0 [] [0x00, 0x81, 0x02] 0,
      (Config.mk 2 100).newCtrlTx .pushedForTransmission 0 [] [0x00, 0x82, 0x02] 1]
    msgInstanceId [0x00, 0x01, 0x02, 0x00] ≠ msgInstanceId [0x00, 0x02, 0x02, 0x00] ∧
      (handleCtrlResps q [[0x00, 0x01, 0x02, 0x00], [0x00, 0x02, 0x02, 0x00]]).1 =
        (handleCtrlResps q [[0x00, 0x02, 0x02, 0x00], [0x00, 0x01, 0x02, 0x00]]).1 ∧
      (handleCtrlResps q [[0x00, 0x01, 0x02, 0x00], [0x00, 0x02, 0x02, 0x00]]).2.Perm
        (handleCtrlResps q [[0x00, 0x02, 0x02, 0x00], [0x00, 0x01, 0x02, 0x00]]).2 :=
  ⟨by decide, handleCtrlResps_comm _ (by decide)⟩

end Mctpd
