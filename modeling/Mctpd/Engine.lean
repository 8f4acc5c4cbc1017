import Mctpd.CtrlTx

/-!
# The control-transaction engine

`mctpd` runs every control exchange of every coroutine through one queue,
`ctrlTxQueue`, and one timer, `ctrlTxTimer`. This module gives the engine as a
state machine: its state (`Engine`), the events that drive it (`Event`), and
one step per event, each written after the C++ function it runs.

* A coroutine calls `sendAndRcvMctpCtrl` (`Event.sendAndRcvMctpCtrl`; or
  `Event.ctrlCmd`, for a request one of the `*CtrlCmd` wrappers formats with
  `getFormattedReq`). The call is the next entry of `calls`; its request is
  appended to the queue and sent once (`pushToCtrlTxQueue`), and the tick is
  started if none is armed (`processCtrlTxQueue`).
* A wait of `ctrlTxTimer` completes (`Event.ctrlTxTimer`) and the handler
  `processCtrlTxQueue` armed ticks every queued tuple (`pollCtrlTx`).
* The binding hands a message to `rxMessage` (`Event.rxMessage`); a control
  response goes to `handleCtrlResp`.
* The wait loop of a call wakes (`Event.wake`): it returns once the call's
  callback has changed `pktState`.

The callback of call `h` is the lambda its `sendAndRcvMctpCtrl` registered:
invoking it writes the call's `pktState` and `resp` (`Engine.invokeAll`). The
daemon's output is recorded, each in order: `sent` lists the
`sendMctpMessage` calls, `invoked` the callback invocations and `signals` the
`MessageReceivedSignal`s.

* `step_frame`: a step keeps the calls made so far and only appends to the
  invocations, and a step that makes a call invokes no callback.
-/

namespace Mctpd

/-- The arguments of one `sendAndRcvMctpCtrl` call and, a ghost, the number of
    `createInstanceId` calls made before the one whose ID its request carries,
    when `getFormattedReq` formatted it. -/
structure Call where
  req : List UInt8
  destEid : UInt8
  bindingPrivate : List UInt8
  formattedAt : Option Nat
  deriving DecidableEq, Repr, Inhabited

/-- The code a completed `async_wait` of `ctrlTxTimer` hands its handler. -/
inductive ErrorCode
  | success
  | operationAborted
  /-- Any other error. -/
  | failed
  deriving DecidableEq, Repr

/-- The state the engine's functions share. -/
structure Engine where
  ctrlTxQueue : List CtrlTx
  /-- `ctrlTxTimerExpired`. -/
  ctrlTxTimerExpired : Bool
  /-- The waits of `ctrlTxTimer` whose handler has not run yet. -/
  ctrlTxTimerWaits : Nat
  /-- The static `instanceId` of `createInstanceId`. -/
  instanceId : UInt8
  /-- Ghost: the calls of `createInstanceId` so far. -/
  instanceIdCalls : Nat
  /-- The `sendAndRcvMctpCtrl` calls so far; call `h` is the `h`-th. -/
  calls : List Call
  /-- The local `pktState` of each call. -/
  pktState : Nat → PacketState
  /-- The caller's `resp` buffer of each call. -/
  resp : Nat → List UInt8
  /-- What each call returned: its state, and `resp` then. -/
  returned : Nat → Option (PacketState × List UInt8)
  /-- The `sendMctpMessage(destEid, req, bindingPrivate)` calls, each with, a
      ghost, the call whose tuple it sends: `(h, destEid, req, bindingPrivate)`. -/
  sent : List (Nat × UInt8 × List UInt8 × List UInt8)
  /-- The invocations `(h, state, response)` of call `h`'s callback. -/
  invoked : List (Nat × PacketState × List UInt8)
  /-- The `MessageReceivedSignal`s `(msgType, srcEid, msgTag, tagOwner, response)`. -/
  signals : List (UInt8 × UInt8 × UInt8 × Bool × List UInt8)

/-- What drives the engine. -/
inductive Event
  /-- A coroutine calls `sendAndRcvMctpCtrl(yield, req, destEid, bindingPrivate, resp)`. -/
  | sendAndRcvMctpCtrl (req : List UInt8) (destEid : UInt8) (bindingPrivate : List UInt8)
  /-- A `*CtrlCmd` wrapper formats `cmd` with `getFormattedReq` and submits it. -/
  | ctrlCmd (cmd : CtrlCmd) (destEid : UInt8) (bindingPrivate : List UInt8)
  /-- A wait of `ctrlTxTimer` completes with `ec`; `sendOk` gives the result of
      each `sendMctpMessage` the handler makes. -/
  | ctrlTxTimer (ec : ErrorCode) (sendOk : CtrlTx → Bool)
  /-- The binding delivers `msg` from `srcEid`. -/
  | rxMessage (srcEid : UInt8) (msg : List UInt8)
  /-- The timer of call `h`'s wait loop fires, or its callback cancelled it. -/
  | wake (h : Nat)

namespace Engine

/-- At start-up: no call, an empty queue, `ctrlTxTimerExpired = true` and
    `instanceId = 0x00`. -/
def init : Engine where
  ctrlTxQueue := []
  ctrlTxTimerExpired := true
  ctrlTxTimerWaits := 0
  instanceId := 0
  instanceIdCalls := 0
  calls := []
  pktState := fun _ => .pushedForTransmission
  resp := fun _ => []
  returned := fun _ => none
  sent := []
  invoked := []
  signals := []

/-- The arguments of call `h`. -/
def call (s : Engine) (h : Nat) : Call := s.calls.getD h default

/-- Invoking callbacks in turn, `(h, state, response)` standing for
    `callback(state, response)` of call `h`: `resp = response; pktState = state;
    timer.cancel()`, the cancel waking the call (`Event.wake`). -/
def invokeAll (s : Engine) (cs : List (Nat × PacketState × List UInt8)) : Engine :=
  { s with
    pktState := cs.foldl (fun p c => Function.update p c.1 c.2.1) s.pktState
    resp := cs.foldl (fun r c => Function.update r c.1 c.2.2) s.resp
    invoked := s.invoked ++ cs }

/-- `processCtrlTxQueue` up to its handler: clears `ctrlTxTimerExpired` and arms
    one wait. (`expires_after` would cancel a pending wait; `Mctpd.Engine.Timer`
    shows there is none.) -/
def processCtrlTxQueue (s : Engine) : Engine :=
  { s with ctrlTxTimerExpired := false, ctrlTxTimerWaits := s.ctrlTxTimerWaits + 1 }

/-- `pushToCtrlTxQueue(state, destEid, bindingPrivate, req, callback)`: appends
    the tuple, sends the request once (the result only sets the local copy of
    `state`), and starts the tick if none is armed. -/
def pushToCtrlTxQueue (cfg : Config) (s : Engine) (state : PacketState) (destEid : UInt8)
    (bindingPrivate req : List UInt8) (callback : Nat) : Engine :=
  let s := { s with
    ctrlTxQueue := s.ctrlTxQueue ++ [cfg.newCtrlTx state destEid bindingPrivate req callback]
    sent := s.sent ++ [(callback, destEid, req, bindingPrivate)] }
  if s.ctrlTxTimerExpired then s.processCtrlTxQueue else s

/-- `sendAndRcvMctpCtrl` up to its wait loop, as call `s.calls.length`: an empty
    request returns `invalidPacket` at once, leaving the caller's (empty) `resp`;
    any other is pushed with the call's callback. -/
def sendAndRcvMctpCtrl (cfg : Config) (s : Engine) (req : List UInt8) (destEid : UInt8)
    (bindingPrivate : List UInt8) (formattedAt : Option Nat) : Engine :=
  let h := s.calls.length
  let s := { s with calls := s.calls ++ [Call.mk req destEid bindingPrivate formattedAt] }
  if req.isEmpty then
    { s with returned := Function.update s.returned h (some (.invalidPacket, [])) }
  else
    { s with pktState := Function.update s.pktState h .pushedForTransmission }.pushToCtrlTxQueue
      cfg .pushedForTransmission destEid bindingPrivate req h

/-- The tuples a tick keeps, the sends it makes and the callbacks it invokes:
    the `std::remove_if` of `processCtrlTxQueue`'s handler. -/
def tick (cfg : Config) (sendOk : CtrlTx → Bool) (q : List CtrlTx) : List Polled :=
  q.map fun tx => pollCtrlTx cfg.ctrlTxRetryDelay (sendOk tx) tx

/-- The handler of a completed wait of `ctrlTxTimer`. On an error code it
    returns. On success it ticks the queue, invokes the callbacks of the expired
    tuples, and then stops the tick (`ctrlTxTimer.cancel();
    ctrlTxTimerExpired = true`) if the queue is empty, or arms the next wait. -/
def ctrlTxTimerHandler (cfg : Config) (s : Engine) (ec : ErrorCode) (sendOk : CtrlTx → Bool) :
    Engine :=
  let s := { s with ctrlTxTimerWaits := s.ctrlTxTimerWaits - 1 }
  if ec ≠ .success then s
  else
    let polled := tick cfg sendOk s.ctrlTxQueue
    let s := invokeAll
      { s with
        ctrlTxQueue := polled.filterMap Polled.kept?
        sent := s.sent ++ polled.filterMap Polled.sent? }
      (polled.filterMap Polled.expired?)
    if s.ctrlTxQueue.isEmpty then { s with ctrlTxTimerExpired := true }
    else s.processCtrlTxQueue

/-- `handleCtrlResp(msg, len)` on the engine: the first matching tuple's
    callback is invoked with `receivedResponse` and the frame, and the tuple
    erased. -/
def handleCtrlResp (s : Engine) (msg : List UInt8) : Engine :=
  let r := Mctpd.handleCtrlResp msg s.ctrlTxQueue
  invokeAll { s with ctrlTxQueue := r.1 } (r.2.map (CtrlTx.received msg)).toList

/-- `rxMessage(srcEid, …, msg, len, …)`: a message whose first byte is not the
    control type is signalled on D-Bus; a control response goes to
    `handleCtrlResp`. -/
def rxMessage (s : Engine) (srcEid : UInt8) (msg : List UInt8) : Engine :=
  let msgType := msg.getD 0 0
  let s := if msgType ≠ mctpMessageTypeMctpCtrl then
    { s with signals := s.signals ++ [(msgType, srcEid, 0, false, msg)] } else s
  if mctpIsMctpCtrlMsg msg && !mctpCtrlMsgIsReq msg then s.handleCtrlResp msg else s

/-- Call `h`'s wait loop wakes: it ends, and the call returns `pktState` (and
    `resp`), once the callback changed `pktState`. -/
def wake (s : Engine) (h : Nat) : Engine :=
  if h < s.calls.length ∧ s.returned h = none ∧ s.pktState h ≠ .pushedForTransmission then
    { s with returned := Function.update s.returned h (some (s.pktState h, s.resp h)) }
  else s

/-- One event. A completion of `ctrlTxTimer` needs a pending wait. -/
def step (cfg : Config) (s : Engine) : Event → Engine
  | .sendAndRcvMctpCtrl req destEid bindingPrivate =>
    s.sendAndRcvMctpCtrl cfg req destEid bindingPrivate none
  | .ctrlCmd cmd destEid bindingPrivate =>
    let instanceId := createInstanceId s.instanceId
    { s with instanceId, instanceIdCalls := s.instanceIdCalls + 1 }.sendAndRcvMctpCtrl cfg
      (getFormattedReq cmd (getRqDgramInst instanceId)) destEid bindingPrivate
      (some s.instanceIdCalls)
  | .ctrlTxTimer ec sendOk =>
    if s.ctrlTxTimerWaits = 0 then s else s.ctrlTxTimerHandler cfg ec sendOk
  | .rxMessage srcEid msg => s.rxMessage srcEid msg
  | .wake h => s.wake h

/-- The engine after the events `evs`, from start-up. -/
def run (cfg : Config) (evs : List Event) : Engine := evs.foldl (step cfg) init

@[simp] theorem run_nil (cfg : Config) : run cfg [] = init := rfl

@[simp] theorem run_append_singleton (cfg : Config) (evs : List Event) (e : Event) :
    run cfg (evs ++ [e]) = (run cfg evs).step cfg e := by
  simp [run]

/-! ## What each function changes -/

section Fields

variable (cfg : Config) (s : Engine)

theorem call_append_of_lt {c : Call} {h : Nat} (hh : h < s.calls.length) :
    (s.calls ++ [c]).getD h default = s.call h := by
  simp [call, List.getD_eq_getElem?_getD, List.getElem?_append_left hh]

theorem call_append_self (c : Call) : (s.calls ++ [c]).getD s.calls.length default = c := by
  simp [List.getD_eq_getElem?_getD]

/-- A push clears `ctrlTxTimerExpired` and arms a wait if none was armed. -/
theorem pushToCtrlTxQueue_eq (state : PacketState) (destEid : UInt8) (bindingPrivate req : List UInt8)
    (callback : Nat) :
    s.pushToCtrlTxQueue cfg state destEid bindingPrivate req callback =
      { s with
        ctrlTxQueue := s.ctrlTxQueue ++ [cfg.newCtrlTx state destEid bindingPrivate req callback]
        sent := s.sent ++ [(callback, destEid, req, bindingPrivate)]
        ctrlTxTimerExpired := false
        ctrlTxTimerWaits := if s.ctrlTxTimerExpired then s.ctrlTxTimerWaits + 1
          else s.ctrlTxTimerWaits } := by
  unfold pushToCtrlTxQueue processCtrlTxQueue
  cases h : s.ctrlTxTimerExpired <;> simp [h]

/-- A non-empty request: the call is made and its tuple pushed. -/
theorem sendAndRcvMctpCtrl_of_ne_nil {req : List UInt8} (hr : req ≠ []) (destEid : UInt8)
    (bindingPrivate : List UInt8) (formattedAt : Option Nat) :
    s.sendAndRcvMctpCtrl cfg req destEid bindingPrivate formattedAt =
      { s with
        calls := s.calls ++ [Call.mk req destEid bindingPrivate formattedAt]
        pktState := Function.update s.pktState s.calls.length .pushedForTransmission
        ctrlTxQueue := s.ctrlTxQueue ++
          [cfg.newCtrlTx .pushedForTransmission destEid bindingPrivate req s.calls.length]
        sent := s.sent ++ [(s.calls.length, destEid, req, bindingPrivate)]
        ctrlTxTimerExpired := false
        ctrlTxTimerWaits := if s.ctrlTxTimerExpired then s.ctrlTxTimerWaits + 1
          else s.ctrlTxTimerWaits } := by
  simp only [sendAndRcvMctpCtrl, List.isEmpty_eq_false.2 hr, pushToCtrlTxQueue_eq]
  rfl

/-- An empty request: the call is made and returns `invalidPacket`. -/
theorem sendAndRcvMctpCtrl_nil (destEid : UInt8) (bindingPrivate : List UInt8)
    (formattedAt : Option Nat) :
    s.sendAndRcvMctpCtrl cfg [] destEid bindingPrivate formattedAt =
      { s with
        calls := s.calls ++ [Call.mk [] destEid bindingPrivate formattedAt]
        returned := Function.update s.returned s.calls.length (some (.invalidPacket, [])) } :=
  rfl

section Call

variable (req : List UInt8) (destEid : UInt8) (bindingPrivate : List UInt8)
  (formattedAt : Option Nat)

@[simp] theorem sendAndRcvMctpCtrl_calls :
    (s.sendAndRcvMctpCtrl cfg req destEid bindingPrivate formattedAt).calls =
      s.calls ++ [Call.mk req destEid bindingPrivate formattedAt] := by
  by_cases hr : req = []
  · subst hr; rfl
  · rw [sendAndRcvMctpCtrl_of_ne_nil cfg s hr]

@[simp] theorem sendAndRcvMctpCtrl_instanceId :
    (s.sendAndRcvMctpCtrl cfg req destEid bindingPrivate formattedAt).instanceId = s.instanceId := by
  by_cases hr : req = []
  · subst hr; rfl
  · rw [sendAndRcvMctpCtrl_of_ne_nil cfg s hr]

@[simp] theorem sendAndRcvMctpCtrl_instanceIdCalls :
    (s.sendAndRcvMctpCtrl cfg req destEid bindingPrivate formattedAt).instanceIdCalls =
      s.instanceIdCalls := by
  by_cases hr : req = []
  · subst hr; rfl
  · rw [sendAndRcvMctpCtrl_of_ne_nil cfg s hr]

@[simp] theorem sendAndRcvMctpCtrl_invoked :
    (s.sendAndRcvMctpCtrl cfg req destEid bindingPrivate formattedAt).invoked = s.invoked := by
  by_cases hr : req = []
  · subst hr; rfl
  · rw [sendAndRcvMctpCtrl_of_ne_nil cfg s hr]

@[simp] theorem sendAndRcvMctpCtrl_signals :
    (s.sendAndRcvMctpCtrl cfg req destEid bindingPrivate formattedAt).signals = s.signals := by
  by_cases hr : req = []
  · subst hr; rfl
  · rw [sendAndRcvMctpCtrl_of_ne_nil cfg s hr]

end Call

@[simp] theorem invokeAll_ctrlTxQueue (cs : List (Nat × PacketState × List UInt8)) :
    (s.invokeAll cs).ctrlTxQueue = s.ctrlTxQueue := rfl

@[simp] theorem invokeAll_calls (cs : List (Nat × PacketState × List UInt8)) :
    (s.invokeAll cs).calls = s.calls := rfl

@[simp] theorem invokeAll_returned (cs : List (Nat × PacketState × List UInt8)) :
    (s.invokeAll cs).returned = s.returned := rfl

@[simp] theorem invokeAll_invoked (cs : List (Nat × PacketState × List UInt8)) :
    (s.invokeAll cs).invoked = s.invoked ++ cs := rfl

@[simp] theorem invokeAll_ctrlTxTimerExpired (cs : List (Nat × PacketState × List UInt8)) :
    (s.invokeAll cs).ctrlTxTimerExpired = s.ctrlTxTimerExpired := rfl

@[simp] theorem invokeAll_ctrlTxTimerWaits (cs : List (Nat × PacketState × List UInt8)) :
    (s.invokeAll cs).ctrlTxTimerWaits = s.ctrlTxTimerWaits := rfl

@[simp] theorem invokeAll_instanceId (cs : List (Nat × PacketState × List UInt8)) :
    (s.invokeAll cs).instanceId = s.instanceId := rfl

@[simp] theorem invokeAll_instanceIdCalls (cs : List (Nat × PacketState × List UInt8)) :
    (s.invokeAll cs).instanceIdCalls = s.instanceIdCalls := rfl

@[simp] theorem handleCtrlResp_ctrlTxQueue (msg : List UInt8) :
    (s.handleCtrlResp msg).ctrlTxQueue = s.ctrlTxQueue.eraseP (respMatches msg) := by
  simp [handleCtrlResp, handleCtrlResp_eq]

@[simp] theorem handleCtrlResp_invoked (msg : List UInt8) :
    (s.handleCtrlResp msg).invoked =
      s.invoked ++ ((s.ctrlTxQueue.find? (respMatches msg)).map (CtrlTx.received msg)).toList := by
  simp [handleCtrlResp, handleCtrlResp_eq]

/-- A control response is not signalled: it only goes to `handleCtrlResp`. -/
theorem rxMessage_of_ctrlResp (srcEid : UInt8) {msg : List UInt8}
    (hmsg : (mctpIsMctpCtrlMsg msg && !mctpCtrlMsgIsReq msg) = true) :
    s.rxMessage srcEid msg = s.handleCtrlResp msg := by
  have hty : msg.getD 0 0 = mctpMessageTypeMctpCtrl := by
    simp only [mctpIsMctpCtrlMsg, Bool.and_eq_true, beq_iff_eq, decide_eq_true_eq] at hmsg
    exact hmsg.1.2
  unfold rxMessage
  dsimp only
  rw [if_neg (not_not.2 hty), if_pos hmsg]

end Fields

/-! ## Callbacks -/

section Updates

variable {α β : Type} (key : α → Nat) (val : α → β)

/-- Writes to other keys leave a key alone. -/
theorem foldl_update_of_not_mem : ∀ {cs : List α} (f : Nat → β) {h : Nat},
    h ∉ cs.map key → cs.foldl (fun f c => Function.update f (key c) (val c)) f h = f h
  | [], _, _, _ => rfl
  | c :: cs, f, h, hh => by
    simp only [List.map_cons, List.mem_cons, not_or] at hh
    rw [List.foldl_cons, foldl_update_of_not_mem _ hh.2, Function.update_noteq hh.1]

/-- With distinct keys, each key ends with the value written to it. -/
theorem foldl_update_of_mem : ∀ {cs : List α} (f : Nat → β), (cs.map key).Nodup →
    ∀ c ∈ cs, cs.foldl (fun f c => Function.update f (key c) (val c)) f (key c) = val c
  | [], _, _, _, hc => absurd hc (List.not_mem_nil _)
  | c' :: cs, f, hn, c, hc => by
    rw [List.map_cons, List.nodup_cons] at hn
    rw [List.foldl_cons]
    rcases List.mem_cons.1 hc with rfl | hc
    · rw [foldl_update_of_not_mem key val _ hn.1, Function.update_same]
    · exact foldl_update_of_mem _ hn.2 c hc

end Updates

variable {s : Engine} {cs : List (Nat × PacketState × List UInt8)}

theorem invokeAll_of_not_mem {h : Nat} (hh : h ∉ cs.map Prod.fst) :
    (s.invokeAll cs).pktState h = s.pktState h ∧ (s.invokeAll cs).resp h = s.resp h :=
  ⟨foldl_update_of_not_mem Prod.fst _ _ hh, foldl_update_of_not_mem Prod.fst _ _ hh⟩

theorem invokeAll_of_mem (hn : (cs.map Prod.fst).Nodup) {c : Nat × PacketState × List UInt8}
    (hc : c ∈ cs) : (s.invokeAll cs).pktState c.1 = c.2.1 ∧ (s.invokeAll cs).resp c.1 = c.2.2 :=
  ⟨foldl_update_of_mem Prod.fst (fun c : Nat × PacketState × List UInt8 => c.2.1) _ hn c hc,
    foldl_update_of_mem Prod.fst (fun c : Nat × PacketState × List UInt8 => c.2.2) _ hn c hc⟩

/-! ## Frame -/

/-- The handler of a tick keeps the calls and appends the expired tuples'
    invocations. -/
theorem ctrlTxTimerHandler_frame (cfg : Config) (s : Engine) (ec : ErrorCode)
    (sendOk : CtrlTx → Bool) :
    (s.ctrlTxTimerHandler cfg ec sendOk).calls = s.calls ∧
      ∃ new, (s.ctrlTxTimerHandler cfg ec sendOk).invoked = s.invoked ++ new := by
  unfold ctrlTxTimerHandler processCtrlTxQueue
  dsimp only
  split
  · exact ⟨rfl, [], (List.append_nil _).symm⟩
  · split <;> exact ⟨rfl, _, rfl⟩

/-- A tick, a message and a wake make no call and leave the instance-ID
    counter alone. -/
theorem step_of_not_call (cfg : Config) (s : Engine) (e : Event)
    (he : ∀ req destEid bindingPrivate, e ≠ .sendAndRcvMctpCtrl req destEid bindingPrivate)
    (he' : ∀ cmd destEid bindingPrivate, e ≠ .ctrlCmd cmd destEid bindingPrivate) :
    (s.step cfg e).calls = s.calls ∧ (s.step cfg e).instanceId = s.instanceId ∧
      (s.step cfg e).instanceIdCalls = s.instanceIdCalls := by
  cases e with
  | sendAndRcvMctpCtrl req destEid bindingPrivate => exact absurd rfl (he _ _ _)
  | ctrlCmd cmd destEid bindingPrivate => exact absurd rfl (he' _ _ _)
  | ctrlTxTimer ec sendOk =>
    simp only [step, ctrlTxTimerHandler, processCtrlTxQueue]
    split
    · exact ⟨rfl, rfl, rfl⟩
    · split
      · exact ⟨rfl, rfl, rfl⟩
      · split <;> exact ⟨rfl, rfl, rfl⟩
  | rxMessage srcEid msg =>
    simp only [step, rxMessage, handleCtrlResp]
    split <;> split <;> exact ⟨rfl, rfl, rfl⟩
  | wake h =>
    simp only [step, wake]
    split <;> exact ⟨rfl, rfl, rfl⟩

/-- Every step keeps the calls made so far and only appends invocations; a
    step that makes a call invokes nothing. -/
theorem step_frame (cfg : Config) (s : Engine) (e : Event) :
    ((s.step cfg e).calls = s.calls ∧ ∃ new, (s.step cfg e).invoked = s.invoked ++ new) ∨
      ∃ c, (s.step cfg e).calls = s.calls ++ [c] ∧ (s.step cfg e).invoked = s.invoked := by
  have hsend : ∀ (s : Engine) req destEid bindingPrivate formattedAt,
      ∃ c, (s.sendAndRcvMctpCtrl cfg req destEid bindingPrivate formattedAt).calls =
        s.calls ++ [c] ∧
        (s.sendAndRcvMctpCtrl cfg req destEid bindingPrivate formattedAt).invoked = s.invoked :=
    fun _ _ _ _ _ => ⟨_, sendAndRcvMctpCtrl_calls .., sendAndRcvMctpCtrl_invoked ..⟩
  cases e with
  | sendAndRcvMctpCtrl req destEid bindingPrivate => exact .inr (hsend _ _ _ _ _)
  | ctrlCmd cmd destEid bindingPrivate => exact .inr (hsend _ _ _ _ _)
  | ctrlTxTimer ec sendOk =>
    refine .inl ?_
    simp only [step]
    split
    · exact ⟨rfl, [], (List.append_nil _).symm⟩
    · exact ctrlTxTimerHandler_frame cfg s ec sendOk
  | rxMessage srcEid msg =>
    refine .inl ?_
    simp only [step, rxMessage, handleCtrlResp]
    split <;> split <;> first | exact ⟨rfl, _, rfl⟩ | exact ⟨rfl, [], (List.append_nil _).symm⟩
  | wake h =>
    refine .inl ?_
    simp only [step, wake]
    split <;> exact ⟨rfl, [], (List.append_nil _).symm⟩

/-- A step keeps the calls made so far. -/
theorem calls_prefix_step (cfg : Config) (s : Engine) (e : Event) :
    s.calls <+: (s.step cfg e).calls := by
  rcases step_frame cfg s e with ⟨hc, -⟩ | ⟨c, hc, -⟩
  · exact hc ▸ List.prefix_refl _
  · exact hc ▸ List.prefix_append _ _

/-- Appending calls keeps the arguments of those made before. -/
theorem call_of_extends {s s' : Engine} (hp : s.calls <+: s'.calls) {h : Nat}
    (hh : h < s.calls.length) : s'.call h = s.call h := by
  obtain ⟨l, hl⟩ := hp
  rw [call, call, ← hl, List.getD_append _ _ _ _ hh]

/-- A step keeps the arguments of the calls made before it. -/
theorem call_step_of_lt (cfg : Config) (s : Engine) (e : Event) {h : Nat}
    (hh : h < s.calls.length) : (s.step cfg e).call h = s.call h :=
  call_of_extends (calls_prefix_step cfg s e) hh

end Engine

end Mctpd
