import Mctpd.Engine.Bookkeeping

/-!
# Inbound dispatch

`rxMessage` is the one way into the daemon: the binding calls it with every
message it receives. It reads the message-type tag, the first byte. A frame of
any other type goes out as a `MessageReceivedSignal`, with its source and its
bytes as they came; a control frame goes to `handleCtrlResp` if it is a
response, and is dropped if it is a request, which the daemon does not answer.

The frames of a run are those its `Event.rxMessage` events deliver, in order
(`frames`). Over every run:

* `signals_run`: the signals are exactly the frames of a type other than the
  control one, in the order they came, each signalled once;
* `received_run`: a callback is given `receivedResponse` only with a frame
  that came, and that frame is a control response;
* `inbound_dispatch`: both, and a control frame that is not a response leaves
  the engine as it was;
* `engine_bookkeeping`: the bookkeeping of `Mctpd.Engine.Bookkeeping` over
  every run, each step invoking the callbacks of the tuples it removes, and
  giving `receivedResponse` only with the frame it delivers.
-/

namespace Mctpd

/-- The frame an event delivers: `rxMessage(srcEid, …, msg, …)`. -/
def Event.frame? : Event → Option (UInt8 × List UInt8)
  | .rxMessage srcEid msg => some (srcEid, msg)
  | _ => none

namespace Engine

/-- The frames `(srcEid, msg)` the events `evs` deliver, in order. -/
def frames (evs : List Event) : List (UInt8 × List UInt8) := evs.filterMap Event.frame?

@[simp] theorem frames_append_singleton (evs : List Event) (e : Event) :
    frames (evs ++ [e]) = frames evs ++ e.frame?.toList := by
  cases h : e.frame? <;> simp [frames, h]

/-- The `MessageReceivedSignal` of a frame `(srcEid, msg)`: its tag, its
    source, `msgTag = 0`, `tagOwner = false`, and its bytes. -/
def signalOf (f : UInt8 × List UInt8) : UInt8 × UInt8 × UInt8 × Bool × List UInt8 :=
  (f.2.getD 0 0, f.1, 0, false, f.2)

/-! ## One step -/

section Step

variable (cfg : Config) (s : Engine)

@[simp] theorem invokeAll_signals (cs : List (Nat × PacketState × List UInt8)) :
    (s.invokeAll cs).signals = s.signals := rfl

@[simp] theorem handleCtrlResp_signals (msg : List UInt8) :
    (s.handleCtrlResp msg).signals = s.signals := rfl

theorem ctrlTxTimerHandler_signals (ec : ErrorCode) (sendOk : CtrlTx → Bool) :
    (s.ctrlTxTimerHandler cfg ec sendOk).signals = s.signals := by
  unfold ctrlTxTimerHandler processCtrlTxQueue
  dsimp only
  split
  · rfl
  · split <;> rfl

/-- A tick gives the callbacks it invokes `noResponse` and no bytes. -/
theorem ctrlTxTimerHandler_invoked (ec : ErrorCode) (sendOk : CtrlTx → Bool) :
    ∃ new, (s.ctrlTxTimerHandler cfg ec sendOk).invoked = s.invoked ++ new ∧
      ∀ c ∈ new, c.2 = (.noResponse, []) := by
  unfold ctrlTxTimerHandler processCtrlTxQueue
  dsimp only
  split
  · exact ⟨[], (List.append_nil _).symm, fun _ hc => absurd hc (List.not_mem_nil _)⟩
  · split <;> exact ⟨_, rfl, fun _ hc => expired_resolves cfg sendOk hc⟩

@[simp] theorem wake_signals (h : Nat) : (s.wake h).signals = s.signals := by
  unfold wake; split <;> rfl

@[simp] theorem wake_invoked (h : Nat) : (s.wake h).invoked = s.invoked := by
  unfold wake; split <;> rfl

/-- The tag of a frame that `rxMessage` hands to `handleCtrlResp` is the
    control one. -/
theorem tag_of_ctrlResp {msg : List UInt8}
    (hmsg : (mctpIsMctpCtrlMsg msg && !mctpCtrlMsgIsReq msg) = true) :
    msg.getD 0 0 = mctpMessageTypeMctpCtrl := by
  simp only [mctpIsMctpCtrlMsg, Bool.and_eq_true, beq_iff_eq, decide_eq_true_eq] at hmsg
  exact hmsg.1.2

/-- A control frame that is not a response changes nothing. -/
theorem rxMessage_of_not_ctrlResp (srcEid : UInt8) {msg : List UInt8}
    (hty : msg.getD 0 0 = mctpMessageTypeMctpCtrl)
    (hmsg : (mctpIsMctpCtrlMsg msg && !mctpCtrlMsgIsReq msg) = false) :
    s.rxMessage srcEid msg = s := by
  unfold rxMessage
  dsimp only
  rw [if_neg (not_not.2 hty), hmsg, if_neg Bool.false_ne_true]

/-- A frame of a type other than the control one is signalled, and changes
    nothing else. -/
theorem rxMessage_of_tag_ne (srcEid : UInt8) {msg : List UInt8}
    (hty : msg.getD 0 0 ≠ mctpMessageTypeMctpCtrl) :
    s.rxMessage srcEid msg = { s with signals := s.signals ++ [signalOf (srcEid, msg)] } := by
  unfold rxMessage
  dsimp only
  rw [if_pos hty, if_neg fun h => hty (tag_of_ctrlResp h)]
  rfl

/-- A step signals the frame it delivers, if its tag is not the control one,
    and nothing else. -/
theorem step_signals (e : Event) :
    (s.step cfg e).signals = s.signals ++
      (e.frame?.toList.filter fun f => f.2.getD 0 0 ≠ mctpMessageTypeMctpCtrl).map signalOf := by
  cases e with
  | sendAndRcvMctpCtrl req destEid bindingPrivate => simp [step, Event.frame?]
  | ctrlCmd cmd destEid bindingPrivate => simp [step, Event.frame?]
  | ctrlTxTimer ec sendOk =>
    simp only [step, Event.frame?, Option.toList_none, List.filter_nil, List.map_nil,
      List.append_nil]
    split
    · rfl
    · exact ctrlTxTimerHandler_signals cfg s ec sendOk
  | rxMessage srcEid msg =>
    simp only [step, Event.frame?, Option.toList_some, List.filter_singleton]
    by_cases hty : msg.getD 0 0 = mctpMessageTypeMctpCtrl
    · cases hmsg : (mctpIsMctpCtrlMsg msg && !mctpCtrlMsgIsReq msg)
      · rw [rxMessage_of_not_ctrlResp s srcEid hty hmsg, hty]; simp
      · rw [rxMessage_of_ctrlResp s srcEid hmsg, hty]; simp
    · rw [rxMessage_of_tag_ne s srcEid hty,
        decide_eq_true (show msg.getD 0 0 ≠ mctpMessageTypeMctpCtrl from hty)]
      rfl
  | wake h => simp [step, Event.frame?]

/-- A step gives a callback `receivedResponse` only with the frame it
    delivers, and only if that frame is a control response. -/
theorem step_received (e : Event) :
    ∃ new, (s.step cfg e).invoked = s.invoked ++ new ∧
      ∀ c ∈ new, c.2.1 = .receivedResponse →
        (∃ srcEid, e.frame? = some (srcEid, c.2.2)) ∧
          (mctpIsMctpCtrlMsg c.2.2 && !mctpCtrlMsgIsReq c.2.2) = true := by
  cases e with
  | sendAndRcvMctpCtrl req destEid bindingPrivate =>
    exact ⟨[], by simp [step], fun _ hc => nomatch hc⟩
  | ctrlCmd cmd destEid bindingPrivate => exact ⟨[], by simp [step], fun _ hc => nomatch hc⟩
  | ctrlTxTimer ec sendOk =>
    simp only [step]
    split
    · exact ⟨[], (List.append_nil _).symm, fun _ hc => nomatch hc⟩
    · obtain ⟨new, hnew, hno⟩ := ctrlTxTimerHandler_invoked cfg s ec sendOk
      refine ⟨new, hnew, fun c hc hr => ?_⟩
      rw [hno c hc] at hr
      cases hr
  | rxMessage srcEid msg =>
    simp only [step]
    cases hmsg : (mctpIsMctpCtrlMsg msg && !mctpCtrlMsgIsReq msg)
    · refine ⟨[], ?_, fun _ hc => nomatch hc⟩
      by_cases hty : msg.getD 0 0 = mctpMessageTypeMctpCtrl
      · rw [rxMessage_of_not_ctrlResp s srcEid hty hmsg, List.append_nil]
      · rw [rxMessage_of_tag_ne s srcEid hty, List.append_nil]
    · rw [rxMessage_of_ctrlResp s srcEid hmsg, handleCtrlResp_invoked]
      refine ⟨_, rfl, fun c hc _ => ?_⟩
      -- the one invocation is `(callback, receivedResponse, msg)`
      obtain ⟨tx, -, rfl⟩ := List.mem_map.1 (by simpa using hc :
        c ∈ (s.ctrlTxQueue.find? (respMatches msg)).toList.map (CtrlTx.received msg))
      exact ⟨⟨srcEid, rfl⟩, hmsg⟩
  | wake h => exact ⟨[], by simp [step], fun _ hc => nomatch hc⟩

end Step

/-! ## Whole runs -/

/-- The signals of a run are its frames of a type other than the control one,
    in the order they came. -/
theorem signals_run (cfg : Config) (evs : List Event) :
    (run cfg evs).signals =
      ((frames evs).filter fun f => f.2.getD 0 0 ≠ mctpMessageTypeMctpCtrl).map signalOf := by
  induction evs using List.reverseRecOn with
  | nil => rfl
  | append_singleton evs e ih =>
    rw [run_append_singleton, step_signals, ih, frames_append_singleton, List.filter_append,
      List.map_append]

/-- A PLDM frame is signalled; a Get EID request that comes in is not. -/
example : (run ⟨2, 10⟩ [.rxMessage 9 [0x01, 0x80], .rxMessage 9 [0x00, 0x80, 0x02]]).signals =
    [(0x01, 9, 0, false, [0x01, 0x80])] := by decide

/-- Over a run, a callback is given `receivedResponse` only with a control
    response the run delivered. -/
theorem received_run (cfg : Config) (evs : List Event) :
    ∀ c ∈ (run cfg evs).invoked, c.2.1 = .receivedResponse →
      (∃ srcEid, (srcEid, c.2.2) ∈ frames evs) ∧
        (mctpIsMctpCtrlMsg c.2.2 && !mctpCtrlMsgIsReq c.2.2) = true := by
  induction evs using List.reverseRecOn with
  | nil => exact fun _ hc => absurd hc (List.not_mem_nil _)
  | append_singleton evs e ih =>
    obtain ⟨new, hnew, hrec⟩ := step_received cfg (run cfg evs) e
    intro c hc hr
    rw [run_append_singleton, hnew, List.mem_append] at hc
    rw [frames_append_singleton]
    rcases hc with hc | hc
    · obtain ⟨⟨srcEid, hf⟩, hctl⟩ := ih c hc hr
      exact ⟨⟨srcEid, List.mem_append_left _ hf⟩, hctl⟩
    · obtain ⟨⟨srcEid, hf⟩, hctl⟩ := hrec c hc hr
      exact ⟨⟨srcEid, hf ▸ List.mem_append_right _ (List.mem_singleton_self _)⟩, hctl⟩

/-- Inbound dispatch, over every run: the message sink gets exactly the frames
    of a type other than the control one, in the order they came, each once
    and as it came; a callback is given `receivedResponse` only with a control
    response that came; and a control frame that is not a response leaves the
    engine as it was. -/
theorem inbound_dispatch (cfg : Config) (evs : List Event) :
    (run cfg evs).signals =
        ((frames evs).filter fun f => f.2.getD 0 0 ≠ mctpMessageTypeMctpCtrl).map signalOf ∧
      (∀ h r, (h, PacketState.receivedResponse, r) ∈ (run cfg evs).invoked →
        (∃ srcEid, (srcEid, r) ∈ frames evs) ∧
          (mctpIsMctpCtrlMsg r && !mctpCtrlMsgIsReq r) = true) ∧
      ∀ srcEid msg, msg.getD 0 0 = mctpMessageTypeMctpCtrl →
        (mctpIsMctpCtrlMsg msg && !mctpCtrlMsgIsReq msg) = false →
        run cfg (evs ++ [.rxMessage srcEid msg]) = run cfg evs :=
  ⟨signals_run cfg evs, fun _ _ hc => received_run cfg evs _ hc rfl,
    fun srcEid _ hty hmsg => by
      rw [run_append_singleton]; exact rxMessage_of_not_ctrlResp _ srcEid hty hmsg⟩

/-- The bookkeeping of the engine, over every run: the queue holds exactly the
    non-empty requests whose callback has not run, in the order of the calls,
    none resolved; a callback runs at most once, with `noResponse` and no bytes
    or with `receivedResponse` and a frame that answers the request; the next
    event invokes exactly the callbacks of the tuples it removes from the
    queue, and gives one `receivedResponse` only with the frame the event
    delivers; the call returns what its callback was given; and an empty
    request returns `invalidPacket` and leaves the queue alone. -/
theorem engine_bookkeeping (cfg : Config) (evs : List Event) (e : Event) :
    QueueInv (run cfg evs) ∧
      (∃ new, (run cfg (evs ++ [e])).invoked = (run cfg evs).invoked ++ new ∧
        (∀ h, h ∈ new.map Prod.fst ↔ h ∈ (run cfg evs).ctrlTxQueue.map CtrlTx.callback ∧
          h ∉ (run cfg (evs ++ [e])).ctrlTxQueue.map CtrlTx.callback) ∧
        ∀ c ∈ new, c.2.1 = .receivedResponse → ∃ srcEid, e.frame? = some (srcEid, c.2.2)) ∧
      (∀ h st bytes, (h, st, bytes) ∈ (run cfg evs).invoked →
        ((run cfg evs).wake h).returned h = some (st, bytes)) ∧
      ∀ destEid bindingPrivate,
        (run cfg (evs ++ [.sendAndRcvMctpCtrl [] destEid bindingPrivate])).ctrlTxQueue =
          (run cfg evs).ctrlTxQueue ∧
        (run cfg (evs ++ [.sendAndRcvMctpCtrl [] destEid bindingPrivate])).returned
          (run cfg evs).calls.length = some (.invalidPacket, []) := by
  have hi := queueInv_run cfg evs
  refine ⟨hi, ?_, fun h st bytes hc => hi.wake_returned hc, fun destEid bindingPrivate => ?_⟩
  · rw [run_append_singleton]
    obtain ⟨new, hn, hmem⟩ := hi.resolvedOnRemoval cfg e
    obtain ⟨new', hn', hrec⟩ := step_received cfg (run cfg evs) e
    -- both lemmas describe the same invocations, those the step appends
    obtain rfl : new' = new := List.append_cancel_left (hn'.symm.trans hn)
    exact ⟨new', hn, hmem, fun c hc hr => (hrec c hc hr).1⟩
  · rw [run_append_singleton]
    exact ⟨rfl, Function.update_same _ _ _⟩

end Engine

end Mctpd
