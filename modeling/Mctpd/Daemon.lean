import Mctpd.Fleet
import Mctpd.Engine.Liveness

/-!
# The daemon: registrations over the engine

`Mctpd.Fleet` lets a run resume with any outcome of its exchange. In the
daemon, the runs do their exchanges through the engine: a run waiting in a
phase has made one `sendAndRcvMctpCtrl` call, through the `*CtrlCmd` wrapper
of the phase's command (`Phase.request`), and it resumes once that call has
returned, with what the call returned. In between, the engine takes any event:
ticks, messages, wake-ups, and the calls of other coroutines.

A `Daemon` is the engine, the fleet, and for each run the `bindingPrivate` it
was spawned with and the call it waits on (`waitsOn`).

* `Linked`: the engine keeps its bookkeeping; every waiting run waits on a
  call of its own, made with its phase's request, to its phase's EID, with its
  binding data; runs not spawned yet are finished;
* `Linked.step`, `linked_steps`: every step of the daemon keeps it;
* `fleet_steps`: a step of the daemon is no step or one step of the fleet;
* `daemon_refines`: over every interleaving, the fleet of the daemon is one
  the fleet's own steps reach, so that what `Mctpd.Fleet` proves holds of it,
  and a waiting run resumes with a timeout or with a control response carrying
  the instance ID of its own request;
* `waiting_run_resumes`: no run waits forever. While no wait of the timer
  completes with an error, `2^32` ticks and a wake-up of its call let a waiting
  run resume, whatever else the engine does in between.
-/

namespace Mctpd

/-- The command the `*CtrlCmd` wrapper of a waiting run formats, and the EID it
    sends it to: Get EID and Set EID go to the null EID, Get UUID and Get
    Message Type Support to the endpoint's EID. -/
def Phase.request : Phase → Option (CtrlCmd × UInt8)
  | .getEid => some (.getEndpointId, 0x00)
  | .getUuid getEidResp => some (.getEndpointUuid, getEidRespEid getEidResp)
  | .setEid _ _ eid => some (.setEndpointId .setEid eid, 0x00)
  | .getMsgTypes _ _ destEid => some (.getMessageTypeSupport, destEid)
  | .done _ => none

/-- The registration runs over the engine. -/
structure Daemon where
  engine : Engine
  fleet : Fleet
  /-- The `bindingPrivate` each run was spawned with. -/
  bindingPrivate : Nat → List UInt8
  /-- The call each waiting run waits on. -/
  waitsOn : Nat → Nat

namespace Daemon

/-- At start-up, on a pool in any state. -/
def init (pool : EidPool) : Daemon := ⟨Engine.init, Fleet.init pool, fun _ => [], fun _ => 0⟩

/-- Run `i` makes the call of its phase, if it waits for an exchange. -/
def request (cfg : Config) (d : Daemon) (i : Nat) : Daemon :=
  match (d.fleet.runs i).request with
  | some (cmd, destEid) =>
    { d with
      engine := d.engine.step cfg (.ctrlCmd cmd destEid (d.bindingPrivate i))
      waitsOn := Function.update d.waitsOn i d.engine.calls.length }
  | none => d

/-- `registerEndpoint(bindingPrivate, isBusOwner)`: on a bus owner, it spawns a
    run of `busOwnerRegisterEndpoint`, which sends Get EID. -/
def registerEndpoint (cfg : Config) (d : Daemon) (bindingPrivate : List UInt8)
    (isBusOwner : Bool) : Daemon :=
  if isBusOwner then
    request cfg
      { d with
        fleet := d.fleet.spawn
        bindingPrivate := Function.update d.bindingPrivate d.fleet.spawned bindingPrivate }
      d.fleet.spawned
  else d

/-- Run `i` resumes after its exchange ended as `o`, up to its next call. -/
def resume (cfg : Config) (d : Daemon) (i : Nat) (o : Option (List UInt8)) : Daemon :=
  request cfg { d with fleet := d.fleet.resume i o } i

/-- One step of the daemon. -/
inductive Step (cfg : Config) : Daemon → Daemon → Prop
  /-- The engine takes an event. -/
  | engine (d : Daemon) (e : Event) : Step cfg d { d with engine := d.engine.step cfg e }
  | registerEndpoint (d : Daemon) (bindingPrivate : List UInt8) (isBusOwner : Bool) :
      Step cfg d (d.registerEndpoint cfg bindingPrivate isBusOwner)
  /-- A waiting run whose call has returned resumes with what it returned, the
      peer confirming the EID it was asked to take. -/
  | resume (d : Daemon) (i : Nat) (o : Option (List UInt8)) :
      (d.fleet.runs i).request.isSome → d.engine.returned (d.waitsOn i) = some (exchange o) →
      Echoes (d.fleet.runs i) o → Step cfg d (d.resume cfg i o)

variable {cfg : Config}

@[simp] theorem request_fleet (d : Daemon) (i : Nat) : (d.request cfg i).fleet = d.fleet := by
  unfold request; split <;> rfl

/-! ## The fleet it refines -/

/-- A step of the daemon is no step of the fleet, or one. -/
theorem Step.fleet {d d' : Daemon} (h : Step cfg d d') :
    d'.fleet = d.fleet ∨ Fleet.Step d.fleet d'.fleet := by
  cases h with
  | engine => exact .inl rfl
  | registerEndpoint bindingPrivate isBusOwner =>
    unfold Daemon.registerEndpoint
    cases isBusOwner
    · exact .inl rfl
    · exact .inr ((request_fleet _ _).symm ▸ Fleet.Step.spawn _)
  | resume i o _ _ he => exact .inr ((request_fleet _ _).symm ▸ Fleet.Step.resume _ i o he)

theorem fleet_steps {d d' : Daemon} (h : Relation.ReflTransGen (Step cfg) d d') :
    Relation.ReflTransGen Fleet.Step d.fleet d'.fleet := by
  induction h with
  | refl => exact .refl
  | tail _ hs ih =>
    rcases hs.fleet with he | hs'
    · exact he ▸ ih
    · exact ih.tail hs'

/-! ## Each run waits on its own call -/

/-- Run `i`, if it waits, waits on a call made with its phase's request, to its
    phase's EID, with its binding data. -/
def OwnCall (d : Daemon) (i : Nat) : Prop :=
  ∀ cmd destEid, (d.fleet.runs i).request = some (cmd, destEid) →
    d.waitsOn i < d.engine.calls.length ∧
      ∃ rq k, d.engine.call (d.waitsOn i) =
        ⟨getFormattedReq cmd rq, destEid, d.bindingPrivate i, some k⟩

/-- The engine and the runs are linked. -/
structure Linked (d : Daemon) : Prop where
  queue : d.engine.QueueInv
  own : ∀ i, d.OwnCall i
  /-- No two waiting runs wait on one call. -/
  inj : ∀ i j, (d.fleet.runs i).request.isSome → (d.fleet.runs j).request.isSome →
    d.waitsOn i = d.waitsOn j → i = j
  unspawned : ∀ i, d.fleet.spawned ≤ i → d.fleet.runs i = .done .aborted

/-- Whether run `i` waits on its own call reads only its phase, its binding
    data, the call it waits on and the engine. -/
theorem OwnCall.congr {d d' : Daemon} {i : Nat} (h : d.OwnCall i)
    (he : d'.engine = d.engine) (hr : d'.fleet.runs i = d.fleet.runs i)
    (hb : d'.bindingPrivate i = d.bindingPrivate i) (hw : d'.waitsOn i = d.waitsOn i) :
    d'.OwnCall i := by
  intro cmd destEid hreq
  rw [he, hb, hw]
  exact h cmd destEid (hr ▸ hreq)

/-- An event of the engine keeps the calls the runs wait on. -/
theorem OwnCall.engine {d : Daemon} {i : Nat} (h : d.OwnCall i) (e : Event) :
    OwnCall { d with engine := d.engine.step cfg e } i := by
  intro cmd destEid hreq
  obtain ⟨hlt, hc⟩ := h cmd destEid hreq
  refine ⟨Nat.lt_of_lt_of_le hlt (Engine.calls_prefix_step cfg d.engine e).length_le, ?_⟩
  rw [Engine.call_step_of_lt cfg d.engine e hlt]
  exact hc

theorem linked_init (pool : EidPool) : (init pool).Linked where
  queue := Engine.queueInv_init
  own _ _ _ h := Option.noConfusion h
  inj _ _ h := Bool.noConfusion h
  unspawned _ _ := rfl

/-- Run `i` making the call of its phase links it, when all the other runs are
    linked. -/
theorem linked_request {d : Daemon} (i : Nat) (hq : d.engine.QueueInv)
    (hown : ∀ j, j ≠ i → d.OwnCall j)
    (hinj : ∀ j k, j ≠ i → k ≠ i → (d.fleet.runs j).request.isSome →
      (d.fleet.runs k).request.isSome → d.waitsOn j = d.waitsOn k → j = k)
    (hun : ∀ j, d.fleet.spawned ≤ j → d.fleet.runs j = .done .aborted) :
    (d.request cfg i).Linked := by
  unfold request
  split
  case h_2 hnone =>
    -- run `i` does not wait
    refine ⟨hq, fun j => ?_, fun j k hj hk => ?_, hun⟩
    · by_cases hji : j = i
      · intro cmd destEid hreq; rw [hji, hnone] at hreq; cases hreq
      · exact hown j hji
    · have hi : ∀ l, (d.fleet.runs l).request.isSome → l ≠ i := fun l hl hli => by
        rw [hli, hnone] at hl; cases hl
      exact hinj j k (hi j hj) (hi k hk) hj hk
  case h_1 cmd destEid hsome =>
    -- run `i` makes call `d.engine.calls.length`, after all the calls the others wait on
    have hcalls : (d.engine.step cfg (.ctrlCmd cmd destEid (d.bindingPrivate i))).calls =
        d.engine.calls ++
          [⟨getFormattedReq cmd (getRqDgramInst (createInstanceId d.engine.instanceId)),
            destEid, d.bindingPrivate i, some d.engine.instanceIdCalls⟩] :=
      Engine.sendAndRcvMctpCtrl_calls ..
    have hold : ∀ j, j ≠ i → (d.fleet.runs j).request.isSome →
        d.waitsOn j < d.engine.calls.length := fun j hj hw => by
      obtain ⟨⟨cmd', destEid'⟩, hr⟩ := Option.isSome_iff_exists.1 hw
      exact (hown j hj cmd' destEid' hr).1
    refine ⟨hq.step cfg (.ctrlCmd cmd destEid (d.bindingPrivate i)), fun j => ?_,
      fun j k hj hk hjk => ?_, hun⟩
    · by_cases hji : j = i
      · subst hji
        intro cmd' destEid' hreq
        rw [hsome] at hreq
        obtain ⟨rfl, rfl⟩ := Prod.mk.inj (Option.some.inj hreq)
        simp only [Function.update_same, Engine.call, hcalls, List.length_append,
          List.length_singleton, Nat.lt_succ_self, true_and]
        exact ⟨_, _, Engine.call_append_self _ _⟩
      · exact (hown j hji).engine _ |>.congr rfl rfl rfl (Function.update_noteq hji _ _)
    · simp only at hjk
      by_cases hji : j = i <;> by_cases hki : k = i
      · rw [hji, hki]
      · rw [hji, Function.update_same, Function.update_noteq hki] at hjk
        exact absurd hjk.symm (Nat.ne_of_lt (hold k hki hk))
      · rw [hki, Function.update_same, Function.update_noteq hji] at hjk
        exact absurd hjk (Nat.ne_of_lt (hold j hji hj))
      · rw [Function.update_noteq hji, Function.update_noteq hki] at hjk
        exact hinj j k hji hki hj hk hjk

/-- Every step of the daemon keeps the runs linked to the engine. -/
theorem Linked.step {d d' : Daemon} (hl : d.Linked) (h : Step cfg d d') : d'.Linked := by
  cases h with
  | engine e =>
    exact ⟨hl.queue.step cfg e, fun i => (hl.own i).engine e, hl.inj, hl.unspawned⟩
  | registerEndpoint bindingPrivate isBusOwner =>
    unfold registerEndpoint
    cases isBusOwner
    · exact hl
    · -- the new run is the one not spawned yet; the others keep their phases
      have hrun : ∀ j, j ≠ d.fleet.spawned → d.fleet.spawn.runs j = d.fleet.runs j :=
        fun j hj => Function.update_noteq hj _ _
      refine linked_request _ hl.queue (fun j hj => (hl.own j).congr rfl (hrun j hj)
        (Function.update_noteq hj _ _) rfl) (fun j k hj hk => ?_) (fun j hj => ?_)
      · rw [hrun j hj, hrun k hk]; exact hl.inj j k
      · have hj' : j ≠ d.fleet.spawned := Nat.ne_of_gt hj
        rw [hrun j hj']
        exact hl.unspawned j (Nat.le_of_lt hj)
  | resume i o hw _ _ =>
    -- the resumed run is a spawned one, and the others keep their phases
    have hrun : ∀ j, j ≠ i → (d.fleet.resume i o).runs j = d.fleet.runs j :=
      fun j hj => Function.update_noteq hj _ _
    have hi : i < d.fleet.spawned := Nat.lt_of_not_le fun hle => by
      rw [hl.unspawned i hle] at hw; cases hw
    refine linked_request _ hl.queue (fun j hj => (hl.own j).congr rfl (hrun j hj) rfl rfl)
      (fun j k hj hk => ?_) (fun j hj => ?_)
    · rw [hrun j hj, hrun k hk]; exact hl.inj j k
    · rw [hrun j (Nat.ne_of_gt (Nat.lt_of_lt_of_le hi hj))]
      exact hl.unspawned j hj

theorem linked_steps (pool : EidPool) {d : Daemon}
    (h : Relation.ReflTransGen (Step cfg) (init pool) d) : d.Linked := by
  induction h with
  | refl => exact linked_init pool
  | tail _ hs ih => exact ih.step hs

/-- The daemon refines the fleet. Over every interleaving of the runs of
    `busOwnerRegisterEndpoint` with the engine's events, from any pool: the
    fleet is one the fleet's own steps reach; a waiting run waits on a call
    made with its phase's request, to its phase's EID, with its binding data,
    and no other waiting run waits on that call; and once the call has
    returned, it returned a timeout or a control response carrying the
    instance ID of that request. -/
theorem daemon_refines (cfg : Config) (pool : EidPool) {d : Daemon}
    (h : Relation.ReflTransGen (Step cfg) (init pool) d) :
    Relation.ReflTransGen Fleet.Step (Fleet.init pool) d.fleet ∧
      ∀ i cmd destEid, (d.fleet.runs i).request = some (cmd, destEid) →
        (∃ rq k, d.engine.call (d.waitsOn i) =
          ⟨getFormattedReq cmd rq, destEid, d.bindingPrivate i, some k⟩) ∧
        (∀ j, (d.fleet.runs j).request.isSome → d.waitsOn j = d.waitsOn i → j = i) ∧
        ∀ r, d.engine.returned (d.waitsOn i) = some r →
          ∃ o, exchange o = r ∧
            ∀ msg, o = some msg → Engine.answers (d.engine.call (d.waitsOn i)).req msg := by
  have hl := linked_steps pool h
  refine ⟨fleet_steps h, fun i cmd destEid hr => ?_⟩
  obtain ⟨-, rq, k, hc⟩ := hl.own i cmd destEid hr
  refine ⟨⟨rq, k, hc⟩, fun j hj he => hl.inj j i hj (by rw [hr]; rfl) he,
    fun r hret => hl.queue.exchange_of_returned hret ?_⟩
  rw [hc]
  exact getFormattedReq_ne_nil cmd rq

/-- A bus owner registers an endpoint, which answers Get EID with EID `8`; the
    run resumes and sends Get UUID to EID `8`. -/
def oneRun : Daemon :=
  let cfg : Config := ⟨2, 10⟩
  let getEidResp : List UInt8 := [0x00, 0x01, 0x02, 0x00, 0x08, 0x00, 0x00]
  let d₁ := (init EidPool.empty).registerEndpoint cfg [] true
  let d₂ := { d₁ with engine := d₁.engine.step cfg (.rxMessage 0 getEidResp) }
  let d₃ := { d₂ with engine := d₂.engine.step cfg (.wake 0) }
  d₃.resume cfg 0 (some getEidResp)

theorem daemon_refines_get_uuid :
    Relation.ReflTransGen (Step ⟨2, 10⟩) (init EidPool.empty) oneRun ∧
      (oneRun.fleet.runs 0).request = some (.getEndpointUuid, 8) ∧
      ∃ rq k, oneRun.engine.call (oneRun.waitsOn 0) =
        ⟨getFormattedReq .getEndpointUuid rq, 8, [], some k⟩ := by
  have h : Relation.ReflTransGen (Step ⟨2, 10⟩) (init EidPool.empty) oneRun :=
    .tail (.tail (.tail (.single (.registerEndpoint _ [] true))
      (.engine _ (.rxMessage 0 [0x00, 0x01, 0x02, 0x00, 0x08, 0x00, 0x00])))
      (.engine _ (.wake 0))) (.resume _ 0 _ (by decide) (by decide) (by decide))
  have hr : (oneRun.fleet.runs 0).request = some (.getEndpointUuid, 8) := by decide
  exact ⟨h, hr, ((daemon_refines _ _ h).2 0 _ _ hr).1⟩

/-! ## Progress -/

/-- The engine takes the events `evs`, one step of the daemon each. -/
theorem steps_engine (evs : List Event) (d : Daemon) :
    Relation.ReflTransGen (Step cfg) d
      { d with engine := evs.foldl (Engine.step cfg) d.engine } := by
  induction evs generalizing d with
  | nil => exact .refl
  | cons e evs ih => exact .head (.engine d e) (ih _)

/-- No run waits forever. From every reachable state in which the tick is armed
    as it should be (`TimerInv`: no wait of the timer completed with an error),
    whatever engine events come, none completing with an error and `2^32` of
    them ticks, a wake-up of the call a waiting run waits on has that call
    return how an exchange ends, with a timeout or with a frame answering the
    run's request, and the run resumes with it, unless it is a Set EID response
    naming another EID than the one asked for. -/
theorem waiting_run_resumes (cfg : Config) (pool : EidPool) {d : Daemon}
    (h : Relation.ReflTransGen (Step cfg) (init pool) d) (ht : d.engine.TimerInv) {i : Nat}
    (hw : (d.fleet.runs i).request.isSome) (evs : List Event)
    (herr : ∀ e ∈ evs, e.completesWithError = false)
    (hticks : 2 ^ 32 ≤ (evs.filter Event.isTick).length) :
    ∃ o, (∀ msg, o = some msg → Engine.answers (d.engine.call (d.waitsOn i)).req msg) ∧
      (Echoes (d.fleet.runs i) o →
        Relation.ReflTransGen (Step cfg) d
          ({ d with engine := (evs ++ [Event.wake (d.waitsOn i)]).foldl (Engine.step cfg) d.engine }.resume
            cfg i o)) := by
  have hl := linked_steps pool h
  obtain ⟨⟨cmd, destEid⟩, hr⟩ := Option.isSome_iff_exists.1 hw
  obtain ⟨hlt, rq, k, hc⟩ := hl.own i cmd destEid hr
  have hreq : (d.engine.call (d.waitsOn i)).req ≠ [] := by
    rw [hc]; exact getFormattedReq_ne_nil cmd rq
  -- the call has had its callback run by the end of `evs`; the wake-up returns it
  obtain ⟨r, hinv, -⟩ := Engine.invoked_of_ticks evs hl.queue ht herr hlt hreq hticks
  have hq : (evs.foldl (Engine.step cfg) d.engine).QueueInv := hl.queue.foldl evs
  have hret : ((evs ++ [Event.wake (d.waitsOn i)]).foldl (Engine.step cfg) d.engine).returned
      (d.waitsOn i) = some (r.1, r.2) := by
    rw [List.foldl_append]; exact hq.wake_returned hinv
  have hq' : ((evs ++ [Event.wake (d.waitsOn i)]).foldl (Engine.step cfg) d.engine).QueueInv :=
    hl.queue.foldl _
  have hp : d.engine.calls <+:
      ((evs ++ [Event.wake (d.waitsOn i)]).foldl (Engine.step cfg) d.engine).calls :=
    Engine.calls_prefix_foldl _ _
  have hcall := Engine.call_of_extends hp hlt
  obtain ⟨o, ho, hans⟩ := hq'.exchange_of_returned hret (hcall ▸ hreq)
  refine ⟨o, fun msg hm => hcall ▸ hans msg hm,
    fun he => (steps_engine _ d).tail (.resume _ i o hw ?_ he)⟩
  rw [ho]
  exact hret

/-- A bus owner registers an endpoint, which sends Get EID. -/
def oneRequest : Daemon := (init EidPool.empty).registerEndpoint ⟨2, 10⟩ [] true

/-- After the Get EID request, `2^32` ticks and a wake-up: the run resumes. -/
theorem waiting_run_resumes_get_eid :
    ∃ o, (∀ msg, o = some msg →
        Engine.answers (oneRequest.engine.call (oneRequest.waitsOn 0)).req msg) ∧
      (Echoes (oneRequest.fleet.runs 0) o →
        Relation.ReflTransGen (Step ⟨2, 10⟩) oneRequest
          ({ oneRequest with
              engine := (List.replicate (2 ^ 32) (Event.ctrlTxTimer .success fun _ => true) ++
                [Event.wake (oneRequest.waitsOn 0)]).foldl (Engine.step ⟨2, 10⟩) oneRequest.engine }.resume
            ⟨2, 10⟩ 0 o)) := by
  have herr : ∀ e ∈ List.replicate (2 ^ 32) (Event.ctrlTxTimer .success fun _ => true),
      e.completesWithError = false := fun e he => by
    rw [List.eq_of_mem_replicate he]; rfl
  have hticks : 2 ^ 32 ≤ ((List.replicate (2 ^ 32)
      (Event.ctrlTxTimer .success fun _ => true)).filter Event.isTick).length := by
    rw [List.filter_replicate, if_pos (show Event.isTick (.ctrlTxTimer .success fun _ => true) = true
      from rfl), List.length_replicate]
  exact waiting_run_resumes ⟨2, 10⟩ EidPool.empty (.single (.registerEndpoint _ [] true))
    ⟨by decide, by decide, by decide⟩ (by decide) _ herr hticks

end Daemon

end Mctpd
