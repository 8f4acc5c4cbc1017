import Mctpd.Onboarding
import Mctpd.Engine.Bookkeeping
import Mathlib.Logic.Relation

/-!
# Concurrent registrations

Every call of `busOwnerRegisterEndpoint` spawns a coroutine, and all of them
share `eidPoolMap`. They interleave at their exchanges only: between two, a
run does its pool work alone (`Mctpd.resume`). A `Fleet` is the pool and the
phase of every run spawned so far, with two records: the EIDs confirmed by
successful Set EID exchanges, and the endpoints published.

An EID a run takes from the pool is *held* by the run until its Set EID
exchange ends. With peers that confirm the EID they were asked to take
(`Echoes`), no two runs hold or confirm the same EID, and held and confirmed
EIDs stay assigned (`Fleet.Inv`).

* `returned_exchange`: a run resumes with what the engine's
  `sendAndRcvMctpCtrl` returns, which is always `exchange o` for an outcome
  `o`, a response answering the request or a timeout;
* `Fleet.Inv.spawn`, `Fleet.Inv.resume`: spawning a run and resuming one keep
  the invariant, one lemma per phase the run resumes from;
* `eid_uniqueness`: over every interleaving, no EID is confirmed twice, a
  confirmed EID stays assigned at every later step, and no two endpoints
  published through Set EID carry the same EID.
-/

namespace Mctpd

namespace Phase

/-- The EID the run holds: the one it took from the pool, while it waits for
    the Set EID response. -/
def requested : Phase → Option UInt8
  | .setEid _ _ eid => some eid
  | _ => none

/-- The EID a successful Set EID exchange confirms, when the run resumes after
    it. -/
def confirms : Phase → Option (List UInt8) → Option UInt8
  | .setEid .., o =>
    if setEidCtrlCmd (exchange o).1 (exchange o).2 then some (setEidRespEidSet (exchange o).2)
    else none
  | _, _ => none

/-- The endpoint a resumption publishes, and whether its EID came from Set EID
    (the endpoint reported none). -/
def publishes : Phase → Phase → Option (Bool × EndpointProperties)
  | .getMsgTypes getEidResp _ _, .done (.published ep) => some (getEidRespEid getEidResp == 0x00, ep)
  | _, _ => none

end Phase

/-- The peer confirms the EID it was asked to take, if its Set EID succeeds. -/
def Echoes (ph : Phase) (o : Option (List UInt8)) : Prop :=
  ph.confirms o = none ∨ ph.confirms o = ph.requested

instance (ph : Phase) (o : Option (List UInt8)) : Decidable (Echoes ph o) :=
  inferInstanceAs (Decidable (_ ∨ _))

/-! ## What a run resumes with -/

/-- With the bookkeeping of the engine, a call with a non-empty request that
    has returned, returned how an exchange ends. -/
theorem Engine.QueueInv.exchange_of_returned {s : Engine} (hi : s.QueueInv) {h : Nat}
    {r : PacketState × List UInt8} (hr : s.returned h = some r) (hreq : (s.call h).req ≠ []) :
    ∃ o, exchange o = r ∧ ∀ msg, o = some msg → Engine.answers (s.call h).req msg := by
  obtain ⟨-, hinv⟩ := hi.returned h r hr
  rcases (hi.invoked _ (hinv.resolve_left hreq)).2.2.2.2 with hno | ⟨hrecv, hans⟩
  · exact ⟨none, hno.symm, fun _ h => Option.noConfusion h⟩
  · exact ⟨some r.2, Prod.ext hrecv.symm rfl, fun _ h => Option.some.inj h ▸ hans⟩

/-- What a call of `sendAndRcvMctpCtrl` with a non-empty request returns is
    how an exchange ends: `noResponse` and no bytes, or `receivedResponse` and
    a frame that answers the request. -/
theorem returned_exchange (cfg : Config) (evs : List Event) (h : Nat)
    {r : PacketState × List UInt8} (hr : (Engine.run cfg evs).returned h = some r)
    (hreq : ((Engine.run cfg evs).call h).req ≠ []) :
    ∃ o, exchange o = r ∧ ∀ msg, o = some msg → Engine.answers ((Engine.run cfg evs).call h).req msg :=
  (Engine.queueInv_run cfg evs).exchange_of_returned hr hreq

/-- A Get EID request answered with EID `8`. -/
theorem returned_exchange_get_eid :
    (Engine.run (Config.mk 2 10) [.ctrlCmd .getEndpointId 8 [],
        .rxMessage 8 [0x00, 0x01, 0x02, 0x00, 0x08, 0x00, 0x00], .wake 0]).returned 0 =
      some (.receivedResponse, [0x00, 0x01, 0x02, 0x00, 0x08, 0x00, 0x00]) ∧
    ((Engine.run (Config.mk 2 10) [.ctrlCmd .getEndpointId 8 [],
        .rxMessage 8 [0x00, 0x01, 0x02, 0x00, 0x08, 0x00, 0x00], .wake 0]).call 0).req ≠ [] ∧
    ∃ o, exchange o = (.receivedResponse, [0x00, 0x01, 0x02, 0x00, 0x08, 0x00, 0x00]) ∧
      ∀ msg, o = some msg → Engine.answers ((Engine.run (Config.mk 2 10) [.ctrlCmd .getEndpointId 8 [],
        .rxMessage 8 [0x00, 0x01, 0x02, 0x00, 0x08, 0x00, 0x00], .wake 0]).call 0).req msg :=
  have hr : (Engine.run (Config.mk 2 10) [.ctrlCmd .getEndpointId 8 [],
      .rxMessage 8 [0x00, 0x01, 0x02, 0x00, 0x08, 0x00, 0x00], .wake 0]).returned 0 =
      some (.receivedResponse, [0x00, 0x01, 0x02, 0x00, 0x08, 0x00, 0x00]) := by decide
  have hreq : ((Engine.run (Config.mk 2 10) [.ctrlCmd .getEndpointId 8 [],
      .rxMessage 8 [0x00, 0x01, 0x02, 0x00, 0x08, 0x00, 0x00], .wake 0]).call 0).req ≠ [] := by decide
  ⟨hr, hreq, returned_exchange _ _ 0 hr hreq⟩

/-! ## The fleet -/

/-- The runs of `busOwnerRegisterEndpoint` sharing the pool. -/
structure Fleet where
  pool : EidPool
  /-- The phase of each run; runs not spawned yet read `done`. -/
  runs : Nat → Phase
  spawned : Nat
  /-- Each successful Set EID exchange: the run, and the EID confirmed. -/
  confirmed : List (Nat × UInt8)
  /-- Each endpoint published: the run, whether through Set EID, the record. -/
  published : List (Nat × Bool × EndpointProperties)

namespace Fleet

/-- No run yet, on a pool in any state. -/
def init (pool : EidPool) : Fleet := ⟨pool, fun _ => .done .aborted, 0, [], []⟩

/-- `busOwnerRegisterEndpoint` spawns a run, which sends Get EID. -/
def spawn (f : Fleet) : Fleet :=
  { f with runs := Function.update f.runs f.spawned .getEid, spawned := f.spawned + 1 }

/-- Run `i` resumes after its exchange ended as `o`. -/
def resume (f : Fleet) (i : Nat) (o : Option (List UInt8)) : Fleet :=
  let r := Mctpd.resume f.pool (f.runs i) o
  { f with
    pool := r.1
    runs := Function.update f.runs i r.2
    confirmed := f.confirmed ++ (((f.runs i).confirms o).map (i, ·)).toList
    published := f.published ++ ((Phase.publishes (f.runs i) r.2).map (i, ·)).toList }

/-- One step of the fleet: a run is spawned, or a run resumes after its
    exchange, the peer confirming the EID it was asked to take. -/
inductive Step : Fleet → Fleet → Prop
  | spawn (f : Fleet) : Step f f.spawn
  | resume (f : Fleet) (i : Nat) (o : Option (List UInt8)) :
      Echoes (f.runs i) o → Step f (f.resume i o)

/-- Held and confirmed EIDs are assigned and each has one owner, and an
    endpoint published through Set EID carries its run's confirmed EID. -/
structure Inv (f : Fleet) : Prop where
  unspawned : ∀ i, f.spawned ≤ i → f.runs i = .done .aborted
  held : ∀ i e, (f.runs i).requested = some e → f.pool.flag e = some true
  held_inj : ∀ i j e, (f.runs i).requested = some e → (f.runs j).requested = some e → i = j
  held_fresh : ∀ i e, (f.runs i).requested = some e → e ∉ f.confirmed.map Prod.snd
  confirmed_assigned : ∀ p ∈ f.confirmed, f.pool.flag p.2 = some true
  confirmed_nodup : (f.confirmed.map Prod.snd).Nodup
  /-- A run past Set EID waits for the message types of its confirmed EID. -/
  via : ∀ i getEidResp getUuidResp destEid,
    f.runs i = .getMsgTypes getEidResp getUuidResp destEid → getEidRespEid getEidResp = 0x00 →
      (i, destEid) ∈ f.confirmed
  published_via : ∀ p ∈ f.published, p.2.1 = true → (p.1, p.2.2.endpointEid) ∈ f.confirmed
  published_done : ∀ p ∈ f.published, f.runs p.1 = .done (.published p.2.2)
  published_nodup : (f.published.map Prod.fst).Nodup

section Steps

variable {f : Fleet} {i : Nat} {o : Option (List UInt8)}

@[simp] theorem resume_pool : (f.resume i o).pool = (Mctpd.resume f.pool (f.runs i) o).1 := rfl

@[simp] theorem resume_runs :
    (f.resume i o).runs = Function.update f.runs i (Mctpd.resume f.pool (f.runs i) o).2 := rfl

@[simp] theorem resume_spawned : (f.resume i o).spawned = f.spawned := rfl

@[simp] theorem resume_confirmed :
    (f.resume i o).confirmed = f.confirmed ++ (((f.runs i).confirms o).map (i, ·)).toList := rfl

@[simp] theorem resume_published : (f.resume i o).published =
    f.published ++ ((Phase.publishes (f.runs i) (Mctpd.resume f.pool (f.runs i) o).2).map
      (i, ·)).toList := rfl

/-- A finished run stays finished, and its resumption changes nothing. -/
theorem resume_of_done {r : RegisterResult} (h : f.runs i = .done r) : f.resume i o = f := by
  have hr : Mctpd.resume f.pool (f.runs i) o = (f.pool, .done r) := by rw [h]; rfl
  have hc : (f.runs i).confirms o = none := by rw [h]; rfl
  have hp : Phase.publishes (f.runs i) (.done r) = none := by rw [h]; rfl
  simp only [resume, hr, hc, hp, Option.map_none', Option.toList_none, List.append_nil]
  rw [← h, Function.update_eq_self]

end Steps

/-! ## The pool -/

theorem flag_updateEidStatus_true_of (e : UInt8) {m : EidPool} {x : UInt8}
    (h : m.flag x = some true) : (updateEidStatus e true m).flag x = some true := by
  rw [flag_updateEidStatus]
  split
  · rename_i he; rw [he] at h; rw [h]; rfl
  · exact h

theorem flag_updateEidStatus_of_ne (b : Bool) {e x : UInt8} (h : x ≠ e) (m : EidPool) :
    (updateEidStatus e b m).flag x = m.flag x := by
  rw [flag_updateEidStatus, if_neg h]

/-! ## The invariant -/

theorem inv_init (pool : EidPool) : (init pool).Inv where
  unspawned _ _ := rfl
  held _ _ h := Option.noConfusion h
  held_inj _ _ _ h := Option.noConfusion h
  held_fresh _ _ h := Option.noConfusion h
  confirmed_assigned _ h := absurd h (List.not_mem_nil _)
  confirmed_nodup := List.nodup_nil
  via _ _ _ _ h := Phase.noConfusion h
  published_via _ h := absurd h (List.not_mem_nil _)
  published_done _ h := absurd h (List.not_mem_nil _)
  published_nodup := List.nodup_nil

variable {f : Fleet}

theorem Inv.spawn (hi : f.Inv) : f.spawn.Inv := by
  have hn : f.runs f.spawned = .done .aborted := hi.unspawned _ le_rfl
  have hrun : ∀ i, i ≠ f.spawned → f.spawn.runs i = f.runs i := fun i h =>
    Function.update_noteq h _ _
  -- the new run holds nothing and waits for no message types
  have hreq : ∀ i e, (f.spawn.runs i).requested = some e → (f.runs i).requested = some e := by
    intro i e h
    by_cases hi' : i = f.spawned
    · subst hi'; simp [Fleet.spawn, Phase.requested] at h
    · rwa [hrun i hi'] at h
  refine ⟨fun i hi' => ?_, fun i e h => hi.held i e (hreq i e h),
    fun i j e h₁ h₂ => hi.held_inj i j e (hreq i e h₁) (hreq j e h₂),
    fun i e h => hi.held_fresh i e (hreq i e h), hi.confirmed_assigned, hi.confirmed_nodup,
    fun i g u d h => ?_, hi.published_via, fun p hp => ?_, hi.published_nodup⟩
  · have : f.spawned + 1 ≤ i := hi'
    rw [hrun i (by omega)]; exact hi.unspawned i (by omega)
  · by_cases hi' : i = f.spawned
    · subst hi'; simp [Fleet.spawn] at h
    · rw [hrun i hi'] at h; exact hi.via i g u d h
  · have := hi.published_done p hp
    have hne : p.1 ≠ f.spawned := fun he => by rw [he, hn] at this; cases this
    rw [hrun _ hne]; exact this

/-- A resumption of run `i` that takes no EID and confirms none, keeps every
    other run's and every confirmed EID assigned, and publishes at most its own
    run's endpoint keeps the invariant. -/
theorem Inv.quiet (hi : f.Inv) {f' : Fleet} {i : Nat} (hsp : i < f.spawned)
    (hsp' : f'.spawned = f.spawned) (hruns : ∀ j, j ≠ i → f'.runs j = f.runs j)
    (hc : f'.confirmed = f.confirmed) (hreq' : (f'.runs i).requested = none)
    (hgain : ∀ x, f.pool.flag x = some true →
      (∃ j, j ≠ i ∧ (f.runs j).requested = some x) ∨ x ∈ f.confirmed.map Prod.snd →
      f'.pool.flag x = some true)
    (hvia : ∀ g u d, f'.runs i = .getMsgTypes g u d → getEidRespEid g = 0x00 →
      (i, d) ∈ f.confirmed)
    (hpub : ∀ p ∈ f.published, p.1 ≠ i) {new : List (Nat × Bool × EndpointProperties)}
    (hp : f'.published = f.published ++ new) (hnew₁ : new.length ≤ 1)
    (hnew : ∀ p ∈ new, p.1 = i ∧ f'.runs i = .done (.published p.2.2) ∧
      (p.2.1 = true → (i, p.2.2.endpointEid) ∈ f.confirmed)) : f'.Inv := by
  have hold : ∀ j e, (f'.runs j).requested = some e → j ≠ i ∧ (f.runs j).requested = some e := by
    intro j e h
    by_cases hj : j = i
    · subst hj; rw [hreq'] at h; cases h
    · rw [hruns j hj] at h; exact ⟨hj, h⟩
  refine ⟨fun j hj => ?_, fun j e h => ?_,
    fun j k e h₁ h₂ => hi.held_inj j k e (hold j e h₁).2 (hold k e h₂).2,
    fun j e h => hc ▸ hi.held_fresh j e (hold j e h).2, fun q hq => ?_, hc ▸ hi.confirmed_nodup,
    fun j g u d h => ?_, fun q hq hb => ?_, fun q hq => ?_, ?_⟩
  · rw [hsp'] at hj; rw [hruns j (by omega)]; exact hi.unspawned j hj
  · obtain ⟨hj, h'⟩ := hold j e h
    exact hgain e (hi.held j e h') (.inl ⟨j, hj, h'⟩)
  · rw [hc] at hq
    exact hgain _ (hi.confirmed_assigned q hq) (.inr (List.mem_map_of_mem _ hq))
  · rw [hc]
    by_cases hj : j = i
    · subst hj; exact hvia g u d h
    · rw [hruns j hj] at h; exact hi.via j g u d h
  · rw [hc]
    rcases List.mem_append.1 (hp ▸ hq) with hq | hq
    · exact hi.published_via q hq hb
    · obtain ⟨h₁, -, h₃⟩ := hnew q hq; rw [h₁]; exact h₃ hb
  · rcases List.mem_append.1 (hp ▸ hq) with hq | hq
    · rw [hruns _ (hpub q hq)]; exact hi.published_done q hq
    · obtain ⟨h₁, h₂, -⟩ := hnew q hq; rw [h₁]; exact h₂
  · rw [hp, List.map_append]
    refine List.nodup_append.2 ⟨hi.published_nodup, ?_, fun a ha hb => ?_⟩
    · rcases new with _ | ⟨_, _ | ⟨_, _⟩⟩
      · exact List.nodup_nil
      · exact List.nodup_singleton _
      · simp at hnew₁
    · obtain ⟨q, hq, rfl⟩ := List.mem_map.1 hb
      obtain ⟨q', hq', he⟩ := List.mem_map.1 ha
      exact hpub q' hq' (he.trans (hnew q hq).1)

/-- A resumption of run `i` that takes a free EID `e`, confirms none and
    publishes nothing keeps the invariant. -/
theorem Inv.take (hi : f.Inv) {f' : Fleet} {i : Nat} {e : UInt8} (hsp : i < f.spawned)
    (hsp' : f'.spawned = f.spawned) (hruns : ∀ j, j ≠ i → f'.runs j = f.runs j)
    (hc : f'.confirmed = f.confirmed) (hp : f'.published = f.published)
    (hreq' : (f'.runs i).requested = some e) (hvia' : ∀ g u d, f'.runs i ≠ .getMsgTypes g u d)
    (hfree : f.pool.flag e = some false)
    (hflag : ∀ x, f'.pool.flag x = if x = e then some true else f.pool.flag x)
    (hpub : ∀ p ∈ f.published, p.1 ≠ i) : f'.Inv := by
  have hgain : ∀ x, f.pool.flag x = some true → f'.pool.flag x = some true := fun x hx => by
    rw [hflag]; split <;> [rfl; exact hx]
  -- no other run holds `e`, and it is not confirmed
  have hother : ∀ j, (f.runs j).requested ≠ some e := fun j h => by
    have := hi.held j e h; rw [hfree] at this; cases this
  have hfresh : e ∉ f.confirmed.map Prod.snd := fun h => by
    obtain ⟨q, hq, rfl⟩ := List.mem_map.1 h
    have := hi.confirmed_assigned q hq; rw [hfree] at this; cases this
  have hold : ∀ j x, (f'.runs j).requested = some x →
      (j = i ∧ x = e) ∨ (j ≠ i ∧ (f.runs j).requested = some x) := by
    intro j x h
    by_cases hj : j = i
    · subst hj; rw [hreq'] at h; exact .inl ⟨rfl, (Option.some.inj h).symm⟩
    · rw [hruns j hj] at h; exact .inr ⟨hj, h⟩
  refine ⟨fun j hj => ?_, fun j x h => ?_, fun j k x h₁ h₂ => ?_, fun j x h => ?_,
    fun q hq => hgain _ (hi.confirmed_assigned q (hc ▸ hq)), hc ▸ hi.confirmed_nodup,
    fun j g u d h => ?_, fun q hq hb => hc ▸ hi.published_via q (hp ▸ hq) hb,
    fun q hq => ?_, hp ▸ hi.published_nodup⟩
  · rw [hsp'] at hj; rw [hruns j (by omega)]; exact hi.unspawned j hj
  · rcases hold j x h with ⟨-, rfl⟩ | ⟨-, h⟩
    · rw [hflag, if_pos rfl]
    · exact hgain x (hi.held j x h)
  · rcases hold j x h₁ with ⟨hj, hx⟩ | ⟨-, h₁⟩ <;> rcases hold k x h₂ with ⟨hk, hx'⟩ | ⟨-, h₂⟩
    · rw [hj, hk]
    · exact absurd (hx ▸ h₂) (hother k)
    · exact absurd (hx' ▸ h₁) (hother j)
    · exact hi.held_inj j k x h₁ h₂
  · rw [hc]
    rcases hold j x h with ⟨-, rfl⟩ | ⟨-, h⟩
    · exact hfresh
    · exact hi.held_fresh j x h
  · by_cases hj : j = i
    · subst hj; exact absurd h (hvia' g u d)
    · rw [hruns j hj] at h; exact hc ▸ hi.via j g u d h
  · rw [hp] at hq; rw [hruns _ (hpub q hq)]; exact hi.published_done q hq

/-- A resumption of run `i` whose Set EID exchange confirmed the EID `e` it
    holds, moving on to the message types of `e`, keeps the invariant. -/
theorem Inv.confirm (hi : f.Inv) {f' : Fleet} {i : Nat} {e : UInt8} (hsp : i < f.spawned)
    (hsp' : f'.spawned = f.spawned) (hruns : ∀ j, j ≠ i → f'.runs j = f.runs j)
    (hreq : (f.runs i).requested = some e) (hreq' : (f'.runs i).requested = none)
    (hc : f'.confirmed = f.confirmed ++ [(i, e)]) (hp : f'.published = f.published)
    (hvia' : ∀ g u d, f'.runs i = .getMsgTypes g u d → d = e)
    (hgain : ∀ x, f.pool.flag x = some true → f'.pool.flag x = some true)
    (hpub : ∀ p ∈ f.published, p.1 ≠ i) : f'.Inv := by
  have hold : ∀ j x, (f'.runs j).requested = some x → j ≠ i ∧ (f.runs j).requested = some x := by
    intro j x h
    by_cases hj : j = i
    · subst hj; rw [hreq'] at h; cases h
    · rw [hruns j hj] at h; exact ⟨hj, h⟩
  have hsub : ∀ q ∈ f.confirmed, q ∈ f'.confirmed := fun q hq => hc ▸ List.mem_append_left _ hq
  refine ⟨fun j hj => ?_, fun j x h => hgain x (hi.held j x (hold j x h).2),
    fun j k x h₁ h₂ => hi.held_inj j k x (hold j x h₁).2 (hold k x h₂).2, fun j x h => ?_,
    fun q hq => ?_, ?_, fun j g u d h => ?_, fun q hq hb => hsub _ (hi.published_via q (hp ▸ hq) hb),
    fun q hq => ?_, hp ▸ hi.published_nodup⟩
  · rw [hsp'] at hj; rw [hruns j (by omega)]; exact hi.unspawned j hj
  · obtain ⟨hj, h⟩ := hold j x h
    have hx : x ≠ e := fun hx => hj (hi.held_inj j i x h (hx ▸ hreq))
    rw [hc, List.map_append, List.mem_append, not_or]
    exact ⟨hi.held_fresh j x h, by simpa using hx⟩
  · rw [hc] at hq
    rcases List.mem_append.1 hq with hq | hq
    · exact hgain _ (hi.confirmed_assigned q hq)
    · rw [List.mem_singleton.1 hq]; exact hgain e (hi.held i e hreq)
  · rw [hc, List.map_append]
    exact List.nodup_append.2 ⟨hi.confirmed_nodup, List.nodup_singleton _,
      fun x hx hx' => hi.held_fresh i e hreq (by rw [List.mem_singleton.1 hx'] at hx; exact hx)⟩
  · by_cases hj : j = i
    · subst hj; rw [hc, hvia' g u d h]; exact fun _ => List.mem_append_right _ (List.mem_singleton_self _)
    · rw [hruns j hj] at h; exact fun hg => hsub _ (hi.via j g u d h hg)
  · rw [hp] at hq; rw [hruns _ (hpub q hq)]; exact hi.published_done q hq

/-- A run that has not finished is spawned and has published nothing. -/
theorem Inv.live (hi : f.Inv) {i : Nat} (h : ∀ r, f.runs i ≠ .done r) :
    i < f.spawned ∧ ∀ p ∈ f.published, p.1 ≠ i := by
  refine ⟨Nat.lt_of_not_le fun hle => h _ (hi.unspawned i hle), fun p hp he => h (.published p.2.2) ?_⟩
  rw [← he]; exact hi.published_done p hp

section Resume

variable {i : Nat} {o : Option (List UInt8)}

theorem resume_confirmed_of_none (h : (f.runs i).confirms o = none) :
    (f.resume i o).confirmed = f.confirmed := by
  simp [h]

theorem resume_published_of_none
    (h : Phase.publishes (f.runs i) (Mctpd.resume f.pool (f.runs i) o).2 = none) :
    (f.resume i o).published = f.published := by
  simp [h]

theorem publishes_eq_some {ph ph' : Phase} {b : Bool} {ep : EndpointProperties}
    (h : Phase.publishes ph ph' = some (b, ep)) : ∃ g u d, ph = .getMsgTypes g u d ∧
      ph' = .done (.published ep) ∧ b = (getEidRespEid g == 0x00) := by
  unfold Phase.publishes at h
  split at h
  · cases h; exact ⟨_, _, _, rfl, rfl, rfl⟩
  · cases h

theorem publish_endpointEid {g u : List UInt8} {d : UInt8} {r : MsgTypeSupportCtrlResp}
    {ep : EndpointProperties} (h : publish g u d r = .published ep) : ep.endpointEid = d := by
  unfold publish at h
  split at h
  · cases h
  · split at h
    · cases h
    · cases h; rfl

/-- The new entries of `published` after resuming run `i`: at most one, its
    own endpoint, carrying its confirmed EID when it came through Set EID. -/
theorem resume_published_new (hi : f.Inv) :
    ∀ p ∈ ((Phase.publishes (f.runs i) (Mctpd.resume f.pool (f.runs i) o).2).map (i, ·)).toList,
      p.1 = i ∧ (f.resume i o).runs i = .done (.published p.2.2) ∧
        (p.2.1 = true → (i, p.2.2.endpointEid) ∈ f.confirmed) := by
  intro p hp
  cases hpub : Phase.publishes (f.runs i) (Mctpd.resume f.pool (f.runs i) o).2 with
  | none => rw [hpub] at hp; cases hp
  | some be =>
    obtain ⟨b, ep⟩ := be
    rw [hpub, Option.map_some', Option.toList_some, List.mem_singleton] at hp
    subst hp
    obtain ⟨g, u, d, hph, hres, rfl⟩ := publishes_eq_some hpub
    refine ⟨rfl, by rw [resume_runs, Function.update_same, hres], fun hb => ?_⟩
    have hd : ep.endpointEid = d := by
      rw [hph] at hres
      simp only [Mctpd.resume] at hres
      split at hres
      · exact publish_endpointEid (Phase.done.inj hres)
      · cases hres
    rw [hd]
    exact hi.via i g u d hph (beq_iff_eq.1 hb)

/-- Resuming a run that has not finished, which confirms no EID, takes none
    and keeps the EIDs other runs hold or confirmed assigned, keeps the
    invariant. -/
theorem Inv.resume_quiet (hi : f.Inv) (hlive : ∀ r, f.runs i ≠ .done r)
    (hc : (f.runs i).confirms o = none)
    (hreq' : (Mctpd.resume f.pool (f.runs i) o).2.requested = none)
    (hgain : ∀ x, f.pool.flag x = some true →
      (∃ j, j ≠ i ∧ (f.runs j).requested = some x) ∨ x ∈ f.confirmed.map Prod.snd →
      (Mctpd.resume f.pool (f.runs i) o).1.flag x = some true)
    (hvia : ∀ g u d, (Mctpd.resume f.pool (f.runs i) o).2 = .getMsgTypes g u d →
      getEidRespEid g = 0x00 → (i, d) ∈ f.confirmed) : (f.resume i o).Inv := by
  have hl := hi.live hlive
  have hself : (f.resume i o).runs i = (Mctpd.resume f.pool (f.runs i) o).2 :=
    Function.update_same _ _ _
  refine hi.quiet hl.1 rfl (fun j hj => Function.update_noteq hj _ _)
    (resume_confirmed_of_none hc) (hself ▸ hreq') hgain (hself ▸ hvia) hl.2 rfl ?_
    (resume_published_new hi)
  cases Phase.publishes (f.runs i) (Mctpd.resume f.pool (f.runs i) o).2 <;> simp

theorem Inv.resume_getEid (hi : f.Inv) (hph : f.runs i = .getEid) : (f.resume i o).Inv := by
  refine hi.resume_quiet (by rw [hph]; intro r h; cases h) (by rw [hph]; rfl) ?_ ?_ ?_ <;>
    rw [hph] <;> simp only [Mctpd.resume]
  · split <;> rfl
  · intro x hx _
    split
    · split
      · exact flag_updateEidStatus_true_of _ hx
      · exact hx
    · exact hx
  · intro g u d h
    split at h <;> cases h

theorem Inv.resume_getUuid (hi : f.Inv) {g : List UInt8} (hph : f.runs i = .getUuid g) :
    (f.resume i o).Inv := by
  have hlive : ∀ r, f.runs i ≠ .done r := by rw [hph]; intro r h; cases h
  have hc : (f.runs i).confirms o = none := by rw [hph]; rfl
  by_cases hg : getEidRespEid g = 0x00
  · cases ha : getAvailableEidFromPool f.pool with
    | none =>
      have hr : Mctpd.resume f.pool (f.runs i) o = (f.pool, .done .aborted) := by
        rw [hph]; simp only [Mctpd.resume, if_pos hg, ha]
      refine hi.resume_quiet hlive hc ?_ ?_ ?_ <;> rw [hr]
      · rfl
      · exact fun x hx _ => hx
      · intro g u d h; cases h
    | some r =>
      -- the run takes a free EID from the pool
      obtain ⟨e, pool'⟩ := r
      have hr : Mctpd.resume f.pool (f.runs i) o = (pool', .setEid g (exchange o).2 e) := by
        rw [hph]; simp only [Mctpd.resume, if_pos hg, ha]
      have hself : (f.resume i o).runs i = .setEid g (exchange o).2 e := by
        rw [resume_runs, Function.update_same, hr]
      obtain ⟨hfree, hflag⟩ := flag_getAvailableEidFromPool ha
      have hl := hi.live hlive
      refine hi.take hl.1 rfl (fun j hj => Function.update_noteq hj _ _)
        (resume_confirmed_of_none hc) (resume_published_of_none (by rw [hr, hph]; rfl))
        (by rw [hself]; rfl) (fun g u d h => by rw [hself] at h; cases h) hfree
        (fun x => by rw [resume_pool, hr]; exact hflag x) hl.2
  · have hr : Mctpd.resume f.pool (f.runs i) o =
        (f.pool, .getMsgTypes g (exchange o).2 (getEidRespEid g)) := by
      rw [hph]; simp only [Mctpd.resume, if_neg hg]
    refine hi.resume_quiet hlive hc ?_ ?_ ?_ <;> rw [hr]
    · rfl
    · exact fun x hx _ => hx
    · intro g' u d h hg'; cases h; exact absurd hg' hg

theorem Inv.resume_setEid (hi : f.Inv) {g u : List UInt8} {e : UInt8}
    (hph : f.runs i = .setEid g u e) (he : Echoes (f.runs i) o) : (f.resume i o).Inv := by
  have hlive : ∀ r, f.runs i ≠ .done r := by rw [hph]; intro r h; cases h
  have hreq : (f.runs i).requested = some e := by rw [hph]; rfl
  by_cases hok : setEidCtrlCmd (exchange o).1 (exchange o).2
  · -- Set EID succeeded, and the peer took `e`
    have hcf : (f.runs i).confirms o = some (setEidRespEidSet (exchange o).2) := by
      rw [hph]; simp only [Phase.confirms, if_pos hok]
    have hes : setEidRespEidSet (exchange o).2 = e := by
      rcases he with h | h <;> rw [hcf] at h
      · cases h
      · rw [hreq] at h; exact Option.some.inj h
    have hr : Mctpd.resume f.pool (f.runs i) o =
        (updateEidStatus e true f.pool, .getMsgTypes g u e) := by
      rw [hph]; simp only [Mctpd.resume, if_pos hok, hes]
    have hself : (f.resume i o).runs i = .getMsgTypes g u e := by
      rw [resume_runs, Function.update_same, hr]
    have hl := hi.live hlive
    refine hi.confirm hl.1 rfl (fun j hj => Function.update_noteq hj _ _) hreq
      (by rw [hself]; rfl) (by rw [resume_confirmed, hcf, hes]; rfl)
      (resume_published_of_none (by rw [hr, hph]; rfl))
      (fun g u d h => by rw [hself] at h; cases h; rfl)
      (fun x hx => by rw [resume_pool, hr]; exact flag_updateEidStatus_true_of _ hx) hl.2
  · -- Set EID failed: `e` goes back to the pool, and no one else holds it
    have hcf : (f.runs i).confirms o = none := by
      rw [hph]; simp only [Phase.confirms, if_neg hok]
    have hr : Mctpd.resume f.pool (f.runs i) o = (updateEidStatus e false f.pool, .done .aborted) := by
      rw [hph]; simp only [Mctpd.resume, if_neg hok]
    refine hi.resume_quiet hlive hcf ?_ ?_ ?_ <;> rw [hr]
    · rfl
    · intro x hx hown
      have hne : x ≠ e := by
        rintro rfl
        rcases hown with ⟨j, hj, hjx⟩ | hmem
        · exact hj (hi.held_inj j i x hjx hreq)
        · exact hi.held_fresh i x hreq hmem
      rw [flag_updateEidStatus_of_ne _ hne]; exact hx
    · intro g u d h; cases h

theorem Inv.resume_getMsgTypes (hi : f.Inv) {g u : List UInt8} {d : UInt8}
    (hph : f.runs i = .getMsgTypes g u d) : (f.resume i o).Inv := by
  refine hi.resume_quiet (by rw [hph]; intro r h; cases h) (by rw [hph]; rfl) ?_ ?_ ?_ <;>
    rw [hph]
  · rfl
  · exact fun x hx _ => hx
  · intro g u d h; cases h

/-- Resuming any run keeps the invariant, the peer confirming the EID it was
    asked to take. -/
theorem Inv.resume (hi : f.Inv) (i : Nat) (o : Option (List UInt8)) (he : Echoes (f.runs i) o) :
    (f.resume i o).Inv := by
  cases hph : f.runs i with
  | getEid => exact hi.resume_getEid hph
  | getUuid g => exact hi.resume_getUuid hph
  | setEid g u e => exact hi.resume_setEid hph he
  | getMsgTypes g u d => exact hi.resume_getMsgTypes hph
  | done r => rw [resume_of_done hph]; exact hi

end Resume

theorem Inv.step {f f' : Fleet} (hi : f.Inv) (h : Step f f') : f'.Inv := by
  cases h with
  | spawn => exact hi.spawn
  | resume i o he => exact hi.resume i o he

theorem Inv.steps {f f' : Fleet} (hi : f.Inv) (h : Relation.ReflTransGen Step f f') : f'.Inv := by
  induction h with
  | refl => exact hi
  | tail _ hs ih => exact ih.step hs

/-- `confirmed` is a log: a step only appends to it. -/
theorem confirmed_prefix_of_step {f f' : Fleet} (h : Step f f') : f.confirmed <+: f'.confirmed := by
  cases h with
  | spawn => exact List.prefix_refl _
  | resume i o _ => exact List.prefix_append _ _

theorem confirmed_prefix_of_steps {f f' : Fleet} (h : Relation.ReflTransGen Step f f') :
    f.confirmed <+: f'.confirmed := by
  induction h with
  | refl => exact List.prefix_refl _
  | tail _ hs ih => exact ih.trans (confirmed_prefix_of_step hs)

/-- Over every interleaving of any number of runs from any pool, each peer
    confirming the EID it was asked to take: no EID is confirmed twice, an EID
    once confirmed stays assigned at every later step, and no two endpoints
    published through Set EID carry the same EID. -/
theorem eid_uniqueness {pool : EidPool} {f f' : Fleet}
    (h : Relation.ReflTransGen Step (init pool) f) (h' : Relation.ReflTransGen Step f f') :
    (f.confirmed.map Prod.snd).Nodup ∧ (∀ p ∈ f.confirmed, f'.pool.flag p.2 = some true) ∧
      ((f.published.filter (·.2.1)).map (·.2.2.endpointEid)).Nodup := by
  have hi := (inv_init pool).steps h
  have hi' := hi.steps h'
  refine ⟨hi.confirmed_nodup, fun p hp =>
    hi'.confirmed_assigned p ((confirmed_prefix_of_steps h').subset hp), ?_⟩
  -- the EID of such an endpoint is its run's confirmed EID, and runs publish once
  have hsub : ∀ q ∈ f.published.filter (·.2.1), (q.1, q.2.2.endpointEid) ∈ f.confirmed :=
    fun q hq => by
      rw [List.mem_filter] at hq; exact hi.published_via q hq.1 hq.2
  have hfst : ((f.published.filter (·.2.1)).map Prod.fst).Nodup :=
    hi.published_nodup.sublist ((List.filter_sublist _).map _)
  refine (hfst.of_map _).map_on fun x hx y hy hxy => ?_
  have hpair := List.inj_on_of_nodup_map hi.confirmed_nodup (hsub x hx) (hsub y hy) hxy
  exact List.inj_on_of_nodup_map hfst hx hy (Prod.mk.inj hpair).1

/-- Two runs interleaved on the pool `{1, 2}`, which libstdc++ iterates as
    `2, 1`: both report no EID, take 2 and 1 in turn, and the second run's Set
    EID exchange completes first. -/
def twoRuns : Fleet :=
  ((((((init (initializeEidPool .front [1, 2] EidPool.empty)).spawn.spawn.resume 0
    (some (List.replicate 7 0))).resume 1 (some (List.replicate 7 0))).resume 0
    (some (List.replicate 20 0))).resume 1 (some (List.replicate 20 0))).resume 1
    (some [0, 0, 0, 0, 0, 1, 0])).resume 0 (some [0, 0, 0, 0, 0, 2, 0])

theorem eid_uniqueness_two_runs :
    Relation.ReflTransGen Step (init (initializeEidPool .front [1, 2] EidPool.empty)) twoRuns ∧
      twoRuns.confirmed = [(1, 1), (0, 2)] ∧ (twoRuns.confirmed.map Prod.snd).Nodup ∧
      (∀ p ∈ twoRuns.confirmed, twoRuns.pool.flag p.2 = some true) ∧
      ((twoRuns.published.filter (·.2.1)).map (·.2.2.endpointEid)).Nodup := by
  have h : Relation.ReflTransGen Step (init (initializeEidPool .front [1, 2] EidPool.empty)) twoRuns := by
    unfold twoRuns
    refine .tail (.tail (.tail (.tail (.tail (.tail (.tail (.single (.spawn _)) (.spawn _))
      (.resume _ 0 _ ?_)) (.resume _ 1 _ ?_)) (.resume _ 0 _ ?_)) (.resume _ 1 _ ?_))
      (.resume _ 1 _ ?_)) (.resume _ 0 _ ?_) <;> decide
  exact ⟨h, by decide, eid_uniqueness h .refl⟩

end Fleet

end Mctpd