import Mctpd.Fleet

/-!
# The shared pool over every interleaving

The runs of a fleet change the pool only through `updateEidStatus` and
`getAvailableEidFromPool`, which never add or remove an EID, and which mark
EIDs assigned, but for one call: the `updateEidStatus(eid, false)` of a run
whose Set Endpoint ID exchange failed, for the EID it took. None of this
depends on what the peers answer, so it is proved over `Move`, the steps of a
fleet whose peers may confirm any EID, of which `Step` is a part.

* `keys_steps`: over every interleaving, the pool's EIDs stay those it had;
* `Inv.setEid_key`, `Inv.confirmed_key`: the EID a run waiting on Set
  Endpoint ID asks for, and every EID confirmed, are EIDs of the pool;
* `resume_frees`, `Move.frees`: a step clears the flag of an assigned EID only
  when it resumes a run that held it after a failed Set Endpoint ID exchange;
* `eid_freed_only_by_failed_setEid`: over every interleaving, the pool's EIDs
  stay those it had, and an EID goes back to the pool only so. The pool knows
  nothing of the EIDs endpoints report as their own: one a run holds goes back
  when its Set Endpoint ID fails, even if another endpoint has meanwhile
  reported it (`eid_freed_while_reported`).
-/

namespace Mctpd

namespace EidPool

theorem mem_keys_emplace (ord : InsertOrder) (m : EidPool) (p e : UInt8) :
    e ∈ (m.emplace ord p).keys ↔ e ∈ m.keys ∨ e = p := by
  unfold emplace
  split
  · rename_i hp
    exact ⟨.inl, fun h => h.elim id fun he => he ▸ hp⟩
  · rw [keys, ((ord.perm _ _).map Prod.fst).mem_iff]
    simp [keys, or_comm]

theorem mem_keys_of_flag {m : EidPool} {e : UInt8} {b : Bool} (h : m.flag e = some b) :
    e ∈ m.keys := by
  obtain ⟨p, hp, he⟩ := List.lookup_isSome_iff.1 (show (m.flag e).isSome by rw [h]; rfl)
  exact (beq_iff_eq.1 he) ▸ List.mem_map_of_mem Prod.fst hp

end EidPool

theorem mem_keys_initializeEidPool (ord : InsertOrder) (P : List UInt8) :
    ∀ (m : EidPool) (e : UInt8), e ∈ (initializeEidPool ord P m).keys ↔ e ∈ m.keys ∨ e ∈ P := by
  induction P with
  | nil => simp [initializeEidPool]
  | cons p P ih =>
    intro m e
    show e ∈ (initializeEidPool ord P (m.emplace ord p)).keys ↔ _
    rw [ih, EidPool.mem_keys_emplace, List.mem_cons]
    tauto

/-- A resumption leaves the pool's EIDs as they are. -/
theorem keys_resume (pool : EidPool) (ph : Phase) (o : Option (List UInt8)) :
    (resume pool ph o).1.keys = pool.keys := by
  cases ph with
  | getUuid g =>
    simp only [resume]
    split
    · split
      · rename_i h; exact (getAvailableEidFromPool_spec h).2.1
      · rfl
    · rfl
  | _ =>
    simp only [resume]
    repeat' split
    all_goals simp

/-- A resumption clears the flag of an assigned EID only when the run held it
    and its Set Endpoint ID exchange failed. -/
theorem resume_frees {pool : EidPool} {ph : Phase} {o : Option (List UInt8)} {e : UInt8}
    (ht : pool.flag e = some true) (hf : (resume pool ph o).1.flag e = some false) :
    ∃ g u, ph = .setEid g u e ∧ setEidCtrlCmd (exchange o).1 (exchange o).2 = false := by
  cases ph with
  | setEid g u eid =>
    simp only [resume] at hf
    split at hf
    · rw [Fleet.flag_updateEidStatus_true_of _ ht] at hf; cases hf
    · rename_i hs
      by_cases he : e = eid
      · exact ⟨g, u, by rw [he], by simpa using hs⟩
      · rw [Fleet.flag_updateEidStatus_of_ne _ he, ht] at hf; cases hf
  | getEid =>
    -- the reported EID is marked assigned
    simp only [resume] at hf
    split at hf
    · split at hf
      · rw [Fleet.flag_updateEidStatus_true_of _ ht] at hf; cases hf
      · rw [ht] at hf; cases hf
    · rw [ht] at hf; cases hf
  | getUuid g =>
    -- an allocation marks the EID it takes assigned
    simp only [resume] at hf
    split at hf
    · split at hf
      · rename_i eid pool' ha
        rw [(flag_getAvailableEidFromPool ha).2 e] at hf
        split at hf
        · cases hf
        · rw [ht] at hf; cases hf
      · rw [ht] at hf; cases hf
    · rw [ht] at hf; cases hf
  | _ => simp only [resume] at hf; rw [ht] at hf; cases hf

namespace Fleet

/-- One step of a fleet whose peers may answer anything: a run is spawned, or
    a run resumes after its exchange ended as `o`, a successful Set Endpoint ID
    response confirming whatever EID it holds. -/
inductive Move : Fleet → Fleet → Prop
  | spawn (f : Fleet) : Move f f.spawn
  | resume (f : Fleet) (i : Nat) (o : Option (List UInt8)) : Move f (f.resume i o)

theorem Step.move {f f' : Fleet} (h : Step f f') : Move f f' := by
  cases h with
  | spawn => exact .spawn f
  | resume i o => exact .resume f i o

theorem keys_steps {f f' : Fleet} (h : Relation.ReflTransGen Move f f') :
    f'.pool.keys = f.pool.keys := by
  induction h with
  | refl => rfl
  | tail _ hs ih =>
    cases hs with
    | spawn => exact ih
    | resume i o => exact (keys_resume _ _ o).trans ih

variable {f : Fleet}

/-- A run waiting on Set Endpoint ID asks for an EID of the pool. -/
theorem Inv.setEid_key (hi : f.Inv) {i : Nat} {g u : List UInt8} {eid : UInt8}
    (h : f.runs i = .setEid g u eid) : eid ∈ f.pool.keys :=
  EidPool.mem_keys_of_flag (hi.held i eid (by rw [h]; rfl))

/-- The EIDs confirmed are EIDs of the pool. -/
theorem Inv.confirmed_key (hi : f.Inv) {p : Nat × UInt8} (hp : p ∈ f.confirmed) :
    p.2 ∈ f.pool.keys :=
  EidPool.mem_keys_of_flag (hi.confirmed_assigned p hp)

/-- A step clears the flag of an assigned EID only when it resumes a run that
    held it after a failed Set Endpoint ID exchange. -/
theorem Move.frees {f' : Fleet} (h : Move f f') {e : UInt8} (ht : f.pool.flag e = some true)
    (hf : f'.pool.flag e = some false) :
    ∃ i g u o, f.runs i = .setEid g u e ∧ setEidCtrlCmd (exchange o).1 (exchange o).2 = false ∧
      f' = f.resume i o := by
  cases h with
  | spawn => rw [show f.spawn.pool = f.pool from rfl, ht] at hf; cases hf
  | resume i o =>
    obtain ⟨g, u, hph, hs⟩ := resume_frees ht hf
    exact ⟨i, g, u, o, hph, hs, rfl⟩

/-- Over every interleaving, whatever the peers answer, the pool's EIDs stay
    those it had, and an EID goes back to the pool only when a run that held it
    has its Set Endpoint ID exchange fail: an EID assigned at one point and
    free at a later one was freed in between by such a resumption. -/
theorem eid_freed_only_by_failed_setEid {f' : Fleet} (h : Relation.ReflTransGen Move f f') :
    f'.pool.keys = f.pool.keys ∧
      ∀ e, f.pool.flag e = some true → f'.pool.flag e = some false →
        ∃ g i gr u o, Relation.ReflTransGen Move f g ∧ g.runs i = .setEid gr u e ∧
          setEidCtrlCmd (exchange o).1 (exchange o).2 = false ∧
          Relation.ReflTransGen Move (g.resume i o) f' := by
  refine ⟨keys_steps h, fun e ht hf => ?_⟩
  induction h with
  | refl => rw [ht] at hf; cases hf
  | @tail b c hr hs ih =>
    -- `e` stays in the pool, so it has a flag before the last step
    have hk : e ∈ b.pool.keys := by rw [keys_steps hr]; exact EidPool.mem_keys_of_flag ht
    obtain ⟨v, hv⟩ := flag_of_mem hk
    cases v with
    | false =>
      obtain ⟨g, i, gr, u, o, hfg, hg, hs', hgb⟩ := ih hv
      exact ⟨g, i, gr, u, o, hfg, hg, hs', hgb.tail hs⟩
    | true =>
      obtain ⟨i, gr, u, o, hb, hs', rfl⟩ := hs.frees hv hf
      exact ⟨b, i, gr, u, o, hr, hb, hs', .refl⟩

/-- Two runs on the pool `{1}`: run `0`'s endpoint reports no EID, and run `0`
    takes `1` and waits on Set Endpoint ID; then run `1`'s endpoint reports `1`
    as its own EID. -/
def heldAndReported : Fleet :=
  ((((init (initializeEidPool .front [1] EidPool.empty)).spawn.resume 0
      (some [0x00, 0x01, 0x02, 0x00, 0x00, 0x00, 0x00])).resume 0 none).spawn).resume 1
    (some [0x00, 0x01, 0x02, 0x00, 0x01, 0x00, 0x00])

/-- Run `0`'s Set Endpoint ID times out: `1` goes back to the pool, although
    run `1`'s endpoint reported it as its own and goes on to Get Endpoint
    UUID. -/
theorem eid_freed_while_reported :
    Relation.ReflTransGen Move heldAndReported (heldAndReported.resume 0 none) ∧
      heldAndReported.pool.flag 1 = some true ∧
      (heldAndReported.resume 0 none).pool.flag 1 = some false ∧
      heldAndReported.runs 1 = .getUuid [0x00, 0x01, 0x02, 0x00, 0x01, 0x00, 0x00] ∧
      (heldAndReported.resume 0 none).pool.keys = heldAndReported.pool.keys ∧
      ∃ g i gr u o, Relation.ReflTransGen Move heldAndReported g ∧ g.runs i = .setEid gr u 1 ∧
        setEidCtrlCmd (exchange o).1 (exchange o).2 = false ∧
        Relation.ReflTransGen Move (g.resume i o) (heldAndReported.resume 0 none) :=
  have hs : Relation.ReflTransGen Move heldAndReported (heldAndReported.resume 0 none) :=
    .single (.resume _ 0 none)
  have ht : heldAndReported.pool.flag 1 = some true := by decide
  have hf : (heldAndReported.resume 0 none).pool.flag 1 = some false := by decide
  ⟨hs, ht, hf, by decide, (eid_freed_only_by_failed_setEid hs).1,
    (eid_freed_only_by_failed_setEid hs).2 1 ht hf⟩

end Fleet

end Mctpd
