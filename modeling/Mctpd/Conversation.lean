import Mctpd.Daemon

/-!
# What a registration run sends

A run of `busOwnerRegisterEndpoint` waits in each phase on the request of that
phase (`Phase.request`), which the phase's `*CtrlCmd` wrapper formats and
`sendAndRcvMctpCtrl` sends. The *conversation* of a run is the list of these
requests, in turn, as its exchanges end. The phases of the pipeline have a
stage each (`Phase.stage`), and so have the commands they send
(`CtrlCmd.stage`).

* `Phase.stage_resume`: a resumption moves a waiting run on to a later stage;
* `busOwnerRegisterEndpoint_four`: so every run ends within four exchanges,
  whatever their outcomes, and what comes after changes nothing;
* `conversation_sorted`: the requests of a run from any phase come in
  strictly increasing stages, none before the phase's own;
* `conversation_pipeline`: for every pool and every outcome of its exchanges,
  a run sends Get Endpoint ID first, to the null EID, then Get Endpoint UUID,
  Set Endpoint ID and Get Message Type Support in that order, each at most
  once, and no other command;
* `conversation_addressing`: what each request of a run carries. Nothing
  follows a failed Get Endpoint ID; Get Endpoint UUID goes to the EID the
  endpoint reported, the null EID when it reported none; Set Endpoint ID is
  sent only to an endpoint that reported none, addressed to the null EID, with
  the first free EID of the pool; Get Message Type Support goes to the EID the
  endpoint reported, or else to the EID its Set Endpoint ID response confirmed.
-/

namespace Mctpd

/-- Where a command stands in the pipeline of a registration: Get Endpoint ID,
    Get Endpoint UUID, Set Endpoint ID, Get Message Type Support; the commands
    no phase sends come last. -/
def CtrlCmd.stage : CtrlCmd → Nat
  | .getEndpointId => 0
  | .getEndpointUuid => 1
  | .setEndpointId .. => 2
  | .getMessageTypeSupport => 3
  | _ => 4

/-- Where a phase stands in the pipeline: the stage of the command it waits
    on, and the last stage once the run is done. -/
def Phase.stage : Phase → Nat
  | .getEid => 0
  | .getUuid _ => 1
  | .setEid .. => 2
  | .getMsgTypes .. => 3
  | .done _ => 4

/-- The requests a run sends from the phase `ph` on the pool `pool`, its
    exchanges ending as `outcomes` say: the request of each phase it waits in,
    in turn. -/
def conversation (pool : EidPool) (ph : Phase) :
    List (Option (List UInt8)) → List (CtrlCmd × UInt8)
  | [] => ph.request.toList
  | o :: os => ph.request.toList ++ conversation (resume pool ph o).1 (resume pool ph o).2 os

namespace Phase

theorem stage_request {ph : Phase} {x : CtrlCmd × UInt8} (h : ph.request = some x) :
    x.1.stage = ph.stage ∧ ph.stage < 4 := by
  cases ph <;> cases h <;> exact ⟨rfl, by simp [stage]⟩

/-- A resumption moves a waiting run on to a later stage. -/
theorem stage_resume (pool : EidPool) {ph : Phase} (o : Option (List UInt8))
    (h : ∀ r, ph ≠ .done r) : ph.stage < (resume pool ph o).2.stage := by
  cases ph with
  | done r => exact absurd rfl (h r)
  | _ =>
    simp only [resume]
    repeat' split
    all_goals simp [stage]

theorem eq_done_of_stage {ph : Phase} (h : 4 ≤ ph.stage) : ∃ r, ph = .done r := by
  cases ph with
  | done r => exact ⟨r, rfl⟩
  | _ => simp [stage] at h

/-- A resumption moves a run on by a stage, unless it is done. -/
theorem stage_resume_ge (pool : EidPool) (ph : Phase) (o : Option (List UInt8)) :
    min (ph.stage + 1) 4 ≤ (resume pool ph o).2.stage := by
  by_cases hd : ∃ r, ph = .done r
  · obtain ⟨r, rfl⟩ := hd; simp [resume, stage]
  · exact (min_le_left _ _).trans (stage_resume pool o (not_exists.1 hd))

end Phase

/-- A finished run stays as it is, whatever the later outcomes. -/
theorem foldl_resume_done (pool : EidPool) (r : RegisterResult) (os : List (Option (List UInt8))) :
    os.foldl (fun r o => resume r.1 r.2 o) (pool, .done r) = (pool, .done r) := by
  induction os with
  | nil => rfl
  | cons o os ih => exact ih

/-- Each exchange moves a run on by a stage, until it is done. -/
theorem stage_foldl_resume (os : List (Option (List UInt8))) :
    ∀ (pool : EidPool) (ph : Phase),
      min (ph.stage + os.length) 4 ≤ (os.foldl (fun r o => resume r.1 r.2 o) (pool, ph)).2.stage := by
  induction os with
  | nil => intro pool ph; simp
  | cons o os ih =>
    intro pool ph
    have h := Phase.stage_resume_ge pool ph o
    have ih' := ih (resume pool ph o).1 (resume pool ph o).2
    rw [Prod.mk.eta] at ih'
    simp only [List.foldl_cons, List.length_cons]
    omega

/-- Every run ends within four exchanges, whatever their outcomes, and the
    outcomes after the fourth change neither the pool nor how it ended: a run
    is its first four exchanges. -/
theorem busOwnerRegisterEndpoint_four (pool : EidPool) (o₁ o₂ o₃ o₄ : Option (List UInt8))
    (os : List (Option (List UInt8))) :
    (∃ r, (busOwnerRegisterEndpoint pool [o₁, o₂, o₃, o₄]).2 = .done r) ∧
      busOwnerRegisterEndpoint pool ([o₁, o₂, o₃, o₄] ++ os) =
        busOwnerRegisterEndpoint pool [o₁, o₂, o₃, o₄] := by
  obtain ⟨r, hr⟩ := Phase.eq_done_of_stage (stage_foldl_resume [o₁, o₂, o₃, o₄] pool .getEid)
  have hr' : (busOwnerRegisterEndpoint pool [o₁, o₂, o₃, o₄]).2 = .done r := hr
  refine ⟨⟨r, hr'⟩, ?_⟩
  rw [busOwnerRegisterEndpoint, List.foldl_append, ← busOwnerRegisterEndpoint]
  generalize busOwnerRegisterEndpoint pool [o₁, o₂, o₃, o₄] = b at hr' ⊢
  obtain ⟨p, ph⟩ := b
  obtain rfl : ph = .done r := hr'
  exact foldl_resume_done p r os

section Conversation

variable (pool : EidPool)

@[simp] theorem conversation_done (r : RegisterResult) (os : List (Option (List UInt8))) :
    conversation pool (.done r) os = [] := by
  induction os with
  | nil => rfl
  | cons o os ih => exact ih

/-- The requests of a run from any phase come in strictly increasing stages,
    none before the phase's own, and all before the last. -/
theorem conversation_sorted (ph : Phase) (os : List (Option (List UInt8))) :
    (∀ x ∈ conversation pool ph os, ph.stage ≤ x.1.stage ∧ x.1.stage < 4) ∧
      (conversation pool ph os).Pairwise (fun x y => x.1.stage < y.1.stage) := by
  induction os generalizing pool ph with
  | nil =>
    cases h : ph.request with
    | none => simp [conversation, h]
    | some x => simp [conversation, h, (Phase.stage_request h).1, (Phase.stage_request h).2]
  | cons o os ih =>
    by_cases hd : ∃ r, ph = .done r
    · obtain ⟨r, rfl⟩ := hd; simp
    have hlt := Phase.stage_resume pool o (not_exists.1 hd)
    obtain ⟨ih₁, ih₂⟩ := ih (resume pool ph o).1 (resume pool ph o).2
    -- every later request is at a stage past the resumed phase's
    have hlater : ∀ y ∈ conversation (resume pool ph o).1 (resume pool ph o).2 os,
        ph.stage < y.1.stage ∧ y.1.stage < 4 :=
      fun y hy => ⟨hlt.trans_le (ih₁ y hy).1, (ih₁ y hy).2⟩
    cases h : ph.request with
    | none =>
      simp only [conversation, h, Option.toList_none, List.nil_append]
      exact ⟨fun y hy => ⟨(hlater y hy).1.le, (hlater y hy).2⟩, ih₂⟩
    | some x =>
      obtain ⟨hx, hx4⟩ := Phase.stage_request h
      simp only [conversation, h, Option.toList_some, List.singleton_append, List.mem_cons,
        List.pairwise_cons, forall_eq_or_imp, hx]
      exact ⟨⟨⟨le_rfl, hx4⟩, fun y hy => ⟨(hlater y hy).1.le, (hlater y hy).2⟩⟩,
        fun y hy => (hlater y hy).1, ih₂⟩

/-- The pipeline of a registration, for every pool and every outcome of its
    exchanges: a run sends Get Endpoint ID first, to the null EID, and then
    its requests in strictly increasing stages, so Get Endpoint UUID, Set
    Endpoint ID and Get Message Type Support in that order and each at most
    once, and no other command. -/
theorem conversation_pipeline (os : List (Option (List UInt8))) :
    (conversation pool .getEid os).head? = some (.getEndpointId, 0x00) ∧
      (conversation pool .getEid os).Pairwise (fun x y => x.1.stage < y.1.stage) ∧
      ∀ x ∈ conversation pool .getEid os, x.1.stage < 4 := by
  obtain ⟨hle, hsorted⟩ := conversation_sorted pool .getEid os
  exact ⟨by cases os <;> rfl, hsorted, fun x hx => (hle x hx).2⟩

/-- Once a run waits for the message types of `destEid`, it asks that EID and
    nothing more. -/
theorem conversation_getMsgTypes (g u : List UInt8) (destEid : UInt8)
    (os : List (Option (List UInt8))) :
    conversation pool (.getMsgTypes g u destEid) os = [(.getMessageTypeSupport, destEid)] := by
  cases os with
  | nil => rfl
  | cons o os => exact congrArg _ (conversation_done _ _ os)

/-- From Set Endpoint ID on: the request for `eid`, to the null EID, and, when
    the exchange succeeds, Get Message Type Support to the EID it confirms. -/
theorem mem_conversation_setEid {g u : List UInt8} {eid : UInt8}
    {os : List (Option (List UInt8))} {x : CtrlCmd × UInt8}
    (hx : x ∈ conversation pool (.setEid g u eid) os) :
    x = (.setEndpointId .setEid eid, 0x00) ∨
      setEidCtrlCmd (exchange (os.getD 0 none)).1 (exchange (os.getD 0 none)).2 = true ∧
        x = (.getMessageTypeSupport, setEidRespEidSet (exchange (os.getD 0 none)).2) := by
  cases os with
  | nil => exact .inl (by simpa [conversation, Phase.request] using hx)
  | cons o os =>
    simp only [conversation, Phase.request, resume, Option.toList_some, List.singleton_append,
      List.mem_cons] at hx
    refine hx.imp_right fun hx => ?_
    split at hx
    · rename_i hs
      rw [conversation_getMsgTypes, List.mem_singleton] at hx
      exact ⟨hs, hx⟩
    · simp at hx

/-- From Get Endpoint UUID on, after a Get Endpoint ID response `g`: Get
    Endpoint UUID to the EID `g` reports, then Get Message Type Support to that
    EID if it is not the null EID, and otherwise the requests from Set
    Endpoint ID on, for the first free EID of the pool. -/
theorem mem_conversation_getUuid {g : List UInt8} {os : List (Option (List UInt8))}
    {x : CtrlCmd × UInt8} (hx : x ∈ conversation pool (.getUuid g) os) :
    x = (.getEndpointUuid, getEidRespEid g) ∨
      getEidRespEid g ≠ 0x00 ∧ x = (.getMessageTypeSupport, getEidRespEid g) ∨
      getEidRespEid g = 0x00 ∧ ∃ eid pool', getAvailableEidFromPool pool = some (eid, pool') ∧
        (x = (.setEndpointId .setEid eid, 0x00) ∨
          setEidCtrlCmd (exchange (os.getD 1 none)).1 (exchange (os.getD 1 none)).2 = true ∧
            x = (.getMessageTypeSupport, setEidRespEidSet (exchange (os.getD 1 none)).2)) := by
  cases os with
  | nil => exact .inl (by simpa [conversation, Phase.request] using hx)
  | cons o os =>
    simp only [conversation, Phase.request, resume, Option.toList_some, List.singleton_append,
      List.mem_cons] at hx
    refine hx.imp_right fun hx => ?_
    split at hx
    · rename_i h0
      refine .inr ⟨h0, ?_⟩
      split at hx
      · rename_i eid pool' ha
        exact ⟨eid, pool', ha, mem_conversation_setEid pool' hx⟩
      · simp at hx
    · rename_i h0
      rw [conversation_getMsgTypes, List.mem_singleton] at hx
      exact .inl ⟨h0, hx⟩

/-- What each request of a run carries, for every pool and every outcome of its
    exchanges, the first being `o`: nothing follows a failed Get Endpoint ID;
    Get Endpoint UUID goes to the EID the endpoint reported, the null EID when
    it reported none; Set Endpoint ID is sent only to an endpoint that reported
    none, addressed to the null EID, with the first free EID of the pool; Get
    Message Type Support goes to the EID the endpoint reported, or else to the
    EID its Set Endpoint ID response confirmed. -/
theorem conversation_addressing (o : Option (List UInt8)) (os : List (Option (List UInt8)))
    {x : CtrlCmd × UInt8} (hx : x ∈ conversation pool .getEid (o :: os)) :
    x = (.getEndpointId, 0x00) ∨ getEidCtrlCmd (exchange o).1 (exchange o).2 = true ∧
      (x = (.getEndpointUuid, getEidRespEid (exchange o).2) ∨
        getEidRespEid (exchange o).2 ≠ 0x00 ∧
          x = (.getMessageTypeSupport, getEidRespEid (exchange o).2) ∨
        getEidRespEid (exchange o).2 = 0x00 ∧ ∃ eid pool',
          getAvailableEidFromPool pool = some (eid, pool') ∧
          (x = (.setEndpointId .setEid eid, 0x00) ∨
            setEidCtrlCmd (exchange (os.getD 1 none)).1 (exchange (os.getD 1 none)).2 = true ∧
              x = (.getMessageTypeSupport, setEidRespEidSet (exchange (os.getD 1 none)).2))) := by
  simp only [conversation, Phase.request, resume, Option.toList_some, List.singleton_append,
    List.mem_cons] at hx
  refine hx.imp_right fun hx => ?_
  split at hx
  · rename_i hg
    refine ⟨hg, ?_⟩
    rcases mem_conversation_getUuid _ hx with h | h | ⟨h0, h⟩
    · exact .inl h
    · exact .inr (.inl h)
    · -- the reported EID is the null EID, so the pool is the one the run found
      rw [if_neg (not_not.2 h0)] at h
      exact .inr (.inr ⟨h0, h⟩)
  · simp at hx

/-- An endpoint that reports no EID, on the pool `{1}`: it is sent Set
    Endpoint ID for `1`, to the null EID. -/
theorem conversation_addressing_set_eid :
    (CtrlCmd.setEndpointId .setEid 1, (0x00 : UInt8)) ∈
        conversation (initializeEidPool .front [1] EidPool.empty) .getEid
          [some [0x00, 0x01, 0x02, 0x00, 0x00, 0x00, 0x00],
            some ([0x00, 0x02, 0x03, 0x00] ++ List.replicate 16 0x11),
            some [0x00, 0x03, 0x01, 0x00, 0x00, 0x01, 0x00]] ∧
      ((CtrlCmd.setEndpointId .setEid 1, (0x00 : UInt8)) = (.getEndpointId, 0x00) ∨
        getEidCtrlCmd (exchange (some [0x00, 0x01, 0x02, 0x00, 0x00, 0x00, 0x00])).1
          (exchange (some [0x00, 0x01, 0x02, 0x00, 0x00, 0x00, 0x00])).2 = true ∧
        ((CtrlCmd.setEndpointId .setEid 1, (0x00 : UInt8)) =
            (.getEndpointUuid, getEidRespEid (exchange (some [0x00, 0x01, 0x02, 0x00, 0x00, 0x00, 0x00])).2) ∨
          getEidRespEid (exchange (some [0x00, 0x01, 0x02, 0x00, 0x00, 0x00, 0x00])).2 ≠ 0x00 ∧
            (CtrlCmd.setEndpointId .setEid 1, (0x00 : UInt8)) = (.getMessageTypeSupport,
              getEidRespEid (exchange (some [0x00, 0x01, 0x02, 0x00, 0x00, 0x00, 0x00])).2) ∨
          getEidRespEid (exchange (some [0x00, 0x01, 0x02, 0x00, 0x00, 0x00, 0x00])).2 = 0x00 ∧
            ∃ eid pool', getAvailableEidFromPool (initializeEidPool .front [1] EidPool.empty) =
                some (eid, pool') ∧
              ((CtrlCmd.setEndpointId .setEid 1, (0x00 : UInt8)) = (.setEndpointId .setEid eid, 0x00) ∨
                setEidCtrlCmd (exchange (some [0x00, 0x03, 0x01, 0x00, 0x00, 0x01, 0x00])).1
                    (exchange (some [0x00, 0x03, 0x01, 0x00, 0x00, 0x01, 0x00])).2 = true ∧
                  (CtrlCmd.setEndpointId .setEid 1, (0x00 : UInt8)) = (.getMessageTypeSupport,
                    setEidRespEidSet (exchange (some [0x00, 0x03, 0x01, 0x00, 0x00, 0x01, 0x00])).2)))) :=
  have hx : (CtrlCmd.setEndpointId .setEid 1, (0x00 : UInt8)) ∈
      conversation (initializeEidPool .front [1] EidPool.empty) .getEid
        [some [0x00, 0x01, 0x02, 0x00, 0x00, 0x00, 0x00],
          some ([0x00, 0x02, 0x03, 0x00] ++ List.replicate 16 0x11),
          some [0x00, 0x03, 0x01, 0x00, 0x00, 0x01, 0x00]] := by decide
  ⟨hx, conversation_addressing _ _ _ hx⟩

end Conversation

end Mctpd
