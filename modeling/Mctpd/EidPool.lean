import Mctpd.Wire
import Mathlib.Data.List.Perm.Basic
import Mathlib.Data.List.Dedup

/-!
# The EID pool

`eidPoolMap` maps each EID of the configured pool to whether it is assigned.
It is an `unordered_map`: keys are unique, and `getAvailableEidFromPool`
returns the first unassigned key in its iteration order. The model keeps the
entries as a list in that order, with distinct keys (`EidPool.nodup`), so that
no pool with a repeated key can be built. The iteration order of an
`unordered_map` is the library's choice, and it changes as keys are inserted:
libstdc++ puts a key that finds its bucket empty at the front, and a rehash
reverses the order of the buckets. The model takes it as a parameter
(`InsertOrder`): where `emplace` puts a new entry among the others, subject
only to the entries after being those before and the new one. Every theorem
about pools holds for every order; a run on a concrete pool of two EIDs or
more fixes one (`InsertOrder.front`, libstdc++'s for a few small EIDs).

* `keys_runPoolOps`: allocations and flag updates never change the keys;
* `flag_updateEidStatus`: `updateEidStatus` changes the flag of its EID, if
  it is in the pool, and nothing else;
* `getAvailableEidFromPool_eq_none_iff`, `getAvailableEidFromPool_spec`: an
  allocation fails exactly when every EID is assigned, and otherwise marks the
  first unassigned one;
* `eidPool_contract`: a fresh pool of `P` hands out every EID of
  `P` once, in `|P.dedup|` allocations, and is then exhausted.
-/

namespace Mctpd

/-- The iteration order of `eidPoolMap` as keys are inserted: the entries after
    `emplace` of a new entry, which are those before and the new one, in some
    order. -/
structure InsertOrder where
  place : List (UInt8 × Bool) → UInt8 × Bool → List (UInt8 × Bool)
  perm : ∀ l x, (place l x).Perm (x :: l)

/-- Each new key first: libstdc++'s order while every new key finds its bucket
    empty and the table is not rehashed, as for a few small EIDs. -/
def InsertOrder.front : InsertOrder := ⟨fun l x => x :: l, fun _ _ => .refl _⟩

/-- `eidPoolMap`: the entries `(EID, assigned)` in iteration order. -/
structure EidPool where
  entries : List (UInt8 × Bool)
  nodup : (entries.map Prod.fst).Nodup

namespace EidPool

/-- The empty map, before `initializeEidPool`. -/
def empty : EidPool := ⟨[], List.nodup_nil⟩

/-- The EIDs of the pool. -/
def keys (m : EidPool) : List UInt8 := m.entries.map Prod.fst

/-- The flag of `e`, if `e` is in the pool (`eidPoolMap.find`). -/
def flag (m : EidPool) (e : UInt8) : Option Bool := m.entries.lookup e

theorem ext {m m' : EidPool} (h : m.entries = m'.entries) : m = m' := by
  cases m; cases m'; cases h; rfl

/-- `eidPoolMap.emplace(epId, false)`: a new key enters unassigned, where the
    iteration order `ord` puts it; an existing one is left alone. -/
def emplace (ord : InsertOrder) (m : EidPool) (epId : UInt8) : EidPool :=
  if h : epId ∈ m.keys then m
  else ⟨ord.place m.entries (epId, false), by
    rw [((ord.perm _ _).map Prod.fst).nodup_iff]
    simpa [keys] using And.intro h m.nodup⟩

end EidPool

open EidPool

/-- `initializeEidPool`: every EID of the configured pool, unassigned, in the
    iteration order `ord`. -/
def initializeEidPool (ord : InsertOrder) (pool : List UInt8) (m : EidPool) : EidPool :=
  pool.foldl (EidPool.emplace ord) m

/-- The entries after setting the flag of `endpointId` to `assigned`. -/
def setFlag (endpointId : UInt8) (assigned : Bool) (l : List (UInt8 × Bool)) : List (UInt8 × Bool) :=
  l.map fun p => if p.1 = endpointId then (p.1, assigned) else p

theorem map_fst_setFlag (e : UInt8) (b : Bool) (l : List (UInt8 × Bool)) :
    (setFlag e b l).map Prod.fst = l.map Prod.fst := by
  simp only [setFlag, List.map_map]
  congr 1
  funext p
  by_cases h : p.1 = e <;> simp [h]

/-- `updateEidStatus`: sets the flag of `endpointId`, if it is in the pool. -/
def updateEidStatus (endpointId : UInt8) (assigned : Bool) (m : EidPool) : EidPool :=
  ⟨setFlag endpointId assigned m.entries, (map_fst_setFlag _ _ _).symm ▸ m.nodup⟩

/-- The loop of `getAvailableEidFromPool`: marks the first unassigned entry
    and returns its EID. -/
def allocFirst : List (UInt8 × Bool) → Option (UInt8 × List (UInt8 × Bool))
  | [] => none
  | (e, assigned) :: rest =>
    if !assigned then some (e, (e, true) :: rest)
    else (allocFirst rest).map fun r => (r.1, (e, assigned) :: r.2)

theorem allocFirst_keys : ∀ {l l' : List (UInt8 × Bool)} {e : UInt8},
    allocFirst l = some (e, l') → l'.map Prod.fst = l.map Prod.fst
  | [], _, _, h => by simp [allocFirst] at h
  | (e₀, a) :: rest, l', e, h => by
    cases a with
    | false =>
      simp only [allocFirst, Bool.not_false, ↓reduceIte, Option.some.injEq, Prod.mk.injEq] at h
      obtain ⟨rfl, rfl⟩ := h
      rfl
    | true =>
      simp only [allocFirst, Bool.not_true, Bool.false_eq_true, ↓reduceIte, Option.map_eq_some',
        Prod.exists] at h
      obtain ⟨e', r, hr, rfl, rfl⟩ := h
      simp [allocFirst_keys hr]

/-- `getAvailableEidFromPool`: the EID it allocates and the pool after, or
    `none` when it throws (no free EID; the pool is then unchanged). -/
def getAvailableEidFromPool (m : EidPool) : Option (UInt8 × EidPool) :=
  match h : allocFirst m.entries with
  | none => none
  | some (e, l') => some (e, ⟨l', (allocFirst_keys h) ▸ m.nodup⟩)

/-! ## Lookups -/

theorem lookup_cons_ite (k a : UInt8) (v : Bool) (l : List (UInt8 × Bool)) :
    ((k, v) :: l).lookup a = if a = k then some v else l.lookup a := by
  rw [List.lookup_cons]
  by_cases h : a = k
  · simp [h]
  · rw [if_neg h, beq_eq_false_iff_ne.2 h]

theorem lookup_of_mem : ∀ {l : List (UInt8 × Bool)} {k : UInt8} {v : Bool},
    (l.map Prod.fst).Nodup → (k, v) ∈ l → l.lookup k = some v
  | [], _, _, _, h => absurd h (List.not_mem_nil _)
  | (k', v') :: l, k, v, hnd, h => by
    rw [List.map_cons, List.nodup_cons] at hnd
    rw [lookup_cons_ite]
    rcases List.mem_cons.1 h with h | hl
    · cases h; exact if_pos rfl
    · have hk : k ≠ k' := by
        rintro rfl
        exact hnd.1 (show k ∈ l.map Prod.fst from List.mem_map_of_mem Prod.fst hl)
      rw [if_neg hk, lookup_of_mem hnd.2 hl]

theorem lookup_setFlag (e : UInt8) (b : Bool) (e' : UInt8) :
    ∀ l : List (UInt8 × Bool),
      (setFlag e b l).lookup e' = if e' = e then (l.lookup e).map (fun _ => b) else l.lookup e'
  | [] => by by_cases h : e' = e <;> simp [setFlag, h]
  | (k, v) :: l => by
    have ih := lookup_setFlag e b e' l
    simp only [setFlag, List.map_cons] at ih ⊢
    by_cases hk : k = e
    · subst hk; by_cases h : e' = k <;> simp_all [lookup_cons_ite]
    · have hk' : e ≠ k := Ne.symm hk
      by_cases h : e' = e <;> simp_all [lookup_cons_ite]

/-! ## Updates and allocations -/

@[simp] theorem keys_updateEidStatus (e : UInt8) (b : Bool) (m : EidPool) :
    (updateEidStatus e b m).keys = m.keys :=
  map_fst_setFlag e b m.entries

theorem flag_updateEidStatus (e : UInt8) (b : Bool) (m : EidPool) (e' : UInt8) :
    (updateEidStatus e b m).flag e' = if e' = e then (m.flag e).map (fun _ => b) else m.flag e' :=
  lookup_setFlag e b e' m.entries

/-- On an EID outside the pool, `updateEidStatus` only logs. -/
theorem updateEidStatus_of_not_mem {e : UInt8} (b : Bool) {m : EidPool} (h : e ∉ m.keys) :
    updateEidStatus e b m = m := by
  apply ext
  show setFlag e b m.entries = m.entries
  conv_rhs => rw [← List.map_id m.entries]
  refine List.map_congr_left fun p hp => ?_
  have : p.1 ≠ e := fun hp' => h (hp' ▸ List.mem_map_of_mem Prod.fst hp)
  simp [this]

theorem allocFirst_eq_none_iff : ∀ {l : List (UInt8 × Bool)},
    allocFirst l = none ↔ ∀ p ∈ l, p.2 = true
  | [] => by simp [allocFirst]
  | (e, a) :: l => by
    cases a <;> simp [allocFirst, allocFirst_eq_none_iff]

/-- What the loop finds: the first unassigned entry, which it marks; all the
    entries before it are assigned. -/
theorem allocFirst_spec : ∀ {l l' : List (UInt8 × Bool)} {e : UInt8},
    allocFirst l = some (e, l') → l.find? (fun p => !p.2) = some (e, false) ∧
      ∀ e', l'.lookup e' = if e' = e then some true else l.lookup e'
  | [], _, _, h => by simp [allocFirst] at h
  | (e₀, a) :: rest, l', e, h => by
    cases a with
    | false =>
      simp only [allocFirst, Bool.not_false, ↓reduceIte, Option.some.injEq, Prod.mk.injEq] at h
      obtain ⟨rfl, rfl⟩ := h
      exact ⟨rfl, fun x => by by_cases hx : x = e₀ <;> simp [lookup_cons_ite, hx]⟩
    | true =>
      simp only [allocFirst, Bool.not_true, Bool.false_eq_true, ↓reduceIte, Option.map_eq_some',
        Prod.exists, Prod.mk.injEq] at h
      obtain ⟨a, r, hr, ha, rfl⟩ := h
      subst ha
      obtain ⟨hf, hl⟩ := allocFirst_spec hr
      refine ⟨by simpa using hf, fun x => ?_⟩
      by_cases h : x = e₀ <;> by_cases h' : x = a <;> simp_all [lookup_cons_ite]

theorem getAvailableEidFromPool_eq_none_iff (m : EidPool) :
    getAvailableEidFromPool m = none ↔ ∀ e ∈ m.keys, m.flag e = some true := by
  have hall : (∀ p ∈ m.entries, p.2 = true) ↔ ∀ e ∈ m.keys, m.flag e = some true := by
    constructor
    · intro h e he
      obtain ⟨⟨k, v⟩, hp, rfl⟩ := List.mem_map.1 he
      rw [flag, lookup_of_mem m.nodup hp]
      exact congrArg some (h _ hp)
    · rintro h ⟨k, v⟩ hp
      have := h k (List.mem_map_of_mem Prod.fst hp)
      rwa [flag, lookup_of_mem m.nodup hp, Option.some.injEq] at this
  rw [← hall, ← allocFirst_eq_none_iff, getAvailableEidFromPool]
  split <;> simp_all

theorem getAvailableEidFromPool_spec {m m' : EidPool} {e : UInt8}
    (h : getAvailableEidFromPool m = some (e, m')) :
    m.entries.find? (fun p => !p.2) = some (e, false) ∧ m'.keys = m.keys ∧
      ∀ e', m'.flag e' = if e' = e then some true else m.flag e' := by
  unfold getAvailableEidFromPool at h
  split at h
  · cases h
  · rename_i e₁ l' hl
    simp only [Option.some.injEq, Prod.mk.injEq] at h
    obtain ⟨rfl, rfl⟩ := h
    exact ⟨(allocFirst_spec hl).1, allocFirst_keys hl, (allocFirst_spec hl).2⟩

theorem getAvailableEidFromPool_entries (m : EidPool) :
    (getAvailableEidFromPool m).map (fun r => (r.1, r.2.entries)) = allocFirst m.entries := by
  unfold getAvailableEidFromPool
  split <;> simp_all

/-! ## Runs of the pool -/

/-- A call on the pool after `initializeEidPool`. -/
inductive PoolOp
  | getAvailableEidFromPool
  | updateEidStatus (endpointId : UInt8) (assigned : Bool)

/-- The pool after the call: an allocation that throws leaves it unchanged. -/
def PoolOp.apply (m : EidPool) : PoolOp → EidPool
  | .getAvailableEidFromPool => ((Mctpd.getAvailableEidFromPool m).map Prod.snd).getD m
  | .updateEidStatus e b => Mctpd.updateEidStatus e b m

/-- The pool after a sequence of calls. -/
def runPoolOps (m : EidPool) (ops : List PoolOp) : EidPool := ops.foldl PoolOp.apply m

theorem keys_apply (m : EidPool) : ∀ op : PoolOp, (PoolOp.apply m op).keys = m.keys
  | .getAvailableEidFromPool => by
    cases h : getAvailableEidFromPool m with
    | none => simp [PoolOp.apply, h]
    | some r =>
      obtain ⟨e, m'⟩ := r
      simpa [PoolOp.apply, h] using (getAvailableEidFromPool_spec h).2.1
  | .updateEidStatus e b => keys_updateEidStatus e b m

theorem keys_runPoolOps (ops : List PoolOp) : ∀ m : EidPool, (runPoolOps m ops).keys = m.keys := by
  induction ops with
  | nil => intro m; rfl
  | cons op ops ih => intro m; rw [runPoolOps, List.foldl_cons, ← runPoolOps, ih, keys_apply]

/-- Entries that are all unassigned are their keys, each unassigned. -/
theorem eq_map_keys : ∀ {l : List (UInt8 × Bool)}, (∀ x ∈ l, x.2 = false) →
    l = (l.map Prod.fst).map (·, false)
  | [], _ => rfl
  | (k, v) :: l, h => by
    simp only [List.mem_cons, forall_eq_or_imp] at h
    obtain ⟨rfl, h⟩ := h
    simp [← eq_map_keys h]

/-- A fresh pool: its entries are the configured EIDs, each once, unassigned,
    in whatever order `ord` gives them. -/
theorem initializeEidPool_entries (ord : InsertOrder) (P : List UInt8) :
    ∀ (m : EidPool) (K₀ : List UInt8), m.entries = K₀.map (·, false) →
      ∃ K : List UInt8, (initializeEidPool ord P m).entries = K.map (·, false) ∧
        ∀ e, e ∈ K ↔ e ∈ K₀ ∨ e ∈ P := by
  induction P with
  | nil => exact fun m K₀ h => ⟨K₀, h, by simp⟩
  | cons p P ih =>
    intro m K₀ h
    have hk : m.keys = K₀ := by simp [keys, h, List.map_map, Function.comp_def]
    by_cases hp : p ∈ m.keys
    · obtain ⟨K, hK, hmem⟩ := ih m K₀ h
      refine ⟨K, by simpa [initializeEidPool, emplace, hp] using hK, fun e => ?_⟩
      rw [hmem, List.mem_cons]
      by_cases he : e = p <;> simp_all
    · -- the new entry goes where `ord` puts it, among the others
      have hperm := ord.perm m.entries (p, false)
      have hl : ∀ x ∈ ord.place m.entries (p, false), x.2 = false := fun x hx => by
        rcases List.mem_cons.1 (hperm.mem_iff.1 hx) with rfl | hx
        · rfl
        · rw [h] at hx; obtain ⟨k, -, rfl⟩ := List.mem_map.1 hx; rfl
      obtain ⟨K, hK, hmem⟩ := ih (m.emplace ord p) ((ord.place m.entries (p, false)).map Prod.fst)
        (by rw [emplace, dif_neg hp]; exact eq_map_keys hl)
      refine ⟨K, by simpa [initializeEidPool] using hK, fun e => ?_⟩
      rw [hmem, (hperm.map Prod.fst).mem_iff]
      simp only [h, List.map_cons, List.map_map, Function.comp_def, List.map_id', List.mem_cons]
      tauto

/-- `n` successive calls of `getAvailableEidFromPool`: the EIDs returned and the
    pool after, or `none` if one of them throws. -/
def allocations : Nat → EidPool → Option (List UInt8 × EidPool)
  | 0, m => some ([], m)
  | n + 1, m => (getAvailableEidFromPool m).bind fun r =>
      (allocations n r.2).map fun s => (r.1 :: s.1, s.2)

theorem allocFirst_after_assigned (e : UInt8) (rest : List (UInt8 × Bool)) :
    ∀ ks : List UInt8, allocFirst (ks.map (·, true) ++ (e, false) :: rest) =
      some (e, ks.map (·, true) ++ (e, true) :: rest)
  | [] => rfl
  | k :: ks => by simp [allocFirst, allocFirst_after_assigned e rest ks]

/-- Behind the assigned entries `ks`, the unassigned `rs` are handed out in
    order, one per call. -/
theorem allocations_of_entries (rs : List UInt8) :
    ∀ (ks : List UInt8) (m : EidPool), m.entries = ks.map (·, true) ++ rs.map (·, false) →
      ∃ m', allocations rs.length m = some (rs, m') ∧ m'.entries = (ks ++ rs).map (·, true) := by
  induction rs with
  | nil => exact fun ks m h => ⟨m, rfl, by simpa using h⟩
  | cons r rs ih =>
    intro ks m h
    have ha := getAvailableEidFromPool_entries m
    rw [h, List.map_cons, allocFirst_after_assigned] at ha
    obtain ⟨⟨e, m₁⟩, hm, he⟩ := Option.map_eq_some'.1 ha
    simp only [Prod.mk.injEq] at he
    obtain ⟨rfl, he⟩ := he
    obtain ⟨m', hm', hent⟩ := ih (ks ++ [e]) m₁ (by simp [he])
    exact ⟨m', by simp [allocations, hm, hm'], by simpa using hent⟩

theorem flag_of_mem {m : EidPool} {e : UInt8} (h : e ∈ m.keys) : ∃ v, m.flag e = some v := by
  obtain ⟨⟨k, v⟩, hp, rfl⟩ := List.mem_map.1 h
  exact ⟨v, lookup_of_mem m.nodup hp⟩

/-- The contract of the pool, over every sequence of allocations and flag
    updates after `initializeEidPool P`, in any iteration order: the keys stay
    those of `P`; an update
    changes only its own EID's flag, and nothing outside `P`; an allocation
    throws exactly when every EID is assigned, and otherwise marks the first
    unassigned one; and a fresh pool hands out each EID of `P` once, in
    `|P.dedup|` allocations, and then throws. -/
theorem eidPool_contract (ord : InsertOrder) (P : List UInt8) (ops : List PoolOp) :
    let m := runPoolOps (initializeEidPool ord P EidPool.empty) ops
    (∀ e, e ∈ m.keys ↔ e ∈ P) ∧
    (∀ e b, e ∉ P → updateEidStatus e b m = m) ∧
    (∀ e b, e ∈ P → ∀ e', (updateEidStatus e b m).flag e' = if e' = e then some b else m.flag e') ∧
    (getAvailableEidFromPool m = none ↔ ∀ e ∈ P, m.flag e = some true) ∧
    (∀ e m', getAvailableEidFromPool m = some (e, m') →
      m.entries.find? (fun p => !p.2) = some (e, false) ∧ m'.keys = m.keys ∧
        ∀ e', m'.flag e' = if e' = e then some true else m.flag e') ∧
    (∃ es m', allocations P.dedup.length (initializeEidPool ord P EidPool.empty) = some (es, m') ∧
      es.Perm P.dedup ∧ getAvailableEidFromPool m' = none) := by
  intro m
  obtain ⟨K, hK, hmem⟩ := initializeEidPool_entries ord P EidPool.empty [] rfl
  have hkeys : (initializeEidPool ord P EidPool.empty).keys = K := by
    simp [keys, hK, List.map_map, Function.comp_def]
  have hP : ∀ e, e ∈ m.keys ↔ e ∈ P := by
    intro e
    rw [keys_runPoolOps, hkeys, hmem]
    simp
  refine ⟨hP, fun e b he => updateEidStatus_of_not_mem b (fun h => he ((hP e).1 h)),
    fun e b he e' => ?_, ?_, fun e m' h => getAvailableEidFromPool_spec h, ?_⟩
  · obtain ⟨v, hv⟩ := flag_of_mem ((hP e).2 he)
    rw [flag_updateEidStatus, hv]
    rfl
  · rw [getAvailableEidFromPool_eq_none_iff]
    exact forall_congr' fun e => imp_congr_left (hP e)
  · have hnd : K.Nodup := hkeys ▸ (initializeEidPool ord P EidPool.empty).nodup
    have hperm : K.Perm P.dedup :=
      (List.perm_ext_iff_of_nodup hnd (List.nodup_dedup P)).2 fun e => by simp [hmem]
    obtain ⟨m', ha, hm'⟩ := allocations_of_entries K [] _ (by simpa using hK)
    refine ⟨K, m', by rw [← hperm.length_eq, ha], hperm, ?_⟩
    have h := getAvailableEidFromPool_entries m'
    rw [hm', allocFirst_eq_none_iff.2 (by simp)] at h
    exact Option.map_eq_none'.1 h

end Mctpd
