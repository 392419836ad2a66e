/-
# Which resources are put in use

Before the resources of a proposal are merged into the registry they are compared with it, one by
one and in order. A resource whose name is live at another address moves the name
(`Staged.Moving`), and a record is made of it:

| name in the registry | record | wants the name among the affected ones |
| --- | --- | --- |
| live at another address | from where to where | yes |
| live at the same address | none | no |
| deprecated, or unknown | none | no |

The resources are accepted if their names differ and every name that is moved is an affected one;
the records are then those of all of them (`Staged.supersede_eq_ok_iff_overwrites`). If they are not
accepted, a name that comes up again counts before anything else, and the records are of the names
that may not be moved (`Staged.supersede_eq_error_iff`). Nothing is merged then, and the result of
the proposal lists no resources (`Runner.vetted_applyProposal`).
-/

import Rollout.Proofs.Run.Moves

namespace Rollout

variable {σ : Type}

namespace Staged

variable {affected : KeySet String} {s : Snapshot} {h : Handle} {hs : List Handle}
  {o : Overwrite} {os : List Overwrite} {seen ns : List String} {n : String}

/-! ## Names that are moved -/

/-- The name of a resource is in use for another one, at another address. -/
def Moving (s : Snapshot) (h live : Handle) : Prop :=
  s.get h.name = .ok live ∧ live.address ≠ h.address

/-- The records of resources, in order: one for each that moves its name, none for the others. -/
inductive Overwrites (s : Snapshot) : List Handle → List Overwrite → Prop
  | nil : Overwrites s [] []
  | moving {h live : Handle} {hs : List Handle} {os : List Overwrite} (moves : Moving s h live)
      (rest : Overwrites s hs os) :
      Overwrites s (h :: hs)
        ({ name := h.name, previous := live.address, replacement := h.address } :: os)
  | staying {h : Handle} {hs : List Handle} {os : List Overwrite}
      (stays : ∀ live, ¬ Moving s h live) (rest : Overwrites s hs os) : Overwrites s (h :: hs) os

/-- An overwrite is told of a resource exactly if it moves a live one. -/
theorem overwrite?_eq_some_iff : overwrite? s h = some o ↔ ∃ live, Moving s h live ∧
    o = { name := h.name, previous := live.address, replacement := h.address } := by
  unfold Moving
  cases got : s.get h.name with
  | error e => simp [overwrite?, got]
  | ok live =>
    by_cases same : live.address = h.address
    · simp [overwrite?, got, same]
    · simp [overwrite?, got, same, eq_comm (a := o)]

/-- No overwrite is told of a resource exactly if it moves no live one. -/
theorem overwrite?_eq_none_iff : overwrite? s h = none ↔ ∀ live, ¬ Moving s h live := by
  simp only [Option.eq_none_iff_forall_ne_some, ne_eq, overwrite?_eq_some_iff, not_exists, not_and]
  constructor
  · exact fun none live moves => none _ live moves rfl
  · exact fun stays _ live moves => absurd moves (stays live)

/-- The records are those of each resource by itself. -/
theorem overwrites_iff : Overwrites s hs os ↔ os = hs.filterMap (overwrite? s) := by
  constructor
  · intro records
    induction records with
    | nil => rfl
    | moving moves rest ih =>
      rw [List.filterMap_cons, overwrite?_eq_some_iff.2 ⟨_, moves, rfl⟩, ih]
    | staying stays rest ih => rw [List.filterMap_cons, overwrite?_eq_none_iff.2 stays, ih]
  · rintro rfl
    induction hs with
    | nil => exact .nil
    | cons h hs ih =>
      cases recorded : overwrite? s h with
      | none =>
        rw [List.filterMap_cons, recorded]
        exact .staying (overwrite?_eq_none_iff.1 recorded) ih
      | some o =>
        obtain ⟨live, moves, rfl⟩ := overwrite?_eq_some_iff.1 recorded
        rw [List.filterMap_cons, recorded]
        exact .moving moves ih

/-- A set of names has those that are recorded if it has those that are moved. -/
theorem forall_overwrites_iff :
    (∀ o ∈ hs.filterMap (overwrite? s), affected.contains o.name = true) ↔
      ∀ h ∈ hs, ∀ live, Moving s h live → h.name ∈ affected.toList := by
  simp only [List.mem_filterMap, overwrite?_eq_some_iff, KeySet.contains_iff_mem]
  constructor
  · exact fun declared h hh live moves => declared _ ⟨h, hh, live, moves, rfl⟩
  · rintro declared _ ⟨h, hh, live, moves, rfl⟩
    exact declared h hh live moves

/-! ## Names that come up again -/

/-- The name is the first that comes up again. -/
def FirstRepeated (ns : List String) (n : String) : Prop :=
  ∃ before after, ns = before ++ n :: after ∧ before.Nodup ∧ n ∈ before

/-- Where a name is repeated, not all names differ. -/
theorem FirstRepeated.not_nodup (h : FirstRepeated ns n) : ¬ ns.Nodup := by
  obtain ⟨before, after, rfl, -, again⟩ := h
  intro distinct
  exact (List.nodup_append.1 distinct).2.2 n again n List.mem_cons_self rfl

/-- Where some names have come up already, the first that comes up again is one of those, or comes
up for the second time. -/
theorem repeated?_eq_some_iff : repeated? seen ns = some n ↔ ∃ before after,
    ns = before ++ n :: after ∧ before.Nodup ∧ (∀ m ∈ before, m ∉ seen) ∧
      (n ∈ seen ∨ n ∈ before) := by
  induction ns generalizing seen with
  | nil => simp [repeated?]
  | cons m ns ih =>
    rw [repeated?]
    by_cases old : m ∈ seen
    · rw [if_pos old, Option.some.injEq]
      constructor
      · rintro rfl
        exact ⟨[], ns, rfl, List.nodup_nil, List.forall_mem_nil _, .inl old⟩
      · rintro ⟨before, after, split, -, fresh, -⟩
        cases before with
        | nil => exact (List.cons.inj split).1
        | cons k before =>
          obtain ⟨rfl, -⟩ := List.cons.inj split
          exact absurd old (fresh m List.mem_cons_self)
    · rw [if_neg old, ih]
      constructor
      · rintro ⟨before, after, rfl, distinct, fresh, again⟩
        simp only [List.mem_cons, not_or] at fresh again
        refine ⟨m :: before, after, rfl, ?_, ?_, ?_⟩
        · exact List.nodup_cons.2 ⟨fun hm => (fresh m hm).1 rfl, distinct⟩
        · exact List.forall_mem_cons.2 ⟨old, fun k hk => (fresh k hk).2⟩
        · simp only [List.mem_cons]
          tauto
      · rintro ⟨before, after, split, distinct, fresh, again⟩
        cases before with
        | nil =>
          obtain ⟨rfl, -⟩ := List.cons.inj split
          exact absurd again (by simp [old])
        | cons k before =>
          obtain ⟨rfl, rfl⟩ := List.cons.inj split
          obtain ⟨apart, distinct⟩ := List.nodup_cons.1 distinct
          obtain ⟨-, fresh⟩ := List.forall_mem_cons.1 fresh
          refine ⟨before, after, rfl, distinct, fun j hj => ?_, ?_⟩
          · simp only [List.mem_cons, not_or]
            exact ⟨fun e => apart (e ▸ hj), fresh j hj⟩
          · simp only [List.mem_cons] at again ⊢
            tauto

/-- The name that is reported is the first that is repeated. -/
theorem repeated?_nil_eq_some_iff : repeated? [] ns = some n ↔ FirstRepeated ns n := by
  simp [repeated?_eq_some_iff, FirstRepeated]

/-! ## The comparison -/

/-- Why resources are not put in use. -/
inductive Objection (affected : KeySet String) (s : Snapshot) (hs : List Handle) : PhaseFault → Prop
  | repeated {n : String} (first : FirstRepeated (hs.map (·.name)) n) :
      Objection affected s hs (.repeated n)
  /-- The records are those of the names that are not among the affected ones. -/
  | undeclared {os : List Overwrite} (distinct : (hs.map (·.name)).Nodup)
      (records : Overwrites s (hs.filter fun h => h.name ∉ affected.toList) os)
      (nonempty : os ≠ []) :
      Objection affected s hs (.undeclared os)

/-- **What is accepted.** -/
theorem supersede_eq_ok_iff_overwrites : supersede affected hs s = .ok os ↔
    ((hs.map (·.name)).Nodup ∧ ∀ h ∈ hs, ∀ live, Moving s h live → h.name ∈ affected.toList) ∧
      Overwrites s hs os := by
  rw [supersede_eq_ok_iff, forall_overwrites_iff, overwrites_iff, and_assoc]

/-- The names that may not be moved are recorded as if only they had been brought. -/
theorem filter_overwrites_eq (affected : KeySet String) (s : Snapshot) (hs : List Handle) :
    (hs.filterMap (overwrite? s)).filter (fun o => !affected.contains o.name)
      = (hs.filter fun h => h.name ∉ affected.toList).filterMap (overwrite? s) := by
  rw [filter_filterMap_overwrite? s hs (!affected.contains ·)]
  congr 1
  refine List.filter_congr fun h _ => ?_
  rw [Bool.eq_iff_iff, Bool.not_eq_true', decide_eq_true_iff, ← KeySet.contains_iff_mem,
    Bool.not_eq_true]

/-- **What is not accepted, and why.** -/
theorem supersede_eq_error_iff {fault : PhaseFault} :
    supersede affected hs s = .error fault ↔ Objection affected s hs fault := by
  rw [supersede]
  cases again : repeated? [] (hs.map (·.name)) with
  | some n =>
    have first := repeated?_nil_eq_some_iff.1 again
    constructor
    · rintro ⟨⟩
      exact .repeated first
    · intro objection
      cases objection with
      | repeated first' =>
        rw [repeated?_nil_eq_some_iff.2 first', Option.some.injEq] at again
        rw [again]
      | undeclared distinct records nonempty => exact absurd distinct first.not_nodup
  | none =>
    have distinct := (repeated?_eq_none_iff.1 again).2
    simp only [filter_overwrites_eq]
    constructor
    · intro h
      split at h
      · cases h
      · next nonempty =>
        cases h
        exact .undeclared distinct (overwrites_iff.2 rfl) fun e => nonempty (List.isEmpty_iff.2 e)
    · intro objection
      cases objection with
      | repeated first => exact absurd distinct first.not_nodup
      | undeclared distinct records nonempty =>
        rw [← overwrites_iff.1 records, if_neg fun e => nonempty (List.isEmpty_iff.1 e)]

end Staged

/-! ## One proposal -/

namespace Runner

variable {r : Runner σ} {p : Proposal σ} {deploys : Bool} {registry : Registry} {w : World σ}

/-- What becomes of the resources that a proposal has, deployed or found. -/
structure Vetted (p : Proposal σ) (deploys : Bool) (registry : Registry) (hs : List Handle)
    (g : Progress σ) : Prop where
  /-- They are put in use exactly if their names differ and those that are moved are affected. -/
  accepted_iff : .deployed ∈ g.result.trail ↔ (hs.map (·.name)).Nodup ∧
    ∀ h ∈ hs, ∀ live, Staged.Moving registry.current h live → h.name ∈ p.affected.toList
  /-- The result then lists them, and the records of those that move their names. -/
  accepted : .deployed ∈ g.result.trail →
    g.result.resources = hs ∧ Staged.Overwrites registry.current hs g.result.superseded
  /-- Else there is one failure, which says why, and the registry is as before. -/
  rejected : .deployed ∉ g.result.trail → ∃ fault,
    Staged.Objection p.affected registry.current hs fault ∧
      g.result.beforeTeardown =
        [{ phase := stagingPhase deploys, error := .phase (stagingPhase deploys) fault }] ∧
      g.registry = registry ∧ g.result.resources = [] ∧ g.result.superseded = []

/-- Resources that are not accepted fail the phase in which they are had. -/
theorem staged_of_objection {d : Deployment} {w₁ : World σ} {fault : PhaseFault}
    (had : r.deployment p deploys registry.current w = (.ok d, w₁))
    (refused : Staged.supersede p.affected d.resources registry.current = .error fault) :
    r.staged p deploys registry.current w = (.error (.phase (stagingPhase deploys) fault), w₁) := by
  rw [staged, had]
  simp only [bind, Except.bind, refused, Except.mapError]

/-- **Exactly declared moves are accepted.** Whatever resources a proposal has, deployed or found,
they are put in use exactly if their names differ and every name in use that they move to another
address is an affected one, and the result tells of those moves and of nothing else. If they are
not, the proposal fails by the first name that comes up again or, where there is none, by all
undeclared moves, and leaves nothing of them. -/
theorem vetted_applyProposal {d : Deployment} {w₁ : World σ}
    (had : r.deployment p deploys registry.current w = (.ok d, w₁)) :
    Vetted p deploys registry d.resources (r.applyProposal p deploys registry w) := by
  obtain ⟨calls, g, o, w', course, applied, -⟩ := applyProposal_cases r p deploys registry w
  rw [applied]
  have accepts := @Staged.supersede_eq_ok_iff_overwrites p.affected registry.current d.resources
  cases vetting : Staged.supersede p.affected d.resources registry.current with
  | ok os =>
    obtain ⟨allowed, records⟩ := accepts.1 vetting
    have staging : r.staged p deploys registry.current w
        = (.ok { resources := d.resources, outputs := d.outputs, superseded := os }, w₁) :=
      staged_eq_ok_iff.2 ⟨had, vetting⟩
    obtain ⟨entered, resources, superseded⟩ := course.of_staged staging
    have deployed : .deployed ∈ (g.result.concluded o).trail := by
      rw [ProposalResult.trail_concluded]
      exact List.mem_append_left _ entered
    refine ⟨iff_of_true deployed allowed, fun _ => ⟨?_, ?_⟩, fun h => absurd deployed h⟩
    · rw [ProposalResult.resources_concluded, resources]
    · rw [ProposalResult.superseded_concluded, superseded]
      exact records
  | error fault =>
    obtain ⟨kept, result⟩ := course.of_unstaged (staged_of_objection had vetting)
    have refused : .deployed ∉ (g.result.concluded o).trail := by
      rw [ProposalResult.trail_concluded, result]
      cases o <;> simp [Outcome.isOk]
    refine ⟨iff_of_false refused fun allowed => ?_, fun h => absurd h refused, fun _ => ?_⟩
    · have accepted := accepts.2 ⟨allowed, Staged.overwrites_iff.2 rfl⟩
      rw [vetting] at accepted
      cases accepted
    · refine ⟨fault, Staged.supersede_eq_error_iff.1 vetting, ?_, kept, ?_, ?_⟩
      · rw [ProposalResult.beforeTeardown_concluded, result]
        cases deploys <;> rfl
      · rw [ProposalResult.resources_concluded, result]
      · rw [ProposalResult.superseded_concluded, result]

end Runner

/-! ## A proposal that moves two names -/

namespace Drill

/-- The pool and the core at other addresses, and a gauge that is new. -/
def replacements : List Handle :=
  [{ pool with address := .ofNat 3 }, { core with address := .ofNat 5 },
    { name := "gauge", address := .ofNat 6 }]

/-- The proposal that deploys them and says of some names that they are affected. -/
def replacing (affected : List String) : Proposal Unit where
  id := "replace"
  affected := .ofList affected
  lifecycle := deploying replacements

end Drill

/-- If the pool alone is an affected name, the core may not be moved; if both are, the pool and the
core are moved in this order. -/
theorem Runner.vetted_applyProposal_replacing :
    Vetted (Drill.replacing ["pool"]) true (.ofHandles [Drill.core, Drill.pool]) Drill.replacements
      (Drill.runner.applyProposal (Drill.replacing ["pool"]) true
        (.ofHandles [Drill.core, Drill.pool]) Drill.world) ∧
    (Drill.runner.applyProposal (Drill.replacing ["pool"]) true
      (.ofHandles [Drill.core, Drill.pool]) Drill.world).result.failures.map (·.error.message)
        = ["deploy failed: overwrites undeclared resources: core ("
          ++ (Address.ofNat 1).text ++ " -> " ++ (Address.ofNat 5).text ++ ")"] ∧
    Vetted (Drill.replacing ["core", "pool"]) true (.ofHandles [Drill.core, Drill.pool])
      Drill.replacements
      (Drill.runner.applyProposal (Drill.replacing ["core", "pool"]) true
        (.ofHandles [Drill.core, Drill.pool]) Drill.world) ∧
    (Drill.runner.applyProposal (Drill.replacing ["core", "pool"]) true
      (.ofHandles [Drill.core, Drill.pool]) Drill.world).result.superseded
        = [{ name := "pool", previous := .ofNat 2, replacement := .ofNat 3 },
          { name := "core", previous := .ofNat 1, replacement := .ofNat 5 }] := by
  have had (affected : List String) (registry : Snapshot) :
      Drill.runner.deployment (Drill.replacing affected) true registry Drill.world
        = (.ok { resources := Drill.replacements }, Drill.world) := rfl
  exact ⟨vetted_applyProposal (had ..), by decide +kernel, vetted_applyProposal (had ..),
    by decide +kernel⟩

end Rollout
