/-
# What each step of a proposal does

One statement for every step says all that can come of it, so that what holds of runs is shown
from these and not from the definitions:

| step | succeeds iff |
| --- | --- |
| `Staged.find` | all names are live |
| `Staged.supersede` | names differ, and every overwrite is of an affected name |
| `Runner.staged` | the resources are had and may be put in use |
| `Runner.execute` | nothing is asked for, or the payload resolves and the executor succeeds |
| `Registry.retireAll` | all names are known |
| `Invariant`s of a validation | each can be evaluated |
-/

import Rollout.Proofs.Registry.Entries
import Rollout.Proofs.Run.Course
import Rollout.Proofs.Table.Members

namespace Rollout

variable {σ : Type}

/-! ## Resources -/

namespace Staged

/-- Resources that are found have the names that were asked for, and all are live. -/
theorem find_eq_ok {s : Snapshot} {ns : List String} {hs : List Handle}
    (h : find s ns = .ok hs) : hs.map (·.name) = ns ∧ ∀ x ∈ hs, s.get x.name = .ok x := by
  induction ns generalizing hs with
  | nil => cases h; exact ⟨rfl, by simp⟩
  | cons n ns ih =>
    rw [find] at h
    cases hg : s.get n with
    | error e => rw [hg] at h; cases h
    | ok x =>
      cases hr : find s ns with
      | error e => rw [hg, hr] at h; cases h
      | ok xs =>
        rw [hg, hr] at h
        cases h
        obtain ⟨names, live⟩ := ih hr
        have hn := Snapshot.name_of_get hg
        refine ⟨by rw [List.map_cons, names, hn], fun y hy => ?_⟩
        rcases List.mem_cons.1 hy with rfl | hy
        · rw [hn, hg]
        · exact live y hy

/-- Live names are found. -/
theorem exists_find_eq_ok {s : Snapshot} {ns : List String} (h : ∀ n ∈ ns, s.isLive n = true) :
    ∃ hs, find s ns = .ok hs := by
  induction ns with
  | nil => exact ⟨[], rfl⟩
  | cons n ns ih =>
    obtain ⟨x, hx⟩ := Snapshot.isLive_iff.1 (h n List.mem_cons_self)
    obtain ⟨xs, hxs⟩ := ih fun m hm => h m (List.mem_cons_of_mem _ hm)
    exact ⟨x :: xs, by rw [find, hx, hxs]; rfl⟩

/-- What an error names is asked for and not live. -/
theorem find_eq_error {s : Snapshot} {ns : List String} {e : LookupError}
    (h : find s ns = .error e) : e.name ∈ ns ∧ s.isLive e.name = false := by
  induction ns with
  | nil => cases h
  | cons n ns ih =>
    rw [find] at h
    cases hg : s.get n with
    | error e' =>
      rw [hg] at h
      cases h
      obtain ⟨name, dead⟩ := Snapshot.isLive_eq_false_of_get_error hg
      exact ⟨name ▸ List.mem_cons_self, name ▸ dead⟩
    | ok x =>
      cases hr : find s ns with
      | error e' =>
        rw [hg, hr] at h
        cases h
        exact ⟨List.mem_cons_of_mem _ (ih hr).1, (ih hr).2⟩
      | ok xs =>
        rw [hg, hr] at h
        cases h

/-- No name is repeated if all differ from each other and from those seen before. -/
theorem repeated?_eq_none_iff {seen ns : List String} :
    repeated? seen ns = none ↔ (∀ n ∈ ns, n ∉ seen) ∧ ns.Nodup := by
  induction ns generalizing seen with
  | nil => simp [repeated?]
  | cons n ns ih =>
    rw [repeated?]
    split
    · next h => simp [h]
    · next h =>
      rw [ih, List.nodup_cons]
      simp only [List.mem_cons, not_or, forall_eq_or_imp]
      constructor
      · rintro ⟨hs, hn⟩
        exact ⟨⟨h, fun m hm => (hs m hm).2⟩, fun hm => (hs n hm).1 rfl, hn⟩
      · rintro ⟨⟨_, hs⟩, hm, hn⟩
        exact ⟨fun m hm' => ⟨fun e => hm (e ▸ hm'), hs m hm'⟩, hn⟩

/-- Resources may be put in use if their names differ and each live name that they move to
another address is an affected one. -/
theorem supersede_eq_ok_iff {affected : KeySet String} {hs : List Handle} {s : Snapshot}
    {os : List Overwrite} :
    supersede affected hs s = .ok os ↔ (hs.map (·.name)).Nodup ∧
      (∀ o ∈ hs.filterMap (overwrite? s), affected.contains o.name = true) ∧
      os = hs.filterMap (overwrite? s) := by
  rw [supersede]
  cases hr : repeated? [] (hs.map (·.name)) with
  | some n =>
    have : ¬ (hs.map (·.name)).Nodup := fun hn => by
      rw [repeated?_eq_none_iff.2 ⟨by simp, hn⟩] at hr
      cases hr
    simp [this]
  | none =>
    have hn := (repeated?_eq_none_iff.1 hr).2
    have declared_iff : ((hs.filterMap (overwrite? s)).filter
        fun o => !affected.contains o.name).isEmpty = true ↔
        ∀ o ∈ hs.filterMap (overwrite? s), affected.contains o.name = true := by
      rw [List.isEmpty_iff, List.filter_eq_nil_iff]
      simp only [Bool.not_eq_true, Bool.not_eq_false']
    by_cases hd : ∀ o ∈ hs.filterMap (overwrite? s), affected.contains o.name = true
    · rw [if_pos (declared_iff.2 hd), Except.ok.injEq]
      exact ⟨fun e => ⟨hn, hd, e.symm⟩, fun h => h.2.2.symm⟩
    · rw [if_neg fun h => hd (declared_iff.1 h)]
      exact ⟨nofun, fun h => absurd h.2.1 hd⟩

/-- Resources that are live already move nothing. -/
theorem supersede_of_live {affected : KeySet String} {hs : List Handle} {s : Snapshot}
    (hn : (hs.map (·.name)).Nodup) (hl : ∀ x ∈ hs, s.get x.name = .ok x) :
    supersede affected hs s = .ok [] := by
  have none : hs.filterMap (overwrite? s) = [] := by
    rw [List.filterMap_eq_nil_iff]
    intro x hx
    simp [overwrite?, hl x hx]
  rw [supersede_eq_ok_iff, none]
  exact ⟨hn, by simp, rfl⟩

end Staged

/-! ## Retiring -/

namespace Registry

/-- Resources are put in use by merging them. -/
@[simp] theorem current_adding (registry : Registry) (hs : List Handle) :
    (registry.adding hs).current = registry.current.merge (.ofHandles hs) := rfl

/-- Names are retired exactly if all of them are known, and nothing else changes. -/
theorem retireAll_eq_ok_iff {registry registry' : Registry} {ns : List String} :
    registry.retireAll ns = .ok registry' ↔ (∀ n ∈ ns, registry.current.contains n = true) ∧
      registry' = { registry with current := ns.foldl Snapshot.retire registry.current } := by
  rw [retireAll]
  cases hf : ns.find? fun n => !registry.current.contains n with
  | none =>
    have hc : ∀ n ∈ ns, registry.current.contains n = true := by
      simpa using List.find?_eq_none.1 hf
    simp only [Except.ok.injEq]
    exact ⟨fun e => ⟨hc, e.symm⟩, fun e => e.2.symm⟩
  | some m =>
    have hm := List.find?_some hf
    simp only [reduceCtorEq, false_iff]
    rintro ⟨hc, -⟩
    simp [hc m (List.mem_of_find?_eq_some hf)] at hm

end Registry

/-! ## Validating -/

namespace Validation

/-- What keeps the assertion of an invariant from being made. -/
def fault? (registry : Snapshot) (chain : Chain) (i : Invariant) : Option RunError :=
  match i.assertion registry chain with
  | .ok _ => none
  | .error e => some (.ofHook .validate e)

/-- Checking invariants comes to the errors of those that cannot be evaluated, in order. -/
theorem errors_checkAll (registry : Snapshot) (chain : Chain) (is : List Invariant)
    (set : AssertionSet) :
    (checkAll registry chain is set).1 = is.filterMap (fault? registry chain) := by
  induction is generalizing set with
  | nil => rfl
  | cons i is ih =>
    rw [checkAll, Invariant.check, List.filterMap_cons, fault?]
    cases i.assertion registry chain with
    | ok a => exact ih _
    | error e => exact congrArg _ (ih _)

/-- An error of a validation comes from an invariant or from the hook. -/
theorem mem_errors_completed {p : Proposal σ} {registry : Snapshot} {chain : Chain}
    {o : Outcome HookError Unit} {set : AssertionSet} {e : RunError}
    (h : e ∈ (completed p registry chain o set).errors) :
    (∃ cause, e = .ofHook .validate cause) ∨ o.inPhase .validate = .error e := by
  rw [completed, declared, errors_checkAll, List.mem_append, List.mem_filterMap] at h
  rcases h with ⟨i, -, hi⟩ | h
  · rw [fault?] at hi
    split at hi
    · cases hi
    · next cause _ => exact .inl ⟨cause, (Option.some.inj hi).symm⟩
  · split at h
    · cases h
    · next e' he => exact .inr (List.mem_singleton.1 h ▸ he)

/-- A validation is passed if no assertion failed, every invariant could be evaluated and the
hook came to its end. -/
theorem passed_completed_iff {p : Proposal σ} {registry : Snapshot} {chain : Chain}
    {o : Outcome HookError Unit} {set : AssertionSet} :
    (completed p registry chain o set).passed = true ↔
      set.failures = [] ∧ (∀ i ∈ p.invariants, (i.assertion registry chain).isOk = true) ∧
        o = .ok () := by
  have evaluated_iff : (declared p registry chain).1 = [] ↔
      ∀ i ∈ p.invariants, (i.assertion registry chain).isOk = true := by
    rw [declared, errors_checkAll, List.filterMap_eq_nil_iff]
    refine forall₂_congr fun i _ => ?_
    rw [fault?]
    cases i.assertion registry chain <;> simp [Except.isOk, Except.toBool]
  rw [passed, completed, Bool.and_eq_true, List.isEmpty_iff, List.isEmpty_iff,
    List.append_eq_nil_iff, evaluated_iff]
  cases o <;> simp [Outcome.inPhase]

end Validation

namespace Runner

variable {r : Runner σ} {p : Proposal σ} {deploys : Bool} {registry : Registry} {w : World σ}

/-! ## Staging -/

/-- Staging acts on the world by the deploy hook alone. -/
theorem world_staged (r : Runner σ) (p : Proposal σ) (deploys : Bool) (previous : Snapshot)
    (w : World σ) : (r.staged p deploys previous w).2 =
      if deploys then (p.lifecycle.deploy (r.deployContext previous) w).2 else w := by
  cases deploys <;> rfl

/-- Staging succeeds exactly if there are resources and they may be put in use. -/
theorem staged_eq_ok_iff {previous : Snapshot} {s : Staged} {w₁ : World σ} :
    r.staged p deploys previous w = (.ok s, w₁) ↔
      r.deployment p deploys previous w = (.ok { resources := s.resources, outputs := s.outputs }, w₁)
        ∧ Staged.supersede p.affected s.resources previous = .ok s.superseded := by
  rw [staged]
  rcases r.deployment p deploys previous w with ⟨e | ⟨hs, out⟩, w'⟩
  · exact ⟨nofun, nofun⟩
  · cases ho : Staged.supersede p.affected hs previous with
    | error e =>
      constructor
      · intro h
        simp [ho, bind, Except.bind, Except.mapError] at h
      · rintro ⟨⟨⟩, hs⟩
        rw [ho] at hs
        cases hs
    | ok os =>
      obtain ⟨hs', out', os'⟩ := s
      constructor
      · intro h
        simp only [ho, bind, Except.bind, Except.mapError, pure, Except.pure] at h
        cases h
        exact ⟨rfl, ho⟩
      · rintro ⟨⟨⟩, hs⟩
        rw [ho] at hs
        cases hs
        simp only [ho, bind, Except.bind, Except.mapError, pure, Except.pure]

/-- Staging fails because there are no resources or because they may not be put in use. -/
theorem staged_eq_error {previous : Snapshot} {e : RunError} {w₁ : World σ}
    (h : r.staged p deploys previous w = (.error e, w₁)) :
    r.deployment p deploys previous w = (.error e, w₁) ∨
      ∃ d fault, r.deployment p deploys previous w = (.ok d, w₁) ∧
        Staged.supersede p.affected d.resources previous = .error fault ∧
        e = .phase (stagingPhase deploys) fault := by
  rw [staged] at h
  rcases hd : r.deployment p deploys previous w with ⟨e' | d, w'⟩
  · rw [hd] at h
    cases h
    exact .inl rfl
  · rw [hd] at h
    refine .inr ⟨d, ?_⟩
    cases ho : Staged.supersede p.affected d.resources previous with
    | error fault =>
      simp only [ho, bind, Except.bind, Except.mapError] at h
      cases h
      exact ⟨fault, rfl, rfl, rfl⟩
    | ok os =>
      simp only [ho, bind, Except.bind, Except.mapError, pure, Except.pure] at h
      cases h

/-- Expected names that are live resolve, and nothing is moved. -/
theorem staged_of_find {previous : Snapshot} {hs : List Handle}
    (found : Staged.find previous p.expected.toList = .ok hs) :
    r.staged p false previous w
      = (.ok { resources := hs, outputs := .empty, superseded := [] }, w) := by
  obtain ⟨names, live⟩ := Staged.find_eq_ok found
  have distinct : (hs.map (·.name)).Nodup := by
    rw [names]
    exact p.expected.nodup_toList
  refine staged_eq_ok_iff.2 ⟨?_, Staged.supersede_of_live distinct live⟩
  simp only [deployment, found]
  rfl

/-- An expected name that is not live is told of. -/
theorem staged_of_find_error {previous : Snapshot} {e : LookupError}
    (missing : Staged.find previous p.expected.toList = .error e) :
    r.staged p false previous w = (.error (.lookup e), w) := by
  simp only [staged, deployment, missing]
  rfl

/-- Whatever comes after staging, the result keeps what was staged. -/
theorem Course.of_staged {calls : List Invocation} {g : Progress σ} {s : Staged} {w₁ : World σ}
    (staging : r.staged p deploys registry.current w = (.ok s, w₁))
    (h : Course r p deploys registry w calls g) :
    .deployed ∈ g.result.trail ∧ g.result.resources = s.resources ∧
      g.result.superseded = s.superseded := by
  have same {s' : Staged} {w' : World σ}
      (staging' : r.staged p deploys registry.current w = (.ok s', w')) : s' = s := by
    rw [staging] at staging'
    cases staging'
    rfl
  cases h with
  | unstaged staging' =>
    rw [staging] at staging'
    cases staging'
  | unconfigured staging' setup fails =>
    cases same staging'
    exact ⟨by simp [merged, ProposalResult.record], rfl, rfl⟩
  | ungoverned setUp fails =>
    cases same setUp.staging
    exact ⟨by simp [configured, ProposalResult.record], rfl, rfl⟩
  | unretired executed fails =>
    cases same executed.staging
    exact ⟨by simp [configured, ProposalResult.record], rfl, rfl⟩
  | checked executed retiring context hook =>
    cases same executed.staging
    exact ⟨by simp [validated], rfl, rfl⟩

/-- Where staging fails, the result keeps the error and nothing else. -/
theorem Course.of_unstaged {calls : List Invocation} {g : Progress σ} {e : RunError} {w₁ : World σ}
    (staging : r.staged p deploys registry.current w = (.error e, w₁))
    (h : Course r p deploys registry w calls g) :
    g.registry = registry ∧ g.result =
      { id := p.id
        category := p.category
        deployInvoked := deploys
        failures := [{ phase := stagingPhase deploys, error := e }] } := by
  rw [← h.eq, (Course.unstaged staging).eq]
  exact ⟨rfl, rfl⟩

/-! ## Execution of the payload -/

/-- What can come of the execution of a payload: the call of the executor, if there is one, what
it comes to, and the world after it. -/
inductive Execution (r : Runner σ) (p : Proposal σ) (registry : Snapshot) (w : World σ) :
    List Invocation → Except RunError (Option Receipt) → World σ → Prop
  | unasked (h : r.config.executeGovernance = false ∨ p.category = .none ∨ p.payload = none) :
      Execution r p registry w [] (.ok none) w
  | unresolved {payload : Payload} {e : LookupError}
      (asked : r.config.executeGovernance = true ∧ p.category ≠ .none ∧ p.payload = some payload)
      (calls : payload.calls registry = .error e) :
      Execution r p registry w [] (.error (.lookup e)) w
  | called {payload : Payload} {calls : List Call} {o : Outcome ChainError Receipt}
      {x : Except RunError (Option Receipt)} {w' : World σ}
      (asked : r.config.executeGovernance = true ∧ p.category ≠ .none ∧ p.payload = some payload)
      (resolved : payload.calls registry = .ok calls)
      (execution : r.executor (action p calls) w = (o, w'))
      (outcome : ((o.mapError .chain).inPhase .governance).map some = x) :
      Execution r p registry w [.executor (action p calls) o] x w'

/-- Executing is one of the three things that it can be. -/
theorem execution_of_eq {registry : Snapshot} {w w' : World σ}
    {x : Except RunError (Option Receipt)} (h : r.execute p registry w = (x, w')) :
    Execution r p registry w (r.executionCalls p registry w) x w' := by
  rw [show x = (r.execute p registry w).1 by rw [h], show w' = (r.execute p registry w).2 by rw [h]]
  unfold execute executionCalls
  cases hp : p.payload with
  | none => exact .unasked (.inr (.inr hp))
  | some payload =>
    have asked_iff : (r.config.executeGovernance && p.hasGovernance) = true ↔
        r.config.executeGovernance = true ∧ p.category ≠ .none := by
      simp [Proposal.hasGovernance, Category.hasGovernance, hp]
    cases ha : r.config.executeGovernance && p.hasGovernance with
    | false =>
      refine .unasked ?_
      rw [ha] at asked_iff
      by_cases hx : r.config.executeGovernance = true
      · by_cases hc : p.category = .none
        · exact .inr (.inl hc)
        · exact absurd (asked_iff.2 ⟨hx, hc⟩) Bool.false_ne_true
      · exact .inl (Bool.eq_false_iff.2 hx)
    | true =>
      obtain ⟨hx, hc⟩ := asked_iff.1 ha
      cases hr : payload.calls registry with
      | error e =>
        simp only [hr]
        exact .unresolved ⟨hx, hc, hp⟩ hr
      | ok calls =>
        simp only [hr]
        exact .called ⟨hx, hc, hp⟩ hr rfl rfl

end Runner
end Rollout
