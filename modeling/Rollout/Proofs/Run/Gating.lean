/-
# Who is called, and when

The hooks of a proposal and the executor are called in one order, each at most once, and none
unless all before it went well. What went well is read off the calls alone (`Calls.stages` and
what follows it), so the gates of a run are statements about its list of calls:

| body | called iff |
| --- | --- |
| deploy | the proposal deploys |
| setup | staging succeeded |
| executor | setup succeeded, and there is a payload to execute that resolves |
| validate | setup and execution succeeded, and the names to be retired are known |
| teardown | always, and last |

The trail of the result counts the milestones that were passed in a row.
-/

import Rollout.Proofs.Run.Steps

namespace Rollout

variable {σ : Type}

namespace Invocation

/-- Whether the call came to a value. -/
def isOk : Invocation → Bool
  | deploy _ outcome => outcome.isOk
  | setup _ outcome => outcome.isOk
  | executor _ outcome => outcome.isOk
  | validate _ outcome _ => outcome.isOk
  | teardown _ outcome => outcome.isOk

/-- The resources that a call of the deploy hook returned. -/
def resources? : Invocation → Option (List Handle)
  | deploy _ (.ok d) => some d.resources
  | _ => none

/-- Whether the call is one of the validate hook that completes a validation in which all
invariants could be evaluated and no assertion failed. -/
def passes (p : Proposal σ) : Invocation → Bool
  | validate ctx outcome set =>
    outcome.isOk && set.failures.isEmpty &&
      p.invariants.all fun i => (i.assertion ctx.registry ctx.chain).isOk
  | _ => false

end Invocation

namespace Calls

/-- Whether a body is called. -/
def has (calls : List Invocation) (b : Body) : Bool := calls.any (·.body = b)

/-- Whether a body is called and comes to a value. -/
def succeeds (calls : List Invocation) (b : Body) : Bool := calls.any fun c => c.body = b && c.isOk

/-- Whether staging succeeds: the resources are had, deployed or found, and they may be put in
use. -/
def stages (calls : List Invocation) (p : Proposal σ) (deploys : Bool) (previous : Snapshot) :
    Bool :=
  let had :=
    if deploys then calls.findSome? Invocation.resources?
    else (Staged.find previous p.expected.toList).toOption
  had.any fun resources => (Staged.supersede p.affected resources previous).isOk

/-- Whether governance succeeds: the proposal is set up, and its payload, if there is one to
be executed, is executed. -/
def governs (calls : List Invocation) (r : Runner σ) (p : Proposal σ) : Bool :=
  succeeds calls .setup &&
    (!(r.config.executeGovernance && p.payload.isSome && p.category ≠ .none)
      || succeeds calls .executor)

/-- Whether all names to be retired are known to a registry. -/
def retires (p : Proposal σ) (registry : Snapshot) : Bool :=
  p.deprecated.toList.all registry.contains

/-- Whether the validation is passed. -/
def validates (calls : List Invocation) (p : Proposal σ) : Bool :=
  calls.any (Invocation.passes p)

/-- How many of the milestones of a proposal are passed in a row: staging, the setup, and the
governance with all that follows it. -/
def milestones (calls : List Invocation) (r : Runner σ) (p : Proposal σ) (deploys : Bool)
    (previous current : Snapshot) : Nat :=
  ([stages calls p deploys previous, succeeds calls .setup,
    governs calls r p && retires p current && validates calls p].takeWhile id).length

end Calls

open Calls in
/-- What the calls, the trail and the failures of a proposal have to do with each other. -/
structure Gated (r : Runner σ) (p : Proposal σ) (deploys : Bool) (registry : Registry)
    (calls : List Invocation) (x : ProposalResult) : Prop where
  /-- The calls come in this order, and no body is called twice. -/
  ordered : (calls.map Invocation.body).Sublist [.deploy, .setup, .executor, .validate, .teardown]
  deploy : has calls .deploy = deploys
  setup : has calls .setup = stages calls p deploys registry.current
  executor : has calls .executor = true ↔ succeeds calls .setup = true ∧
    r.config.executeGovernance = true ∧ p.category ≠ .none ∧
      ∃ payload, p.payload = some payload ∧
        (payload.calls (registry.adding x.resources).current).isOk = true
  validate : has calls .validate
    = (governs calls r p && retires p (registry.adding x.resources).current)
  teardown : ∃ before ctx outcome, calls = before ++ [.teardown ctx outcome] ∧
    has before .teardown = false
  trail : x.trail = .pending ::
    ([ProposalState.deployed, .configured, .validated].take
      (milestones calls r p deploys registry.current (registry.adding x.resources).current)
    ++ if succeeds calls .teardown then [.tornDown] else [])
  noTransition : ∀ f ∈ x.failures, ∀ t, f.error ≠ .transition t

namespace Calls

variable (c : Invocation) (calls rest : List Invocation) (b : Body)

@[simp] theorem has_nil : has [] b = false := rfl

@[simp] theorem has_cons : has (c :: calls) b = (decide (c.body = b) || has calls b) := rfl

/-- A body is called in two lists of calls if it is in one of them. -/
@[simp] theorem has_append : has (calls ++ rest) b = (has calls b || has rest b) :=
  List.any_append

@[simp] theorem succeeds_nil : succeeds [] b = false := rfl

@[simp] theorem succeeds_cons :
    succeeds (c :: calls) b = ((decide (c.body = b) && c.isOk) || succeeds calls b) := rfl

/-- A body succeeds in two lists of calls if it does in one of them. -/
@[simp] theorem succeeds_append :
    succeeds (calls ++ rest) b = (succeeds calls b || succeeds rest b) :=
  List.any_append

@[simp] theorem validates_nil (p : Proposal σ) : validates [] p = false := rfl

@[simp] theorem validates_cons (p : Proposal σ) :
    validates (c :: calls) p = (c.passes p || validates calls p) := rfl

/-- A proposal is validated in two lists of calls if it is in one of them. -/
@[simp] theorem validates_append (p : Proposal σ) :
    validates (calls ++ rest) p = (validates calls p || validates rest p) :=
  List.any_append

variable {c calls rest b}

/-- What is not called does not succeed. -/
theorem succeeds_of_not_has (h : has calls b = false) : succeeds calls b = false := by
  rw [succeeds, List.any_eq_false]
  intro c hc e
  rw [Bool.and_eq_true] at e
  exact List.any_eq_false.1 h c hc e.1

/-- Without a call of the deploy hook no call has resources. -/
theorem findSome?_resources?_of_not_has (h : has calls .deploy = false) :
    calls.findSome? Invocation.resources? = none := by
  rw [List.findSome?_eq_none_iff]
  intro c hc
  have hb := List.any_eq_false.1 h c hc
  cases c with
  | deploy => simp [Invocation.body] at hb
  | _ => rfl

/-- Without a call of the validate hook nothing is validated. -/
theorem validates_of_not_has {p : Proposal σ} (h : has calls .validate = false) :
    validates calls p = false := by
  rw [validates, List.any_eq_false]
  intro c hc
  have hb := List.any_eq_false.1 h c hc
  cases c with
  | validate => simp [Invocation.body] at hb
  | _ => simp [Invocation.passes]

end Calls

namespace Runner

open Calls

variable {r : Runner σ} {p : Proposal σ} {deploys : Bool} {registry : Registry} {w : World σ}
variable {calls : List Invocation} {g : Progress σ}

/-! ## The pieces of a list of calls -/

/-- Before its resources are staged a proposal calls its deploy hook if it deploys, and nothing
else. -/
@[simp] theorem has_callsToStaging (b : Body) :
    has (r.callsToStaging p deploys registry w) b = (deploys && decide (b = .deploy)) := by
  cases deploys with
  | true => cases b <;> rfl
  | false => rfl

/-- Nothing but the deploy hook can have succeeded before the resources are staged. -/
@[simp] theorem succeeds_callsToStaging {b : Body} (hb : b ≠ .deploy) :
    succeeds (r.callsToStaging p deploys registry w) b = false := by
  cases deploys with
  | true =>
    have : Invocation.body (.deploy (r.deployContext registry.current)
      (p.lifecycle.deploy (r.deployContext registry.current) w).1) ≠ b := hb.symm
    simp [callsToStaging, this]
  | false => rfl

/-- Nothing is validated before the resources are staged. -/
@[simp] theorem validates_callsToStaging :
    validates (r.callsToStaging p deploys registry w) p = false := by
  cases deploys <;> rfl

/-- Whether staging succeeds is read off the calls. -/
theorem stages_eq {rest : List Invocation} (h : has rest .deploy = false) :
    stages (r.callsToStaging p deploys registry w ++ rest) p deploys registry.current
      = (r.staged p deploys registry.current w).1.isOk := by
  have rest_none : rest.findSome? Invocation.resources? = none :=
    findSome?_resources?_of_not_has h
  cases deploys with
  | true =>
    have hc : r.callsToStaging p true registry w = [.deploy (r.deployContext registry.current)
      (p.lifecycle.deploy (r.deployContext registry.current) w).1] := rfl
    have hd : r.deployment p true registry.current w
        = ((p.lifecycle.deploy (r.deployContext registry.current) w).1.inPhase .deploy,
          (p.lifecycle.deploy (r.deployContext registry.current) w).2) := rfl
    rw [hc, stages, staged, hd, List.cons_append, List.nil_append, List.findSome?_cons]
    cases (p.lifecycle.deploy (r.deployContext registry.current) w).1 with
    | ok d =>
      cases hs : Staged.supersede p.affected d.resources registry.current <;>
        simp [Invocation.resources?, Outcome.inPhase, hs, bind, Except.bind, Except.mapError,
          pure, Except.pure, Except.isOk, Except.toBool]
    | error e => simp [Invocation.resources?, rest_none, Outcome.inPhase, bind, Except.bind,
        Except.isOk, Except.toBool]
    | panic m => simp [Invocation.resources?, rest_none, Outcome.inPhase, bind, Except.bind,
        Except.isOk, Except.toBool]
  | false =>
    have hd : r.deployment p false registry.current w
        = (((Staged.find registry.current p.expected.toList).map
          fun resources => { resources }).mapError .lookup, w) := rfl
    rw [stages, staged, hd]
    cases Staged.find registry.current p.expected.toList with
    | ok hs =>
      cases ho : Staged.supersede p.affected hs registry.current <;>
        simp [ho, bind, Except.bind, Except.mapError, Except.map, Except.toOption,
          pure, Except.pure, Except.isOk, Except.toBool]
    | error e => simp [bind, Except.bind, Except.mapError, Except.map, Except.toOption,
        Except.isOk, Except.toBool]

/-! ## Courses -/

/-- Up to staging at most the deploy hook is called. -/
theorem ordered_callsToStaging :
    ((r.callsToStaging p deploys registry w).map Invocation.body).Sublist [.deploy] := by
  cases deploys with
  | true => exact List.Sublist.refl _
  | false => exact List.nil_sublist _

/-- Executing calls at most the executor. -/
theorem ordered_executionCalls (registry : Snapshot) (w : World σ) :
    ((r.executionCalls p registry w).map Invocation.body).Sublist [.executor] := by
  rcases hx : r.execute p registry w with ⟨x, w'⟩
  have h := execution_of_eq hx
  generalize r.executionCalls p registry w = calls at h ⊢
  cases h with
  | unasked => exact List.nil_sublist _
  | unresolved => exact List.nil_sublist _
  | called => exact List.Sublist.refl _

/-- Up to setup the deploy hook and the setup hook are called, in this order and at most once. -/
theorem ordered_callsToSetup {s : Staged} {o : Outcome HookError Unit} :
    ((r.callsToSetup p deploys registry w s o).map Invocation.body).Sublist [.deploy, .setup] := by
  rw [callsToSetup, List.map_append]
  exact ordered_callsToStaging.append (List.Sublist.refl _)

/-- Up to the execution the deploy hook, the setup hook and the executor are called, in this order
and at most once. -/
theorem ordered_callsToExecution {s : Staged} {w₂ : World σ} :
    ((r.callsToExecution p deploys registry w s w₂).map Invocation.body).Sublist
      [.deploy, .setup, .executor] := by
  rw [callsToExecution, List.map_append]
  exact ordered_callsToSetup.append (ordered_executionCalls _ _)

/-- In every course bodies are called in order and at most once. -/
theorem Course.ordered (h : Course r p deploys registry w calls g) :
    (calls.map Invocation.body).Sublist [.deploy, .setup, .executor, .validate] := by
  cases h with
  | unstaged => exact ordered_callsToStaging.trans (by decide)
  | unconfigured => exact ordered_callsToSetup.trans (by decide)
  | ungoverned => exact ordered_callsToExecution.trans (by decide)
  | unretired => exact ordered_callsToExecution.trans (by decide)
  | checked =>
    rw [List.map_append]
    exact ordered_callsToExecution.append (List.Sublist.refl [Body.validate])

/-- Executing calls nothing but the executor. -/
@[simp] theorem has_executionCalls {b : Body} (hb : b ≠ .executor) (registry : Snapshot)
    (w : World σ) : has (r.executionCalls p registry w) b = false := by
  rw [has, List.any_eq_false]
  intro c hc e
  have hm := (ordered_executionCalls (r := r) (p := p) registry w).subset (List.mem_map_of_mem hc)
  rw [List.mem_singleton, of_decide_eq_true e] at hm
  exact hb hm

/-- The executor is called if there is a payload to be executed, and it resolves. -/
theorem has_executor_iff {registry : Snapshot} {w : World σ} :
    has (r.executionCalls p registry w) .executor = true ↔
      r.config.executeGovernance = true ∧ p.category ≠ .none ∧
        ∃ payload, p.payload = some payload ∧ (payload.calls registry).isOk = true := by
  rcases hx : r.execute p registry w with ⟨x, w'⟩
  have h := execution_of_eq hx
  generalize r.executionCalls p registry w = calls at h ⊢
  cases h with
  | unasked h =>
    rcases h with h | h | h <;> simp [h]
  | unresolved asked resolved =>
    simp [asked.2.2, resolved, Except.isOk, Except.toBool]
  | called asked resolved =>
    simp [asked.1, asked.2.1, asked.2.2, resolved, Except.isOk, Except.toBool, Invocation.body]

/-- Whether governance succeeds is read off the calls. -/
theorem governs_eq {registry : Snapshot} {w : World σ} {before rest : List Invocation}
    (hb : succeeds before .executor = false) (hr : succeeds rest .executor = false) :
    governs (before ++ r.executionCalls p registry w ++ rest) r p
      = (succeeds (before ++ r.executionCalls p registry w ++ rest) .setup
        && (r.execute p registry w).1.isOk) := by
  rcases hx : r.execute p registry w with ⟨x, w'⟩
  have h := execution_of_eq hx
  rw [governs]
  congr 1
  rw [succeeds_append, succeeds_append, hb, hr]
  generalize r.executionCalls p registry w = calls at h ⊢
  cases h with
  | unasked h =>
    rcases h with h | h | h <;> simp [h, Except.isOk, Except.toBool]
  | unresolved asked resolved =>
    simp [asked.1, asked.2.1, asked.2.2, Except.isOk, Except.toBool]
  | called asked resolved execution outcome =>
    rename_i o
    rw [← outcome]
    cases o <;> simp [asked.1, asked.2.1, asked.2.2, Invocation.body, Invocation.isOk, Outcome.isOk,
      Outcome.mapError, Outcome.inPhase, Except.map, Except.isOk, Except.toBool]

/-- The names to be retired are retired if retiring them one by one succeeds. -/
theorem retires_eq (p : Proposal σ) (registry : Registry) :
    retires p registry.current = (registry.retireAll p.deprecated.toList).isOk := by
  rw [Bool.eq_iff_iff, retires, List.all_eq_true]
  cases hr : registry.retireAll p.deprecated.toList with
  | ok registry' => simpa [Except.isOk, Except.toBool] using (Registry.retireAll_eq_ok_iff.1 hr).1
  | error e =>
    simp only [Except.isOk, Except.toBool, Bool.false_eq_true, iff_false]
    intro h
    rw [Registry.retireAll_eq_ok_iff.2 ⟨h, rfl⟩] at hr
    cases hr

/-- A call of the validate hook passes if the validation that it completes does. -/
theorem passes_eq {ctx : ValidateContext} {o : Outcome HookError Unit} {set : AssertionSet} :
    Invocation.passes p (.validate ctx o set)
      = (Validation.completed p ctx.registry ctx.chain o set).passed := by
  rw [Bool.eq_iff_iff, Validation.passed_completed_iff]
  cases o <;> simp [Invocation.passes, Outcome.isOk]

/-! ## The calls of a course -/

namespace Course

attribute [local simp] callsToExecution callsToSetup Invocation.body Invocation.isOk Except.isOk
  Except.toBool started merged configured retired validated ProposalResult.record

variable (ctx : PhaseContext) (o : Outcome HookError Unit)

/-- The deploy hook is called if the proposal deploys. -/
theorem has_deploy (h : Course r p deploys registry w calls g) :
    has calls .deploy = deploys := by
  cases h <;> simp

/-- No course calls the teardown hook, which comes behind all of them. -/
theorem has_teardown (h : Course r p deploys registry w calls g) :
    has calls .teardown = false := by
  cases h <;> simp

/-- The calls up to staging come first, and the deploy hook is not called again. -/
theorem exists_eq_callsToStaging_append (h : Course r p deploys registry w calls g) :
    ∃ rest, calls = r.callsToStaging p deploys registry w ++ rest ∧ has rest .deploy = false := by
  cases h with
  | unstaged => exact ⟨[], (List.append_nil _).symm, rfl⟩
  | unconfigured => exact ⟨_, rfl, rfl⟩
  | _ =>
    simp only [callsToExecution, callsToSetup, List.append_assoc]
    exact ⟨_, rfl, by simp⟩

/-- The resources are staged, as the calls show, if staging succeeds. -/
theorem stages_append (h : Course r p deploys registry w calls g) :
    stages (calls ++ [.teardown ctx o]) p deploys registry.current
      = (r.staged p deploys registry.current w).1.isOk := by
  obtain ⟨rest, rfl, hr⟩ := h.exists_eq_callsToStaging_append
  rw [List.append_assoc, stages_eq]
  simp [hr]

/-- The setup hook is called if staging succeeds. -/
theorem has_setup (h : Course r p deploys registry w calls g) :
    has calls .setup = (r.staged p deploys registry.current w).1.isOk := by
  cases h with
  | unstaged staging => simp [staging]
  | unconfigured staging => simp [staging]
  | ungoverned setUp => simp [setUp.staging]
  | unretired executed => simp [executed.staging]
  | checked executed => simp [executed.staging]

/-- The executor is called if setup succeeds, governance is asked for, and the payload resolves
against the registry with the resources. -/
theorem has_executor_iff (h : Course r p deploys registry w calls g) :
    has calls .executor = true ↔ succeeds calls .setup = true ∧
      r.config.executeGovernance = true ∧ p.category ≠ .none ∧ ∃ payload, p.payload = some payload ∧
        (payload.calls (registry.adding g.result.resources).current).isOk = true := by
  cases h with
  | unstaged => simp
  | unconfigured staging setup fails =>
    simp [Outcome.isOk_of_inPhase_eq_error fails]
  | _ => simpa using Runner.has_executor_iff

/-- The validate hook is called if the governance succeeds and all names to be retired are known. -/
theorem has_validate (h : Course r p deploys registry w calls g) :
    has calls .validate = (governs (calls ++ [.teardown ctx o]) r p
      && retires p (registry.adding g.result.resources).current) := by
  cases h with
  | unstaged => simp [governs]
  | unconfigured staging setup fails =>
    simp [governs, Outcome.isOk_of_inPhase_eq_error fails]
  | ungoverned setUp fails =>
    rw [callsToExecution, governs_eq (by simp) (by simp), fails]
    simp
  | unretired executed fails =>
    rw [callsToExecution, governs_eq (by simp) (by simp), executed.execution, retires_eq]
    simp [fails]
  | checked executed retiring =>
    rw [List.append_assoc, callsToExecution, governs_eq (by simp) (by simp), executed.execution,
      retires_eq]
    simp [retiring]

/-- The trail of a course counts the milestones. -/
theorem trail (h : Course r p deploys registry w calls g) :
    g.result.trail = .pending :: [ProposalState.deployed, .configured, .validated].take
      (milestones (calls ++ [.teardown ctx o]) r p deploys registry.current
        (registry.adding g.result.resources).current) := by
  have hs := h.stages_append ctx o
  have hv := h.has_validate ctx o
  cases h with
  | unstaged staging =>
    rw [milestones, hs, staging]
    rfl
  | unconfigured staging setup fails =>
    rw [milestones, hs, staging]
    simp [Outcome.isOk_of_inPhase_eq_error fails]
  | ungoverned setUp fails =>
    rw [milestones, hs, setUp.staging, ← hv]
    simp
  | unretired executed fails =>
    rw [milestones, hs, executed.staging, ← hv]
    simp
  | checked executed retiring context hook =>
    rename_i s w₁ w₂ w₃ receipt registry' ctx' o' set rest
    have none : validates (r.callsToExecution p deploys registry w s w₂) p = false :=
      validates_of_not_has (by simp)
    have hp : validates (r.callsToExecution p deploys registry w s w₂ ++ [.validate ctx' o' set]
        ++ [.teardown ctx o]) p = (Validation.completed p registry'.current w₃.chain o' set).passed := by
      rw [validates_append, validates_append, validates_cons, passes_eq, context, none]
      exact (Bool.or_false _).trans (Bool.or_false _)
    rw [milestones, hs, executed.staging, ← hv, hp]
    cases h : (Validation.completed p registry'.current w₃.chain o' set).passed <;> simp [h]

end Course

/-! ## Illegal transitions -/

/-- An error of a hook is no transition error. -/
theorem ofHook_ne_transition (phase : Phase) (e : HookError) (t : IllegalTransition) :
    RunError.ofHook phase e ≠ .transition t := by
  cases e <;> nofun

/-- What a hook fails with is no transition error. -/
theorem ne_transition_of_inPhase {α : Type} {outcome : Outcome HookError α} {phase : Phase}
    {e : RunError} (h : outcome.inPhase phase = .error e) (t : IllegalTransition) :
    e ≠ .transition t := by
  cases outcome with
  | ok a => cases h
  | error e' => cases h; exact ofHook_ne_transition phase e' t
  | panic m => cases h; nofun

/-- Staging does not fail with a transition error. -/
theorem ne_transition_of_staged {e : RunError} {w₁ : World σ}
    (h : r.staged p deploys registry.current w = (.error e, w₁)) (t : IllegalTransition) :
    e ≠ .transition t := by
  rcases staged_eq_error h with h | ⟨d, fault, -, -, rfl⟩
  · cases deploys with
    | true => exact ne_transition_of_inPhase (congrArg Prod.fst h) t
    | false =>
      rw [deployment] at h
      cases hf : Staged.find registry.current p.expected.toList <;>
        simp [hf, Except.map, Except.mapError] at h
      rw [← h.1]
      intro e
      cases e
  · intro e
    cases e

/-- Executing does not fail with a transition error. -/
theorem ne_transition_of_execute {registry : Snapshot} {w w' : World σ} {e : RunError}
    (h : r.execute p registry w = (.error e, w')) (t : IllegalTransition) : e ≠ .transition t := by
  have h := execution_of_eq h
  generalize r.executionCalls p registry w = calls at h
  cases h with
  | unresolved => nofun
  | called asked resolved execution outcome =>
    rename_i o
    cases ho : (o.mapError .chain).inPhase .governance with
    | ok receipt => rw [ho] at outcome; cases outcome
    | error e' =>
      rw [ho] at outcome
      cases outcome
      exact ne_transition_of_inPhase ho t

/-- No course has a transition error among its failures. -/
theorem Course.ne_transition (h : Course r p deploys registry w calls g) :
    ∀ f ∈ g.result.failures, ∀ t, f.error ≠ .transition t := by
  intro f hf
  cases h with
  | unstaged staging =>
    rw [List.mem_singleton.1 hf]
    exact ne_transition_of_staged staging
  | unconfigured staging setup fails =>
    rw [List.mem_singleton.1 hf]
    exact ne_transition_of_inPhase fails
  | ungoverned setUp fails =>
    rw [List.mem_singleton.1 hf]
    exact ne_transition_of_execute fails
  | unretired executed fails =>
    rw [List.mem_singleton.1 hf]
    nofun
  | checked executed retiring context hook =>
    obtain ⟨e, he, rfl⟩ := List.mem_map.1 hf
    rcases Validation.mem_errors_completed he with ⟨cause, rfl⟩ | he
    · exact ofHook_ne_transition _ cause
    · exact ne_transition_of_inPhase he

/-- The end of a proposal adds no transition error. -/
theorem ne_transition_of_concluded {x : ProposalResult}
    (h : ∀ f ∈ x.failures, ∀ t, f.error ≠ .transition t) (o : Outcome HookError Unit) :
    ∀ f ∈ (x.concluded o).failures, ∀ t, f.error ≠ .transition t := by
  intro f hf
  rcases ProposalResult.mem_failures_concluded hf with hf | ⟨-, ho⟩
  · exact h f hf
  · exact ne_transition_of_inPhase ho

/-! ## The gates -/

/-- Every course with its teardown behind it is gated. -/
theorem Course.gated (h : Course r p deploys registry w calls g) (ctx : PhaseContext)
    (o : Outcome HookError Unit) :
    Gated r p deploys registry (calls ++ [.teardown ctx o]) (g.result.concluded o) where
  ordered := by
    rw [List.map_append]
    exact h.ordered.append (List.Sublist.refl [Body.teardown])
  deploy := by
    rw [has_append, h.has_deploy]
    exact Bool.or_false _
  setup := by
    rw [has_append, h.has_setup, h.stages_append]
    exact Bool.or_false _
  executor := by
    rw [ProposalResult.resources_concluded]
    simpa [Invocation.body] using h.has_executor_iff
  validate := by
    rw [ProposalResult.resources_concluded, ← h.has_validate ctx o, has_append]
    exact Bool.or_false _
  teardown := ⟨calls, ctx, o, rfl, h.has_teardown⟩
  trail := by
    have last : succeeds (calls ++ [.teardown ctx o]) .teardown = o.isOk := by
      rw [succeeds_append, succeeds_of_not_has h.has_teardown]
      exact Bool.or_false _
    rw [ProposalResult.trail_concluded, ProposalResult.resources_concluded, last, h.trail ctx o]
    rfl
  noTransition := ne_transition_of_concluded h.ne_transition o

/-- **The gates of a proposal's run.** The run that writes down its calls is the run without
them and the list of calls beside it, and that list, the trail and the failures are `Gated`:
every body is called exactly if the steps before it went well, the teardown hook always and
last. -/
theorem applyProposal_gated (r : Runner σ) (p : Proposal σ) (deploys : Bool)
    (registry : Registry) (w : World σ) :
    r.recorded.applyProposal p.recorded deploys registry (w.recorded [])
        = (r.applyProposal p deploys registry w).recorded (r.calls p deploys registry w) ∧
      Gated r p deploys registry (r.calls p deploys registry w)
        (r.applyProposal p deploys registry w).result := by
  refine ⟨applyProposal_recorded r p deploys registry w [], ?_⟩
  obtain ⟨calls, g, o, w', course, applied, called⟩ := applyProposal_cases r p deploys registry w
  rw [called, applied]
  exact course.gated _ o

end Runner
end Rollout
