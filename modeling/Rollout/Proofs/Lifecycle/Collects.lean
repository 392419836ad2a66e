/-
# Assertion sets only collect

Whatever is recorded in an assertion set, the failures that are in it stay in it. So a set
without failures shows that everything recorded in it held, up to a failed gating assertion.

A validate hook is handed the set that the names and invariants of its proposal were recorded
in (`Validation.handed`). `Lifecycle.Records` says that it uses the set as what it is, one to record
in, and `Lifecycle.Collects` that it takes no failure out of it, which follows. The hooks of a
scripted or declared lifecycle all record. But the set is the hook's to assign as well, and one that
puts a fresh set in its place (`Lifecycle.forgetful`) hides all that failed before it.
-/

import Rollout.Lifecycle.Steps
import Rollout.Proofs.Assertion.Recording
import Rollout.Proofs.Run.Course

namespace Rollout

variable {σ : Type}

namespace AssertionSet

/-- Recording takes no failure back. -/
theorem failures_prefix_record (set : AssertionSet) (a : Assertion) :
    set.failures <+: (set.record a).failures := by
  rw [record]
  split
  · exact List.prefix_refl _
  · split
    · exact List.prefix_refl _
    · exact List.prefix_append _ _

/-- Recording one after another takes no failure back. -/
theorem failures_prefix_foldl_record (as : List Assertion) (set : AssertionSet) :
    set.failures <+: (as.foldl record set).failures := by
  induction as generalizing set with
  | nil => exact List.prefix_refl _
  | cons a as ih => exact (set.failures_prefix_record a).trans (ih _)

/-- Where nothing failed, all that was recorded held, if nothing could halt the set. -/
theorem holds_of_foldl_record {as : List Assertion} {set : AssertionSet}
    (open_ : set.haltedBy = none) (gating : ∀ a ∈ as, a.gating = false)
    (nil : (as.foldl record set).failures = []) : ∀ a ∈ as, a.holds = true := by
  have passable (a : Assertion) (ha : a ∈ as) : a.halts = false := by
    rw [Assertion.halts, gating a ha, Bool.false_and]
  rw [foldl_record open_, tally_of_not_halts passable] at nil
  have failed : as.filter (!·.holds) = [] :=
    List.map_eq_nil_iff.1 (List.append_eq_nil_iff.1 nil).2
  intro a ha
  simpa using List.filter_eq_nil_iff.1 failed a ha

/-- The second set is the first with assertions recorded in it. -/
def Grown (set set' : AssertionSet) : Prop := ∃ as : List Assertion, set' = as.foldl record set

namespace Grown

variable {s t u : AssertionSet}

/-- A set is itself with nothing recorded in it. -/
theorem refl (s : AssertionSet) : Grown s s := ⟨[], rfl⟩

/-- A set with one assertion recorded in it. -/
theorem record (s : AssertionSet) (a : Assertion) : Grown s (s.record a) := ⟨[a], rfl⟩

/-- What is recorded in two turns is recorded in one. -/
theorem trans (h : Grown s t) (h' : Grown t u) : Grown s u := by
  obtain ⟨as, rfl⟩ := h
  obtain ⟨bs, rfl⟩ := h'
  exact ⟨as ++ bs, List.foldl_append.symm⟩

/-- A set that something was recorded in has all of its failures at the front. -/
theorem failures (h : Grown s t) : s.failures <+: t.failures := by
  obtain ⟨as, rfl⟩ := h
  exact failures_prefix_foldl_record as s

end Grown

end AssertionSet

namespace Validation

/-- The assertions of the invariants that can be evaluated. -/
def evaluable (s : Snapshot) (c : Chain) (is : List Invariant) : List Assertion :=
  is.filterMap fun i => (i.assertion s c).toOption

/-- To check invariants is to record the assertions of those that can be evaluated. -/
theorem set_checkAll (s : Snapshot) (c : Chain) (is : List Invariant) (set : AssertionSet) :
    (checkAll s c is set).2 = (evaluable s c is).foldl AssertionSet.record set := by
  induction is generalizing set with
  | nil => rfl
  | cons i is ih =>
    rw [checkAll, Invariant.check, evaluable, List.filterMap_cons]
    cases i.assertion s c with
    | ok a => exact ih _
    | error e => exact ih _

/-- Checking invariants takes no failure back. -/
theorem failures_prefix_checkAll (s : Snapshot) (c : Chain) (is : List Invariant)
    (set : AssertionSet) : set.failures <+: (checkAll s c is set).2.failures := by
  rw [set_checkAll]
  exact AssertionSet.failures_prefix_foldl_record ..

end Validation

/-! ## Hooks -/

/-- The set that the validate hook of a proposal is handed. -/
def Validation.handed (p : Proposal σ) (ctx : ValidateContext) : AssertionSet :=
  (declared p ctx.registry ctx.chain).2

/-- What failed before the hook is still in the set that it leaves. -/
def Validation.Kept (p : Proposal σ) (ctx : ValidateContext) (set : AssertionSet) : Prop :=
  (handed p ctx).failures <+: set.failures

/-- The validate hook does with the set that it is handed nothing but record in it. -/
def Lifecycle.Records (l : Lifecycle σ) : Prop :=
  ∀ ctx set own, AssertionSet.Grown set (l.validate ctx set own).2.1

/-- The validate hook takes no failure out of the set that it is handed. -/
def Lifecycle.Collects (l : Lifecycle σ) : Prop :=
  ∀ ctx set own, set.failures <+: (l.validate ctx set own).2.1.failures

/-- A hook that only records takes no failure out of the set. -/
theorem Lifecycle.Records.collects {l : Lifecycle σ} (records : l.Records) : l.Collects :=
  fun ctx set own => (records ctx set own).failures

/-- A hook that collects leaves what failed before it. -/
theorem Lifecycle.Collects.kept {p : Proposal σ} (collects : p.lifecycle.Collects)
    (ctx : ValidateContext) (own : σ) :
    Validation.Kept p ctx (p.lifecycle.validate ctx (Validation.handed p ctx) own).2.1 :=
  collects ctx _ own

/-- The validate hook puts a fresh set in the place of the one that it is handed. -/
def Lifecycle.forgetful : Lifecycle σ :=
  { idle with validate := fun _ _ own => (.ok (), .empty, own) }

/-- Hooks that do nothing record. -/
theorem Lifecycle.records_idle : (idle : Lifecycle σ).Records :=
  fun _ set _ => .refl set

/-- Hooks that do nothing collect. -/
theorem Lifecycle.collects_idle : (idle : Lifecycle σ).Collects := records_idle.collects

/-- Declared hooks collect. -/
theorem Lifecycle.collects_declared (specs : List DeploymentSpec) :
    (declared specs : Lifecycle σ).Collects :=
  have records : (declared specs : Lifecycle σ).Records := fun _ set _ => .refl set
  records.collects

namespace Step

/-- Nothing is done with the set but to record in it. -/
def Effect.Records (f : Effect) : Prop := ∀ st, AssertionSet.Grown st.set (f st).2.set

/-- Writing a note records nothing. -/
theorem records_note (mark text : String) : Effect.Records (note mark text) :=
  fun _ => .refl _

/-- Attempting something records what follows records. -/
theorem records_attempt {ε α : Type} (cause : ε → HookError) (x : Except ε α)
    {next : α → Effect} (h : ∀ a, Effect.Records (next a)) :
    Effect.Records (attempt cause x next) := by
  intro st
  cases x with
  | ok a => exact h a st
  | error e => exact .refl _

/-- Every step of a script records. -/
theorem records_perform (mark : String) (view : View) (s : Step) :
    Effect.Records (s.perform mark view) := by
  cases s with
  | assertion a => exact fun st => .record st.set a
  | address name => exact records_attempt _ _ fun a => records_note _ _
  | previous name => exact records_attempt _ _ fun a => records_note _ _
  | previousAny name => exact records_attempt _ _ fun e => records_note _ _
  | output key type => exact records_attempt _ _ fun v => records_note _ _
  | call sender command =>
    refine records_attempt _ _ fun target => records_attempt _ _ fun a =>
      records_attempt _ _ fun c => ?_
    cases view.calls with
    | true => exact fun st => records_attempt _ _ (fun _ _ => .refl _) st
    | false => exact fun st => .refl _
  | fund account amount => exact records_attempt _ _ fun a st => .refl _
  | balance token holder =>
    exact records_attempt _ _ fun t => records_attempt _ _ fun h st =>
      records_attempt _ _ (fun n => records_note _ _) st
  | native account => exact records_attempt _ _ fun a st => .refl _
  | paused target =>
    exact records_attempt _ _ fun a st =>
      records_attempt _ _ (fun flag => records_note _ _) st
  | role r account => exact records_attempt _ _ fun a st => .refl _
  | equalAddress name subject expected =>
    exact records_attempt _ _ fun a st => .record st.set _
  | requireLive name subject => exact fun st => .record st.set _
  | _ => exact fun st => .refl _

/-- Several steps of a script record. -/
theorem records_performAll (mark : String) (view : View) (steps : List Step) :
    Effect.Records (performAll mark view steps) := by
  induction steps with
  | nil => exact fun st => .refl _
  | cons s steps ih =>
    intro st
    have step := records_perform mark view s st
    rw [performAll]
    split
    · next st' h =>
      rw [h] at step
      exact step.trans (ih st')
    · exact step

end Step

/-- The hooks written as steps record. -/
theorem ScriptSteps.records_lifecycle (s : ScriptSteps) (id : String) :
    (s.script id).lifecycle.Records := by
  intro ctx set own
  obtain ⟨deploying, deploy, setup, validate, teardown⟩ := s
  cases validate with
  | none => exact .refl _
  | some steps =>
    let mark := ({ id } : Script).mark "validate"
    let view : Step.View :=
      { registry := ctx.registry
        previous := ctx.previous
        resources := ctx.resources
        outputs := ctx.outputs
        calls := false }
    exact Step.records_performAll mark view steps
      { chain := ctx.chain, log := own.own ++ [mark], set }

/-- The hooks written as steps collect. -/
theorem ScriptSteps.collects_lifecycle (s : ScriptSteps) (id : String) :
    (s.script id).lifecycle.Collects :=
  (s.records_lifecycle id).collects

end Rollout
