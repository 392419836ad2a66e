/-
# A validation collects everything

Three sources write into one assertion set, one after the other:

| source | records | may halt the set |
| --- | --- | --- |
| the names of the proposal | one assertion for each | no |
| its invariants | one for each that can be evaluated; the others are errors | no |
| its hook | what it makes | yes |

So the set is never halted before the hook has it (`Validation.handed_eq`), and has in it what the
names and the invariants come to by themselves. What the hook adds comes behind that, however the
hook ends, as long as it only makes assertions in the set (`Validation.Makes`). It may also put
another set in its place, and then the validation finds no more than what is in that one
(`Validation.Collected`).
-/

import Rollout.Proofs.Assertion.Recording
import Rollout.Proofs.Invariant.Evaluation
import Rollout.Proofs.Lifecycle.Collects
import Rollout.Proofs.Run.Sequence
import Rollout.Proofs.Run.Steps

namespace Rollout
namespace Validation

variable {σ : Type} {p : Proposal σ} {ctx : ValidateContext} {own : σ} {s : Snapshot} {c : Chain}

/-! ## Names -/

/-- The names that should be live and are not. -/
def absent (p : Proposal σ) (s : Snapshot) : List String :=
  p.affected.toList.filter fun n => !s.isLive n

/-- The names that should not be live and are. -/
def lingering (p : Proposal σ) (s : Snapshot) : List String :=
  p.deprecated.toList.filter fun n => s.isLive n

/-- What fails of the names is one failure for each that is absent and for each that lingers. -/
theorem failures_signoff (p : Proposal σ) (s : Snapshot) :
    ((signoff p s).filter (!·.holds)).map Assertion.failure
      = (absent p s).map (fun n => (liveAssertion s n).failure)
        ++ (lingering p s).map fun n => (retiredAssertion s n).failure := by
  have live : (fun a : Assertion => !a.holds) ∘ liveAssertion s = fun n => !s.isLive n := rfl
  have retired : (fun a : Assertion => !a.holds) ∘ retiredAssertion s = fun n => s.isLive n :=
    funext fun n => Bool.not_not _
  rw [signoff, List.filter_append, List.map_append, List.filter_map, List.filter_map, List.map_map,
    List.map_map, live, retired]
  rfl

/-- No assertion on names halts the set. -/
theorem not_halts_signoff {a : Assertion} (mem : a ∈ signoff p s) : a.halts = false := by
  rcases List.mem_append.1 mem with mem | mem
  · obtain ⟨n, -, rfl⟩ := List.mem_map.1 mem
    rfl
  · obtain ⟨n, -, rfl⟩ := List.mem_map.1 mem
    rfl

/-! ## Invariants -/

/-- No assertion of an invariant halts the set. -/
theorem not_halts_evaluable {is : List Invariant} {a : Assertion} (mem : a ∈ evaluable s c is) :
    a.halts = false := by
  obtain ⟨i, -, made⟩ := List.mem_filterMap.1 mem
  cases evaluated : i.assertion s c with
  | error e =>
    rw [evaluated] at made
    cases made
  | ok b =>
    rw [evaluated] at made
    cases made
    rw [Assertion.halts, (Invariant.assertion_eq_ok_iff.1 evaluated).gating, Bool.false_and]

/-- What fails of the invariants is what fails of each by itself. -/
theorem failures_evaluable (s : Snapshot) (c : Chain) (is : List Invariant) :
    ((evaluable s c is).filter (!·.holds)).map Assertion.failure
      = is.flatMap fun i => (i.check s c .empty).2.failures := by
  induction is with
  | nil => rfl
  | cons i is ih =>
    rw [List.flatMap_cons, ← ih, evaluable, List.filterMap_cons, Invariant.check]
    cases i.assertion s c with
    | error e => rfl
    | ok a =>
      have alone : (AssertionSet.empty.record a).failures
          = if a.holds then [] else [a.failure] := by
        cases held : a.holds with
        | true => rw [AssertionSet.record_of_holds rfl held]; rfl
        | false => rw [AssertionSet.record_of_fails rfl held]; rfl
      rw [alone]
      cases held : a.holds <;> simp [Except.toOption, held, evaluable]

/-- As many assertions are made of the invariants as can be evaluated. -/
theorem length_evaluable (s : Snapshot) (c : Chain) (is : List Invariant) :
    (evaluable s c is).length = is.countP fun i => (i.check s c .empty).1.isOk := by
  rw [evaluable, List.length_filterMap_eq_countP]
  congr 1
  funext i
  rw [Invariant.check]
  cases i.assertion s c with
  | ok a => rfl
  | error e => rfl

/-! ## Before the hook -/

/-- **The set is not halted when the hook is handed it**, and has all of names and invariants. -/
theorem handed_eq (p : Proposal σ) (ctx : ValidateContext) :
    handed p ctx =
      { failures :=
          (absent p ctx.registry).map (fun n => (liveAssertion ctx.registry n).failure)
            ++ (lingering p ctx.registry).map (fun n => (retiredAssertion ctx.registry n).failure)
            ++ p.invariants.flatMap fun i => (i.check ctx.registry ctx.chain .empty).2.failures
        evaluated := p.affected.size + p.deprecated.size
          + p.invariants.countP fun i => (i.check ctx.registry ctx.chain .empty).1.isOk } := by
  have passable (a : Assertion)
      (mem : a ∈ signoff p ctx.registry ++ evaluable ctx.registry ctx.chain p.invariants) :
      a.halts = false := by
    rcases List.mem_append.1 mem with mem | mem
    · exact not_halts_signoff mem
    · exact not_halts_evaluable mem
  have sizes : (signoff p ctx.registry).length = p.affected.size + p.deprecated.size := by
    simp [signoff, KeySet.toList, Table.keys, Table.size]
  rw [handed, declared, set_checkAll, ← List.foldl_append, AssertionSet.foldl_record_empty,
    AssertionSet.tally_of_not_halts passable, List.filter_append, List.map_append,
    failures_signoff, failures_evaluable, List.length_append, sizes, length_evaluable]

/-! ## All three -/

/-- What something that is done in the phase ends with, where that is an error. -/
def faults (o : Outcome HookError Unit) : List RunError :=
  match o.inPhase .validate with
  | .ok () => []
  | .error e => [e]

/-- The errors of the invariants are those of each by itself. -/
theorem filterMap_fault?_eq (s : Snapshot) (c : Chain) (is : List Invariant) :
    is.filterMap (fault? s c) = is.flatMap fun i => faults (.ofExcept (i.check s c .empty).1) := by
  rw [List.filterMap_eq_flatMap_toList]
  congr 1
  funext i
  rw [fault?, Invariant.check]
  cases i.assertion s c with
  | ok a => rfl
  | error e => rfl

/-- The assertions that the hook makes, in the set that it is handed. -/
def Makes (p : Proposal σ) (ctx : ValidateContext) (own : σ) (as : List Assertion) : Prop :=
  (p.lifecycle.validate ctx (handed p ctx) own).2.1 = as.foldl AssertionSet.record (handed p ctx)

/-- A hook that only records makes some assertions. -/
theorem exists_makes (records : p.lifecycle.Records) (ctx : ValidateContext) (own : σ) :
    ∃ as, Makes p ctx own as :=
  records ctx (handed p ctx) own

/-- A hook that only records leaves what failed before it. -/
theorem Makes.kept {as : List Assertion} (makes : Makes p ctx own as) :
    Kept p ctx (p.lifecycle.validate ctx (handed p ctx) own).2.1 := by
  rw [Kept, makes]
  exact AssertionSet.failures_prefix_foldl_record as _

/-- What a validation finds. -/
structure Collected (p : Proposal σ) (ctx : ValidateContext) (own : σ) : Prop where
  /-- The hook is handed what failed of names and invariants, source by source, with nothing
  skipped. -/
  before : handed p ctx =
    { failures :=
        (absent p ctx.registry).map (fun n => (liveAssertion ctx.registry n).failure)
          ++ (lingering p ctx.registry).map (fun n => (retiredAssertion ctx.registry n).failure)
          ++ p.invariants.flatMap fun i => (i.check ctx.registry ctx.chain .empty).2.failures
      evaluated := p.affected.size + p.deprecated.size
        + p.invariants.countP fun i => (i.check ctx.registry ctx.chain .empty).1.isOk
      skipped := 0
      haltedBy := none }
  /-- The names come in ascending order. -/
  ascending : (absent p ctx.registry).Pairwise (· < ·) ∧
    (lingering p ctx.registry).Pairwise (· < ·)
  /-- The errors of the invariants, and that of the hook. -/
  errors : (ofProposal p ctx own).1.errors
    = (p.invariants.flatMap fun i =>
        faults (.ofExcept (i.check ctx.registry ctx.chain .empty).1))
      ++ faults (p.lifecycle.validate ctx (handed p ctx) own).1
  /-- Whatever was asserted before an invariant, it comes to the same. -/
  independent : ∀ i ∈ p.invariants, ∀ set : AssertionSet,
    (i.check ctx.registry ctx.chain set).1 = (i.check ctx.registry ctx.chain .empty).1 ∧
      (set.haltedBy = none → (i.check ctx.registry ctx.chain set).2.failures
        = set.failures ++ (i.check ctx.registry ctx.chain .empty).2.failures)
  /-- All else is found in the set that the hook leaves. -/
  left :
    let set := (p.lifecycle.validate ctx (handed p ctx) own).2.1
    (ofProposal p ctx own).1.failures = set.failures ∧
      (ofProposal p ctx own).1.evaluated = set.evaluated ∧
        (ofProposal p ctx own).1.skipped = set.skipped
  /-- What failed, if the hook makes the given assertions. -/
  failures : ∀ as, Makes p ctx own as → (ofProposal p ctx own).1.failures
    = (absent p ctx.registry).map (fun n => (liveAssertion ctx.registry n).failure)
      ++ (lingering p ctx.registry).map (fun n => (retiredAssertion ctx.registry n).failure)
      ++ (p.invariants.flatMap fun i => (i.check ctx.registry ctx.chain .empty).2.failures)
      ++ (as.foldl AssertionSet.record .empty).failures
  evaluated : ∀ as, Makes p ctx own as → (ofProposal p ctx own).1.evaluated
    = p.affected.size + p.deprecated.size
      + (p.invariants.countP fun i => (i.check ctx.registry ctx.chain .empty).1.isOk)
      + (as.foldl AssertionSet.record .empty).evaluated
  skipped : ∀ as, Makes p ctx own as →
    (ofProposal p ctx own).1.skipped = (as.foldl AssertionSet.record .empty).skipped
  /-- A name cannot be live and not live, and the hook cannot hide it by recording. -/
  contradicted : Kept p ctx (p.lifecycle.validate ctx (handed p ctx) own).2.1 →
    ∀ n, n ∈ p.affected.toList → n ∈ p.deprecated.toList → (ofProposal p ctx own).1.passed = false

/-- An invariant comes to the same whatever is in the set, and adds to a set that is not halted
what it adds to an empty one. -/
theorem independent_check (i : Invariant) (s : Snapshot) (c : Chain) (set : AssertionSet) :
    (i.check s c set).1 = (i.check s c .empty).1 ∧
      (set.haltedBy = none →
        (i.check s c set).2.failures = set.failures ++ (i.check s c .empty).2.failures) := by
  rw [Invariant.check, Invariant.check]
  cases i.assertion s c with
  | error e => exact ⟨rfl, fun _ => (List.append_nil _).symm⟩
  | ok a =>
    refine ⟨rfl, fun going => ?_⟩
    show (set.record a).failures = set.failures ++ (AssertionSet.empty.record a).failures
    cases held : a.holds with
    | true =>
      rw [AssertionSet.record_of_holds going held, AssertionSet.record_of_holds rfl held]
      exact (List.append_nil _).symm
    | false =>
      rw [AssertionSet.record_of_fails going held, AssertionSet.record_of_fails rfl held]
      rfl

/-- A name that should be live and should not be fails in one of the two ways. -/
theorem exists_failing {n : String} (affected : n ∈ p.affected.toList)
    (deprecated : n ∈ p.deprecated.toList) : n ∈ absent p s ∨ n ∈ lingering p s := by
  cases live : s.isLive n with
  | true => exact .inr (List.mem_filter.2 ⟨deprecated, live⟩)
  | false => exact .inl (List.mem_filter.2 ⟨affected, by rw [live]; rfl⟩)

/-- A name that should be live and should not be fails before the hook. -/
theorem failures_handed_ne_nil {n : String} (affected : n ∈ p.affected.toList)
    (deprecated : n ∈ p.deprecated.toList) : (handed p ctx).failures ≠ [] := by
  rw [handed_eq]
  rcases exists_failing (s := ctx.registry) affected deprecated with mem | mem
  · have some := List.ne_nil_of_mem mem
    simp [some]
  · have some := List.ne_nil_of_mem mem
    simp [some]

/-- What a validation finds is in the set that the hook leaves. -/
theorem ofProposal_eq_completed (p : Proposal σ) (ctx : ValidateContext) (own : σ) :
    (ofProposal p ctx own).1 = completed p ctx.registry ctx.chain
      (p.lifecycle.validate ctx (handed p ctx) own).1
      (p.lifecycle.validate ctx (handed p ctx) own).2.1 :=
  congrArg Prod.fst (ofProposal_eq rfl)

/-- The assertions that the hook makes come behind those of names and invariants. -/
theorem Makes.eq_append {as : List Assertion} (makes : Makes p ctx own as) :
    (p.lifecycle.validate ctx (handed p ctx) own).2.1
      = (handed p ctx).append (as.foldl AssertionSet.record .empty) := by
  have going : (handed p ctx).haltedBy = none := by rw [handed_eq]
  rw [makes, AssertionSet.foldl_record going, AssertionSet.foldl_record_empty]

/-- **A validation collects everything** that names and invariants come to, and all that a hook adds
by recording. -/
theorem collected_ofProposal (p : Proposal σ) (ctx : ValidateContext) (own : σ) :
    Collected p ctx own where
  before := handed_eq p ctx
  ascending := ⟨p.affected.pairwise_lt_toList.filter _, p.deprecated.pairwise_lt_toList.filter _⟩
  errors := by
    rw [ofProposal_eq_completed, completed, declared, errors_checkAll, filterMap_fault?_eq]
    rfl
  independent i _ set := independent_check i _ _ set
  left := by
    rw [ofProposal_eq_completed]
    exact ⟨rfl, rfl, rfl⟩
  failures as makes := by
    rw [ofProposal_eq_completed, completed, makes.eq_append, AssertionSet.append, handed_eq]
  evaluated as makes := by
    rw [ofProposal_eq_completed, completed, makes.eq_append, AssertionSet.append, handed_eq]
  skipped as makes := by
    rw [ofProposal_eq_completed, completed, makes.eq_append, AssertionSet.append, handed_eq]
    exact Nat.zero_add _
  contradicted kept n affected deprecated := by
    have found : (ofProposal p ctx own).1.failures
        = (p.lifecycle.validate ctx (handed p ctx) own).2.1.failures := by
      rw [ofProposal_eq_completed, completed]
    have nonempty : (ofProposal p ctx own).1.failures.isEmpty = false := by
      rw [found, List.isEmpty_eq_false_iff]
      intro nil
      rw [Kept, nil] at kept
      exact failures_handed_ne_nil affected deprecated (List.prefix_nil.1 kept)
    rw [passed, nonempty, Bool.false_and]

end Validation

namespace Drill

/-- A gauge that is off, a gate that stays shut, and one more gauge. -/
def gauges : List Assertion := [.check "gauge" false, .require "gate" false, .check "spare" false]

/-- A proposal that wants the core both live and retired, and the pool live; one of its invariants
is about nobody, and its hook panics after reading the gauges. -/
def audit : Proposal Unit where
  id := "audit"
  affected := .ofList ["pool", "core"]
  deprecated := .ofList ["core"]
  invariants := [.paused "nobody" false, .paused "core" true]
  lifecycle := {
    Lifecycle.idle with
    validate := fun _ set rest => (.panic none, gauges.foldl AssertionSet.record set, rest) }

/-- A proposal that wants the core both live and retired, and whose hook assigns a fresh set. -/
def amnesty : Proposal Unit where
  id := "amnesty"
  affected := .ofList ["core"]
  deprecated := .ofList ["core"]
  lifecycle := .forgetful

/-- What is validated: the core alone is live and has code. -/
def inspection : ValidateContext where
  registry := initial.current
  previous := initial.current
  resources := []
  outputs := .empty
  chain := Chain.empty.install core.address "Core"

end Drill

/-- Neither the invariant about nobody nor the panic hides anything; only the gauge behind the gate
is skipped. -/
theorem Validation.collected_audit :
    let v := (ofProposal Drill.audit Drill.inspection ()).1
    Makes Drill.audit Drill.inspection () Drill.gauges ∧
    v.failures.map (·.name)
      = ["signoff: pool is live", "signoff: core is deprecated", "invariant: core paused", "gauge",
        "gate"] ∧
    v.errors.length = 2 ∧ v.evaluated = 6 ∧ v.skipped = 1 ∧ v.passed = false := by
  have makes : Makes Drill.audit Drill.inspection () Drill.gauges := rfl
  have collected := collected_ofProposal Drill.audit Drill.inspection ()
  refine ⟨makes, ?_, by decide +kernel, (collected.evaluated _ makes).trans (by decide +kernel),
    (collected.skipped _ makes).trans (by decide +kernel),
    collected.contradicted makes.kept "core" (by decide +kernel) (by decide +kernel)⟩
  rw [collected.failures _ makes]
  decide +kernel

/-- **A hook that assigns a fresh set hides everything.** The core is live and should not be, and
with this hook the proposal passes with nothing evaluated. -/
theorem Validation.uncollected_amnesty :
    "core" ∈ Drill.amnesty.affected.toList ∧ "core" ∈ Drill.amnesty.deprecated.toList ∧
      lingering Drill.amnesty Drill.inspection.registry = ["core"] ∧
        let v := (ofProposal Drill.amnesty Drill.inspection ()).1
        v.failures = [] ∧ v.errors = [] ∧ v.evaluated = 0 ∧ v.passed = true := by
  decide +kernel

end Rollout
