/-
# The dependency check is sound

The check knows only what proposals declare, and a run does what the hooks please. Still the names
that the check has available are live in the registry of the run (`Covers`), as long as proposals
pass: one that passes has signed off that what it writes is live, and nothing but its retired names
goes out of use. This rests on the signoff being in the set that its validate hook leaves
(`Keeps`). A hook that assigns another set over it lets a proposal pass without what it writes
(`Runner.unprovided_forgotten`).

So if there are no issues, a proposal whose turn comes after none but passed ones has what it needs
(`Met`), and what could fail for want of a name does not (`Provided`):

| step | does not fail because |
| --- | --- |
| resolving | expected names are live |
| retiring | names to be retired are known |
| the payload | no name to be retired is unknown or retired already |
| signing off | affected names stay live, retired ones do not |
-/

import Rollout.Proofs.Catalogue.Availability
import Rollout.Proofs.Lifecycle.Collects
import Rollout.Proofs.Registry.References
import Rollout.Proofs.Run.Gating
import Rollout.Proofs.Run.Sequence

namespace Rollout

variable {σ : Type}

/-- All available names are live. -/
def Covers (a : Availability) (s : Snapshot) : Prop :=
  ∀ n ∈ a.available.toList, s.isLive n = true

/-- At first what is available is what is live. -/
theorem covers_ofSnapshot (s : Snapshot) : Covers (.ofSnapshot s) s := by
  intro n hn
  rw [Availability.ofSnapshot, KeySet.mem_ofList] at hn
  exact Snapshot.mem_liveNames_iff.1 hn

/-- The names that a proposal needs are live. -/
structure Met (p : Proposal σ) (deploys : Bool) (s : Snapshot) : Prop where
  deprecated : ∀ n ∈ p.deprecated.toList, s.isLive n = true
  expected : deploys = false → ∀ n ∈ p.expected.toList, s.isLive n = true
  affected : deploys = false → ∀ n ∈ p.affected.toList, s.isLive n = true

/-- Where all available names are live, a proposal that needs none but these is met. -/
theorem Covers.met {c : Catalogue σ} {p : Proposal σ} {a : Availability} {s : Snapshot}
    (covers : Covers a s) (needs : ∀ n ∈ (c.needs p).toList, n ∈ a.available.toList) :
    Met p (c.deploys p) s where
  deprecated n hn := covers n (needs n (Catalogue.mem_needs_iff.2 (.inl hn)))
  expected skipped n hn :=
    covers n (needs n (Catalogue.mem_needs_iff.2 (.inr ⟨skipped, .inl hn⟩)))
  affected skipped n hn :=
    covers n (needs n (Catalogue.mem_needs_iff.2 (.inr ⟨skipped, .inr hn⟩)))

/-- A result that passes after its teardown had no failure before it. -/
theorem ProposalResult.eq_nil_of_passed {x : ProposalResult} {o : Outcome HookError Unit}
    (h : (x.concluded o).passed = true) : x.failures = [] ∧ x.assertionFailures = [] := by
  rw [passed, Bool.and_eq_true, Bool.and_eq_true, List.isEmpty_iff, List.isEmpty_iff] at h
  obtain ⟨⟨failures, assertions⟩, -⟩ := h
  rw [assertionFailures_concluded] at assertions
  exact ⟨List.prefix_nil.1 (failures ▸ x.failures_prefix_concluded o), assertions⟩

namespace Runner

variable {r : Runner σ} {p : Proposal σ} {deploys : Bool} {registry : Registry} {w : World σ}

/-- What a proposal has that found all it needs. Its result is `x`. -/
structure Provided (r : Runner σ) (p : Proposal σ) (deploys : Bool) (registry : Registry)
    (w : World σ) (x : ProposalResult) : Prop where
  /-- If it does not deploy, it finds its resources. -/
  resolves : deploys = false → ∀ f ∈ x.failures, f.phase ≠ .resolve
  /-- If it comes to retiring names, they are retired. -/
  retires : ∀ s w₁ w₂ receipt w₃, Executed r p deploys registry w s w₁ w₂ receipt w₃ →
    ∃ registry', (registry.adding s.resources).retireAll p.deprecated.toList = .ok registry'
  /-- Its governance fails on no name to be retired. -/
  blameless : ∀ f ∈ x.failures, f.phase = .governance → ∀ e, f.error = .lookup e →
    e.name ∉ p.deprecated.toList
  /-- If it does not deploy, does not retire what it writes and is validated, all assertions on
  its names hold. -/
  signed : deploys = false → (∀ n ∈ p.affected.toList, n ∉ p.deprecated.toList) →
    ∀ ctx o set, .validate ctx o set ∈ r.calls p deploys registry w →
      ∀ a ∈ Validation.signoff p ctx.registry, a.holds = true

/-! ## What is live -/

/-- Putting resources in use takes no name out of use. -/
theorem isLive_adding {hs : List Handle} {n : String} (h : registry.current.isLive n = true) :
    (registry.adding hs).current.isLive n = true :=
  Snapshot.isLive_merge_ofHandles h

/-- Retiring changes nothing but the names to be retired. -/
theorem isLive_of_retireAll {registry' : Registry} {hs : List Handle} {ns : List String}
    (h : (registry.adding hs).retireAll ns = .ok registry') {n : String} :
    registry'.current.isLive n = true ↔
      n ∉ ns ∧ (registry.adding hs).current.isLive n = true := by
  rw [(Registry.retireAll_eq_ok_iff.1 h).2]
  exact Snapshot.isLive_foldl_retire

/-- A signoff asserts of affected names that they are live and of deprecated ones that they are not,
and nothing else. -/
theorem mem_signoff_iff {s : Snapshot} {a : Assertion} :
    a ∈ Validation.signoff p s ↔ (∃ n ∈ p.affected.toList, Validation.liveAssertion s n = a) ∨
      ∃ n ∈ p.deprecated.toList, Validation.retiredAssertion s n = a := by
  rw [Validation.signoff, List.mem_append, List.mem_map, List.mem_map]

/-- A signoff holds if affected names are live and deprecated ones are not. -/
theorem holds_signoff_of_isLive {s : Snapshot}
    (affected : ∀ n ∈ p.affected.toList, s.isLive n = true)
    (deprecated : ∀ n ∈ p.deprecated.toList, s.isLive n = false) :
    ∀ a ∈ Validation.signoff p s, a.holds = true := by
  intro a ha
  rcases mem_signoff_iff.1 ha with ⟨n, hn, rfl⟩ | ⟨n, hn, rfl⟩
  · exact affected n hn
  · rw [Validation.retiredAssertion, deprecated n hn]
    rfl

/-! ## A proposal that passes -/

/-- The validate hook, if it was called, left in the set that it was handed what had failed. -/
def Keeps (p : Proposal σ) (calls : List Invocation) : Prop :=
  ∀ ctx o set, .validate ctx o set ∈ calls → Validation.Kept p ctx set

/-- Nothing but the end of a course calls the validate hook. -/
theorem Course.validation_of_mem {calls : List Invocation} {g : Progress σ}
    (h : Course r p deploys registry w calls g) {ctx : ValidateContext}
    {o : Outcome HookError Unit} {set : AssertionSet} (called : .validate ctx o set ∈ calls) :
    ∃ hs registry' own own', (registry.adding hs).retireAll p.deprecated.toList = .ok registry' ∧
      ctx.registry = registry'.current ∧
        p.lifecycle.validate ctx (Validation.handed p ctx) own = (o, set, own') := by
  have called' : Body.validate ∈ calls.map Invocation.body := List.mem_map_of_mem called
  cases h with
  | unstaged staging => exact absurd (ordered_callsToStaging.subset called') (by decide)
  | unconfigured staging setup fails =>
    exact absurd (ordered_callsToSetup.subset called') (by decide)
  | ungoverned setUp fails => exact absurd (ordered_callsToExecution.subset called') (by decide)
  | unretired executed fails =>
    exact absurd (ordered_callsToExecution.subset called') (by decide)
  | checked executed retiring context hook =>
    rcases List.mem_append.1 called with called | called
    · have called' := ordered_callsToExecution.subset (List.mem_map_of_mem called)
      cases (by decide : Body.validate ∉ [Body.deploy, .setup, .executor]) called'
    · cases List.mem_singleton.1 called
      subst context
      exact ⟨_, _, _, _, retiring, rfl, hook⟩

/-- A hook that collects keeps what had failed. -/
theorem keeps_of_collects (collects : p.lifecycle.Collects) (r : Runner σ) (deploys : Bool)
    (registry : Registry) (w : World σ) : Keeps p (r.calls p deploys registry w) := by
  intro ctx o set called
  obtain ⟨calls, g, o', w', course, -, recorded⟩ := applyProposal_cases r p deploys registry w
  rw [recorded] at called
  rcases List.mem_append.1 called with called | called
  · obtain ⟨hs, registry', own, own', -, -, hook⟩ := course.validation_of_mem called
    have kept := collects.kept ctx own
    rwa [hook] at kept
  · cases List.mem_singleton.1 called

/-- Where nothing failed in the set that the hook leaves, and the hook kept what had failed, all
assertions on names hold. -/
theorem holds_signoff_of_kept {ctx : ValidateContext} {set : AssertionSet}
    (kept : Validation.Kept p ctx set) (nil : set.failures = []) :
    ∀ a ∈ Validation.signoff p ctx.registry, a.holds = true := by
  have before : ((Validation.signoff p ctx.registry).foldl AssertionSet.record .empty).failures
      = [] := by
    refine List.prefix_nil.1 ?_
    rw [← nil]
    exact (Validation.failures_prefix_checkAll ctx.registry ctx.chain p.invariants _).trans kept
  refine AssertionSet.holds_of_foldl_record rfl (fun a ha => ?_) before
  rcases mem_signoff_iff.1 ha with ⟨n, -, rfl⟩ | ⟨n, -, rfl⟩
  · rfl
  · rfl

/-- After a proposal that passes, what it writes is live, and so is all that was before and that
it does not retire. -/
theorem Course.isLive_of_passed {calls : List Invocation} {g : Progress σ}
    (h : Course r p deploys registry w calls g) (keeps : Keeps p calls)
    {o : Outcome HookError Unit} (passed : (g.result.concluded o).passed = true) :
    (∀ n ∈ p.affected.toList, g.registry.current.isLive n = true) ∧
      ∀ n, n ∉ p.deprecated.toList → registry.current.isLive n = true →
        g.registry.current.isLive n = true := by
  obtain ⟨failures, assertions⟩ := ProposalResult.eq_nil_of_passed passed
  cases h with
  | unstaged staging => cases failures
  | unconfigured staging setup fails => cases failures
  | ungoverned setUp fails => cases failures
  | unretired executed fails => cases failures
  | checked executed retiring context hook =>
    have kept := keeps _ _ _ (List.mem_append_right _ List.mem_cons_self)
    have signed := holds_signoff_of_kept kept assertions
    subst context
    refine ⟨fun n hn => ?_, fun n unretired live => ?_⟩
    · exact signed _ (mem_signoff_iff.2 (.inl ⟨n, hn, rfl⟩))
    · exact (isLive_of_retireAll retiring).2 ⟨unretired, isLive_adding live⟩

/-- **Names that are available stay live** over a proposal that passes. -/
theorem covers_applyProposal {a : Availability} (covers : Covers a registry.current)
    (keeps : Keeps p (r.calls p deploys registry w))
    (passed : (r.applyProposal p deploys registry w).result.passed = true) :
    Covers (a.after p) (r.applyProposal p deploys registry w).registry.current := by
  obtain ⟨calls, g, o, w', course, applied, called⟩ := applyProposal_cases r p deploys registry w
  rw [applied] at passed ⊢
  have kept : Keeps p calls := fun ctx o set mem =>
    keeps ctx o set (called ▸ List.mem_append_left _ mem)
  obtain ⟨written, others⟩ := course.isLive_of_passed kept passed
  intro n hn
  obtain ⟨unretired, hn⟩ := Availability.mem_available_after_iff.1 hn
  rcases hn with hn | hn
  · exact written n hn
  · exact others n unretired (covers n hn)

/-- Names that are available stay live over several proposals that pass. -/
theorem covers_applyAll {c : Catalogue σ} {ps : List (Proposal σ)} {a : Availability}
    {registry : Registry} {w : World σ} (covers : Covers a registry.current)
    (keeps : ∀ j q, ps[j]? = some q →
      let (registry', w') := (r.applyAll c (ps.take j) registry w).2
      Keeps q (r.calls q (c.deploys q) registry' w'))
    (passed : ∀ x ∈ (r.applyAll c ps registry w).1, x.passed = true) :
    Covers (ps.foldl Availability.after a) (r.applyAll c ps registry w).2.1.current := by
  induction ps generalizing a registry w with
  | nil => exact covers
  | cons p ps ih =>
    have head := covers_applyProposal covers (keeps 0 p rfl) (passed _ List.mem_cons_self)
    exact ih head (fun j q hq => keeps (j + 1) q hq)
      fun x hx => passed x (List.mem_cons_of_mem _ hx)

/-! ## A proposal that finds what it needs -/

/-- A proposal that finds what it expects is staged. -/
theorem exists_staged_eq_ok {previous : Snapshot} (met : Met p false previous) :
    ∃ s, r.staged p false previous w = (.ok s, w) := by
  obtain ⟨hs, found⟩ := Staged.exists_find_eq_ok (met.expected rfl)
  exact ⟨_, staged_of_find found⟩

/-- Names to be retired that are live are known after resources are put in use. -/
theorem exists_retireAll_eq_ok (met : Met p deploys registry.current) (hs : List Handle) :
    ∃ registry', (registry.adding hs).retireAll p.deprecated.toList = .ok registry' :=
  ⟨_, Registry.retireAll_eq_ok_iff.2 ⟨fun n hn =>
    Snapshot.contains_of_isLive (isLive_adding (met.deprecated n hn)), rfl⟩⟩

/-- An executor fails on the chain, and not on a name. -/
theorem ne_lookup (o : Outcome ChainError Receipt) (e : LookupError) :
    ((o.mapError HookError.chain).inPhase .governance).map some ≠ .error (.lookup e) := by
  cases o with
  | ok receipt => exact nofun
  | error cause => exact nofun
  | panic message => exact nofun

/-- An execution that fails on a name fails on one that is not live. -/
theorem isLive_of_execute_eq_error {s : Snapshot} {w w' : World σ} {e : LookupError}
    (h : r.execute p s w = (.error (.lookup e), w')) : s.isLive e.name = false := by
  generalize hx : (.error (.lookup e) : Except RunError (Option Receipt)) = x at h
  have execution := execution_of_eq h
  generalize r.executionCalls p s w = calls at execution
  cases execution with
  | unasked asked => cases hx
  | unresolved asked calls =>
    cases hx
    exact Payload.blames_calls s _ _ calls
  | called asked resolved execution outcome => exact absurd (outcome.trans hx.symm) (ne_lookup _ _)

namespace Course

variable {calls : List Invocation} {g : Progress σ}

/-- A proposal that is met and does not deploy has no failure in resolving. -/
theorem phase_ne_resolve (h : Course r p false registry w calls g)
    (met : Met p false registry.current) : ∀ f ∈ g.result.failures, f.phase ≠ .resolve := by
  cases h with
  | unstaged staging =>
    obtain ⟨s, ok⟩ := exists_staged_eq_ok (r := r) (w := w) met
    rw [ok] at staging
    cases staging
  | unconfigured staging setup fails =>
    intro f hf
    rw [List.mem_singleton.1 hf]
    exact nofun
  | ungoverned setUp fails =>
    intro f hf
    rw [List.mem_singleton.1 hf]
    exact nofun
  | unretired executed fails =>
    intro f hf
    rw [List.mem_singleton.1 hf]
    exact nofun
  | checked executed retiring context hook =>
    intro f hf
    obtain ⟨e, -, rfl⟩ := List.mem_map.1 hf
    exact nofun

/-- A proposal that is met does not fail in its governance on a name to be retired. -/
theorem not_mem_deprecated (h : Course r p deploys registry w calls g)
    (met : Met p deploys registry.current) : ∀ f ∈ g.result.failures, f.phase = .governance →
      ∀ e, f.error = .lookup e → e.name ∉ p.deprecated.toList := by
  intro f hf phase e he hn
  cases h with
  | unstaged staging =>
    rw [List.mem_singleton.1 hf] at phase
    cases deploys <;> cases phase
  | unconfigured staging setup fails =>
    rw [List.mem_singleton.1 hf] at phase
    cases phase
  | ungoverned setUp fails =>
    rw [List.mem_singleton.1 hf] at he
    cases he
    have dead := isLive_of_execute_eq_error fails
    rw [isLive_adding (met.deprecated _ hn)] at dead
    cases dead
  | unretired executed fails =>
    obtain ⟨registry', ok⟩ := exists_retireAll_eq_ok met _
    rw [ok] at fails
    cases fails
  | checked executed retiring context hook =>
    obtain ⟨e', -, rfl⟩ := List.mem_map.1 hf
    cases phase

/-- What a proposal writes is live when it is signed off, and what it retires is not. -/
theorem holds_signoff (h : Course r p false registry w calls g)
    (met : Met p false registry.current)
    (disjoint : ∀ n ∈ p.affected.toList, n ∉ p.deprecated.toList) {ctx : ValidateContext}
    {o : Outcome HookError Unit} {set : AssertionSet} (called : .validate ctx o set ∈ calls) :
    ∀ a ∈ Validation.signoff p ctx.registry, a.holds = true := by
  obtain ⟨hs, registry', own, own', retiring, seen, -⟩ := h.validation_of_mem called
  rw [seen]
  refine holds_signoff_of_isLive (fun n hn => ?_) fun n hn => ?_
  · rw [isLive_of_retireAll retiring]
    exact ⟨disjoint n hn, isLive_adding (met.affected rfl n hn)⟩
  · rw [← Bool.not_eq_true, isLive_of_retireAll retiring]
    exact fun live => live.1 hn

end Course

/-- **A proposal that finds what it needs is not stopped for want of a name.** -/
theorem provided_of_met (met : Met p deploys registry.current) :
    Provided r p deploys registry w (r.applyProposal p deploys registry w).result := by
  obtain ⟨calls, g, o, w', course, applied, called⟩ := applyProposal_cases r p deploys registry w
  rw [applied]
  constructor
  case resolves =>
    rintro rfl f hf
    rcases ProposalResult.mem_failures_concluded hf with hf | ⟨phase, -⟩
    · exact course.phase_ne_resolve met f hf
    · rw [phase]
      exact nofun
  case retires => exact fun s w₁ w₂ receipt w₃ _ => exists_retireAll_eq_ok met s.resources
  case blameless =>
    intro f hf governance
    rcases ProposalResult.mem_failures_concluded hf with hf | ⟨phase, -⟩
    · exact course.not_mem_deprecated met f hf governance
    · rw [phase] at governance
      cases governance
  case signed =>
    rintro rfl disjoint ctx o' set hc
    rw [called] at hc
    rcases List.mem_append.1 hc with hc | hc
    · exact course.holds_signoff met disjoint hc
    · cases List.mem_singleton.1 hc

/-! ## Runs -/

variable {c : Catalogue σ} {initial : Registry}

/-- A run with a deployer and without issues is not refused. -/
theorem exists_run_eq_ok (deployer : r.config.deployer.isZero = false)
    (clean : c.issues initial.current = []) (w : World σ) :
    ∃ report w', r.run c initial w = (.ok report, w') := by
  have accepted : r.refusal? c initial.current = none := by
    simp [refusal?, deployer, clean]
  exact ⟨_, _, by rw [run, accepted]⟩

/-- **The dependency check is sound.** With a deployer set and no issues a run comes to a report,
and a proposal after none but passed ones, whose validate hooks left the failures in the sets that
they were handed, is `Provided` with all the names that it needs. -/
theorem provided_of_run (deployer : r.config.deployer.isZero = false)
    (clean : c.issues initial.current = []) (w : World σ) :
    ∃ report w', r.run c initial w = (.ok report, w') ∧
      ∀ i p x, c.active[i]? = some p → report.results[i]? = some x →
        (∀ j q, j < i → c.active[j]? = some q →
          let (registry, w) := r.left c initial w j
          Keeps q (r.calls q (c.deploys q) registry w)) →
        (∀ y ∈ report.results.take i, y.passed = true) →
          Provided r p (c.deploys p) (r.left c initial w i).1 (r.left c initial w i).2 x := by
  obtain ⟨report, w', h⟩ := exists_run_eq_ok deployer clean w
  refine ⟨report, w', h, fun i p x hp hx keeps passed => ?_⟩
  have before : report.results.take i = (r.applyAll c (c.active.take i) initial w).1 := by
    rw [← take_applyAll, (run_eq_ok h).2.1]
  have kept (j : Nat) (q : Proposal σ) (hq : (c.active.take i)[j]? = some q) :
      let (registry, w) := (r.applyAll c ((c.active.take i).take j) initial w).2
      Keeps q (r.calls q (c.deploys q) registry w) := by
    rw [List.getElem?_take] at hq
    split at hq
    · next earlier =>
      rw [List.take_take, Nat.min_eq_left (Nat.le_of_lt earlier)]
      exact keeps j q earlier hq
    · cases hq
  have covers : Covers ((c.active.take i).foldl Availability.after (.ofSnapshot initial.current))
      (r.left c initial w i).1.current :=
    covers_applyAll (covers_ofSnapshot _) kept (before ▸ passed)
  have met : Met p (c.deploys p) (r.left c initial w i).1.current :=
    covers.met fun n hn => Catalogue.needs_available clean hp hn
  have result := result_of_run h i
  rw [hx, hp, Option.map_some, Option.some.injEq] at result
  rw [result]
  exact provided_of_met met

/-- The small catalogue has no issues, and its second proposal, which does not deploy, comes after
one that passes. -/
theorem provided_of_run_drill : ∃ report w' p x,
    Drill.runner.run Drill.catalogue Drill.initial Drill.world = (.ok report, w') ∧
      Drill.catalogue.active[1]? = some p ∧ Drill.catalogue.deploys p = false ∧
        report.results[1]? = some x ∧
          let (registry, w) := Drill.runner.left Drill.catalogue Drill.initial Drill.world 1
          Provided Drill.runner p false registry w x := by
  obtain ⟨report, w', h, provided⟩ := provided_of_run (r := Drill.runner) rfl
    (show Drill.catalogue.issues Drill.initial.current = [] from rfl) Drill.world
  have results : report.results
      = (Drill.runner.applyAll Drill.catalogue Drill.catalogue.active Drill.initial Drill.world).1 := by
    rw [(run_eq_ok h).2.1]
  refine ⟨report, w', _, _, h, rfl, rfl, by rw [results]; rfl, provided 1 _ _ rfl ?_ ?_ ?_⟩
  · rw [results]
    rfl
  · intro j q hj hq
    obtain rfl : j = 0 := Nat.lt_one_iff.1 hj
    obtain rfl := Option.some.inj hq
    refine keeps_of_collects ?_ _ _ _ _
    exact Lifecycle.collects_idle
  · rw [results]
    decide

end Runner

/-! ## A hook that forgets -/

namespace Drill

/-- The first proposal says that it writes the pool, does not, and has a hook that assigns a fresh
set; the second one expects the pool. -/
def bluff : Catalogue Unit where
  slots := [
    .active { id := "bluff", affected := .ofList ["pool"], lifecycle := .forgetful },
    .active { id := "call", deploys := false, expected := .ofList ["pool"] }]
  distinct := by decide

end Drill

/-- **A proposal that passed need not have what it signs off**, if its hook forgets what failed. The
check finds no issue, the first proposal passes, and the second one fails to resolve the pool. -/
theorem Runner.unprovided_forgotten :
    Drill.runner.config.deployer.isZero = false ∧ Drill.bluff.issues Drill.initial.current = [] ∧
      (Drill.bluff.active.map Drill.bluff.deploys) = [true, false] ∧
        ∃ report w', Drill.runner.run Drill.bluff Drill.initial Drill.world = (.ok report, w') ∧
          report.results.map (·.passed) = [true, false] ∧
            report.results.map (fun x => x.failures.map (·.phase)) = [[], [.resolve]] :=
  ⟨rfl, rfl, rfl, _, _, rfl, by decide +kernel, by decide +kernel⟩

end Rollout
