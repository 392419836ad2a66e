/-
# Refused at once, or covered as a whole

A run asks two things before it calls anybody, in this order:

| asked | error if not |
| --- | --- |
| a deployer is set | `ConfigurationFault.zeroDeployer` |
| dependencies are not strict, or there are no issues | `RunError.dependencies` |

If one of them is not so, nobody is called and the world stays as it is. Otherwise the run comes to
a report whatever the hooks and the executor do, with one result for each active proposal
(`Runner.answered_run`). Placeholders are told of in the report and make no other difference.
-/

import Rollout.Proofs.Catalogue.Issues
import Rollout.Proofs.Run.Trace

namespace Rollout

variable {σ : Type}

/-! ## Catalogues without placeholders -/

namespace Catalogue

/-- Without its placeholders a catalogue has none. -/
theorem placeholders_withoutPlaceholders (c : Catalogue σ) :
    c.withoutPlaceholders.placeholders = [] := by
  rw [placeholders, withoutPlaceholders, List.map_eq_nil_iff, List.filter_eq_nil_iff]
  intro s hs
  have active := (List.mem_filter.1 hs).2
  simpa [Option.isSome_iff_ne_none] using active

/-- Placeholders have no part in which proposals deploy. -/
theorem deploys_withoutPlaceholders (c : Catalogue σ) (p : Proposal σ) :
    c.withoutPlaceholders.deploys p = c.deploys p := rfl

/-- Of a catalogue nothing counts for the check but which proposals are deployed. -/
theorem issuesOf_congr {c c' : Catalogue σ} (h : ∀ p, c.deploys p = c'.deploys p)
    (ps : List (Proposal σ)) (a : Availability) : c.issuesOf a ps = c'.issuesOf a ps := by
  induction ps generalizing a with
  | nil => rfl
  | cons p ps ih => simp only [issuesOf, needs, h, ih]

end Catalogue

/-- The report without its placeholders. -/
def Report.unskipped (report : Report) : Report := { report with skipped := [] }

namespace Runner

variable {r : Runner σ} {c : Catalogue σ} {initial : Registry} {w w' : World σ} {report : Report}

/-- Catalogues by which the same proposals deploy make the same calls. -/
theorem callsAll_congr {c' : Catalogue σ} (h : ∀ p, c.deploys p = c'.deploys p)
    (ps : List (Proposal σ)) (registry : Registry) (w : World σ) :
    r.callsAll c ps registry w = r.callsAll c' ps registry w := by
  induction ps generalizing registry w with
  | nil => rfl
  | cons p ps ih => simp only [callsAll, h, ih]

/-- Placeholders have no part in whether a run is refused. -/
theorem refusal?_withoutPlaceholders (r : Runner σ) (c : Catalogue σ) (initial : Snapshot) :
    r.refusal? c.withoutPlaceholders initial = r.refusal? c initial := by
  have issues : c.withoutPlaceholders.issues initial = c.issues initial := by
    rw [Catalogue.issues, Catalogue.issues, Catalogue.active_withoutPlaceholders]
    exact Catalogue.issuesOf_congr c.deploys_withoutPlaceholders ..
  rw [refusal?, refusal?, issues]

/-! ## Refusals -/

/-- What keeps a run from starting. -/
def Barred (r : Runner σ) (c : Catalogue σ) (initial : Snapshot) : Prop :=
  r.config.deployer = .zero ∨ r.config.strictDependencies = true ∧ c.issues initial ≠ []

/-- A run without a deployer is refused for that, whatever else is wrong. -/
theorem refusal?_of_zero (h : r.config.deployer = .zero) :
    r.refusal? c initial.current = some (.configuration .zeroDeployer) := by
  simp [refusal?, Address.isZero, h]

/-- A strict run with a deployer is refused for its issues. -/
theorem refusal?_of_issues (deployer : r.config.deployer ≠ .zero)
    (strict : r.config.strictDependencies = true) (issues : c.issues initial.current ≠ []) :
    r.refusal? c initial.current = some (.dependencies (c.issues initial.current)) := by
  simp [refusal?, Address.isZero, deployer, strict, issues]

/-- A run is refused exactly if it is barred. -/
theorem refusal?_eq_none_iff : r.refusal? c initial.current = none ↔ ¬ r.Barred c initial.current := by
  by_cases deployer : r.config.deployer = .zero
  · simp [refusal?_of_zero deployer, Barred, deployer]
  · by_cases unmet : r.config.strictDependencies = true ∧ c.issues initial.current ≠ []
    · simp [refusal?_of_issues deployer unmet.1 unmet.2, Barred, unmet]
    · simp only [Barred, deployer, unmet, or_self, not_false_eq_true, iff_true]
      simpa [refusal?, Address.isZero, deployer] using unmet

/-! ## Runs -/

/-- What a run comes to. -/
structure Answered (r : Runner σ) (c : Catalogue σ) (initial : Registry) (w : World σ) : Prop where
  /-- It is refused exactly if there is no deployer, or if dependencies are strict and unmet. -/
  refused_iff : (∃ e w', r.run c initial w = (.error e, w')) ↔ r.Barred c initial.current
  /-- The deployer is asked for first. -/
  zeroDeployer : r.config.deployer = .zero →
    r.run c initial w = (.error (.configuration .zeroDeployer), w)
  /-- Then dependencies are. -/
  dependencies : r.config.deployer ≠ .zero → r.config.strictDependencies = true →
    c.issues initial.current ≠ [] →
      r.run c initial w = (.error (.dependencies (c.issues initial.current)), w)
  /-- A run that is refused calls nobody. -/
  uncalled : r.Barred c initial.current → r.trace c initial w = []
  /-- Any other has one result for each active proposal, in order. -/
  covered : ¬ r.Barred c initial.current → ∃ report w', r.run c initial w = (.ok report, w') ∧
    report.results.map (·.id) = c.active.map (·.id) ∧
    report.results.map (·.category) = c.active.map (·.category) ∧
    report.skipped = c.placeholders
  /-- Without its placeholders the catalogue is run in the same way. -/
  placeholders : r.run c.withoutPlaceholders initial w
      = ((r.run c initial w).1.map .unskipped, (r.run c initial w).2) ∧
    r.trace c.withoutPlaceholders initial w = r.trace c initial w

/-- Without placeholders a run comes to the same, but that it skips none. -/
theorem run_withoutPlaceholders (r : Runner σ) (c : Catalogue σ) (initial : Registry)
    (w : World σ) : r.run c.withoutPlaceholders initial w
      = ((r.run c initial w).1.map .unskipped, (r.run c initial w).2) := by
  cases h : r.refusal? c initial.current with
  | some e =>
    rw [run_of_refused h, run_of_refused ((refusal?_withoutPlaceholders ..).trans h)]
    rfl
  | none =>
    have applied : r.applyAll c.withoutPlaceholders c.active initial w
        = r.applyAll c c.active initial w := applyAll_congr c.deploys_withoutPlaceholders ..
    rw [run_of_accepted h, run_of_accepted ((refusal?_withoutPlaceholders ..).trans h),
      Catalogue.active_withoutPlaceholders, Catalogue.placeholders_withoutPlaceholders, applied]
    rfl

/-- Without placeholders a run makes the same calls. -/
theorem trace_withoutPlaceholders (r : Runner σ) (c : Catalogue σ) (initial : Registry)
    (w : World σ) : r.trace c.withoutPlaceholders initial w = r.trace c initial w := by
  have called : r.callsAll c.withoutPlaceholders c.active initial w
      = r.callsAll c c.active initial w := callsAll_congr c.deploys_withoutPlaceholders ..
  rw [trace_eq, trace_eq, refusal?_withoutPlaceholders, Catalogue.active_withoutPlaceholders, called]

/-- **A run is refused at once or covers every proposal.** It is refused exactly if there is no
deployer, or if dependencies are strict and unmet, and then nobody is called and nothing changes;
otherwise it comes to a report with the results of all active proposals in order, whatever becomes
of them. -/
theorem answered_run (r : Runner σ) (c : Catalogue σ) (initial : Registry) (w : World σ) :
    Answered r c initial w := by
  constructor
  case refused_iff =>
    rw [← not_iff_not, ← refusal?_eq_none_iff]
    cases h : r.refusal? c initial.current with
    | some e => simp [run_of_refused h]
    | none => simp [run_of_accepted h]
  case zeroDeployer => exact fun deployer => run_of_refused (refusal?_of_zero deployer)
  case dependencies =>
    exact fun deployer strict issues => run_of_refused (refusal?_of_issues deployer strict issues)
  case uncalled =>
    intro barred
    have refused : r.refusal? c initial.current ≠ none := fun h => refusal?_eq_none_iff.1 h barred
    rw [trace_eq, if_pos (Option.isSome_iff_ne_none.2 refused)]
  case covered =>
    intro free
    have run := run_of_accepted (w := w) (refusal?_eq_none_iff.2 free)
    exact ⟨_, _, run, ids_applyAll .., categories_applyAll .., rfl⟩
  case placeholders => exact ⟨run_withoutPlaceholders .., trace_withoutPlaceholders ..⟩

/-- Both questions are answered in the negative, and the first decides the error. -/
example : ({ Drill.runner with config := {} } : Runner Unit).run Drill.catalogue .empty Drill.world
    = (.error (.configuration .zeroDeployer), Drill.world) := rfl

end Runner
end Rollout
