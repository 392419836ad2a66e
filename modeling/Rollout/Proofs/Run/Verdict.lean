/-
# What a verdict rests on

A result passes if its trail is the full one, and if it does not pass, its failures say why. What
is recorded depends on how far the proposal came:

| furthest state | failures before the teardown | failed assertions |
| --- | --- | --- |
| pending | one of resolve or deploy | none |
| deployed | one of setup | none |
| configured | one of governance | none |
| configured | any number of validate, if none then | at least one |
| validated | none | none |

The teardown adds one failure, or the last state of the trail (`Accounted`). A run is therefore
safe to ship exactly if every active proposal went all the way (`accounted_of_run`).
-/

import Rollout.Proofs.Run.Sequence
import Rollout.Proofs.Run.Steps

namespace Rollout

variable {σ : Type}

/-- The place of a phase in the run of a proposal. Resources are found or deployed. -/
def Phase.rank : Phase → Nat
  | .resolve => 0
  | .deploy => 0
  | .setup => 1
  | .governance => 2
  | .validate => 3
  | .teardown => 4

/-- What keeps a proposal from going further than a state: its failures, the teardown aside, and
its failed assertions. -/
def Reason : ProposalState → List ProposalFailure → List AssertionFailure → Prop
  | .pending, fs, as => (∃ f, fs = [f] ∧ (f.phase = .resolve ∨ f.phase = .deploy)) ∧ as = []
  | .deployed, fs, as => (∃ f, fs = [f] ∧ f.phase = .setup) ∧ as = []
  | .configured, fs, as =>
    (∃ f, fs = [f] ∧ f.phase = .governance) ∧ as = [] ∨
      (∀ f ∈ fs, f.phase = .validate) ∧ (fs ≠ [] ∨ as ≠ [])
  | .validated, fs, as => fs = [] ∧ as = []
  | .tornDown, _, _ => False

/-- A result that passes exactly if its trail is full, and that otherwise says why. -/
structure Accounted (x : ProposalResult) : Prop where
  passed_iff : x.passed = true ↔ x.trail = ProposalState.all
  reasons : ∃ before after, x.failures = before ++ after ∧
    Reason x.terminal before x.assertionFailures ∧
    if x.tornDown then after = [] else ∃ f, after = [f] ∧ f.phase = .teardown
  ascending : x.failures.Pairwise fun f f' => f.phase.rank ≤ f'.phase.rank

/-! ## Before the teardown -/

/-- No phase comes after the teardown. -/
theorem Phase.rank_le_teardown (p : Phase) : p.rank ≤ Phase.teardown.rank := by
  cases p <;> decide

namespace Reason

variable {s : ProposalState} {fs : List ProposalFailure} {as : List AssertionFailure}

/-- A proposal goes all the way exactly if nothing keeps it from that. -/
theorem eq_nil_iff (h : Reason s fs as) : fs = [] ∧ as = [] ↔ s = .validated := by
  cases s with
  | pending =>
    obtain ⟨⟨f, rfl, -⟩, -⟩ := h
    exact ⟨nofun, nofun⟩
  | deployed =>
    obtain ⟨⟨f, rfl, -⟩, -⟩ := h
    exact ⟨nofun, nofun⟩
  | configured =>
    refine ⟨?_, nofun⟩
    rintro ⟨rfl, rfl⟩
    rcases h with ⟨⟨f, ⟨⟩, -⟩, -⟩ | ⟨-, h | h⟩
    · exact absurd rfl h
    · exact absurd rfl h
  | validated => exact ⟨fun _ => rfl, fun _ => h⟩
  | tornDown => exact h.elim

/-- What keeps a proposal from going on is of one phase. -/
theorem ascending (h : Reason s fs as) :
    fs.Pairwise fun f f' => f.phase.rank ≤ f'.phase.rank := by
  cases s with
  | pending =>
    obtain ⟨⟨f, rfl, -⟩, -⟩ := h
    exact List.pairwise_singleton _ f
  | deployed =>
    obtain ⟨⟨f, rfl, -⟩, -⟩ := h
    exact List.pairwise_singleton _ f
  | configured =>
    rcases h with ⟨⟨f, rfl, -⟩, -⟩ | ⟨validate, -⟩
    · exact List.pairwise_singleton _ f
    · rw [List.pairwise_iff_forall_sublist]
      intro f f' sub
      have hf : f ∈ fs := sub.subset List.mem_cons_self
      have hf' : f' ∈ fs := sub.subset (List.mem_cons_of_mem _ List.mem_cons_self)
      exact Nat.le_of_eq (by rw [validate f hf, validate f' hf'])
  | validated =>
    obtain ⟨rfl, -⟩ := h
    exact List.Pairwise.nil
  | tornDown => exact h.elim

end Reason

/-- A result before its teardown: its trail is a part of the full one, and its failures say why
it goes no further. -/
structure Grounded (x : ProposalResult) : Prop where
  trail : x.trail = ProposalState.all.take (x.state.index + 1)
  reason : Reason x.state x.failures x.assertionFailures

/-- The furthest state is the last of the trail before the teardown. -/
theorem ProposalResult.terminal_of_trail {x : ProposalResult} {s : ProposalState}
    (hs : s ≠ .tornDown)
    (h : x.trail = ProposalState.all.take (s.index + 1) ∨
      x.trail = ProposalState.all.take (s.index + 1) ++ [.tornDown]) : x.terminal = s := by
  rw [terminal]
  cases s with
  | tornDown => exact absurd rfl hs
  | _ => rcases h with h | h <;> rw [h] <;> rfl

namespace Grounded

variable {x : ProposalResult}

/-- A proposal that is not torn down is not in the last state. -/
theorem state_ne (h : Grounded x) : x.state ≠ .tornDown := by
  intro hs
  have reason := h.reason
  rwa [hs] at reason

/-- A grounded result is accounted for once it is torn down. -/
theorem accounted_tornDown (h : Grounded x) :
    Accounted { x with trail := x.trail ++ [.tornDown] } := by
  have full_iff : x.trail ++ [.tornDown] = ProposalState.all ↔ x.state = .validated := by
    rw [h.trail]
    cases x.state <;> decide
  have terminal : ({ x with trail := x.trail ++ [.tornDown] } : ProposalResult).terminal
      = x.state :=
    ProposalResult.terminal_of_trail h.state_ne (.inr (congrArg (· ++ [.tornDown]) h.trail))
  have tornDown : ({ x with trail := x.trail ++ [.tornDown] } : ProposalResult).tornDown
      = true := by
    simp [ProposalResult.tornDown, ProposalResult.state]
  refine ⟨?_, ⟨x.failures, [], ?_, ?_, ?_⟩, h.reason.ascending⟩
  · rw [full_iff, ProposalResult.passed, terminal]
    have nil_iff := h.reason.eq_nil_iff
    simp only [Bool.and_eq_true, List.isEmpty_iff, decide_eq_true_eq]
    rw [nil_iff, and_self_iff]
  · rw [List.append_nil]
  · rw [terminal]
    exact h.reason
  · rw [if_pos tornDown]

/-- A grounded result is accounted for if its teardown fails. -/
theorem accounted_record (h : Grounded x) (e : RunError) : Accounted (x.record .teardown e) := by
  have not_full : x.trail ≠ ProposalState.all := by
    rw [h.trail]
    have hs := h.state_ne
    revert hs
    cases x.state <;> decide
  have terminal : (x.record .teardown e).terminal = x.state :=
    ProposalResult.terminal_of_trail h.state_ne (.inl h.trail)
  have tornDown : (x.record .teardown e).tornDown = false := by
    rw [ProposalResult.tornDown, decide_eq_false_iff_not]
    exact h.state_ne
  refine ⟨?_, ⟨x.failures, [{ phase := .teardown, error := e }], rfl, ?_, ?_⟩, ?_⟩
  · simp [ProposalResult.passed, ProposalResult.record, not_full]
  · rw [terminal]
    exact h.reason
  · rw [if_neg (by simp [tornDown])]
    exact ⟨_, rfl, rfl⟩
  · refine List.pairwise_append.2 ⟨h.reason.ascending, List.pairwise_singleton _ _, ?_⟩
    intro f _ f' hf'
    rw [List.mem_singleton.1 hf']
    exact f.phase.rank_le_teardown

/-- With the teardown, whatever comes of it, a result is accounted for. -/
theorem accounted (h : Grounded x) (o : Outcome HookError Unit) : Accounted (x.concluded o) := by
  rw [ProposalResult.concluded]
  cases o.inPhase .teardown with
  | ok u => exact h.accounted_tornDown
  | error e => exact h.accounted_record e

end Grounded

/-! ## Runs -/

namespace Runner

variable {r : Runner σ} {p : Proposal σ} {deploys : Bool} {registry : Registry} {w : World σ}

/-- A validation is passed, or something keeps it from that. -/
theorem grounded_validated (p : Proposal σ) (deploys : Bool) (registry : Registry) (s : Staged)
    (receipt : Option Receipt) (registry' : Registry) (w : World σ) (v : Validation) :
    Grounded (validated p deploys registry s receipt registry' w v).result := by
  rw [validated]
  cases hv : v.passed with
  | true =>
    rw [Validation.passed, Bool.and_eq_true, List.isEmpty_iff, List.isEmpty_iff] at hv
    obtain ⟨failures, errors⟩ := hv
    exact ⟨rfl, by rw [errors]; rfl, failures⟩
  | false =>
    have blamed : v.errors ≠ [] ∨ v.failures ≠ [] := by
      rw [Validation.passed, Bool.and_eq_false_iff] at hv
      rcases hv with hv | hv
      · exact .inr fun e => by simp [e] at hv
      · exact .inl fun e => by simp [e] at hv
    refine ⟨rfl, .inr ⟨fun f hf => ?_, ?_⟩⟩
    · obtain ⟨e, -, rfl⟩ := List.mem_map.1 hf
      rfl
    · exact blamed.imp_left fun h e => h (List.map_eq_nil_iff.1 e)

/-- Each course ends for one reason. -/
theorem Course.grounded {calls : List Invocation} {g : Progress σ}
    (h : Course r p deploys registry w calls g) : Grounded g.result := by
  cases h with
  | unstaged staging =>
    refine ⟨rfl, ⟨_, rfl, ?_⟩, rfl⟩
    cases deploys with
    | true => exact .inr rfl
    | false => exact .inl rfl
  | unconfigured staging setup fails => exact ⟨rfl, ⟨_, rfl, rfl⟩, rfl⟩
  | ungoverned setUp fails => exact ⟨rfl, .inl ⟨⟨_, rfl, rfl⟩, rfl⟩⟩
  | unretired executed fails => exact ⟨rfl, .inl ⟨⟨_, rfl, rfl⟩, rfl⟩⟩
  | checked executed retiring context hook =>
    exact grounded_validated _ _ _ _ _ _ _ _

/-- What applying a proposal comes to is accounted for. -/
theorem accounted_applyProposal (r : Runner σ) (p : Proposal σ) (deploys : Bool)
    (registry : Registry) (w : World σ) :
    Accounted (r.applyProposal p deploys registry w).result := by
  obtain ⟨calls, g, o, w', course, applied, -⟩ := applyProposal_cases r p deploys registry w
  rw [applied]
  exact course.grounded.accounted o

variable {c : Catalogue σ} {initial : Registry} {w' : World σ} {report : Report}

/-- The result of an active proposal is reported under its id. -/
theorem exists_result?_of_run (h : r.run c initial w = (.ok report, w')) {p : Proposal σ}
    (hp : p ∈ c.active) : ∃ x ∈ report.results, report.result? p.id = some x := by
  have hid : p.id ∈ report.results.map (·.id) := by
    rw [ids_of_run h]
    exact List.mem_map_of_mem hp
  obtain ⟨x, hx, e⟩ := List.mem_map.1 hid
  cases hf : report.result? p.id with
  | some y => exact ⟨y, List.mem_of_find?_eq_some hf, rfl⟩
  | none =>
    have := List.find?_eq_none.1 hf x hx
    simp [e] at this

/-- Under the id of a result, that result is reported. -/
theorem result?_of_run (h : r.run c initial w = (.ok report, w')) {x : ProposalResult}
    (hx : x ∈ report.results) : report.result? x.id = some x := by
  have nodup : (report.results.map (·.id)).Nodup := by
    rw [ids_of_run h]
    exact c.nodup_ids_active
  cases hf : report.result? x.id with
  | some y =>
    have he : y.id = x.id := by simpa using List.find?_some hf
    rw [List.inj_on_of_nodup_map nodup (List.mem_of_find?_eq_some hf) hx he]
  | none =>
    have := List.find?_eq_none.1 hf x hx
    simp at this

/-- **No failure is lost and no pass is false.** Every result of a run passes exactly if its trail
is full and says why if it is not, and the run is safe to ship exactly if the trail of every
active proposal is. -/
theorem accounted_of_run (h : r.run c initial w = (.ok report, w')) :
    (∀ x ∈ report.results, Accounted x) ∧
      (report.isSafeToShip = true ↔
        ∀ p ∈ c.active, ∃ x, report.result? p.id = some x ∧ x.trail = ProposalState.all) := by
  have accounted : ∀ x ∈ report.results, Accounted x := by
    intro x hx
    obtain ⟨p, deploys, registry, w₀, rfl⟩ := exists_of_mem_results h hx
    exact accounted_applyProposal ..
  have safe_iff : report.isSafeToShip = true ↔ ∀ x ∈ report.results, x.passed = true := by
    simp [Report.isSafeToShip, Report.failureCount]
  refine ⟨accounted, safe_iff.trans ⟨fun passed p hp => ?_, fun full x hx => ?_⟩⟩
  · obtain ⟨x, hx, found⟩ := exists_result?_of_run h hp
    exact ⟨x, found, (accounted x hx).passed_iff.1 (passed x hx)⟩
  · have hid : x.id ∈ c.active.map (·.id) := by
      rw [← ids_of_run h]
      exact List.mem_map_of_mem hx
    obtain ⟨p, hp, e⟩ := List.mem_map.1 hid
    obtain ⟨y, found, trail⟩ := full p hp
    rw [e, result?_of_run h hx] at found
    cases found
    exact (accounted x hx).passed_iff.2 trail

/-- The small catalogue comes to a report, and two of its proposals keep it from being shipped. -/
theorem accounted_of_run_drill : ∃ report w',
    Drill.runner.run Drill.catalogue Drill.initial Drill.world = (.ok report, w') ∧
      report.failureCount = 2 ∧ (∀ x ∈ report.results, Accounted x) ∧
        (report.isSafeToShip = true ↔ ∀ p ∈ Drill.catalogue.active,
          ∃ x, report.result? p.id = some x ∧ x.trail = ProposalState.all) :=
  ⟨_, _, rfl, by decide, accounted_of_run
    (show Drill.runner.run Drill.catalogue Drill.initial Drill.world = _ from rfl)⟩

end Runner
end Rollout
