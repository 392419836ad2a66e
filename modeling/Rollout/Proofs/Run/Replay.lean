/-
# A replay only retires

A proposal that does not deploy finds its resources in the registry. So it brings in what is there
already, and of the registry it changes nothing but which names are retired:

| what it finds | staging | the registry, once staged |
| --- | --- | --- |
| all names that it expects are live | succeeds, and nothing is moved | as before |
| one is not | fails for that name | as before |

In a replay no proposal deploys. So names keep their handles from the start to the end of it, and a
name goes out of use only where it is retired by a proposal that came through its governance
(`Runner.replayed_of_run`). It is never brought back, as a retired name cannot be found.
-/

import Rollout.Proofs.Run.Gating
import Rollout.Proofs.Run.Moves
import Rollout.Proofs.Run.Trace

namespace Rollout

variable {σ : Type}

namespace Snapshot

/-- Putting in use what is in use already changes nothing. -/
theorem merge_ofHandles_of_live {s : Snapshot} {hs : List Handle}
    (live : ∀ x ∈ hs, s.get x.name = .ok x) : s.merge (.ofHandles hs) = s := by
  refine ext_find? fun n => ?_
  rw [find?_merge, find?_ofHandles]
  cases hf : hs.reverse.find? (·.name = n) with
  | none => rfl
  | some x =>
    have hx : x ∈ hs := List.mem_reverse.1 (List.mem_of_find?_eq_some hf)
    have name : x.name = n := by simpa using List.find?_some hf
    rw [← name, get_eq_ok_iff.1 (live x hx)]
    rfl

/-- Known names that are retired are deprecated from then on, and no others are. -/
theorem isDeprecated_foldl_retire {s : Snapshot} {ns : List String} {n : String}
    (known : ∀ n ∈ ns, s.contains n = true) :
    (ns.foldl retire s).isDeprecated n = true ↔ s.isDeprecated n = true ∨ n ∈ ns := by
  rw [isDeprecated, isDeprecated, find?_foldl_retire]
  by_cases h : n ∈ ns
  · obtain ⟨e, he⟩ := Option.isSome_iff_exists.1 (known n h)
    simp [h, he]
  · simp [h]

end Snapshot

namespace ProposalResult

/-- A proposal that does not deploy came through its governance, by its result. -/
structure Governed (x : ProposalResult) : Prop where
  resolve : x.failedIn .resolve = false
  setup : x.failedIn .setup = false
  governance : x.failedIn .governance = false

/-- The teardown has no say in it. -/
theorem governed_concluded_iff {x : ProposalResult} {o : Outcome HookError Unit} :
    (x.concluded o).Governed ↔ x.Governed := by
  have resolve := x.failedIn_concluded o (show Phase.resolve ≠ .teardown by decide)
  have setup := x.failedIn_concluded o (show Phase.setup ≠ .teardown by decide)
  have governance := x.failedIn_concluded o (show Phase.governance ≠ .teardown by decide)
  constructor
  · intro h
    exact ⟨resolve ▸ h.resolve, setup ▸ h.setup, governance ▸ h.governance⟩
  · intro h
    exact ⟨resolve.trans h.resolve, setup.trans h.setup, governance.trans h.governance⟩

end ProposalResult

namespace Runner

variable {r : Runner σ} {p : Proposal σ} {registry : Registry} {w : World σ}

/-! ## One proposal -/

/-- What becomes of a proposal that does not deploy, if `x` is its result and `after` the registry
that it leaves. -/
structure Unmoved (r : Runner σ) (p : Proposal σ) (registry : Registry) (w : World σ)
    (x : ProposalResult) (after : Snapshot) : Prop where
  /-- Staging fails for an expected name that is not live, or leaves every entry as it is. -/
  staging : (∃ e, r.staged p false registry.current w = (.error (.lookup e), w) ∧
      e.name ∈ p.expected.toList ∧ registry.current.isLive e.name = false) ∨
    ∃ s, r.staged p false registry.current w = (.ok s, w) ∧ s.superseded = [] ∧
      (registry.merge (.ofHandles s.resources)).2 = registry
  /-- So it fails for no other reason. -/
  lookup : ∀ f ∈ x.failures, f.phase ≠ .deploy ∧
    (f.phase = .resolve → ∃ e, f.error = .lookup e)
  uncalled : ∀ call ∈ r.calls p false registry w, call.body ≠ .deploy
  deployInvoked : x.deployInvoked = false
  superseded : x.superseded = []
  /-- If it comes through its governance, its names are retired. -/
  retired : x.Governed → (∀ n ∈ p.deprecated.toList, registry.current.contains n = true) ∧
    after = p.deprecated.toList.foldl Snapshot.retire registry.current
  /-- Otherwise the registry stays as it was. -/
  kept : ¬ x.Governed → after = registry.current

/-- A proposal that does not deploy finds what is there, or misses a name. -/
theorem staged_cases (r : Runner σ) (p : Proposal σ) (registry : Registry) (w : World σ) :
    (∃ e, r.staged p false registry.current w = (.error (.lookup e), w) ∧
      e.name ∈ p.expected.toList ∧ registry.current.isLive e.name = false) ∨
    ∃ s, r.staged p false registry.current w = (.ok s, w) ∧ s.superseded = [] ∧
      registry.adding s.resources = registry := by
  cases found : Staged.find registry.current p.expected.toList with
  | error e => exact .inl ⟨e, staged_of_find_error found, Staged.find_eq_error found⟩
  | ok hs =>
    have same := Snapshot.merge_ofHandles_of_live (Staged.find_eq_ok found).2
    refine .inr ⟨_, staged_of_find found, rfl, ?_⟩
    show { registry with current := registry.current.merge (.ofHandles hs) } = registry
    rw [same]

/-- Staging what is found overwrites nothing and leaves the registry as it is. -/
theorem adding_of_staged {s : Staged} {w₁ : World σ}
    (staging : r.staged p false registry.current w = (.ok s, w₁)) :
    s.superseded = [] ∧ registry.adding s.resources = registry := by
  rcases staged_cases r p registry w with ⟨e, h, -⟩ | ⟨s', h, found⟩
  · rw [h] at staging
    cases staging
  · rw [h] at staging
    cases staging
    exact found

/-- Staging without the deploy hook fails on nothing but a name. -/
theorem lookup_of_staged {e : RunError} {w₁ : World σ}
    (staging : r.staged p false registry.current w = (.error e, w₁)) :
    ∃ cause, e = .lookup cause := by
  rcases staged_cases r p registry w with ⟨cause, h, -⟩ | ⟨s', h, -⟩
  · rw [h] at staging
    cases staging
    exact ⟨cause, rfl⟩
  · rw [h] at staging
    cases staging

namespace Course

variable {calls : List Invocation} {g : Progress σ}

/-- The deploy hook is noted as called if the proposal deploys. -/
theorem deployInvoked_eq {deploys : Bool} (h : Course r p deploys registry w calls g) :
    g.result.deployInvoked = deploys := by
  cases h <;> rfl

/-- A proposal that does not deploy fails to get its resources on a name, and never in deploying. -/
theorem lookup (h : Course r p false registry w calls g) : ∀ f ∈ g.result.failures,
    f.phase ≠ .deploy ∧ (f.phase = .resolve → ∃ e, f.error = .lookup e) := by
  intro f hf
  cases h with
  | unstaged staging =>
    rw [List.mem_singleton.1 hf]
    exact ⟨nofun, fun _ => lookup_of_staged staging⟩
  | unconfigured staging setup fails => rw [List.mem_singleton.1 hf]; exact ⟨nofun, nofun⟩
  | ungoverned setUp fails => rw [List.mem_singleton.1 hf]; exact ⟨nofun, nofun⟩
  | unretired executed fails => rw [List.mem_singleton.1 hf]; exact ⟨nofun, nofun⟩
  | checked executed retiring context hook =>
    obtain ⟨e, -, rfl⟩ := List.mem_map.1 hf
    exact ⟨nofun, nofun⟩

/-- A proposal that does not deploy overwrites nothing. -/
theorem superseded_eq_nil (h : Course r p false registry w calls g) :
    g.result.superseded = [] := by
  cases h with
  | unstaged staging => rfl
  | unconfigured staging setup fails => exact (adding_of_staged staging).1
  | ungoverned setUp fails => exact (adding_of_staged setUp.staging).1
  | unretired executed fails => exact (adding_of_staged executed.staging).1
  | checked executed retiring context hook => exact (adding_of_staged executed.staging).1

/-- The names are retired, or the registry stays as it was. -/
theorem retired_or_kept (h : Course r p false registry w calls g) :
    (g.result.Governed ∧ (∀ n ∈ p.deprecated.toList, registry.current.contains n = true) ∧
      g.registry.current = p.deprecated.toList.foldl Snapshot.retire registry.current) ∨
    ¬ g.result.Governed ∧ g.registry.current = registry.current := by
  cases h with
  | unstaged staging => exact .inr ⟨fun governed => (nomatch governed.resolve), rfl⟩
  | unconfigured staging setup fails =>
    refine .inr ⟨fun governed => (nomatch governed.setup), ?_⟩
    exact congrArg Registry.current (adding_of_staged staging).2
  | ungoverned setUp fails =>
    refine .inr ⟨fun governed => (nomatch governed.governance), ?_⟩
    exact congrArg Registry.current (adding_of_staged setUp.staging).2
  | unretired executed fails =>
    refine .inr ⟨fun governed => (nomatch governed.governance), ?_⟩
    exact congrArg Registry.current (adding_of_staged executed.staging).2
  | checked executed retiring context hook =>
    rw [(adding_of_staged executed.staging).2] at retiring
    obtain ⟨known, rfl⟩ := Registry.retireAll_eq_ok_iff.1 retiring
    refine .inl ⟨⟨?_, ?_, ?_⟩, known, rfl⟩
    · exact failedIn_validated (by decide)
    · exact failedIn_validated (by decide)
    · exact failedIn_validated (by decide)

end Course

/-- **A proposal that does not deploy only retires.** -/
theorem unmoved_applyProposal (r : Runner σ) (p : Proposal σ) (registry : Registry)
    (w : World σ) :
    Unmoved r p registry w (r.applyProposal p false registry w).result
      (r.applyProposal p false registry w).registry.current := by
  obtain ⟨calls, g, o, w', course, applied, called⟩ := applyProposal_cases r p false registry w
  rw [applied]
  constructor
  case staging => exact staged_cases r p registry w
  case lookup =>
    intro f hf
    rcases ProposalResult.mem_failures_concluded hf with hf | ⟨phase, -⟩
    · exact course.lookup f hf
    · rw [phase]
      exact ⟨nofun, nofun⟩
  case uncalled =>
    intro call hc
    rw [called] at hc
    rcases List.mem_append.1 hc with hc | hc
    · exact of_decide_eq_false (Bool.eq_false_iff.2 (List.any_eq_false.1 course.has_deploy call hc))
    · rw [List.mem_singleton.1 hc]
      exact nofun
  case deployInvoked => rw [ProposalResult.deployInvoked_concluded, course.deployInvoked_eq]
  case superseded => rw [ProposalResult.superseded_concluded, course.superseded_eq_nil]
  case retired =>
    rw [ProposalResult.governed_concluded_iff]
    intro governed
    rcases course.retired_or_kept with ⟨-, retired⟩ | ⟨ungoverned, -⟩
    · exact retired
    · exact absurd governed ungoverned
  case kept =>
    rw [ProposalResult.governed_concluded_iff]
    intro ungoverned
    rcases course.retired_or_kept with ⟨governed, -⟩ | ⟨-, kept⟩
    · exact absurd governed ungoverned
    · exact kept

/-! ## All proposals -/

namespace Unmoved

variable {x : ProposalResult} {after : Snapshot}

/-- A proposal that leaves resources unmoved leaves the resource of every name. -/
theorem handle?_eq (h : Unmoved r p registry w x after) (n : String) :
    after.handle? n = registry.current.handle? n := by
  by_cases governed : x.Governed
  · rw [(h.retired governed).2, Snapshot.handle?_foldl_retire]
  · rw [h.kept governed]

/-- It deprecates its deprecated names, if it is governed, and no others. -/
theorem isDeprecated_iff (h : Unmoved r p registry w x after) (n : String) :
    after.isDeprecated n = true ↔
      registry.current.isDeprecated n = true ∨ n ∈ p.deprecated.toList ∧ x.Governed := by
  by_cases governed : x.Governed
  · obtain ⟨known, rfl⟩ := h.retired governed
    rw [Snapshot.isDeprecated_foldl_retire known, and_iff_left governed]
  · rw [h.kept governed]
    simp [governed]

end Unmoved

variable {c : Catalogue σ}

/-- Proposals that do not deploy leave the resource of every name. -/
theorem handle?_applyAll {ps : List (Proposal σ)} (undeployed : ∀ p ∈ ps, c.deploys p = false)
    (registry : Registry) (w : World σ) (n : String) :
    (r.applyAll c ps registry w).2.1.current.handle? n = registry.current.handle? n := by
  refine applyAll_induction
    (P := fun after _ => after.current.handle? n = registry.current.handle? n) rfl ?_
  intro p hp registry' w' kept
  rw [undeployed p hp, (unmoved_applyProposal r p registry' w').handle?_eq, kept]

/-- The names that are retired are those of the proposals that came through their governance. -/
theorem isDeprecated_applyAll {ps : List (Proposal σ)}
    (undeployed : ∀ p ∈ ps, c.deploys p = false) (registry : Registry) (w : World σ) (n : String) :
    (r.applyAll c ps registry w).2.1.current.isDeprecated n = true ↔
      registry.current.isDeprecated n = true ∨
        ∃ e ∈ ps.zip (r.applyAll c ps registry w).1, n ∈ e.1.deprecated.toList ∧ e.2.Governed := by
  induction ps generalizing registry w with
  | nil => simp [applyAll]
  | cons p ps ih =>
    have head := (unmoved_applyProposal r p registry w).isDeprecated_iff n
    have deploys := undeployed p List.mem_cons_self
    have tail := ih (fun q hq => undeployed q (List.mem_cons_of_mem _ hq))
      (r.applyProposal p false registry w).registry (r.applyProposal p false registry w).world
    simp only [applyAll, deploys, List.zip_cons_cons, List.exists_mem_cons_iff]
    rw [tail, head, or_assoc]

variable {initial : Registry} {w' : World σ} {report : Report}

/-- What a run does in which no proposal deploys. -/
structure Replayed (r : Runner σ) (c : Catalogue σ) (initial : Registry) (w : World σ)
    (report : Report) : Prop where
  uncalled : ∀ call ∈ r.trace c initial w, call.body ≠ .deploy
  deployInvoked : ∀ x ∈ report.results, x.deployInvoked = false
  superseded : ∀ x ∈ report.results, x.superseded = []
  /-- The names are those of the start, each with its handle. -/
  handles : ∀ n, report.registry.current.handle? n = initial.current.handle? n
  /-- A name is deprecated if it was at the start, or if a proposal that came through its governance
  retires it. -/
  isDeprecated_iff : ∀ n, report.registry.current.isDeprecated n = true ↔
    initial.current.isDeprecated n = true ∨
      ∃ p x, (p, x) ∈ c.active.zip report.results ∧ n ∈ p.deprecated.toList ∧ x.Governed

/-- In replay no proposal deploys, and in no mode one that is not to. -/
theorem deploys_eq_false (c : Catalogue σ) (p : Proposal σ)
    (h : c.mode = .replay ∨ p.deploys = false) : c.deploys p = false := by
  rcases h with h | h <;> simp [Catalogue.deploys, h]

/-- In a run a proposal that does not deploy leaves resources unmoved. -/
theorem unmoved_of_run (h : r.run c initial w = (.ok report, w')) {i : Nat} {p : Proposal σ}
    {x : ProposalResult} (hp : c.active[i]? = some p) (hx : report.results[i]? = some x)
    (undeployed : c.deploys p = false) :
    Unmoved r p (r.left c initial w i).1 (r.left c initial w i).2 x
      (r.left c initial w (i + 1)).1.current := by
  have result := result_of_run h i
  rw [hx, hp, Option.map_some, Option.some.injEq, undeployed] at result
  rw [left_succ r initial w hp, undeployed, result]
  exact unmoved_applyProposal ..

/-- **A replay only retires.** In any run, a proposal that does not deploy, be it for the mode or for
itself, moves nothing and fails staging on a name or not at all. In a replay no deploy hook is
called, names keep their handles, and exactly the names to be retired by proposals that came through
their governance go out of use. -/
theorem replayed_of_run (h : r.run c initial w = (.ok report, w')) :
    (∀ i p x, c.active[i]? = some p → report.results[i]? = some x →
      c.mode = .replay ∨ p.deploys = false →
        Unmoved r p (r.left c initial w i).1 (r.left c initial w i).2 x
          (r.left c initial w (i + 1)).1.current) ∧
      (c.mode = .replay → Replayed r c initial w report) := by
  refine ⟨fun i p x hp hx undeployed => unmoved_of_run h hp hx (deploys_eq_false c p undeployed),
    fun replay => ?_⟩
  have undeployed : ∀ p ∈ c.active, c.deploys p = false := fun p _ =>
    deploys_eq_false c p (.inl replay)
  obtain ⟨accepted, applied, -⟩ := run_eq_ok h
  constructor
  case uncalled =>
    intro call hc
    rw [trace_eq, accepted] at hc
    obtain ⟨p, hp, registry', w₁, hc⟩ := exists_of_mem_callsAll hc
    rw [undeployed p hp] at hc
    exact (unmoved_applyProposal r p registry' w₁).uncalled call hc
  case deployInvoked =>
    intro x hx
    obtain ⟨i, p, hp, hi⟩ := exists_active_of_mem_results h hx
    exact (unmoved_of_run h hp hi (undeployed p (List.mem_of_getElem? hp))).deployInvoked
  case superseded =>
    intro x hx
    obtain ⟨i, p, hp, hi⟩ := exists_active_of_mem_results h hx
    exact (unmoved_of_run h hp hi (undeployed p (List.mem_of_getElem? hp))).superseded
  case handles =>
    intro n
    have kept := handle?_applyAll (r := r) undeployed initial w n
    rwa [applied] at kept
  case isDeprecated_iff =>
    intro n
    have retired := isDeprecated_applyAll (r := r) undeployed initial w n
    rw [applied] at retired
    rw [retired]
    simp only [Prod.exists]

end Runner

/-- The small catalogue as a replay: what it would deploy is there already. -/
def Drill.replay : Catalogue Unit := { Drill.catalogue with mode := .replay }

/-- Of the small catalogue, the proposal that does not deploy moves nothing. As a replay, the whole
of it retires the core and moves nothing, though two of its proposals fail. -/
theorem Runner.replayed_of_run_drill :
    (∃ report w' p x, Drill.runner.run Drill.catalogue Drill.initial Drill.world = (.ok report, w') ∧
      Drill.catalogue.active[1]? = some p ∧ report.results[1]? = some x ∧
        let left := Drill.runner.left Drill.catalogue Drill.initial Drill.world
        Unmoved Drill.runner p (left 1).1 (left 1).2 x (left 2).1.current) ∧
    ∃ report w', Drill.runner.run Drill.replay (.ofHandles [Drill.core, Drill.pool]) Drill.world
        = (.ok report, w') ∧
      report.results.map (·.passed) = [true, true, false, false] ∧
      report.registry.current.entries.entries =
        [("core", { handle := Drill.core, status := .deprecated }),
          ("pool", { handle := Drill.pool, status := .live })] ∧
      Replayed Drill.runner Drill.replay (.ofHandles [Drill.core, Drill.pool]) Drill.world report :=
  ⟨⟨_, _, _, _, rfl, rfl, rfl, (replayed_of_run (w := Drill.world) rfl).1 1 _ _ rfl rfl (.inr rfl)⟩,
    ⟨_, _, rfl, rfl, rfl, (replayed_of_run (w := Drill.world) rfl).2 rfl⟩⟩

end Rollout
