/-
# The logging flag

A run hands its logging flag to the hooks that deploy, set up and tear down, and to nobody else:

| step | is told of the flag |
| --- | --- |
| stage | the deploy hook, if there is a deployment |
| configure, tear down | the hook |
| govern | nobody: neither the executor nor the validation |
| the refusal of a run | nobody |

So where no hook heeds the flag (`Lifecycle.Unheeding`), every step comes to the same with it and
without, hence every proposal does (`Runner.applyProposal_withLogging`), and every run
(`Runner.run_withLogging`). Neither the idle lifecycle nor the declared ones heed it, nor do hooks
that are written as steps.
-/

import Rollout.Lifecycle.Steps
import Rollout.Proofs.Run.Bookkeeping

namespace Rollout

variable {σ : Type}

/-! ## Hooks -/

/-- The hooks do the same whatever the flag. -/
structure Lifecycle.Unheeding (l : Lifecycle σ) : Prop where
  deploy : ∀ ctx flag w, l.deploy { ctx with logging := flag } w = l.deploy ctx w
  setup : ∀ ctx flag w, l.setup { ctx with logging := flag } w = l.setup ctx w
  teardown : ∀ ctx flag w, l.teardown { ctx with logging := flag } w = l.teardown ctx w

/-- Hooks that do nothing do not heed the flag. -/
theorem Lifecycle.unheeding_idle : (idle : Lifecycle σ).Unheeding :=
  ⟨fun _ _ _ => rfl, fun _ _ _ => rfl, fun _ _ _ => rfl⟩

/-- Declared hooks do not heed the flag. -/
theorem Lifecycle.unheeding_declared (specs : List DeploymentSpec) :
    (declared specs : Lifecycle σ).Unheeding :=
  ⟨fun _ _ _ => rfl, fun _ _ _ => rfl, fun _ _ _ => rfl⟩

/-- The hooks written as steps do not see the flag. -/
theorem ScriptSteps.unheeding_lifecycle (s : ScriptSteps) (id : String) :
    (s.script id).lifecycle.Unheeding := by
  obtain ⟨deploying, deploy, setup, validate, teardown⟩ := s
  constructor
  case deploy =>
    intro ctx flag w
    cases deploy with
    | some steps => rfl
    | none =>
      cases deploying with
      | some hs => rfl
      | none => rfl
  case setup =>
    intro ctx flag w
    cases setup with
    | some steps => rfl
    | none => rfl
  case teardown =>
    intro ctx flag w
    cases teardown with
    | some steps => rfl
    | none => rfl

namespace Runner

/-- The runner with the flag set as given, and otherwise the same. -/
def withLogging (r : Runner σ) (flag : Bool) : Runner σ :=
  { r with config := { r.config with logging := flag } }

variable (r : Runner σ) (flag : Bool) {p : Proposal σ}

/-! ## One proposal -/

section Proposal

variable (h : p.lifecycle.Unheeding) (deploys : Bool)

include h

/-- The flag has no part in what a proposal deploys. -/
theorem deployment_withLogging (previous : Snapshot) (w : World σ) :
    (r.withLogging flag).deployment p deploys previous w = r.deployment p deploys previous w := by
  have same := h.deploy
    { deployer := r.config.deployer, registry := previous, logging := r.config.logging } flag w
  cases deploys with
  | true =>
    simp only [deployment, withLogging, if_true, same]
  | false => rfl

/-- The flag has no part in staging. -/
theorem stage_withLogging (g : Progress σ) :
    (r.withLogging flag).stage p deploys g = r.stage p deploys g := by
  have same := deployment_withLogging r flag h deploys g.registry.current g.world
  rw [stage, stage, staged, staged, same]

/-- The flag has no part in configuring. -/
theorem configure_withLogging (previous : Snapshot) (g : Progress σ) :
    (r.withLogging flag).configure p previous g = r.configure p previous g := by
  have same := h.setup (r.phaseContext previous g) flag g.world
  have context : (r.withLogging flag).phaseContext previous g
      = { r.phaseContext previous g with logging := flag } := rfl
  rw [configure, configure, context, same]

/-- The flag has no part in tearing down. -/
theorem tearDown_withLogging (previous : Snapshot) (g : Progress σ) :
    (r.withLogging flag).tearDown p previous g = r.tearDown p previous g := by
  have same := h.teardown (r.phaseContext previous g) flag g.world
  have context : (r.withLogging flag).phaseContext previous g
      = { r.phaseContext previous g with logging := flag } := rfl
  rw [tearDown, tearDown, context, same]

/-- **A proposal whose hooks do not heed the flag comes to the same with it and without.** -/
theorem applyProposal_withLogging (registry : Registry) (w : World σ) :
    (r.withLogging flag).applyProposal p deploys registry w
      = r.applyProposal p deploys registry w := by
  have configured : (r.withLogging flag).configure p registry.current
      = r.configure p registry.current :=
    funext (configure_withLogging r flag h registry.current)
  have governed : (r.withLogging flag).govern p registry.current
      = r.govern p registry.current := rfl
  rw [applyProposal, applyProposal, stage_withLogging r flag h, configured, governed,
    tearDown_withLogging r flag h]

end Proposal

/-! ## Runs -/

variable (c : Catalogue σ)

/-- The flag has no part in what several proposals come to. -/
theorem applyAll_withLogging {ps : List (Proposal σ)} (h : ∀ p ∈ ps, p.lifecycle.Unheeding)
    (registry : Registry) (w : World σ) :
    (r.withLogging flag).applyAll c ps registry w = r.applyAll c ps registry w := by
  induction ps generalizing registry w with
  | nil => rfl
  | cons p ps ih =>
    have head := applyProposal_withLogging r flag (h p List.mem_cons_self) (c.deploys p) registry w
    have tail := ih fun q hq => h q (List.mem_cons_of_mem _ hq)
    simp only [applyAll, head, tail]

/-- **The logging flag changes nothing.** If no hook of an active proposal heeds the flag, two runs
whose configurations differ in the flag alone are refused with the same error or come to the same
report, and leave the same chain and the same record of governance. -/
theorem run_withLogging (h : ∀ p ∈ c.active, p.lifecycle.Unheeding) (initial : Registry)
    (w : World σ) : (r.withLogging flag).run c initial w = r.run c initial w := by
  have refused : (r.withLogging flag).refusal? c initial.current = r.refusal? c initial.current :=
    rfl
  rw [run, run, refused, applyAll_withLogging r flag c h]

end Runner

namespace Drill

/-- Hooks that deploy the pool, begin to set it up and fail, and note what is live in the end. -/
def halting : ScriptSteps where
  deploying := some [pool]
  setup := some [.fund "pool" .greatest, .fail (.failed "not today")]
  teardown := some [.live]

/-- A catalogue with declared, written and idle hooks. -/
def mixed : Catalogue (Simulation HookLog) where
  slots := [
    .active { id := "vault", lifecycle := .declared [{ name := "vault", artifact := "Vault" }] },
    .active { id := "pool", lifecycle := (halting.script "pool").lifecycle },
    .active { id := "pause", payload := some pausing }]
  distinct := by decide

/-- The hooks of the catalogue do not heed the flag. -/
theorem unheeding_mixed : ∀ p ∈ mixed.active, p.lifecycle.Unheeding := by
  intro p hp
  simp only [Catalogue.active, mixed, List.filterMap_cons, Slot.proposal?, List.filterMap_nil,
    List.mem_cons, List.not_mem_nil, or_false] at hp
  rcases hp with rfl | rfl | rfl
  · exact Lifecycle.unheeding_declared [{ name := "vault", artifact := "Vault" }]
  · exact ScriptSteps.unheeding_lifecycle halting "pool"
  · exact Lifecycle.unheeding_idle

/-- The simulated runner, with a log beside the governance. -/
def clerk : Runner (Simulation HookLog) where
  config := { deployer := .ofNat 9 }
  executor := .simulated

/-- The world of the chamber with an empty log. -/
def hall : LoggedWorld where
  chain := chamber.chain
  rest := { governance := chamber.rest.governance, own := [] }

end Drill

/-- With the flag or without, the setup of the pool fails after a payment and the core is paused. -/
theorem Runner.run_withLogging_mixed : ∃ report w',
    Drill.clerk.run Drill.mixed Drill.initial Drill.hall = (.ok report, w') ∧
    (Drill.clerk.withLogging true).run Drill.mixed Drill.initial Drill.hall = (.ok report, w') ∧
    report.results.map (·.failures.map (·.phase)) = [[], [.setup], []] ∧
    w'.rest.governance.executed = ["pause"] ∧
    w'.chain.nativeBalance Drill.pool.address = .greatest ∧
    w'.rest.own
      = ["pool:deploy", "pool:setup", "pool:teardown", "pool:teardown:live core,pool,vault"] :=
  ⟨_, _, rfl,
    (run_withLogging Drill.clerk true Drill.mixed Drill.unheeding_mixed Drill.initial
      Drill.hall).trans rfl,
    by decide +kernel⟩

end Rollout
