/-
# The record of governance and the report

A simulated run keeps two records of what governance did: the ids of the executed actions, in the
world, and the receipts, in the results. They are written at different times, and much can fail
between them. Hooks that leave governance to the executor (`Lifecycle.Abstains`) have no part in
either, so the two agree (`Runner.Posted`):

| result | record | chain |
| --- | --- | --- |
| has a receipt | its id comes next | as the executor left it |
| has none | as before | as if the executor changed nothing |

The execution of a payload keeps to this (`Runner.Execution.posted`), hence every course of a
proposal does (`Runner.Course.posted`), and all proposals of a run together
(`Runner.executed_applyAll`).
-/

import Rollout.Lifecycle.Steps
import Rollout.Proofs.Chain.Submission
import Rollout.Proofs.Run.Sequence
import Rollout.Proofs.Run.Steps

namespace Rollout

variable {σ τ : Type}

/-! ## Hooks -/

/-- The hooks leave governance to the executor. -/
structure Lifecycle.Abstains (l : Lifecycle (Simulation τ)) : Prop where
  deploy : ∀ ctx w, (l.deploy ctx w).2.rest.governance = w.rest.governance
  setup : ∀ ctx w, (l.setup ctx w).2.rest.governance = w.rest.governance
  validate : ∀ ctx set rest, (l.validate ctx set rest).2.2.governance = rest.governance
  teardown : ∀ ctx w, (l.teardown ctx w).2.rest.governance = w.rest.governance

/-- Hooks that do nothing leave the governance alone. -/
theorem Lifecycle.abstains_idle : (idle : Lifecycle (Simulation τ)).Abstains :=
  ⟨fun _ _ => rfl, fun _ _ => rfl, fun _ _ _ => rfl, fun _ _ => rfl⟩

/-- Declared hooks leave the governance alone. -/
theorem Lifecycle.abstains_declared (specs : List DeploymentSpec) :
    (declared specs : Lifecycle (Simulation τ)).Abstains :=
  ⟨fun _ _ => rfl, fun _ _ => rfl, fun _ _ _ => rfl, fun _ _ => rfl⟩

/-- The hooks written as steps abstain: steps work on the chain and the log alone. -/
theorem ScriptSteps.abstains_lifecycle (s : ScriptSteps) (id : String) :
    (s.script id).lifecycle.Abstains := by
  obtain ⟨deploying, deploy, setup, validate, teardown⟩ := s
  constructor
  case deploy =>
    intro ctx w
    cases deploy with
    | some steps => rfl
    | none =>
      cases deploying with
      | some hs => rfl
      | none => rfl
  case setup =>
    intro ctx w
    cases setup with
    | some steps => rfl
    | none => rfl
  case validate =>
    intro ctx set rest
    cases validate with
    | some steps => rfl
    | none => rfl
  case teardown =>
    intro ctx w
    cases teardown with
    | some steps => rfl
    | none => rfl

/-! ## The executor -/

/-- The executor that answers as another does and changes nothing. -/
def Executor.muted (e : Executor σ) : Executor σ := fun a w => ((e a w).1, w)

/-- The runner whose executor changes nothing. -/
def Runner.muted (r : Runner σ) : Runner σ := { r with executor := r.executor.muted }

/-- The record with one more executed action. -/
def Governance.posting (g : Governance) (id : String) : Governance :=
  { g with executed := g.executed ++ [id] }

/-- The event that ends the receipt of a proposal. -/
def Proposal.executedEvent (p : Proposal σ) (timelock : Address) : Event where
  emitter := timelock
  name := "ProposalExecuted"
  data := .ofFields [("proposal", .text p.id), ("onChainId", .ofText? p.existingId)]

/-- A simulated executor refuses an action and changes nothing, or it puts the action on record
and ends its receipt with the event that tells of it. -/
theorem Executor.simulated_cases (a : Action) (w : World (Simulation τ)) :
    (∃ e, simulated a w = (.error e, w)) ∨
      ∃ timelock es w', simulated a w = (.ok ⟨es ++ [Governance.executedEvent timelock a]⟩, w')
        ∧ w.rest.governance.timelock? a.category = some timelock
        ∧ w'.rest.governance = w.rest.governance.posting a.proposalId := by
  cases executed : w.rest.governance.execute a w.chain with
  | error e =>
    left
    refine ⟨e, ?_⟩
    rw [simulated, executed]
  | ok x =>
    obtain ⟨receipt, chain, governance⟩ := x
    have whole : simulated a w = (.ok receipt, { chain, rest := { w.rest with governance } }) := by
      rw [simulated, executed]
    obtain ⟨timelock, es, assigned, -, rfl, rfl⟩ := Governance.exists_of_execute executed
    exact .inr ⟨timelock, es, _, whole, assigned, rfl⟩

namespace Runner

/-- What a receipt, or the lack of one, has to do with the record before and after. -/
inductive Posted (p : Proposal σ) (g : Governance) : Option Receipt → Governance → Prop
  /-- Without a receipt the record is as before. -/
  | silent : Posted p g none g
  /-- With one, the id of the proposal comes next, and the receipt ends with the event. -/
  | posted {timelock : Address} {es : List Event}
      (assigned : g.timelock? p.category = some timelock) :
      Posted p g (some ⟨es ++ [p.executedEvent timelock]⟩) (g.posting p.id)

/-- What is posted is written down as executed if there is a receipt. -/
theorem Posted.executed {p : Proposal σ} {g g' : Governance} {receipt : Option Receipt}
    (h : Posted p g receipt g') :
    g'.executed = g.executed ++ if receipt.isSome then [p.id] else [] := by
  cases h with
  | silent => exact (List.append_nil _).symm
  | posted assigned => rfl

/-- A receipt ends with the event of the proposal, from the timelock of its category. -/
theorem Posted.exists_event {p : Proposal σ} {g g' : Governance} {receipt : Receipt}
    (h : Posted p g (some receipt) g') :
    ∃ timelock es, receipt.events = es ++ [p.executedEvent timelock]
      ∧ g.timelock? p.category = some timelock := by
  cases h with
  | posted assigned => exact ⟨_, _, rfl, assigned⟩

/-! ## Receipts and calls -/

section Calls

variable {r : Runner σ} {p : Proposal σ} {deploys : Bool} {registry : Registry} {w w' : World σ}
  {calls : List Invocation} {a : Action} {o : Outcome ChainError Receipt}

/-- There is a receipt exactly if the executor returned it. -/
theorem Execution.granted_iff {s : Snapshot} {x : Except RunError (Option Receipt)}
    (h : Execution r p s w calls x w') (receipt : Receipt) :
    (∃ a, .executor a (.ok receipt) ∈ calls) ↔ x = .ok (some receipt) := by
  cases h with
  | unasked _ => simp
  | unresolved _ _ => simp
  | called asked resolved execution outcome =>
    rename_i o
    subst outcome
    cases o <;> simp [Outcome.mapError, Outcome.inPhase, Except.map, eq_comm]

/-- The executor is not called before the setup is done. -/
theorem not_mem_callsToSetup {s : Staged} {outcome : Outcome HookError Unit} :
    .executor a o ∉ r.callsToSetup p deploys registry w s outcome := by
  cases deploys <;> simp [callsToSetup, callsToStaging]

/-- Up to the execution the executor is called by the payload alone. -/
theorem mem_callsToExecution_iff {s : Staged} {w₂ : World σ} :
    .executor a o ∈ r.callsToExecution p deploys registry w s w₂
      ↔ .executor a o ∈ r.executionCalls p (registry.adding s.resources).current w₂ := by
  rw [callsToExecution, List.mem_append]
  exact or_iff_right not_mem_callsToSetup

/-- **A result has a receipt exactly if the executor returned it**, whatever fails after that. -/
theorem Course.granted_iff {g : Progress σ} (h : Course r p deploys registry w calls g)
    (receipt : Receipt) :
    (∃ a, .executor a (.ok receipt) ∈ calls) ↔ g.result.governance = some receipt := by
  cases h with
  | unstaged staging => cases deploys <;> simp [callsToStaging, started]
  | unconfigured staging setup fails =>
    refine iff_of_false ?_ nofun
    rintro ⟨a, mem⟩
    exact not_mem_callsToSetup mem
  | ungoverned setUp fails =>
    simp only [mem_callsToExecution_iff, (execution_of_eq fails).granted_iff]
    exact iff_of_false nofun nofun
  | unretired executed fails =>
    simp only [mem_callsToExecution_iff, (execution_of_eq executed.execution).granted_iff]
    exact ⟨Except.ok.inj, congrArg _⟩
  | checked executed retiring context hook =>
    simp only [List.mem_append, List.mem_singleton, reduceCtorEq, or_false,
      mem_callsToExecution_iff, (execution_of_eq executed.execution).granted_iff]
    exact ⟨Except.ok.inj, congrArg _⟩

end Calls

/-! ## The execution of a payload -/

section Execution

variable {r : Runner (Simulation τ)} {p : Proposal (Simulation τ)} {s : Snapshot}
  {w w' : World (Simulation τ)} {calls : List Invocation} {x : Except RunError (Option Receipt)}

/-- An execution leaves the world as it was, or there is a receipt and it is posted. -/
theorem Execution.posted (simulated : r.executor = .simulated)
    (h : Execution r p s w calls x w') :
    (w' = w ∧ ∀ receipt, x ≠ .ok (some receipt)) ∨
      ∃ receipt, x = .ok (some receipt)
        ∧ Posted p w.rest.governance (some receipt) w'.rest.governance := by
  cases h with
  | unasked _ => exact .inl ⟨rfl, nofun⟩
  | unresolved _ _ => exact .inl ⟨rfl, nofun⟩
  | called asked resolved execution outcome =>
    rename_i payload calls o
    subst outcome
    rw [simulated] at execution
    rcases Executor.simulated_cases (action p calls) w with
      ⟨e, refused⟩ | ⟨timelock, es, w₁, executed, assigned, recorded⟩
    · obtain ⟨rfl, rfl⟩ := Prod.mk.inj (refused.symm.trans execution)
      exact .inl ⟨rfl, nofun⟩
    · obtain ⟨rfl, rfl⟩ := Prod.mk.inj (executed.symm.trans execution)
      refine .inr ⟨_, rfl, ?_⟩
      rw [recorded]
      exact .posted assigned

end Execution

/-! ## One proposal -/

section Course

variable {r : Runner (Simulation τ)} {p : Proposal (Simulation τ)} {deploys : Bool}
  {registry : Registry} {w w₁ w₂ w₃ : World (Simulation τ)}

/-- Staging leaves the governance alone. -/
theorem governance_of_staged (abstains : p.lifecycle.Abstains)
    {x : Except RunError Staged} (h : r.staged p deploys registry.current w = (x, w₁)) :
    w₁.rest.governance = w.rest.governance := by
  have world := r.world_staged p deploys registry.current w
  rw [h] at world
  cases deploys with
  | true =>
    obtain rfl : w₁ = _ := world
    exact abstains.deploy ..
  | false =>
    obtain rfl : w₁ = w := world
    rfl

/-- The setup hook leaves the governance alone. -/
theorem governance_of_setup (abstains : p.lifecycle.Abstains) {ctx : PhaseContext}
    {o : Outcome HookError Unit} (h : p.lifecycle.setup ctx w₁ = (o, w₂)) :
    w₂.rest.governance = w₁.rest.governance := by
  have same := abstains.setup ctx w₁
  rwa [h] at same

/-- Up to the end of its setup a proposal leaves the governance alone. -/
theorem SetUp.governance (abstains : p.lifecycle.Abstains) {s : Staged}
    (h : SetUp r p deploys registry w s w₁ w₂) : w₂.rest.governance = w.rest.governance :=
  (governance_of_setup abstains h.setup).trans (governance_of_staged abstains h.staging)

/-- An execution that comes to no receipt changes nothing. -/
theorem world_of_execute (simulated : r.executor = .simulated) {s : Snapshot}
    {x : Except RunError (Option Receipt)} (h : r.execute p s w = (x, w₁))
    (without : ∀ receipt, x ≠ .ok (some receipt)) : w₁ = w := by
  rcases (execution_of_eq h).posted simulated with ⟨same, -⟩ | ⟨receipt, granted, -⟩
  · exact same
  · exact absurd granted (without receipt)

/-- A proposal that is executed has posted its receipt, if there is one. -/
theorem Executed.posted (simulated : r.executor = .simulated) (abstains : p.lifecycle.Abstains)
    {s : Staged} {receipt : Option Receipt}
    (h : Executed r p deploys registry w s w₁ w₂ receipt w₃) :
    Posted p w.rest.governance receipt w₃.rest.governance := by
  rw [← h.toSetUp.governance abstains]
  rcases (execution_of_eq h.execution).posted simulated with ⟨rfl, without⟩ | ⟨receipt', granted, posted⟩
  · cases receipt with
    | none => exact .silent
    | some receipt => exact absurd rfl (without receipt)
  · cases granted
    exact posted

/-- **Whatever course a proposal takes**, up to its teardown its receipt and the record agree. -/
theorem Course.posted (simulated : r.executor = .simulated) (abstains : p.lifecycle.Abstains)
    {calls : List Invocation} {g : Progress (Simulation τ)}
    (h : Course r p deploys registry w calls g) :
    Posted p w.rest.governance g.result.governance g.world.rest.governance := by
  cases h with
  | unstaged staging =>
    rw [← governance_of_staged abstains staging]
    exact .silent
  | unconfigured staging setup fails =>
    rw [← governance_of_staged abstains staging, ← governance_of_setup abstains setup]
    exact .silent
  | ungoverned setUp fails =>
    obtain rfl := world_of_execute simulated fails nofun
    rw [← setUp.governance abstains]
    exact .silent
  | unretired executed fails => exact executed.posted simulated abstains
  | checked executed retiring context hook =>
    rename_i s w₁ w₂ w₃ receipt registry' ctx o set rest
    have same := abstains.validate ctx (Validation.declared p registry'.current w₃.chain).2 w₃.rest
    rw [hook] at same
    rw [show (validated p deploys registry s receipt registry' { w₃ with rest } _).world.rest.governance
      = w₃.rest.governance from same]
    exact executed.posted simulated abstains

/-! ### Without the executor's part -/

/-- The muted executor answers as the other does and changes nothing. -/
theorem execute_muted (r : Runner σ) (p : Proposal σ) (s : Snapshot) (w : World σ) :
    r.muted.execute p s w = ((r.execute p s w).1, w) := by
  unfold execute
  cases p.payload with
  | none => rfl
  | some payload =>
    have asks : (r.muted.config.executeGovernance && p.hasGovernance)
        = (r.config.executeGovernance && p.hasGovernance) := rfl
    simp only [asks]
    split
    · cases payload.calls s with
      | error e => rfl
      | ok calls => rfl
    · rfl

/-- An execution that comes to no receipt comes to the same if the executor changes nothing. -/
theorem execute_muted_of_eq (simulated : r.executor = .simulated) {s : Snapshot}
    {x : Except RunError (Option Receipt)} (h : r.execute p s w = (x, w₁))
    (without : ∀ receipt, x ≠ .ok (some receipt)) : r.muted.execute p s w = (x, w₁) := by
  rw [execute_muted, h, world_of_execute simulated h without]

/-- A proposal without a receipt is executed in the same way with a muted executor. -/
theorem Executed.muted (simulated : r.executor = .simulated) {s : Staged}
    (h : Executed r p deploys registry w s w₁ w₂ none w₃) :
    Executed r.muted p deploys registry w s w₁ w₂ none w₃ where
  staging := h.staging
  setup := h.setup
  execution := execute_muted_of_eq simulated h.execution nofun

/-- A course without a receipt is one that is taken if the executor changes nothing. -/
theorem Course.muted (simulated : r.executor = .simulated) {calls : List Invocation}
    {g : Progress (Simulation τ)} (h : Course r p deploys registry w calls g)
    (without : g.result.governance = none) :
    ∃ calls, Course r.muted p deploys registry w calls g := by
  cases h with
  | unstaged staging => exact ⟨_, .unstaged staging⟩
  | unconfigured staging setup fails => exact ⟨_, .unconfigured staging setup fails⟩
  | ungoverned setUp fails =>
    exact ⟨_, .ungoverned ⟨setUp.staging, setUp.setup⟩
      (execute_muted_of_eq simulated fails nofun)⟩
  | unretired executed fails =>
    cases without
    exact ⟨_, .unretired (executed.muted simulated) fails⟩
  | checked executed retiring context hook =>
    cases without
    exact ⟨_, .checked (executed.muted simulated) retiring context hook⟩

/-- **A proposal without a receipt owes nothing to the executor**: result, registry and world are
as if the executor changed nothing. -/
theorem applyProposal_muted (simulated : r.executor = .simulated)
    (without : (r.applyProposal p deploys registry w).result.governance = none) :
    r.muted.applyProposal p deploys registry w = r.applyProposal p deploys registry w := by
  obtain ⟨calls, g, o, w', course, applied, -⟩ := applyProposal_cases r p deploys registry w
  rw [applied] at without
  obtain ⟨calls', muted⟩ := course.muted simulated (by simpa using without)
  rw [applyProposal_eq, applyProposal_eq, course.eq, muted.eq]
  rfl

/-- What a proposal posts is the receipt of its result. -/
theorem posted_applyProposal (simulated : r.executor = .simulated)
    (abstains : p.lifecycle.Abstains) (deploys : Bool) (registry : Registry)
    (w : World (Simulation τ)) :
    Posted p w.rest.governance (r.applyProposal p deploys registry w).result.governance
      (r.applyProposal p deploys registry w).world.rest.governance := by
  obtain ⟨calls, g, course⟩ := exists_course r p deploys registry w
  rcases teardown : p.lifecycle.teardown (r.phaseContext registry.current g) g.world with ⟨o, w'⟩
  have same := abstains.teardown (r.phaseContext registry.current g) g.world
  rw [teardown] at same
  rw [course.applyProposal_eq teardown]
  simp only [ProposalResult.governance_concluded]
  rw [same]
  exact course.posted simulated abstains

/-- **The executor granted a receipt exactly if it is the result's.** -/
theorem granted_applyProposal (receipt : Receipt) :
    (∃ a, .executor a (.ok receipt) ∈ r.calls p deploys registry w)
      ↔ (r.applyProposal p deploys registry w).result.governance = some receipt := by
  obtain ⟨calls, g, o, w', course, applied, called⟩ := applyProposal_cases r p deploys registry w
  rw [applied, called]
  simp only [List.mem_append, List.mem_singleton, reduceCtorEq, or_false,
    ProposalResult.governance_concluded]
  exact course.granted_iff receipt

end Course

/-! ## Runs -/

/-- The ids of the results that have a receipt. -/
def executedIds (results : List ProposalResult) : List String :=
  (results.filter (·.governance.isSome)).map (·.id)

section Run

variable {r : Runner (Simulation τ)} {c : Catalogue (Simulation τ)} {initial : Registry}
  {w w' : World (Simulation τ)} {report : Report}

/-- What a report, the record of governance and the calls of a run have to do with each other. -/
structure Bookkept (r : Runner (Simulation τ)) (c : Catalogue (Simulation τ)) (initial : Registry)
    (w : World (Simulation τ)) (report : Report) (w' : World (Simulation τ)) : Prop where
  /-- The record goes on with the ids of the results that have a receipt, in order. -/
  executed : w'.rest.governance.executed
    = w.rest.governance.executed ++ executedIds report.results
  /-- Nothing is executed twice. -/
  once : (executedIds report.results).Nodup
  /-- A receipt ends with the event that tells of the proposal, from the timelock of its
  category. -/
  receipt : ∀ (i : Nat) (p : Proposal (Simulation τ)) (x : ProposalResult) (receipt : Receipt),
    c.active[i]? = some p → report.results[i]? = some x → x.governance = some receipt →
    ∃ timelock es, receipt.events = es ++ [p.executedEvent timelock]
      ∧ (r.left c initial w i).2.rest.governance.timelock? p.category = some timelock
  /-- A result has the receipt that the executor returned, whatever fails after that. -/
  granted : ∀ (i : Nat) (p : Proposal (Simulation τ)) (x : ProposalResult) (receipt : Receipt),
    c.active[i]? = some p → report.results[i]? = some x →
    ((∃ a, .executor a (.ok receipt)
        ∈ r.calls p (c.deploys p) (r.left c initial w i).1 (r.left c initial w i).2)
      ↔ x.governance = some receipt)
  /-- A proposal whose result has none leaves what it would if the executor changed nothing. -/
  silent : ∀ (i : Nat) (p : Proposal (Simulation τ)) (x : ProposalResult),
    c.active[i]? = some p → report.results[i]? = some x → x.governance = none →
    r.muted.applyProposal p (c.deploys p) (r.left c initial w i).1 (r.left c initial w i).2
      = r.applyProposal p (c.deploys p) (r.left c initial w i).1 (r.left c initial w i).2

/-- **All proposals together**: the record goes on with the ids of the results that have a
receipt. -/
theorem executed_applyAll (simulated : r.executor = .simulated) {ps : List (Proposal (Simulation τ))}
    (abstains : ∀ p ∈ ps, p.lifecycle.Abstains) (registry : Registry) (w : World (Simulation τ)) :
    (r.applyAll c ps registry w).2.2.rest.governance.executed
      = w.rest.governance.executed ++ executedIds (r.applyAll c ps registry w).1 := by
  induction ps generalizing registry w with
  | nil => exact (List.append_nil _).symm
  | cons p ps ih =>
    have first := (posted_applyProposal simulated (abstains p List.mem_cons_self) (c.deploys p)
      registry w).executed
    have rest := ih (fun q hq => abstains q (List.mem_cons_of_mem _ hq))
      (r.applyProposal p (c.deploys p) registry w).registry
      (r.applyProposal p (c.deploys p) registry w).world
    have id := id_applyProposal r p (c.deploys p) registry w
    rw [applyAll]
    simp only [rest, first, executedIds, List.filter_cons]
    split
    · simp [id]
    · simp

/-- **The executed list of a run** is kept as its results tell. -/
theorem bookkept_of_run (simulated : r.executor = .simulated)
    (abstains : ∀ p ∈ c.active, p.lifecycle.Abstains)
    (h : r.run c initial w = (.ok report, w')) : Bookkept r c initial w report w' := by
  have applied := (run_eq_ok h).2.1
  have result : ∀ {i p x}, c.active[i]? = some p → report.results[i]? = some x →
      (r.applyProposal p (c.deploys p) (r.left c initial w i).1 (r.left c initial w i).2).result
        = x := by
    intro i p x hp hx
    have this := result_of_run h i
    rw [hp, hx] at this
    exact (Option.some.inj this).symm
  constructor
  case executed =>
    have all := executed_applyAll (c := c) simulated abstains initial w
    rwa [applied] at all
  case once =>
    have ids : (report.results.map (·.id)).Nodup := ids_of_run h ▸ c.nodup_ids_active
    exact ids.sublist (List.filter_sublist.map _)
  case receipt =>
    intro i p x receipt hp hx has
    have posted := posted_applyProposal simulated (abstains p (List.mem_of_getElem? hp))
      (c.deploys p) (r.left c initial w i).1 (r.left c initial w i).2
    rw [result hp hx, has] at posted
    exact posted.exists_event
  case granted =>
    intro i p x receipt hp hx
    rw [granted_applyProposal, result hp hx]
  case silent =>
    intro i p x hp hx without
    exact applyProposal_muted simulated (result hp hx ▸ without)

/-- **The record of governance agrees with the report.** A run that is refused leaves all as it is.
One that is not puts on record exactly the proposals whose results have a receipt, in order, and
none of them twice; the receipts are those that the executor returned and end with the event of
their proposals, and where there is none the executor changed nothing. -/
theorem bookkept_run (simulated : r.executor = .simulated)
    (abstains : ∀ p ∈ c.active, p.lifecycle.Abstains) (initial : Registry)
    (w : World (Simulation τ)) :
    (∀ e w', r.run c initial w = (.error e, w') → w' = w) ∧
      ∀ report w', r.run c initial w = (.ok report, w') → Bookkept r c initial w report w' := by
  refine ⟨fun e w' h => ?_, fun report w' h => bookkept_of_run simulated abstains h⟩
  cases refusal : r.refusal? c initial.current with
  | some e' =>
    rw [run, refusal] at h
    exact (Prod.mk.inj h).2.symm
  | none =>
    rw [run, refusal] at h
    cases h

end Run
end Runner

namespace Drill

/-- A chain on which the core has code, and a timelock that governs it. -/
def chamber : World (Simulation Unit) where
  chain := (Chain.empty.install core.address "Core").grantRole Role.govern (.ofNat 8)
  rest := { governance := .withTimelock .empty .dao (.ofNat 8), own := () }

/-- What is executed. -/
def pausing : Payload := { title := "pause", commands := [{ target := "core", method := "pause" }] }

/-- What is refused, but not at once. -/
def minting : Payload where
  title := "mint"
  commands := [
    { target := "core", method := "unpause" },
    { target := "core", method := "mint", arguments := [.text "\x7bcore\x7d", .nat 1] }]

/-- A catalogue in which one payload is executed, one is refused at its second command, and one is
executed for a proposal that then fails, as it retires what nobody knows. -/
def voting : Catalogue (Simulation Unit) where
  slots := [
    .active { id := "pause", existingId := some "7", payload := some pausing },
    .active { id := "mint", payload := some minting },
    .active { id := "late", deprecated := .ofList ["ghost"], payload := some { title := "late" } },
    .active { id := "quiet" }]
  distinct := by decide

/-- The hooks of the catalogue leave the governance alone. -/
theorem abstains_voting : ∀ p ∈ voting.active, p.lifecycle.Abstains := by
  intro p hp
  simp only [Catalogue.active, voting, List.filterMap_cons, Slot.proposal?, List.filterMap_nil,
    List.mem_cons, List.not_mem_nil, or_false] at hp
  rcases hp with rfl | rfl | rfl | rfl
  all_goals exact Lifecycle.abstains_idle

/-- The simulated runner that does not refuse runs for their issues. -/
def chair : Runner (Simulation Unit) where
  config := { deployer := .ofNat 9, strictDependencies := false }
  executor := .simulated

end Drill

/-- On record are the first proposal and the one that fails later. The core stays paused, although
the refused payload began by unpausing it. -/
theorem Runner.bookkept_run_voting : ∃ report w',
    Drill.chair.run Drill.voting Drill.initial Drill.chamber = (.ok report, w') ∧
    w'.rest.governance.executed = ["pause", "late"] ∧
    report.results.map (·.failures.map (·.phase)) = [[], [.governance], [.governance], []] ∧
    (w'.chain.account Drill.core.address).paused = true ∧
    Bookkept Drill.chair Drill.voting Drill.initial Drill.chamber report w' :=
  ⟨_, _, rfl, by decide +kernel, by decide +kernel, by decide +kernel,
    (bookkept_run rfl Drill.abstains_voting Drill.initial Drill.chamber).2 _ _ rfl⟩

end Rollout
