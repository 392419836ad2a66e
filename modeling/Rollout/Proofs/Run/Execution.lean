/-
# What is executed is what is declared

The executor is asked for the action that a proposal declares: the proposal's own id, category, id
on chain and value, and the calls of its payload. What the payload refers to is looked up when the
resources of the proposal are in use, so it may name what the proposal has just deployed:

| references | executor | chain | names to be retired | failure |
| --- | --- | --- | --- | --- |
| all are found | is called | is left to it | are left to what follows | is left to it |
| some are not | is not called | as before | stay in use | the error of the first, in governance |

The executor is not called either where the setup hook fails or the payload is not to be executed
(`Runner.Asked`). Then nothing is looked up.
-/

import Rollout.Proofs.Payload.Calls
import Rollout.Proofs.Run.Bookkeeping
import Rollout.Proofs.Run.FinalRegistry
import Rollout.Proofs.Run.Gating

namespace Rollout

variable {σ : Type}

/-- The resources that are put in use are found, if their names differ. -/
theorem Registry.get_adding {registry : Registry} {hs : List Handle}
    (distinct : (hs.map (·.name)).Nodup) {h : Handle} (mem : h ∈ hs) :
    (registry.adding hs).current.get h.name = .ok h := by
  rw [Snapshot.get_eq_ok_iff, current_adding, Snapshot.find?_merge, Snapshot.find?_ofHandles,
    Snapshot.find?_reverse_of_mem distinct mem]
  rfl

namespace Runner

/-- The payload is that of the proposal, and it is to be executed. -/
def Asked (r : Runner σ) (p : Proposal σ) (payload : Payload) : Prop :=
  r.config.executeGovernance = true ∧ p.category ≠ .none ∧ p.payload = some payload

open Calls in
/-- What a proposal has executed, where a registry is known to its payload. -/
structure Faithful (r : Runner σ) (p : Proposal σ) (deploys : Bool) (registry : Registry)
    (w : World σ) (known : Registry) : Prop where
  /-- The proposal's own resources are known. -/
  deployed : ∀ h ∈ (r.applyProposal p deploys registry w).result.resources,
    known.current.get h.name = .ok h
  /-- The executor is called exactly if the proposal is set up and has a payload to be executed,
  and all that this refers to is found. -/
  invoked_iff : has (r.calls p deploys registry w) .executor = true ↔
    succeeds (r.calls p deploys registry w) .setup = true ∧
      ∃ payload, r.Asked p payload ∧ payload.firstFailure? known.current = none
  /-- It is asked for what the proposal and the commands of the payload declare. -/
  declared : ∀ action outcome, .executor action outcome ∈ r.calls p deploys registry w →
    ∃ payload, r.Asked p payload ∧
      action.proposalId = p.id ∧ action.category = p.category ∧
      action.existingProposalId = p.existingId ∧ action.totalValue = p.totalValue ∧
      List.Forall₂ (Command.Declares known.current) payload.commands action.calls
  /-- Where it is not called, governance leaves the chain as it was before. -/
  spared : has (r.calls p deploys registry w) .executor = false →
    (r.worked p deploys registry w).world.chain = (r.prepared p deploys registry w).world.chain
  /-- It is not called where a reference is not found. No name is retired then, and there is one
  failure, which is that of the first such reference. -/
  unresolved : ∀ payload e, r.Asked p payload → payload.firstFailure? known.current = some e →
    succeeds (r.calls p deploys registry w) .setup = true →
      has (r.calls p deploys registry w) .executor = false ∧
        (r.applyProposal p deploys registry w).registry = known ∧
        (r.applyProposal p deploys registry w).result.beforeTeardown
          = [{ phase := .governance, error := .lookup e }]

variable {r : Runner σ} {p : Proposal σ} {deploys : Bool} {registry : Registry} {w w' : World σ}
  {s : Snapshot} {calls : List Invocation} {x : Except RunError (Option Receipt)}
  {g : Progress σ} {payload : Payload} {a : Action} {o : Outcome ChainError Receipt}
  {e : LookupError}

/-! ## The execution of a payload -/

/-- There is one payload to be executed at most. -/
theorem Asked.unique {payload' : Payload} (asked : r.Asked p payload) (asked' : r.Asked p payload') :
    payload' = payload :=
  Option.some.inj (asked'.2.2.symm.trans asked.2.2)

/-- A payload that does not resolve fails with its first failure, and nothing is done. -/
theorem execute_of_unresolved (asked : r.Asked p payload) (bad : payload.firstFailure? s = some e) :
    r.execute p s w = (.error (.lookup e), w) := by
  obtain ⟨executes, governed, has⟩ := asked
  have asks : (r.config.executeGovernance && p.hasGovernance) = true := by
    simp [executes, Proposal.hasGovernance, Category.hasGovernance, governed, has]
  simp only [execute, has, asks, Payload.calls_eq_error_iff.2 bad, if_true]

/-- What is not executed changes nothing. -/
theorem Execution.world_eq (h : Execution r p s w calls x w')
    (quiet : Calls.has calls .executor = false) : w' = w := by
  cases h with
  | unasked => rfl
  | unresolved => rfl
  | called => cases quiet

/-- Where the executor is not called, executing leaves the world as it was. -/
theorem world_of_quiet {s : Staged} {w₂ w₃ : World σ}
    (executed : r.execute p (registry.adding s.resources).current w₂ = (x, w₃))
    (quiet : Calls.has (r.callsToExecution p deploys registry w s w₂) .executor = false) :
    w₃ = w₂ := by
  rw [callsToExecution, Calls.has_append, Bool.or_eq_false_iff] at quiet
  exact (execution_of_eq executed).world_eq quiet.2

/-- The executor is handed the resolved calls of a payload that is asked for. -/
theorem action_of_mem_executionCalls (mem : .executor a o ∈ r.executionCalls p s w) :
    ∃ payload calls, r.Asked p payload ∧ payload.calls s = .ok calls ∧ a = action p calls := by
  rcases executed : r.execute p s w with ⟨x, w'⟩
  have step := execution_of_eq executed
  generalize r.executionCalls p s w = calls at step mem
  cases step with
  | unasked => cases mem
  | unresolved => cases mem
  | called asked resolved execution outcome =>
    rw [List.mem_singleton] at mem
    cases mem
    exact ⟨_, _, asked, resolved, rfl⟩

/-! ## Courses -/

namespace Course

/-- The executor is called by the execution of the payload alone. -/
theorem exists_mem_executionCalls (h : Course r p deploys registry w calls g)
    (mem : .executor a o ∈ calls) :
    ∃ w₂, .executor a o ∈ r.executionCalls p (registry.adding g.result.resources).current w₂ := by
  cases h with
  | unstaged staging => cases deploys <;> simp [callsToStaging] at mem
  | unconfigured staging setup fails => exact absurd mem not_mem_callsToSetup
  | ungoverned setUp fails => exact ⟨_, mem_callsToExecution_iff.1 mem⟩
  | unretired executed fails => exact ⟨_, mem_callsToExecution_iff.1 mem⟩
  | checked executed retiring context hook =>
    simp only [List.mem_append, List.mem_singleton, reduceCtorEq, or_false] at mem
    exact ⟨_, mem_callsToExecution_iff.1 mem⟩

/-- Where nothing is executed, the chain is as the setup hook left it. -/
theorem chain_eq (h : Course r p deploys registry w calls g)
    (quiet : Calls.has calls .executor = false) :
    g.world.chain = (r.prepared p deploys registry w).world.chain := by
  cases h with
  | unstaged staging => rw [prepared_of_unstaged staging]
  | unconfigured staging setup fails => rw [prepared_of_unconfigured staging setup fails]
  | ungoverned setUp fails =>
    rw [prepared_of_setUp setUp]
    obtain rfl := world_of_quiet fails quiet
    rfl
  | unretired executed fails =>
    rw [prepared_of_setUp executed.toSetUp]
    obtain rfl := world_of_quiet executed.execution quiet
    rfl
  | checked executed retiring context hook =>
    rw [prepared_of_setUp executed.toSetUp]
    rw [Calls.has_append, Bool.or_eq_false_iff] at quiet
    obtain rfl := world_of_quiet executed.execution quiet.1
    rfl

/-- A payload that refers to what is not found is the end of a proposal that is set up. -/
theorem of_unresolved (h : Course r p deploys registry w calls g) (asked : r.Asked p payload)
    (bad : payload.firstFailure? (registry.adding g.result.resources).current = some e)
    (setUp : Calls.succeeds calls .setup = true) :
    g.registry = registry.adding g.result.resources ∧
      g.result.failures = [{ phase := .governance, error := .lookup e }] := by
  cases h with
  | unstaged staging => simp at setUp
  | unconfigured staging setup fails =>
    simp [callsToSetup, Invocation.isOk, Outcome.isOk_of_inPhase_eq_error fails] at setUp
  | ungoverned setUp fails =>
    cases (execute_of_unresolved asked bad).symm.trans fails
    exact ⟨rfl, rfl⟩
  | unretired executed fails =>
    cases (execute_of_unresolved asked bad).symm.trans executed.execution
  | checked executed retiring context hook =>
    cases (execute_of_unresolved asked bad).symm.trans executed.execution

end Course

/-! ## The calls of a proposal -/

/-- **What is executed is what is declared**, and looked up where the proposal's own resources are
known. A payload that refers to anything that is not found there is not executed at all: the chain
is as the setup hook left it, no name is retired, and the first such reference is told of. -/
theorem faithful_applyProposal (r : Runner σ) (p : Proposal σ) (deploys : Bool)
    (registry : Registry) (w : World σ) :
    Faithful r p deploys registry w
      (registry.adding (r.applyProposal p deploys registry w).result.resources) := by
  have tidy := tidy_applyProposal r p deploys registry w
  obtain ⟨calls, g, o, w', course, applied, called⟩ := applyProposal_cases r p deploys registry w
  have resources : (r.applyProposal p deploys registry w).result.resources = g.result.resources := by
    rw [applied, ProposalResult.resources_concluded]
  have invoked :
      Calls.has (r.calls p deploys registry w) .executor = Calls.has calls .executor := by
    simp [called, Invocation.body]
  have succeeds :
      Calls.succeeds (r.calls p deploys registry w) .setup = Calls.succeeds calls .setup := by
    simp [called, Invocation.body]
  have invoked_iff : Calls.has calls .executor = true ↔ Calls.succeeds calls .setup = true ∧
      ∃ payload, r.Asked p payload ∧
        payload.firstFailure? (registry.adding g.result.resources).current = none := by
    rw [course.has_executor_iff]
    simp only [Payload.isOk_calls_iff, Asked, and_assoc, exists_and_left]
  constructor
  case deployed => exact fun h mem => Registry.get_adding tidy.distinct mem
  case invoked_iff =>
    rw [invoked, succeeds, resources]
    exact invoked_iff
  case declared =>
    intro action outcome mem
    rw [called, List.mem_append] at mem
    obtain ⟨w₂, mem⟩ := course.exists_mem_executionCalls (mem.resolve_right (by simp))
    obtain ⟨payload, calls, asked, resolved, rfl⟩ := action_of_mem_executionCalls mem
    rw [resources]
    exact ⟨payload, asked, rfl, rfl, rfl, rfl, Payload.calls_eq_ok_iff.1 resolved⟩
  case spared =>
    intro quiet
    rw [invoked] at quiet
    rw [course.eq, course.chain_eq quiet]
  case unresolved =>
    intro payload e asked bad setUp
    rw [succeeds] at setUp
    rw [resources] at bad ⊢
    obtain ⟨known, failures⟩ := course.of_unresolved asked bad setUp
    have quiet : Calls.has calls .executor = false := by
      rw [← Bool.not_eq_true, invoked_iff]
      rintro ⟨-, payload', asked', found⟩
      rw [asked.unique asked', bad] at found
      cases found
    rw [invoked, applied]
    refine ⟨quiet, known, ?_⟩
    rw [ProposalResult.beforeTeardown_concluded, ProposalResult.beforeTeardown, failures]
    rfl

end Runner

namespace Drill

/-- A proposal that deploys a gauge and would have it seated. The second command refers to two names
that nobody knows. -/
def seating : Proposal Unit where
  id := "seat"
  lifecycle := deploying [{ name := "gauge", address := .ofNat 6 }]
  deprecated := .ofList ["core"]
  payload := some
    { title := "seat"
      commands := [
        { target := "gauge", method := "seat", arguments := [.text "\x7bcore\x7d"] },
        { target := "ghost", method := "seat", arguments := [.text "\x7bphantom\x7d"] }] }

/-- The gauge is known, the first of the two names is told of, and the core stays in use. -/
example :
    (runner.applyProposal seating true initial world).result.failures.map (·.error.message)
        = ["unknown resource: ghost"] ∧
      (runner.applyProposal seating true initial world).registry.current.liveNames
        = ["core", "gauge"] := by
  decide +kernel

end Drill
end Rollout
