/-
# Runs that write down whom they call

A run calls bodies that it knows nothing of: the four hooks of a proposal, and the executor.
Each of them can be replaced by one that does the same and also writes down that it was called,
with what, and what came of it (`Lifecycle.recorded`, `Executor.recorded`). A run with such
bodies leaves a list of calls in its world. `World.plain` forgets the list, and forgetting it
before a step or after it is the same, so the list tells what the run without it calls.
-/

import Rollout.Run

namespace Rollout

/-- What a run calls for a proposal. -/
inductive Body
  | deploy
  | setup
  | executor
  | validate
  | teardown
deriving DecidableEq, Repr

/-- One call: what was handed over, and what came of it. -/
inductive Invocation
  | deploy (ctx : DeployContext) (outcome : Outcome HookError Deployment)
  | setup (ctx : PhaseContext) (outcome : Outcome HookError Unit)
  | executor (action : Action) (outcome : Outcome ChainError Receipt)
  /-- The assertions are those in the set after the call. -/
  | validate (ctx : ValidateContext) (outcome : Outcome HookError Unit) (set : AssertionSet)
  | teardown (ctx : PhaseContext) (outcome : Outcome HookError Unit)
deriving DecidableEq

/-- What was called. -/
def Invocation.body : Invocation → Body
  | deploy _ _ => .deploy
  | setup _ _ => .setup
  | executor _ _ => .executor
  | validate _ _ _ => .validate
  | teardown _ _ => .teardown

/-- What hooks and executor keep, and the calls made so far, in order. -/
structure Recorded (σ : Type) where
  own : σ
  calls : List Invocation
deriving DecidableEq

variable {σ : Type}

namespace World

/-- The world with a list of calls. -/
def recorded (w : World σ) (calls : List Invocation) : World (Recorded σ) :=
  { chain := w.chain, rest := { own := w.rest, calls } }

/-- The world without the calls. -/
def plain (w : World (Recorded σ)) : World σ := { chain := w.chain, rest := w.rest.own }

@[simp] theorem plain_recorded (w : World σ) (calls : List Invocation) :
    (w.recorded calls).plain = w := rfl

@[simp] theorem chain_recorded (w : World σ) (calls : List Invocation) :
    (w.recorded calls).chain = w.chain := rfl

@[simp] theorem rest_recorded (w : World σ) (calls : List Invocation) :
    (w.recorded calls).rest = { own := w.rest, calls } := rfl

end World

/-- A body that also writes down the call. -/
def recording {α : Type} (f : World σ → α × World σ) (note : α → Invocation)
    (w : World (Recorded σ)) : α × World (Recorded σ) :=
  let (a, w') := f w.plain
  (a, w'.recorded (w.rest.calls ++ [note a]))

/-- What is called in a recorded run comes to the same, and its call is written down last. -/
theorem recording_recorded {α : Type} {f : World σ → α × World σ} {note : α → Invocation}
    {w w' : World σ} {a : α} (h : f w = (a, w')) (calls : List Invocation) :
    recording f note (w.recorded calls) = (a, w'.recorded (calls ++ [note a])) := by
  simp [recording, h]

/-- Hooks that also write down their calls. -/
def Lifecycle.recorded (l : Lifecycle σ) : Lifecycle (Recorded σ) where
  deploy ctx := recording (l.deploy ctx) (.deploy ctx)
  setup ctx := recording (l.setup ctx) (.setup ctx)
  validate ctx set rest :=
    let (outcome, set, own) := l.validate ctx set rest.own
    (outcome, set, { own, calls := rest.calls ++ [.validate ctx outcome set] })
  teardown ctx := recording (l.teardown ctx) (.teardown ctx)

/-- An executor that also writes down its calls. -/
def Executor.recorded (e : Executor σ) : Executor (Recorded σ) := fun action =>
  recording (e action) (.executor action)

/-- A proposal whose hooks write down their calls. -/
def Proposal.recorded (p : Proposal σ) : Proposal (Recorded σ) where
  id := p.id
  category := p.category
  deploys := p.deploys
  totalValue := p.totalValue
  existingId := p.existingId
  affected := p.affected
  deprecated := p.deprecated
  expected := p.expected
  invariants := p.invariants
  payload := p.payload
  lifecycle := p.lifecycle.recorded

/-- A runner whose executor writes down its calls. -/
def Runner.recorded (r : Runner σ) : Runner (Recorded σ) where
  config := r.config
  executor := r.executor.recorded

/-- Where a proposal stands, with a list of calls. -/
def Progress.recorded (g : Progress σ) (calls : List Invocation) : Progress (Recorded σ) where
  result := g.result
  registry := g.registry
  world := g.world.recorded calls
  outputs := g.outputs

namespace Runner

/-- The calls that are made when a proposal is applied. -/
def calls (r : Runner σ) (p : Proposal σ) (deploys : Bool) (registry : Registry)
    (w : World σ) : List Invocation :=
  (r.recorded.applyProposal p.recorded deploys registry (w.recorded [])).world.rest.calls

end Runner
end Rollout
