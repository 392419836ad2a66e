/-
# Lifecycles

A proposal is carried through four hooks: deploy, setup, validate and teardown. A hook sees
what its context holds and acts on a `World`: the chain, and whatever else the hooks and the
executor of a run keep between their calls. It comes to a value, an error or a panic
(`Outcome`).

| hook | registry it sees | may change |
| --- | --- | --- |
| deploy | as before the proposal | the world |
| setup, teardown | with the proposal's resources; also as before | the world |
| validate | after governance; also as before | assertions, the world but for the chain |

An `Executor` is the body that carries out what a proposal asks governance to do.
-/

import Rollout.Lifecycle.Outputs
import Rollout.Assertion
import Rollout.Governance

namespace Rollout

/-- What came of something that may fail in two ways: with an error, or by a panic, whose
message is missing where it is not text. -/
inductive Outcome (ε α : Type)
  | ok (a : α)
  | error (e : ε)
  | panic (message : Option String)
deriving DecidableEq

namespace Outcome

variable {ε ε' α β : Type}

def isOk : Outcome ε α → Bool
  | ok _ => true
  | _ => false

/-- The outcome of something that does not panic. -/
def ofExcept : Except ε α → Outcome ε α
  | .ok a => ok a
  | .error e => error e

def map (f : α → β) : Outcome ε α → Outcome ε β
  | ok a => ok (f a)
  | error e => error e
  | panic message => panic message

def mapError (f : ε → ε') : Outcome ε α → Outcome ε' α
  | ok a => ok a
  | error e => error (f e)
  | panic message => panic message

end Outcome

/-- The chain, and what the hooks and the executor keep beside it. -/
structure World (σ : Type) where
  chain : Chain
  rest : σ
deriving DecidableEq

/-- What the deploy hook sees. -/
structure DeployContext where
  deployer : Address
  /-- The registry before the proposal. -/
  registry : Snapshot
  logging : Bool
deriving DecidableEq

/-- What the hooks setup and teardown see. -/
structure PhaseContext where
  deployer : Address
  registry : Snapshot
  /-- The registry before the proposal. -/
  previous : Snapshot
  /-- What the proposal deployed, or found where it does not deploy. -/
  resources : List Handle
  outputs : Outputs
  logging : Bool
deriving DecidableEq

/-- What the hook validate sees. -/
structure ValidateContext where
  registry : Snapshot
  /-- The registry before the proposal. -/
  previous : Snapshot
  resources : List Handle
  outputs : Outputs
  chain : Chain
deriving DecidableEq

/-- The hooks of a proposal. -/
structure Lifecycle (σ : Type) where
  deploy : DeployContext → World σ → Outcome HookError Deployment × World σ
  setup : PhaseContext → World σ → Outcome HookError Unit × World σ
  validate : ValidateContext → AssertionSet → σ → Outcome HookError Unit × AssertionSet × σ
  teardown : PhaseContext → World σ → Outcome HookError Unit × World σ

namespace Lifecycle

variable {σ : Type}

/-- Hooks that do nothing. -/
def idle : Lifecycle σ where
  deploy _ w := (.ok .empty, w)
  setup _ w := (.ok (), w)
  validate _ set rest := (.ok (), set, rest)
  teardown _ w := (.ok (), w)

instance : Inhabited (Lifecycle σ) := ⟨idle⟩

end Lifecycle

/-- The body that carries out actions. -/
abbrev Executor (σ : Type) := Action → World σ → Outcome ChainError Receipt × World σ

/-- What a simulated run keeps beside the chain: its governance, and what the hooks keep. -/
structure Simulation (τ : Type) where
  governance : Governance := .empty
  own : τ
deriving DecidableEq

/-- The executor of a simulated run. A refused action changes nothing. -/
def Executor.simulated {τ : Type} : Executor (Simulation τ) := fun action w =>
  match w.rest.governance.execute action w.chain with
  | .ok (receipt, chain, governance) =>
    (.ok receipt, { chain, rest := { w.rest with governance } })
  | .error e => (.error e, w)

end Rollout
