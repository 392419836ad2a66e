/-
# Runs

A run applies the proposals of a catalogue one after another to a registry and a world. Each
proposal goes through these steps, every one of which is left out unless the one before it
succeeded, but for the last, which is always taken:

| step | does | leads to |
| --- | --- | --- |
| stage | deploys resources, or finds them, and merges them into the registry | deployed |
| configure | calls the setup hook | configured |
| govern | executes the payload, retires names, validates | validated |
| tear down | calls the teardown hook | torn down |

What goes wrong in a step stays with the result of its proposal; the next one starts from
whatever registry and world were left. A run is refused before the first step if no deployer is
set, or if dependencies are strict and there are issues.
-/

import Rollout.Run.Result
import Rollout.Run.Validation

namespace Rollout

/-- How proposals are applied. -/
structure RunConfig where
  logging : Bool := false
  deployer : Address := .zero
  executeGovernance : Bool := true
  strictDependencies : Bool := true
deriving DecidableEq

namespace RunConfig

def default : RunConfig := {}

instance : Inhabited RunConfig := ⟨default⟩

def keys : List String := ["logging", "deployer", "execute_governance", "strict_dependencies"]

def decode : Decoder RunConfig := fun dialect n => do
  match ← Decoder.record keys dialect n with
  | [logging, deployer, executeGovernance, strictDependencies] =>
    return {
      logging := ← Decoder.orElse false Decoder.bool dialect logging
      deployer := ← Decoder.orElse .zero Address.decode dialect deployer
      executeGovernance := ← Decoder.orElse true Decoder.bool dialect executeGovernance
      strictDependencies := ← Decoder.orElse true Decoder.bool dialect strictDependencies }
  | _ => none

def document (c : RunConfig) : Document :=
  .map [
    ("logging", .bool c.logging),
    ("deployer", c.deployer.document),
    ("execute_governance", .bool c.executeGovernance),
    ("strict_dependencies", .bool c.strictDependencies)]

/-- The configuration that goes with an environment. -/
def ofEnvironment (c : EnvironmentConfig) : RunConfig :=
  { logging := c.logging, deployer := c.deployer }

def spelled (c : RunConfig) : String :=
  "OrchestratorConfig \x7b logging: " ++ toString c.logging
    ++ ", deployer: " ++ c.deployer.spelled
    ++ ", execute_governance: " ++ toString c.executeGovernance
    ++ ", strict_dependencies: " ++ toString c.strictDependencies ++ " \x7d"

end RunConfig

/-! ## Resources -/

/-- What a proposal brings into the registry. -/
structure Staged where
  resources : List Handle
  outputs : Outputs
  superseded : List Overwrite
deriving DecidableEq

namespace Staged

/-- The first name that came up before. -/
def repeated? (seen : List String) : List String → Option String
  | [] => none
  | n :: r => if n ∈ seen then some n else repeated? (n :: seen) r

/-- What putting a resource does to a live name at another address. -/
def overwrite? (current : Snapshot) (h : Handle) : Option Overwrite :=
  match current.get h.name with
  | .ok live =>
    if live.address = h.address then none
    else some { name := h.name, previous := live.address, replacement := h.address }
  | .error _ => none

/-- The live names that resources move to other addresses. It is refused to bring one name
twice, and to move a name that is not among the affected ones. -/
def supersede (affected : KeySet String) (resources : List Handle) (current : Snapshot) :
    Except PhaseFault (List Overwrite) :=
  match repeated? [] (resources.map (·.name)) with
  | some name => .error (.repeated name)
  | none =>
    let overwrites := resources.filterMap (overwrite? current)
    let undeclared := overwrites.filter fun o => !affected.contains o.name
    if undeclared.isEmpty then .ok overwrites else .error (.undeclared undeclared)

/-- The live resources of names, or the error of the first that has none. -/
def find (current : Snapshot) : List String → Except LookupError (List Handle)
  | [] => .ok []
  | n :: r => do
    let h ← current.get n
    let r ← find current r
    return h :: r

end Staged

namespace Registry

/-- The registry with several names retired, if it knows them all. -/
def retireAll (r : Registry) (names : List String) : Except LookupError Registry :=
  match names.find? fun n => !r.current.contains n with
  | some n => .error (.unknown n)
  | none => .ok { r with current := names.foldl Snapshot.retire r.current }

end Registry

/-! ## One proposal -/

/-- Where a proposal stands in its run. -/
structure Progress (σ : Type) where
  result : ProposalResult
  registry : Registry
  world : World σ
  outputs : Outputs := .empty

/-- What applies proposals. -/
structure Runner (σ : Type) where
  config : RunConfig
  executor : Executor σ

namespace Runner

variable {σ : Type}

/-- The runner spelled out. -/
def spelled (r : Runner σ) : String :=
  "Orchestrator \x7b config: " ++ r.config.spelled ++ ", .. \x7d"

/-- The resources and outputs of a proposal. -/
def deployment (r : Runner σ) (p : Proposal σ) (deploys : Bool) (previous : Snapshot)
    (w : World σ) : Except RunError Deployment × World σ :=
  if deploys then
    let ctx : DeployContext :=
      { deployer := r.config.deployer, registry := previous, logging := r.config.logging }
    let (outcome, w) := p.lifecycle.deploy ctx w
    (outcome.inPhase .deploy, w)
  else
    let found := Staged.find previous p.expected.toList
    ((found.map fun resources => { resources }).mapError .lookup, w)

/-- The phase in which the resources of a proposal are had. -/
def stagingPhase (deploys : Bool) : Phase := if deploys then .deploy else .resolve

/-- What a proposal brings into the registry. -/
def staged (r : Runner σ) (p : Proposal σ) (deploys : Bool) (previous : Snapshot)
    (w : World σ) : Except RunError Staged × World σ :=
  let (deployment, w) := r.deployment p deploys previous w
  (do
    let d ← deployment
    let superseded ← (Staged.supersede p.affected d.resources previous).mapError
      (.phase (stagingPhase deploys))
    return { resources := d.resources, outputs := d.outputs, superseded }, w)

/-- Brings the resources of a proposal into the registry. -/
def stage (r : Runner σ) (p : Proposal σ) (deploys : Bool) (g : Progress σ) : Progress σ :=
  let (staged, world) := r.staged p deploys g.registry.current g.world
  let result := { g.result with deployInvoked := deploys }
  match staged with
  | .ok s =>
    { result :=
        { result with resources := s.resources, superseded := s.superseded }.advance
          .deploy .deployed
      registry := (g.registry.merge (.ofHandles s.resources)).2
      world
      outputs := s.outputs }
  | .error e => { g with result := result.record (stagingPhase deploys) e, world }

/-- What the hooks setup and teardown see. -/
def phaseContext (r : Runner σ) (previous : Snapshot) (g : Progress σ) : PhaseContext where
  deployer := r.config.deployer
  registry := g.registry.current
  previous := previous
  resources := g.result.resources
  outputs := g.outputs
  logging := r.config.logging

/-- Calls the setup hook. -/
def configure (r : Runner σ) (p : Proposal σ) (previous : Snapshot) (g : Progress σ) :
    Progress σ :=
  let (outcome, world) := p.lifecycle.setup (r.phaseContext previous g) g.world
  match outcome.inPhase .setup with
  | .ok () => { g with result := g.result.advance .setup .configured, world }
  | .error e => { g with result := g.result.record .setup e, world }

/-- What a proposal asks governance to do, with its calls. -/
def action (p : Proposal σ) (calls : List Call) : Action where
  proposalId := p.id
  category := p.category
  existingProposalId := p.existingId
  totalValue := p.totalValue
  calls := calls

/-- Has the payload of a proposal executed, if there is one and it is to be. -/
def execute (r : Runner σ) (p : Proposal σ) (registry : Snapshot) (w : World σ) :
    Except RunError (Option Receipt) × World σ :=
  match p.payload with
  | none => (.ok none, w)
  | some payload =>
    if r.config.executeGovernance && p.hasGovernance then
      match payload.calls registry with
      | .error e => (.error (.lookup e), w)
      | .ok calls =>
        let (outcome, w) := r.executor (action p calls) w
        (((outcome.mapError .chain).inPhase .governance).map some, w)
    else (.ok none, w)

/-- Validates a proposal whose names are retired. -/
def validate (p : Proposal σ) (previous : Snapshot) (g : Progress σ) : Progress σ :=
  let ctx : ValidateContext :=
    { registry := g.registry.current
      previous
      resources := g.result.resources
      outputs := g.outputs
      chain := g.world.chain }
  let (v, rest) := Validation.ofProposal p ctx g.world.rest
  let result := { g.result with assertionFailures := v.failures }
  let result := v.errors.foldl (·.record .validate ·) result
  { g with
    result := if v.passed then result.advance .validate .validated else result
    world := { g.world with rest } }

/-- Has the payload executed, retires the names and validates. -/
def govern (r : Runner σ) (p : Proposal σ) (previous : Snapshot) (g : Progress σ) :
    Progress σ :=
  let (receipt, world) := r.execute p g.registry.current g.world
  match receipt with
  | .error e => { g with result := g.result.record .governance e, world }
  | .ok receipt =>
    let result := { g.result with governance := receipt }
    match g.registry.retireAll p.deprecated.toList with
    | .error e => { g with result := result.record .governance (.lookup e), world }
    | .ok registry => validate p previous { g with result, registry, world }

/-- Calls the teardown hook. -/
def tearDown (r : Runner σ) (p : Proposal σ) (previous : Snapshot) (g : Progress σ) :
    Progress σ :=
  let (outcome, world) := p.lifecycle.teardown (r.phaseContext previous g) g.world
  match outcome.inPhase .teardown with
  | .ok () => { g with result := g.result.advance .teardown .tornDown, world }
  | .error e => { g with result := g.result.record .teardown e, world }

/-- Takes a step if the proposal is in the given state. -/
def inState (s : ProposalState) (step : Progress σ → Progress σ) (g : Progress σ) : Progress σ :=
  if g.result.state = s then step g else g

/-- Applies one proposal. -/
def applyProposal (r : Runner σ) (p : Proposal σ) (deploys : Bool) (registry : Registry)
    (world : World σ) : Progress σ :=
  let previous := registry.current
  let g : Progress σ := { result := { id := p.id, category := p.category }, registry, world }
  let g := r.stage p deploys g
  let g := inState .deployed (r.configure p previous) g
  let g := inState .configured (r.govern p previous) g
  r.tearDown p previous g

end Runner

/-! ## All proposals -/

/-- What came of a run. -/
structure Report where
  /-- The registry after the last proposal. -/
  registry : Registry
  /-- One for each proposal, in order. -/
  results : List ProposalResult
  /-- The ids of the placeholders. -/
  skipped : List String
deriving DecidableEq

namespace Runner

variable {σ : Type}

/-- Applies proposals one after another. -/
def applyAll (r : Runner σ) (c : Catalogue σ) :
    List (Proposal σ) → Registry → World σ → List ProposalResult × Registry × World σ
  | [], registry, w => ([], registry, w)
  | p :: rest, registry, w =>
    let g := r.applyProposal p (c.deploys p) registry w
    let (results, registry, w) := applyAll r c rest g.registry g.world
    (g.result :: results, registry, w)

/-- Why a run does not start. -/
def refusal? (r : Runner σ) (c : Catalogue σ) (initial : Snapshot) : Option RunError :=
  if r.config.deployer.isZero then some (.configuration .zeroDeployer)
  else
    let issues := c.issues initial
    if r.config.strictDependencies && !issues.isEmpty then some (.dependencies issues) else none

/-- Runs a catalogue. -/
def run (r : Runner σ) (c : Catalogue σ) (initial : Registry) (w : World σ) :
    Except RunError Report × World σ :=
  match r.refusal? c initial.current with
  | some e => (.error e, w)
  | none =>
    let (results, registry, w) := r.applyAll c c.active initial w
    (.ok { registry, results, skipped := c.placeholders }, w)

end Runner
end Rollout
