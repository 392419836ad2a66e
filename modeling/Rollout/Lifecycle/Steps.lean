/-
# Hooks written as steps

A hook of a script can be written as a list of steps, done one after another up to the first
that fails. Steps look things up, read and write the chain, add to the deployment, record
assertions, or fail; most of them note in the log what they saw, as `id:hook:` and a text.
Accounts are given by references as in `Rollout.Template`.
-/

import Rollout.Document.Printer
import Rollout.Lifecycle.Declared
import Rollout.Lifecycle.Scripted
import Rollout.Payload

namespace Rollout

/-- The types that an output can be read with. -/
inductive OutputType
  | word
  | text
  | bool
  | address
  | texts
  | any
deriving DecidableEq, Repr

/-- The output of a name as a value of a type. -/
def Outputs.typed (o : Outputs) (key : String) : OutputType → Except HookError Value
  | .word => (o.get Value.readWord key).map .nat
  | .text => (o.get Value.readText key).map .text
  | .bool => (o.get Value.readBool key).map .bool
  | .address => (o.get Value.readAddress key).map Address.toValue
  | .texts => (o.get Value.readTexts key).map fun xs => .list (xs.map .text)
  | .any => o.get .ok key

/-- One step of a hook. -/
inductive Step
  | assertion (a : Assertion)
  /-- The live address of a name. -/
  | address (name : String)
  /-- The live address that a name had before the proposal. -/
  | previous (name : String)
  /-- The address that a name had before the proposal, live or not. -/
  | previousAny (name : String)
  | live
  | liveBefore
  | resources
  | deployer
  | output (key : String) (type : OutputType)
  | fail (e : HookError)
  | panic (message : Option String)
  /-- A call, by the deployer if no sender is given. Where the chain cannot be changed, its
  names are looked up and it is not made. -/
  | call (sender : Option String) (command : Command)
  | fund (account : String) (amount : Amount)
  | balance (token holder : String)
  | native (account : String)
  | paused (target : String)
  | role (role account : String)
  | resource (h : Handle)
  | setOutput (key : String) (v : Value)
  | deploy (spec : DeploymentSpec)
  /-- The live address of a resource is the expected one. -/
  | equalAddress (name subject : String) (expected : Address)
  /-- A resource is live, which later assertions rely on. -/
  | requireLive (name subject : String)

namespace Step

/-- What the steps of a hook see. -/
structure View where
  deployer : Address := .zero
  registry : Snapshot
  previous : Snapshot := .empty
  resources : List Handle := []
  outputs : Outputs := .empty
  /-- Whether calls are made. -/
  calls : Bool := true

/-- What the steps of a hook work on. -/
structure State where
  chain : Chain
  log : HookLog
  set : AssertionSet := .empty
  deployment : Deployment := .empty

/-- Something done by a step; it may stop the hook. -/
abbrev Effect := State → Outcome HookError Unit × State

/-- Adds a note. -/
def note (mark text : String) : Effect := fun st =>
  (.ok (), { st with log := st.log ++ [mark ++ ":" ++ text] })

/-- Goes on with a value, or stops with the error. -/
def attempt {ε α : Type} (cause : ε → HookError) (r : Except ε α) (next : α → Effect) : Effect :=
  fun st =>
    match r with
    | .ok a => next a st
    | .error e => (.error (cause e), st)

/-- Changes what the steps work on. -/
def update (f : State → State) : Effect := fun st => (.ok (), f st)

/-- What a step does. -/
def perform (mark : String) (view : View) (s : Step) : Effect :=
  let note := note mark
  let party (reference : String) (next : Address → Effect) : Effect :=
    attempt .lookup (Template.party view.registry reference) next
  match s with
  | assertion a => fun st =>
    note (a.name ++ " " ++ toString (st.set.holds a)) { st with set := st.set.record a }
  | address name => attempt .lookup (view.registry.address name) fun a =>
    note ("address " ++ name ++ "=" ++ a.text)
  | previous name => attempt .lookup (view.previous.address name) fun a =>
    note ("previous " ++ name ++ "=" ++ a.text)
  | previousAny name => attempt .lookup (view.previous.getAny name) fun e =>
    note ("previous_address " ++ name ++ "=" ++ e.handle.address.text)
  | live => note ("live " ++ String.intercalate "," view.registry.liveNames)
  | liveBefore => note ("live_before " ++ String.intercalate "," view.previous.liveNames)
  | resources =>
    note ("resources " ++ String.intercalate "," (view.resources.map Handle.text))
  | deployer => note ("deployer " ++ view.deployer.text)
  | output key type => attempt id (view.outputs.typed key type) fun v =>
    note ("output " ++ key ++ "=" ++ v.document.compact)
  | fail e => fun st => (.error e, st)
  | panic message => fun st => (.panic message, st)
  | call sender command =>
    party command.target fun _ =>
      attempt .lookup
        (match sender with
          | some reference => Template.party view.registry reference
          | none => .ok view.deployer) fun sender =>
        attempt .lookup (command.call view.registry) fun c =>
          if view.calls then fun st =>
            attempt .chain (st.chain.call sender c)
              (fun (r, chain) st =>
                note ("call " ++ String.intercalate "," (r.events.map Event.name))
                  { st with chain }) st
          else update id
  | fund account amount => party account fun a =>
    update fun st => { st with chain := st.chain.fund a amount }
  | balance token holder => party token fun t => party holder fun h => fun st =>
    attempt .chain (st.chain.balanceOf t h) (fun n => note ("balance " ++ n.text)) st
  | native account => party account fun a => fun st =>
    note ("native " ++ (st.chain.nativeBalance a).text) st
  | paused target => party target fun a => fun st =>
    attempt .chain (st.chain.isPaused a) (fun flag => note ("paused " ++ toString flag)) st
  | role r account => party account fun a => fun st =>
    note ("role " ++ toString (st.chain.hasRole r a)) st
  | resource h => update fun st => { st with deployment := st.deployment.withResource h }
  | setOutput key v => update fun st => { st with deployment := st.deployment.withOutput key v }
  | deploy spec => update fun st =>
    let (a, chain) := st.chain.deploy view.deployer spec.artifact spec.arguments
    { st with chain, deployment := st.deployment.withResource (spec.handleAt a) }
  | equalAddress name subject expected =>
    attempt .lookup (view.registry.address subject) fun a =>
      update fun st =>
        { st with
          set := st.set.record (.equal name (a = expected) a.spelled expected.spelled) }
  | requireLive name subject => update fun st =>
    { st with set := st.set.record (.require name (view.registry.isLive subject)) }

/-- Does steps one after another up to the first that stops the hook. -/
def performAll (mark : String) (view : View) : List Step → Effect
  | [], st => (.ok (), st)
  | s :: r, st =>
    match s.perform mark view st with
    | (.ok (), st) => performAll mark view r st
    | stopped => stopped

end Step

/-- The steps of the hooks of a script, where there are any. -/
structure ScriptSteps where
  /-- Resources that the deploy hook returns if it has no steps. -/
  deploying : Option (List Handle) := none
  deploy : Option (List Step) := none
  setup : Option (List Step) := none
  validate : Option (List Step) := none
  teardown : Option (List Step) := none

namespace ScriptSteps

/-- Does the steps of a hook in a world. -/
def inWorld (mark : String) (view : Step.View) (steps : List Step) (w : LoggedWorld) :
    Outcome HookError Unit × Deployment × LoggedWorld :=
  let (o, st) := Step.performAll mark view steps { chain := w.chain, log := w.rest.own }
  (o, st.deployment, { chain := st.chain, rest := { w.rest with own := st.log } })

/-- What the steps of setup and teardown see. -/
def phaseView (ctx : PhaseContext) : Step.View where
  deployer := ctx.deployer
  registry := ctx.registry
  previous := ctx.previous
  resources := ctx.resources
  outputs := ctx.outputs

/-- The script of an id with these steps. -/
def script (s : ScriptSteps) (id : String) : Script :=
  let empty : Script := { id }
  let phase (hook : String) (steps : List Step) (ctx : PhaseContext) (w : LoggedWorld) :=
    let (o, _, w) := inWorld (empty.mark hook) (phaseView ctx) steps w
    (o, w)
  let deploy (steps : List Step) (ctx : DeployContext) (w : LoggedWorld) :=
    let view : Step.View := { deployer := ctx.deployer, registry := ctx.registry }
    let (o, d, w) := inWorld (empty.mark "deploy") view steps w
    (o.map fun _ => d, w)
  let validate (steps : List Step) (ctx : ValidateContext) (set : AssertionSet)
      (rest : Simulation HookLog) :=
    let view : Step.View :=
      { registry := ctx.registry
        previous := ctx.previous
        resources := ctx.resources
        outputs := ctx.outputs
        calls := false }
    let (o, st) := Step.performAll (empty.mark "validate") view steps
      { chain := ctx.chain, log := rest.own, set }
    (o, st.set, { rest with own := st.log })
  { id
    deploy := s.deploy.map deploy <|> s.deploying.bind fun hs => (empty.deploying hs).deploy
    setup := s.setup.map (phase "setup")
    validate := s.validate.map validate
    teardown := s.teardown.map (phase "teardown") }

end ScriptSteps
end Rollout
