/-
# Scripted lifecycles

A `Script` is a lifecycle put together from functions, some of which may be missing. Each of
its hooks first notes `id:hook` in the log that all scripts of a run share, and then does what
its function does; without one it succeeds. `HookLog.hooksOf` reads back the hooks of an id.
-/

import Rollout.Lifecycle

namespace Rollout

/-- Notes of hook calls in order. -/
abbrev HookLog := List String

namespace HookLog

/-- What the notes that start with an id and a colon have after it. -/
def hooksOf (log : HookLog) (id : String) : List String :=
  let start := (id ++ ":").toList
  log.filterMap fun e =>
    if start.isPrefixOf e.toList then some (String.ofList (e.toList.drop start.length)) else none

end HookLog

/-- A world whose hooks share a log. -/
abbrev LoggedWorld := World (Simulation HookLog)

/-- The world with one more note in the log. -/
def World.note (w : LoggedWorld) (entry : String) : LoggedWorld :=
  { w with rest := { w.rest with own := w.rest.own ++ [entry] } }

/-- A lifecycle of functions, where there are any. -/
structure Script where
  id : String
  deploy : Option (DeployContext → LoggedWorld → Outcome HookError Deployment × LoggedWorld) :=
    none
  setup : Option (PhaseContext → LoggedWorld → Outcome HookError Unit × LoggedWorld) := none
  validate : Option (ValidateContext → AssertionSet → Simulation HookLog →
    Outcome HookError Unit × AssertionSet × Simulation HookLog) := none
  teardown : Option (PhaseContext → LoggedWorld → Outcome HookError Unit × LoggedWorld) := none

namespace Script

/-- The note that a hook of the script was called. -/
def mark (s : Script) (hook : String) : String := s.id ++ ":" ++ hook

/-- The script that deploys exactly the given resources. -/
def deploying (s : Script) (handles : List Handle) : Script :=
  { s with deploy := some fun _ w => (.ok { resources := handles }, w) }

/-- The lifecycle of the script. -/
def lifecycle (s : Script) : Lifecycle (Simulation HookLog) where
  deploy ctx w :=
    let w := w.note (s.mark "deploy")
    match s.deploy with
    | some hook => hook ctx w
    | none => (.ok .empty, w)
  setup ctx w :=
    let w := w.note (s.mark "setup")
    match s.setup with
    | some hook => hook ctx w
    | none => (.ok (), w)
  validate ctx set rest :=
    let rest := { rest with own := rest.own ++ [s.mark "validate"] }
    match s.validate with
    | some hook => hook ctx set rest
    | none => (.ok (), set, rest)
  teardown ctx w :=
    let w := w.note (s.mark "teardown")
    match s.teardown with
    | some hook => hook ctx w
    | none => (.ok (), w)

/-- The script spelled out: its id, and which functions it has. -/
def spelled (s : Script) : String :=
  "ScriptedLifecycle \x7b id: " ++ Text.quoted s.id
    ++ ", deploy: " ++ toString s.deploy.isSome
    ++ ", setup: " ++ toString s.setup.isSome
    ++ ", validate: " ++ toString s.validate.isSome
    ++ ", teardown: " ++ toString s.teardown.isSome ++ ", .. \x7d"

end Script
end Rollout
