/-
# Why a run fails

Errors of a run are of two sorts. Those of its configuration, environment and dependencies are
fatal: the run does not start. All others belong to a phase of one proposal and are kept with
its result.
-/

import Rollout.Catalogue.Dependencies
import Rollout.Environment
import Rollout.Run.Phase

namespace Rollout

/-- Why the content of a file cannot be had. -/
inductive FileError
  | unreadable (path : String)
  | malformed (path : String)
deriving DecidableEq, Repr

namespace FileError

def path : FileError → String
  | unreadable path => path
  | malformed path => path

def message : FileError → String
  | unreadable path => "cannot read " ++ path
  | malformed path => "cannot parse " ++ path

/-- The name of the kind of error. -/
def code : FileError → String
  | unreadable _ => "Read"
  | malformed _ => "Parse"

end FileError

/-- What is wrong with the configuration of a run. -/
inductive ConfigurationFault
  | zeroDeployer
  | file (cause : FileError)
  | catalogue (cause : CatalogueError)
deriving DecidableEq

namespace ConfigurationFault

def message : ConfigurationFault → String
  | zeroDeployer => "deployer address is not set"
  | file cause => cause.message
  | catalogue cause => cause.message

end ConfigurationFault

/-- What went wrong in a phase. -/
inductive PhaseFault
  | hook (cause : HookError)
  | panicked (message : Option String)
  /-- Two of the resources have this name. -/
  | repeated (name : String)
  /-- Live names that the proposal does not write would move to other addresses. -/
  | undeclared (overwrites : List Overwrite)
deriving DecidableEq

namespace PhaseFault

/-- A name with its old and its new address. -/
def overwriteText (o : Overwrite) : String :=
  o.name ++ " (" ++ o.previous.text ++ " -> " ++ o.replacement.text ++ ")"

def message : PhaseFault → String
  | hook cause => cause.message
  | panicked message => "panicked: " ++ message.getD "non-string panic payload"
  | repeated name => name ++ " returned more than once"
  | undeclared overwrites =>
    "overwrites undeclared resources: "
      ++ String.intercalate ", " (overwrites.map overwriteText)

end PhaseFault

/-- Why a run, or a phase of a proposal in it, fails. -/
inductive RunError
  | configuration (fault : ConfigurationFault)
  | environment (cause : EnvironmentError)
  | dependencies (issues : List Issue)
  /-- A phase asked for a name that has no live resource. -/
  | lookup (cause : LookupError)
  | phase (phase : Phase) (fault : PhaseFault)
  | transition (cause : IllegalTransition)
deriving DecidableEq

namespace RunError

def message : RunError → String
  | configuration fault => "configuration error: " ++ fault.message
  | environment cause => "configuration error: " ++ cause.message
  | dependencies issues =>
    "configuration error: " ++ String.intercalate "; " (issues.map Issue.message)
  | lookup cause => cause.message
  | phase p fault => p.text ++ " failed: " ++ fault.message
  | transition cause => cause.message

/-- The name of the kind of error. -/
def code : RunError → String
  | configuration _ => "Configuration"
  | environment _ => "Environment"
  | dependencies _ => "Dependencies"
  | lookup (.unknown _) => "UnknownResource"
  | lookup (.deprecated _) => "UnknownResource.Deprecated"
  | phase _ _ => "PhaseExecution"
  | transition _ => "StateMachine"

/-- Whether the error keeps a run from starting. -/
def isFatal : RunError → Bool
  | configuration _ => true
  | environment _ => true
  | dependencies _ => true
  | _ => false

/-- The error of a phase whose hook failed: a failed lookup stays one. -/
def ofHook (p : Phase) : HookError → RunError
  | .lookup cause => lookup cause
  | e => phase p (.hook e)

end RunError

namespace Outcome

/-- What came of a hook, as the error of its phase if it failed. -/
def inPhase {α : Type} (p : Phase) : Outcome HookError α → Except RunError α
  | ok a => .ok a
  | error e => .error (.ofHook p e)
  | panic message => .error (.phase p (.panicked message))

end Outcome
end Rollout
