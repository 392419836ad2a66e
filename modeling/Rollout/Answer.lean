/-
# Answers

What the program answers to a command line: an exit code, a text for its output and a text for
its error output.

| answer | exit code |
| --- | --- |
| `usage` | 0 for help and the version, else 2 |
| `unloaded`, `refused` | 1 |
| `checked` | 1 if there are issues |
| `ran` | 1 if it is not safe to ship |

The text of a run also needs a stamp, for a run's name and times are no part of what came of it.
-/

import Rollout.CommandLine.Help
import Rollout.Run.Report
import Rollout.Session

namespace Rollout

/-- What the program answers. -/
inductive Answer
  | usage (error : UsageError)
  /-- The settings cannot be had. -/
  | unloaded (path : String) (cause : FileError)
  /-- The files that the settings name cannot be loaded, or the run does not start. -/
  | refused (cause : RunError)
  /-- The number of slots in the catalogue, and its issues. -/
  | checked (size : Nat) (issues : List Issue)
  | ran (report : Report) (json : Bool)

namespace Answer

/-- The answer to a request under settings. There are no hooks but the declared ones. -/
def ofSettings (files : Files) (r : Request) (s : Settings) : Answer :=
  match (Session.load files (r.apply s) .empty : Except RunError (Session Unit)) with
  | .error e => refused e
  | .ok session =>
    match r.subcommand with
    | .check => checked session.catalogue.size session.issues
    | .run =>
      match (session.run (session.world ())).1 with
      | .error e => refused e
      | .ok report => ran report r.json

/-- The answer to a request. -/
def ofRequest (files : Files) (r : Request) : Answer :=
  match Settings.load files r.config with
  | .error e => unloaded r.config e
  | .ok s => ofSettings files r s

/-- The answer to a command line without the name of the program. The environment may have a
text for logging. -/
def ofArguments (files : Files) (args : List String) (environment : Option String) : Answer :=
  match CommandLine.read args environment with
  | .error e => usage e
  | .ok r => ofRequest files r

def exitCode : Answer → Nat
  | usage e => e.exitCode
  | unloaded _ _ => 1
  | refused _ => 1
  | checked _ issues => if issues.isEmpty then 0 else 1
  | ran report _ => if report.isSafeToShip then 0 else 1

/-- The lines on issues. -/
def issueLines (size : Nat) (issues : List Issue) : List String :=
  ["=== Dependency Check ==="] ++ issues.map (fun i => "  " ++ i.message)
    ++ [toString size ++ " proposal(s), " ++ toString issues.length ++ " issue(s)"]

/-- What is written to the output. -/
def output (stamp : Stamp) : Answer → String
  | usage e => e.output
  | unloaded _ _ => ""
  | refused _ => ""
  | checked size issues => Help.text (issueLines size issues)
  | ran report json =>
    if json then (report.document stamp).pretty 0 ++ "\n" else report.text stamp

/-- What is written to the error output. -/
def errors : Answer → String
  | usage e => e.complaint
  | unloaded path cause =>
    Help.text ["Error: loading " ++ path, "", "Caused by:", "    " ++ cause.message]
  | refused cause => "Error: " ++ cause.message ++ "\n"
  | checked _ _ => ""
  | ran _ _ => ""

end Answer
end Rollout
