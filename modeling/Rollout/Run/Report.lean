/-
# Reports

The report of a run as text for a reader and as a summary for a machine. Both also name the
run and its times, which are no part of what came of it and are handed over as a `Stamp`.
-/

import Rollout.Run
import Rollout.Document.Printer

namespace Rollout

/-- The name and the times of a run. -/
structure Stamp where
  runId : String
  startedAt : String
  finishedAt : String
  /-- The milliseconds that the run took. -/
  duration : Nat
  /-- The milliseconds that a proposal took. -/
  elapsed : Nat
deriving DecidableEq

namespace Report

/-- How many proposals did not pass. -/
def failureCount (r : Report) : Nat := (r.results.filter (!·.passed)).length

/-- Whether all proposals passed. -/
def isSafeToShip (r : Report) : Bool := r.failureCount = 0

/-- The result of an id. -/
def result? (r : Report) (id : String) : Option ProposalResult := r.results.find? (·.id == id)

/-! ## Text -/

/-- The lines of one result. -/
def resultLines (stamp : Stamp) (r : ProposalResult) : List String :=
  [(if r.passed then "[PASS] " else "[FAIL] ") ++ r.id ++ " (" ++ r.category.text ++ ") "
      ++ r.terminal.text ++ (if r.tornDown then "" else ", teardown incomplete")
      ++ " in " ++ toString stamp.elapsed ++ " ms"]
    ++ r.failures.map (fun f => "    " ++ f.text)
    ++ r.assertionFailures.map (fun f => "    assertion " ++ f.text)

/-- What was put over in the registry, and then by each proposal. -/
def allOverwrites (r : Report) : List (Option String × Overwrite) :=
  r.registry.overwrites.map (none, ·)
    ++ r.results.flatMap fun x => x.superseded.map (some x.id, ·)

/-- The line of an overwrite under its number, from zero. -/
def overwriteLine (o : (Option String × Overwrite) × Nat) : String :=
  toString (o.2 + 1) ++ ". " ++ o.1.2.name ++ ": " ++ o.1.2.previous.text ++ " -> "
    ++ o.1.2.replacement.text
    ++ match o.1.1 with
      | some id => " (" ++ id ++ ")"
      | none => ""

/-- The lines of the report. -/
def lines (r : Report) (stamp : Stamp) : List String :=
  let overwrites := r.allOverwrites
  ["=== Upgrade Run Report ===",
    "",
    "Run: " ++ stamp.runId,
    "Duration: " ++ toString stamp.duration ++ " ms",
    "Proposals: " ++ toString r.results.length,
    "Failed: " ++ toString r.failureCount,
    "Skipped placeholders: " ++ toString r.skipped.length,
    "",
    "=== Proposals ==="]
    ++ r.results.flatMap (resultLines stamp)
    ++ (if overwrites.isEmpty then []
      else ["", "=== Registry Overwrites ==="] ++ overwrites.zipIdx.map overwriteLine)
    ++ ["",
      "=== Result: " ++ (if r.isSafeToShip then "SAFE TO SHIP" else "NOT SAFE TO SHIP")
        ++ " ==="]

/-- The report as text, a line feed after every line. -/
def text (r : Report) (stamp : Stamp) : String :=
  String.join ((r.lines stamp).map (· ++ "\n"))

/-! ## Summary -/

/-- Addresses by name, ascending. -/
def addresses (entries : List (String × Address)) : Document :=
  .map ((Table.ofList entries).entries.map fun e => (e.1, e.2.document))

/-- The summary of one result. -/
def resultDocument (stamp : Stamp) (r : ProposalResult) : Document :=
  .ofFields [
    ("id", some (.text r.id)),
    ("category", some r.category.document),
    ("state", some r.terminal.document),
    ("tornDown", some (.bool r.tornDown)),
    ("passed", some (.bool r.passed)),
    ("failures", some (.list (r.failures.map fun f => .text f.text))),
    ("assertionFailures", some (.list (r.assertionFailures.map AssertionFailure.document))),
    ("resources", some (addresses (r.resources.map fun h => (h.name, h.address)))),
    ("superseded",
      if r.superseded.isEmpty then none
      else some (.list (r.superseded.map Overwrite.document))),
    ("elapsedMs", some (.nat stamp.elapsed))]

/-- The summary of a run. -/
def document (r : Report) (stamp : Stamp) : Document :=
  let live := r.registry.current.entries.entries.filter (·.2.isLive)
  .map [
    ("runId", .text stamp.runId),
    ("startedAt", .text stamp.startedAt),
    ("finishedAt", .text stamp.finishedAt),
    ("safeToShip", .bool r.isSafeToShip),
    ("failureCount", .nat r.failureCount),
    ("skipped", .list (r.skipped.map .text)),
    ("proposals", .list (r.results.map (resultDocument stamp))),
    ("registry", addresses (live.map fun e => (e.1, e.2.handle.address)))]

end Report
end Rollout
