/-
# The program

Reads the files that a command line asks for, answers it, and writes the answer out. All that
is decided is decided by `Answer`; here are only reading, writing and the clock.
-/

import Rollout.Answer
import Rollout.Run.Name
import Std.Time.Format

namespace Rollout
namespace Program

/-- The text of a file, if it can be read. -/
def textOf (path : String) : IO (String × Option String) := do
  try return (path, some (← IO.FS.readFile path))
  catch _ => return (path, none)

/-- The files that a command line asks for: its settings, and what these name. -/
def gather (args : List String) (environment : Option String) : IO Files := do
  match CommandLine.read args environment with
  | .error _ => return fun _ => none
  | .ok r =>
    let config ← textOf r.config
    let paths := match Settings.load (fun _ => config.2) r.config with
      | .ok s => s.paths
      | .error _ => []
    let texts := config :: (← paths.mapM textOf)
    return fun path => (texts.lookup path).join

/-- A moment as text. -/
def moment (t : Std.Time.Timestamp) : String :=
  (Std.Time.DateTime.ofTimestamp t .UTC).toISO8601String

def milliseconds (t : Std.Time.Timestamp) : Nat := t.toMillisecondsSinceUnixEpoch.val.toNat

/-- The name and the times of a run; all its proposals took the same share of the time. -/
def stamp (started finished : Std.Time.Timestamp) (random : ByteArray) (answer : Answer) :
    Stamp :=
  let duration := milliseconds finished - milliseconds started
  let proposals := match answer with
    | .ran report _ => report.results.length
    | _ => 0
  { runId := RunName.text (milliseconds started)
      (Digits.value 256 (random.toList.map UInt8.toNat))
    startedAt := moment started
    finishedAt := moment finished
    duration
    elapsed := duration / max 1 proposals }

end Program
end Rollout

open Rollout in
def main (args : List String) : IO UInt32 := do
  let environment ← IO.getEnv "LOGGING"
  let files ← Program.gather args environment
  let started ← Std.Time.Timestamp.now
  let answer := Answer.ofArguments files args environment
  let code := answer.exitCode
  let finished ← Std.Time.Timestamp.now
  let stamp := Program.stamp started finished (← IO.getRandomBytes 10) answer
  IO.print (answer.output stamp)
  IO.eprint answer.errors
  return code.toUInt32
