/-
# Requests

What a command line asks for: to run a catalogue or to check it, under which settings, with
which of them put over by a flag, and in what form to answer.
-/

import Rollout.Settings

namespace Rollout

/-- What is to be done with a catalogue. -/
inductive Subcommand
  | run
  /-- Report what proposals need and do not find, and run nothing. -/
  | check
deriving DecidableEq, Repr

namespace Subcommand

def name : Subcommand → String
  | run => "run"
  | check => "check"

def all : List Subcommand := [run, check]

def ofName? (s : String) : Option Subcommand := all.find? (·.name = s)

end Subcommand

/-- A switch of a subcommand. -/
inductive Flag
  | logging
  | jsonLogs
  | json
  | replay
deriving DecidableEq, Repr

namespace Flag

def name : Flag → String
  | logging => "logging"
  | jsonLogs => "json-logs"
  | json => "json"
  | replay => "replay"

/-- The switches that a subcommand has. -/
def ofSubcommand : Subcommand → List Flag
  | .run => [logging, jsonLogs, json, replay]
  | .check => [logging, jsonLogs]

end Flag

/-- What a command line asks for. -/
structure Request where
  subcommand : Subcommand
  /-- The settings file. -/
  config : String := "harness.toml"
  /-- Let informational log lines through, whatever the settings have. -/
  logging : Bool := false
  /-- Answer with a summary instead of a text. -/
  json : Bool := false
  /-- Take every proposal as deployed already. -/
  replay : Bool := false
  /-- Write log lines in JSON. -/
  jsonLogs : Bool := false
deriving DecidableEq, Repr

namespace Request

/-- The settings with the flags of a request put over them. -/
def apply (r : Request) (s : Settings) : Settings :=
  { s with
    environment := { s.environment with logging := r.logging || s.environment.logging }
    mode := if r.replay then .replay else s.mode }

end Request
end Rollout
