/-
# Help

The pages that explain the command line, and the lines that say what is wrong with one.
-/

import Rollout.CommandLine

namespace Rollout

namespace Subcommand

def help : Subcommand → String
  | run => "Run every proposal through deploy, setup, validate and teardown"
  | check => "Check catalogue dependencies without running"

end Subcommand

namespace Flag

def help : Flag → String
  | logging => "Emit informational diagnostics [env: LOGGING=]"
  | jsonLogs => "Emit logs as JSON"
  | json => "Print the run summary as JSON"
  | replay => "Treat every proposal as already deployed"

end Flag

namespace Help

/-- The name that the program goes by. -/
def program : String := "upgrade-harness"

def version : String := program ++ " 0.1.0\n"

/-- Two columns, the first filled up to the length of its longest entry. -/
def columns (rows : List (String × String)) : List String :=
  let width := (rows.map (·.1.length)).foldl max 0
  rows.map fun r =>
    "  " ++ r.1 ++ String.ofList (List.replicate (width - r.1.length + 2) ' ') ++ r.2

def text (lines : List String) : String := String.join (lines.map (· ++ "\n"))

/-- The page on the program. -/
def main : String := text <|
  ["Apply a proposal catalogue and validate the resulting state", "",
    "Usage: " ++ program ++ " <COMMAND>", "", "Commands:"]
    ++ columns (Subcommand.all.map (fun s => (s.name, s.help))
      ++ [("help", "Print this message or the help of the given subcommand(s)")])
    ++ ["", "Options:"]
    ++ columns [("-h, --help", "Print help"), ("-V, --version", "Print version")]

/-- The page on a subcommand. -/
def ofSubcommand (s : Subcommand) : String := text <|
  [s.help, "", "Usage: " ++ program ++ " " ++ s.name ++ " [OPTIONS]", "", "Options:"]
    ++ columns
      ([("-c, --config <config>", "Harness configuration file [default: harness.toml]")]
        ++ (Flag.ofSubcommand s).map (fun f => ("    --" ++ f.name, f.help))
        ++ [("-h, --help", "Print help")])

end Help

namespace UsageError

/-- What is written where this was asked for. -/
def output : UsageError → String
  | help none => Help.main
  | help (some s) => Help.ofSubcommand s
  | version => Help.version
  | _ => ""

/-- What is written where this was done wrong. -/
def complaint : UsageError → String
  | unknownArgument => "error: unexpected argument\n"
  | unknownSubcommand => "error: unrecognized subcommand\n"
  | invalidValue => "error: invalid or missing value\n"
  | conflict => "error: an argument cannot be used multiple times\n"
  | tooManyValues => "error: a flag takes no value\n"
  | nothingAsked => Help.main
  | help _ => ""
  | version => ""

end UsageError
end Rollout
