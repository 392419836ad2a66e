/-
# Command lines

A command line is a subcommand and its options: any of its flags, and the option `--config`, or
`-c`, with a value. `CommandLine.read` takes the arguments one by one and stops at the first
that is wrong or asks for help.

A value may stand in the argument of its option or be the next one, if that is a word. Until the
next option that is known, or the end, an option keeps its value to itself; only then it is
looked at, in this order:

| wrong | error |
| --- | --- |
| there is no value | `invalidValue` |
| the option was given before | `conflict` |
| the value is empty | `invalidValue` |

So an argument that is unknown, or a flag with a value, comes before a wrong value in front of
it. The environment can turn on logging where the flag does not.
-/

import Rollout.CommandLine.Argument
import Rollout.CommandLine.Request

namespace Rollout

/-- Why there is no request. -/
inductive UsageError
  | unknownArgument
  | unknownSubcommand
  | invalidValue
  /-- An option or a flag was given twice. -/
  | conflict
  /-- A flag was given a value. -/
  | tooManyValues
  | nothingAsked
  /-- Help was asked for, with a subcommand or none. -/
  | help (subcommand : Option Subcommand)
  | version
deriving DecidableEq, Repr

namespace UsageError

/-- The name of the kind of error. -/
def code : UsageError → String
  | unknownArgument => "UnknownArgument"
  | unknownSubcommand => "InvalidSubcommand"
  | invalidValue => "InvalidValue"
  | conflict => "ArgumentConflict"
  | tooManyValues => "TooManyValues"
  | nothingAsked => "DisplayHelpOnMissingArgumentOrSubcommand"
  | help _ => "DisplayHelp"
  | version => "DisplayVersion"

/-- What the program ends with: help and version are no failures. -/
def exitCode : UsageError → Nat
  | help _ => 0
  | version => 0
  | _ => 2

end UsageError

namespace CommandLine

/-- An option whose value has not been looked at. -/
inductive Pending
  | nothing
  /-- The next word is the value. -/
  | awaiting
  | value (text : String)
deriving DecidableEq, Repr

/-- What the options so far amount to. -/
structure Options where
  config : Option String := none
  flags : List Flag := []
  pending : Pending := .nothing
deriving DecidableEq, Repr

namespace Options

/-- Looks at a value of `--config`. -/
def setConfig (o : Options) (v : String) : Except UsageError Options :=
  if o.config.isSome then .error .conflict
  else if v.isEmpty then .error .invalidValue
  else .ok { o with config := some v, pending := .nothing }

/-- Looks at the value that is pending. -/
def settle (o : Options) : Except UsageError Options :=
  match o.pending with
  | .nothing => .ok o
  | .awaiting => .error .invalidValue
  | .value v => o.setConfig v

/-- Turns on a flag. -/
def setFlag (o : Options) (f : Flag) : Except UsageError Options := do
  let o ← o.settle
  if f ∈ o.flags then .error .conflict else .ok { o with flags := f :: o.flags }

/-- The option `--config`, with a value in its argument or without. -/
def configOption (o : Options) (value : Option String) : Except UsageError Options := do
  let o ← o.settle
  match value with
  | some v => o.setConfig v
  | none => .ok { o with pending := .awaiting }

/-- The option for help. -/
def askHelp (s : Subcommand) (o : Options) : Except UsageError Options := do
  let _ ← o.settle
  .error (.help (some s))

/-- The value that short options hold after `-c`. -/
def attached : List Char → Option String
  | [] => none
  | '=' :: r => some (String.ofList r)
  | r => some (String.ofList r)

/-- A long option. -/
def long (s : Subcommand) (o : Options) (name : String) (value : Option String) :
    Except UsageError Options :=
  if name = "config" then o.configOption value
  else
    match if name = "help" then some none else
      ((Flag.ofSubcommand s).find? (·.name = name)).map some with
    | none => .error .unknownArgument
    | some flag =>
      if value.isSome then .error .tooManyValues
      else match flag with
        | some f => o.setFlag f
        | none => o.askHelp s

/-- One argument before the end of options. -/
def take (s : Subcommand) (o : Options) : Argument → Except UsageError Options
  | .endOfOptions => .ok o
  | .long name value => o.long s name value
  | .short 'c' r => o.configOption (attached r)
  | .short 'h' _ => o.askHelp s
  | .short _ _ => .error .unknownArgument
  | .word text =>
    if o.pending = .awaiting then .ok { o with pending := .value text }
    else .error .unknownArgument

/-- All arguments of a subcommand. Nothing may follow the end of options. -/
def takeAll (s : Subcommand) (o : Options) : List String → Except UsageError Options
  | [] => o.settle
  | a :: r =>
    match Argument.ofText a with
    | .endOfOptions => if r.isEmpty then o.settle else .error .unknownArgument
    | a => do takeAll s (← o.take s a) r

end Options

/-- Whether logging is on: by its flag, or else by what the environment has for it. -/
def logging (o : Options) (environment : Option String) : Except UsageError Bool :=
  if .logging ∈ o.flags then .ok true
  else match environment with
    | none => .ok false
    | some "true" => .ok true
    | some "false" => .ok false
    | some _ => .error .invalidValue

/-- The request of a subcommand with its arguments. -/
def readSubcommand (s : Subcommand) (args : List String) (environment : Option String) :
    Except UsageError Request := do
  let o ← Options.takeAll s {} args
  let logging ← logging o environment
  return {
    subcommand := s
    config := o.config.getD "harness.toml"
    logging
    json := .json ∈ o.flags
    replay := .replay ∈ o.flags
    jsonLogs := .jsonLogs ∈ o.flags }

/-- What to answer where help is asked for by name. Help is itself a name that one can ask help
on; below the subcommands there are no more names. -/
def readHelp : List String → UsageError
  | [] => .help none
  | ["help"] => .help none
  | [name] =>
    match Subcommand.ofName? name with
    | some s => .help (some s)
    | none => .unknownSubcommand
  | _ => .unknownSubcommand

/-- Whether a word means something where a subcommand is due. -/
def isCommand (word : String) : Bool := word = "help" || (Subcommand.ofName? word).isSome

/-- The request of a command line, without the name of the program. The environment may have a
text for logging. -/
def read (args : List String) (environment : Option String) : Except UsageError Request :=
  match args with
  | [] => .error .nothingAsked
  | a :: r =>
    match Argument.ofText a with
    | .endOfOptions =>
      match r with
      | [] => .error .nothingAsked
      | word :: _ => .error (if isCommand word then .unknownArgument else .unknownSubcommand)
    | .long name value =>
      if name = "help" || name = "version" then
        if value.isSome then .error .tooManyValues
        else .error (if name = "help" then .help none else .version)
      else .error .unknownArgument
    | .short 'h' _ => .error (.help none)
    | .short 'V' _ => .error .version
    | .short _ _ => .error .unknownArgument
    | .word word =>
      if word = "help" then .error (readHelp r)
      else match Subcommand.ofName? word with
        | some s => readSubcommand s r environment
        | none => .error .unknownSubcommand

end CommandLine
end Rollout
