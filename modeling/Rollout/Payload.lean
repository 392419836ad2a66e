/-
# Payloads

What a proposal asks governance to do, before names are looked up: a title and commands, each
a call whose target and arguments may name resources. `Payload.calls` looks the names up.
-/

import Rollout.Template
import Rollout.Chain.Call

namespace Rollout

/-- A call whose target and arguments may name resources. -/
structure Command where
  target : String
  value : Amount := .zero
  method : String
  arguments : List Value := []
  description : String := ""
deriving DecidableEq

namespace Command

def decode : Decoder Command := fun dialect n => do
  let keys := ["target", "values", "method", "arguments", "description"]
  match ← Decoder.record keys dialect n with
  | [target, value, method, arguments, description] =>
    return {
      target := ← Decoder.required Decoder.text dialect target
      value := ← Decoder.orElse .zero Amount.decode dialect value
      method := ← Decoder.required Decoder.text dialect method
      arguments := ← Decoder.orElse [] (Decoder.list Decoder.value) dialect arguments
      description := ← Decoder.orElse "" Decoder.text dialect description }
  | _ => none

def document (c : Command) : Document :=
  .map [
    ("target", .text c.target),
    ("values", c.value.document),
    ("method", .text c.method),
    ("arguments", .list (c.arguments.map Value.document)),
    ("description", .text c.description)]

/-- The call, its target looked up first and then its arguments. -/
def call (registry : Snapshot) (c : Command) : Except LookupError Call := do
  let target ← Template.party registry c.target
  let arguments ← Template.resolveList registry c.arguments
  return { target, method := c.method, arguments, value := c.value }

end Command

/-- What a proposal asks governance to do. -/
structure Payload where
  title : String
  commands : List Command := []
  description : String := ""
deriving DecidableEq

namespace Payload

def decode : Decoder Payload := fun dialect n => do
  match ← Decoder.record ["title", "commands", "description"] dialect n with
  | [title, commands, description] =>
    return {
      title := ← Decoder.required Decoder.text dialect title
      commands := ← Decoder.orElse [] (Decoder.list Command.decode) dialect commands
      description := ← Decoder.orElse "" Decoder.text dialect description }
  | _ => none

def document (p : Payload) : Document :=
  .map [
    ("title", .text p.title),
    ("commands", .list (p.commands.map Command.document)),
    ("description", .text p.description)]

/-- The payload with one more command, without value. -/
def withCommand (p : Payload) (target method : String) (arguments : List Value) : Payload :=
  { p with commands := p.commands ++ [{ target, method, arguments }] }

/-- The sum of the values attached to the commands, up to the greatest amount. -/
def totalValue (p : Payload) : Amount := p.commands.foldl (fun sum c => sum.add c.value) .zero

/-- The calls of commands in order, or the error of the first bad reference. -/
def callsOf (registry : Snapshot) : List Command → Except LookupError (List Call)
  | [] => .ok []
  | c :: r => do
    let call ← c.call registry
    let r ← callsOf registry r
    return call :: r

/-- The calls of all commands. -/
def calls (p : Payload) (registry : Snapshot) : Except LookupError (List Call) :=
  callsOf registry p.commands

end Payload
end Rollout
