/-
# Calls, events and readings

What goes into a chain and what comes out of it: a call of a contract's method, the events it
emits, and the reading of an oracle; each with its written form.
-/

import Rollout.Amount
import Rollout.Address

namespace Rollout


/-! The names of the roles that the contracts themselves ask for. -/

namespace Role

def govern : String := "GOVERN_ROLE"
def guardian : String := "GUARDIAN_ROLE"
def minter : String := "MINTER_ROLE"
def burner : String := "BURNER_ROLE"
def pcvController : String := "PCV_CONTROLLER_ROLE"

end Role

/-- A call of a method with native currency attached. -/
structure Call where
  target : Address
  method : String
  arguments : List Value := []
  value : Amount := .zero
deriving DecidableEq

namespace Call

def decode : Decoder Call := fun dialect n => do
  match ← Decoder.record ["target", "method", "arguments", "value"] dialect n with
  | [target, method, arguments, value] =>
    return {
      target := ← Decoder.required Address.decode dialect target
      method := ← Decoder.required Decoder.text dialect method
      arguments := ← Decoder.orElse [] (Decoder.list Decoder.value) dialect arguments
      value := ← Decoder.orElse .zero Amount.decode dialect value }
  | _ => none

def document (c : Call) : Document :=
  .map [
    ("target", c.target.document),
    ("method", .text c.method),
    ("arguments", .list (c.arguments.map Value.document)),
    ("value", c.value.document)]

end Call

/-- Something that a contract tells the world. -/
structure Event where
  emitter : Address
  name : String
  data : Value := .null
deriving DecidableEq

namespace Event

def decode : Decoder Event := fun dialect n => do
  match ← Decoder.record ["emitter", "name", "data"] dialect n with
  | [emitter, name, data] =>
    return {
      emitter := ← Decoder.required Address.decode dialect emitter
      name := ← Decoder.required Decoder.text dialect name
      data := ← Decoder.orElse .null Decoder.value dialect data }
  | _ => none

def document (e : Event) : Document :=
  .map [
    ("emitter", e.emitter.document),
    ("name", .text e.name),
    ("data", e.data.document)]

end Event

/-- What came of a call or an executed action: its events in order. -/
structure Receipt where
  events : List Event
deriving DecidableEq

namespace Receipt

/-- The first event of a name. -/
def event? (r : Receipt) (name : String) : Option Event := r.events.find? (·.name == name)

def decode : Decoder Receipt := fun dialect n => do
  match ← Decoder.record ["events"] dialect n with
  | [events] =>
    return { events := ← Decoder.required (Decoder.list Event.decode) dialect events }
  | _ => none

def document (r : Receipt) : Document := .map [("events", .list (r.events.map Event.document))]

end Receipt

/-- What an oracle says, and whether it stands by it. -/
structure Reading where
  value : Amount
  valid : Bool := true
deriving DecidableEq

namespace Reading

def decode : Decoder Reading := fun dialect n => do
  match ← Decoder.record ["value", "valid"] dialect n with
  | [value, valid] =>
    return {
      value := ← Decoder.required Amount.decode dialect value
      valid := ← Decoder.orElse true Decoder.bool dialect valid }
  | _ => none

def document (r : Reading) : Document :=
  .map [("value", r.value.document), ("valid", .bool r.valid)]

end Reading
end Rollout
