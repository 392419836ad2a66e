/-
# The calls of a payload

To make calls of the commands of a payload, all that they refer to is looked up, command after
command and in each the target before the arguments (`Payload.references`). What comes of it is
told by what comes of each reference by itself:

| references | outcome |
| --- | --- |
| all are found | one call for each command, in order (`Payload.calls_eq_ok_iff`) |
| some are not | the error of the first of them (`Payload.calls_eq_error_iff`) |
-/

import Rollout.Payload
import Rollout.Proofs.Errors
import Mathlib.Data.List.Forall2

namespace Rollout

/-! ## References -/

/-- What a command refers to. -/
inductive Reference
  | target (text : String)
  | argument (value : Value)

/-- Why a reference cannot be looked up. -/
def Reference.failure? (s : Snapshot) : Reference → Option LookupError
  | target text => errorOf? (Template.party s text)
  | argument value => errorOf? (Template.resolve s value)

variable {s : Snapshot}

namespace Template

/-- A list is resolved with the error of its first value that has one. -/
theorem errorOf?_resolveList (s : Snapshot) (vs : List Value) :
    errorOf? (resolveList s vs) = vs.findSome? fun v => errorOf? (resolve s v) := by
  induction vs with
  | nil => rfl
  | cons v vs ih =>
    rw [resolveList, errorOf?_bind₂, ih, List.findSome?_cons]
    cases errorOf? (resolve s v) <;> rfl

/-- A list is resolved value by value. -/
theorem resolveList_eq_ok_iff {vs ws : List Value} :
    resolveList s vs = .ok ws ↔ List.Forall₂ (fun v w => resolve s v = .ok w) vs ws := by
  induction vs generalizing ws with
  | nil => simp [resolveList, eq_comm]
  | cons v vs ih =>
    simp only [resolveList, bind₂_eq_ok_iff, ih, List.forall₂_cons_left_iff]

end Template

namespace Command

/-- The references of a command, the target first. -/
def references (c : Command) : List Reference := .target c.target :: c.arguments.map .argument

/-- The call is what the command declares. -/
structure Declares (s : Snapshot) (c : Command) (call : Call) : Prop where
  target : Template.party s c.target = .ok call.target
  method : call.method = c.method
  arguments : List.Forall₂ (fun v w => Template.resolve s v = .ok w) c.arguments call.arguments
  value : call.value = c.value

/-- A command fails on the first of its references that does not resolve. -/
theorem errorOf?_call (s : Snapshot) (c : Command) :
    errorOf? (c.call s) = c.references.findSome? (Reference.failure? s) := by
  rw [call, errorOf?_bind₂, Template.errorOf?_resolveList, references, List.findSome?_cons,
    List.findSome?_map]
  change (Reference.failure? s (.target c.target)).or _ = _
  cases Reference.failure? s (.target c.target) <;> rfl

/-- **A command resolves to a call exactly if it declares it.** -/
theorem call_eq_ok_iff {c : Command} {call : Call} : c.call s = .ok call ↔ c.Declares s call := by
  rw [Command.call, bind₂_eq_ok_iff]
  constructor
  · rintro ⟨target, arguments, found, resolved, rfl⟩
    exact ⟨found, rfl, Template.resolveList_eq_ok_iff.1 resolved, rfl⟩
  · rintro ⟨target, method, arguments, value⟩
    refine ⟨_, _, target, Template.resolveList_eq_ok_iff.2 arguments, ?_⟩
    rw [← method, ← value]

end Command

namespace Payload

/-- The references of all commands. -/
def references (p : Payload) : List Reference := p.commands.flatMap Command.references

/-- The error of the first reference that cannot be looked up. -/
def firstFailure? (s : Snapshot) (p : Payload) : Option LookupError :=
  p.references.findSome? (Reference.failure? s)

/-- Commands fail on the first of all their references that does not resolve. -/
theorem errorOf?_callsOf (s : Snapshot) (cs : List Command) :
    errorOf? (callsOf s cs) = (cs.flatMap Command.references).findSome? (Reference.failure? s) := by
  induction cs with
  | nil => rfl
  | cons c cs ih =>
    rw [callsOf, errorOf?_bind₂, Command.errorOf?_call, ih, List.flatMap_cons,
      List.findSome?_append]

/-- Commands resolve to the calls that they declare, in order. -/
theorem callsOf_eq_ok_iff {cs : List Command} {calls : List Call} :
    callsOf s cs = .ok calls ↔ List.Forall₂ (Command.Declares s) cs calls := by
  induction cs generalizing calls with
  | nil => simp [callsOf, eq_comm]
  | cons c cs ih =>
    simp only [callsOf, bind₂_eq_ok_iff, Command.call_eq_ok_iff, ih, List.forall₂_cons_left_iff]

variable {p : Payload}

/-- **Where all is found, there is one call for each command.** -/
theorem calls_eq_ok_iff {calls : List Call} :
    p.calls s = .ok calls ↔ List.Forall₂ (Command.Declares s) p.commands calls :=
  callsOf_eq_ok_iff

/-- **Else the error is that of the first reference** that cannot be looked up. -/
theorem calls_eq_error_iff {e : LookupError} :
    p.calls s = .error e ↔ p.firstFailure? s = some e := by
  rw [← errorOf?_eq_some_iff, calls, errorOf?_callsOf]
  rfl

/-- A payload resolves exactly if none of its references fails. -/
theorem isOk_calls_iff : (p.calls s).isOk = true ↔ p.firstFailure? s = none := by
  rw [← errorOf?_eq_none_iff, calls, errorOf?_callsOf]
  rfl

end Payload
end Rollout
