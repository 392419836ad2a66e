/-
# Placeholders

A text of the form `{name}`, the name not empty and without braces, stands for the address of
the live resource of that name. `Template.resolve` puts addresses in place of all placeholders
inside a value, `Template.party` reads a reference to an account: an address, a placeholder or
a bare name, tried in this order.
-/

import Rollout.Registry

namespace Rollout
namespace Template

/-- The opening brace. -/
def opening : Char := '\x7b'

/-- The closing brace. -/
def closing : Char := '\x7d'

/-- The characters of the name inside a placeholder. -/
def nameIn? : List Char → Option (List Char)
  | [] => none
  | c :: r =>
    let name := r.dropLast
    if c = opening ∧ r.getLast? = some closing ∧ name ≠ [] ∧ opening ∉ name ∧ closing ∉ name then
      some name
    else none

/-- The name inside a placeholder. -/
def placeholder? (s : String) : Option String := (nameIn? s.toList).map String.ofList

mutual

/-- The value with the addresses of live resources in place of placeholders, or the error of
the first name that has none. -/
def resolve (registry : Snapshot) : Value → Except LookupError Value
  | .text s =>
    match placeholder? s with
    | some name => (registry.address name).map Address.toValue
    | none => .ok (.text s)
  | .list items => (resolveList registry items).map .list
  | .object fields => (resolveFields registry fields).map .object
  | v => .ok v

def resolveList (registry : Snapshot) : List Value → Except LookupError (List Value)
  | [] => .ok []
  | v :: r => do
    let v ← resolve registry v
    let r ← resolveList registry r
    return v :: r

def resolveFields (registry : Snapshot) :
    List (String × Value) → Except LookupError (List (String × Value))
  | [] => .ok []
  | (k, v) :: r => do
    let v ← resolve registry v
    let r ← resolveFields registry r
    return (k, v) :: r

end

/-- The address that a reference stands for. -/
def party (registry : Snapshot) (reference : String) : Except LookupError Address :=
  match Address.ofText reference with
  | .ok a => .ok a
  | .error _ => registry.address ((placeholder? reference).getD reference)

/-- The addresses of several references, or the error of the first that has none. -/
def parties (registry : Snapshot) : List String → Except LookupError (List Address)
  | [] => .ok []
  | reference :: r => do
    let a ← party registry reference
    let r ← parties registry r
    return a :: r

end Template
end Rollout
