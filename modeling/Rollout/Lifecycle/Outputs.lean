/-
# Outputs of a deployment

Named values that a deployment hands to the later phases of its proposal, read back with the
type that the reader wants.
-/

import Rollout.Lifecycle.Error
import Rollout.Resource

namespace Rollout

/-- Values by name. -/
abbrev Outputs := Table String Value

namespace Outputs

def decode : Decoder Outputs := fun dialect n => do
  return .ofList (← Decoder.entries Decoder.value dialect n)

def document (o : Outputs) : Document := .map (o.entries.map fun e => (e.1, e.2.document))

/-- The value of a name, read by `read`. -/
def get (o : Outputs) (read : Value → Except OutputFault α) (key : String) :
    Except HookError α :=
  match o.find? key with
  | some v => (read v).mapError (.malformedOutput key)
  | none => .error (.missingOutput key)

end Outputs

namespace Value

/-- A value as a whole number at least zero and below `2 ^ 64`. -/
def readWord (v : Value) : Except OutputFault Nat :=
  match v with
  | .number n =>
    match n.word? with
    | some w => .ok w
    | none => .error (.mistyped v .word)
  | _ => .error (.mistyped v .word)

/-- A value as text. -/
def readText : Value → Except OutputFault String
  | .text s => .ok s
  | v => .error (.mistyped v .text)

/-- A value as a truth value. -/
def readBool : Value → Except OutputFault Bool
  | .bool b => .ok b
  | v => .error (.mistyped v .bool)

/-- A value as an address. -/
def readAddress (v : Value) : Except OutputFault Address := do
  (Address.ofText (← v.readText)).mapError .notAddress

/-- A value as a list of texts. -/
def readTexts : Value → Except OutputFault (List String)
  | .list items => items.mapM readText
  | v => .error (.mistyped v .list)

end Value

/-- What a deployment comes to: new resources, and values for the later phases. -/
structure Deployment where
  resources : List Handle := []
  outputs : Outputs := .empty
deriving DecidableEq

namespace Deployment

def empty : Deployment := {}

instance : Inhabited Deployment := ⟨empty⟩

/-- The deployment with one more resource. -/
def withResource (d : Deployment) (h : Handle) : Deployment :=
  { d with resources := d.resources ++ [h] }

/-- The deployment with one more value, in place of an earlier one of the name. -/
def withOutput (d : Deployment) (key : String) (v : Value) : Deployment :=
  { d with outputs := d.outputs.insert key v }

end Deployment
end Rollout
