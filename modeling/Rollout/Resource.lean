/-
# Resources

A resource is a deployed contract, or a plain account, that is known by a name. Its handle
holds the name, the address, the kind and, where it is known, the artifact it was built from.
-/

import Rollout.Address

namespace Rollout

/-- What part a resource plays. -/
inductive Kind
  | core
  | governance
  | peg
  | pcv
  | collateralization
  | oracle
  | keeper
  | rewards
  | token
  | external
  | account
deriving DecidableEq, Repr, Inhabited

namespace Kind

def text : Kind → String
  | core => "core"
  | governance => "governance"
  | peg => "peg"
  | pcv => "pcv"
  | collateralization => "collateralization"
  | oracle => "oracle"
  | keeper => "keeper"
  | rewards => "rewards"
  | token => "token"
  | external => "external"
  | account => "account"

def all : List Kind :=
  [core, governance, peg, pcv, collateralization, oracle, keeper, rewards, token, external,
    account]

/-- The kind of a name. -/
def ofText? (s : String) : Option Kind := all.find? fun k => k.text == s

/-- Every kind but a plain account has code. -/
def isContract (k : Kind) : Bool := k ≠ account

def decode : Decoder Kind := Decoder.name all ofText?

def document (k : Kind) : Document := .text k.text

/-- A kind is read from its text. -/
theorem ofText?_text (k : Kind) : ofText? k.text = some k := by cases k <;> decide

end Kind

/-- A named resource. -/
structure Handle where
  name : String
  address : Address
  kind : Kind := .external
  artifact : Option String := none
deriving DecidableEq, Inhabited

namespace Handle

/-- The handle under another name. -/
def renamed (h : Handle) (name : String) : Handle := { h with name }

/-- The name and the address. -/
def text (h : Handle) : String := h.name ++ "@" ++ h.address.text

def decode : Decoder Handle := fun dialect n => do
  match ← Decoder.record ["name", "address", "kind", "artifact"] dialect n with
  | [name, address, kind, artifact] =>
    return {
      name := ← Decoder.required Decoder.text dialect name
      address := ← Decoder.required Address.decode dialect address
      kind := ← Decoder.orElse .external Kind.decode dialect kind
      artifact := ← Decoder.orElse none (Decoder.option Decoder.text) dialect artifact }
  | _ => none

def document (h : Handle) : Document :=
  .ofFields [
    ("name", some (.text h.name)),
    ("address", some h.address.document),
    ("kind", some h.kind.document),
    ("artifact", h.artifact.map .text)]

end Handle
end Rollout
