/-
# Address books

An address book lists the addresses of the deployed system by name, in order. An entry is
either a bare address or a record with the kind and, where it is known, the artifact. A name
whose address is zero counts as not set.
-/

import Rollout.Listing
import Rollout.Registry

namespace Rollout

/-- An entry of an address book. -/
inductive BookEntry
  | detailed (address : Address) (kind : Kind) (artifact : Option String)
  | bare (address : Address)
deriving DecidableEq

namespace BookEntry

def address : BookEntry → Address
  | detailed a _ _ => a
  | bare a => a

def kind : BookEntry → Kind
  | detailed _ k _ => k
  | bare _ => .external

def artifact? : BookEntry → Option String
  | detailed _ _ artifact => artifact
  | bare _ => none

def isBare : BookEntry → Bool
  | detailed _ _ _ => false
  | bare _ => true

/-- The resource that the entry of a name stands for. -/
def handle (name : String) (e : BookEntry) : Handle where
  name := name
  address := e.address
  kind := e.kind
  artifact := e.artifact?

/-- Reads a record; its kind goes by two names. -/
def decodeDetailed : Decoder BookEntry := fun dialect n => do
  match n with
  | .map _ =>
    match ← Fields.of? [["address"], ["kind", "category"], ["artifact"]] dialect n with
    | [address, kind, artifact] =>
      return detailed
        (← Decoder.required Address.decode dialect address)
        (← Decoder.orElse .external Kind.decode dialect kind)
        (← Decoder.orElse none (Decoder.option Decoder.text) dialect artifact)
    | _ => none
  | _ => none

/-- Reads an entry of either form, the meaning of scalars settled. -/
def decode : Decoder BookEntry := Decoder.settled fun dialect n =>
  decodeDetailed dialect n <|> (Address.decode dialect n).map bare

def document : BookEntry → Document
  | detailed address kind artifact =>
    .ofFields [
      ("address", some address.document),
      ("kind", some kind.document),
      ("artifact", artifact.map .text)]
  | bare address => address.document

end BookEntry

/-- Addresses by name, in order. -/
abbrev AddressBook := Listing BookEntry

namespace AddressBook

def decode : Decoder AddressBook := fun dialect n => do
  return .ofList (← Decoder.entries BookEntry.decode dialect n)

def document (b : AddressBook) : Document := .map (b.toList.map fun e => (e.1, e.2.document))

/-- The book with a record of an address and a kind. -/
def withEntry (b : AddressBook) (name : String) (address : Address) (kind : Kind) :
    AddressBook :=
  b.insert name (.detailed address kind none)

/-- Whether a name has no address in the book, or the zero address. -/
def isUnset (b : AddressBook) (name : String) : Bool :=
  match b.find? name with
  | some e => e.address.isZero
  | none => true

/-- Those of the names that are not set, in the order given. -/
def missing (b : AddressBook) (required : List String) : List String := required.filter b.isUnset

/-- The resources of the book in order. -/
def handles (b : AddressBook) : List Handle := b.toList.map fun e => e.2.handle e.1

def registry (b : AddressBook) : Registry := .ofHandles b.handles

end AddressBook
end Rollout
