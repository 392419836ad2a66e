/-
# Catalogue files

The written form of a catalogue: a record for each proposal under its id, in order. A record
without a payload stands for a placeholder. `CatalogueFile.catalogue` binds the records to
lifecycles:

| there are | the lifecycle is |
| --- | --- |
| hooks in the book under the id | those hooks |
| else, declared deployments | the one that makes them |
| else | idle, which is an error if the proposal would have to deploy |
-/

import Rollout.Catalogue
import Rollout.Lifecycle.Declared
import Rollout.Listing

namespace Rollout

/-- What a catalogue file holds of one proposal. -/
structure CatalogueRecord where
  deploys : Bool
  totalValue : Amount := .zero
  /-- Missing for a placeholder. -/
  payload : Option Payload := none
  existingId : Option String := none
  affected : List String := []
  deprecated : List String := []
  category : Category := .dao
  /-- The affected names if it is missing. -/
  expected : Option (List String) := none
  invariants : List Invariant := []
  deployments : List DeploymentSpec := []
deriving DecidableEq

namespace CatalogueRecord

/-- Optional text, of which the empty text is none. -/
def decodeId : Decoder (Option String) := fun dialect n => do
  return (← Decoder.option Decoder.text dialect n).filter (· ≠ "")

def keys : List String :=
  ["deploy", "totalValue", "proposal", "proposalId", "affectedContractSignoff",
    "deprecatedContractSignoff", "category", "expectedResources", "invariants", "deployments"]

def decode : Decoder CatalogueRecord := fun dialect n => do
  match ← Decoder.record keys dialect n with
  | [deploys, totalValue, payload, existingId, affected, deprecated, category, expected,
      invariants, deployments] =>
    let names := Decoder.list Decoder.text
    return {
      deploys := ← Decoder.required Decoder.bool dialect deploys
      totalValue := ← Decoder.orElse .zero Amount.decode dialect totalValue
      payload := ← Decoder.orElse none (Decoder.option Payload.decode) dialect payload
      existingId := ← Decoder.orElse none decodeId dialect existingId
      affected := ← Decoder.orElse [] names dialect affected
      deprecated := ← Decoder.orElse [] names dialect deprecated
      category := ← Decoder.orElse .dao Category.decode dialect category
      expected := ← Decoder.orElse none (Decoder.option names) dialect expected
      invariants := ← Decoder.orElse [] (Decoder.list Invariant.decode) dialect invariants
      deployments :=
        ← Decoder.orElse [] (Decoder.list DeploymentSpec.decode) dialect deployments }
  | _ => none

/-- Names as a list of texts. -/
def texts (names : List String) : Document := .list (names.map .text)

/-- A list that is left out when it is empty. -/
def unlessEmpty (f : α → Document) (items : List α) : Option Document :=
  if items.isEmpty then none else some (.list (items.map f))

def document (r : CatalogueRecord) : Document :=
  .ofFields [
    ("deploy", some (.bool r.deploys)),
    ("totalValue", some r.totalValue.document),
    ("proposal", some ((r.payload.map Payload.document).getD .null)),
    ("proposalId", some ((r.existingId.map .text).getD .null)),
    ("affectedContractSignoff", some (texts r.affected)),
    ("deprecatedContractSignoff", some (texts r.deprecated)),
    ("category", some r.category.document),
    ("expectedResources", r.expected.map texts),
    ("invariants", unlessEmpty Invariant.document r.invariants),
    ("deployments", unlessEmpty DeploymentSpec.document r.deployments)]

/-- The names that the proposal finds where it does not deploy. -/
def expectedNames (r : CatalogueRecord) : List String := r.expected.getD r.affected

end CatalogueRecord

/-- Lifecycles by the ids of their proposals. -/
abbrev HookBook (σ : Type) := Table String (Lifecycle σ)

/-- The ids of a book in braces. -/
def HookBook.spelled {σ : Type} (b : HookBook σ) : String := Proposal.spelledNames b.keys

/-- The written form of a catalogue. -/
abbrev CatalogueFile := Listing CatalogueRecord

namespace CatalogueFile

def decode : Decoder CatalogueFile := fun dialect n => do
  return .ofList (← Decoder.entries CatalogueRecord.decode dialect n)

def document (f : CatalogueFile) : Document :=
  .map (f.toList.map fun e => (e.1, e.2.document))

variable {σ : Type}

/-- The lifecycle of a record. -/
def lifecycle (hooks : HookBook σ) (mode : Mode) (id : String) (r : CatalogueRecord) :
    Except CatalogueError (Lifecycle σ) :=
  match hooks.find? id with
  | some l => .ok l
  | none =>
    if !r.deployments.isEmpty then .ok (.declared r.deployments)
    else if r.deploys && mode = .fresh then .error (.missingLifecycle id)
    else .ok .idle

/-- The slot of a record. -/
def slot (hooks : HookBook σ) (mode : Mode) (id : String) (r : CatalogueRecord) :
    Except CatalogueError (Slot σ) :=
  match r.payload with
  | none => .ok (.placeholder id r.category)
  | some payload => do
    let lifecycle ← lifecycle hooks mode id r
    return .active {
      id
      category := r.category
      deploys := r.deploys
      totalValue := r.totalValue
      existingId := r.existingId
      affected := .ofList r.affected
      deprecated := .ofList r.deprecated
      expected := .ofList r.expectedNames
      invariants := r.invariants
      payload := some payload
      lifecycle }

/-- Pushes the slots of records one after another. -/
def pushAll (hooks : HookBook σ) (mode : Mode) :
    List (String × CatalogueRecord) → Catalogue σ → Except CatalogueError (Catalogue σ)
  | [], c => .ok c
  | (id, r) :: rest, c => do pushAll hooks mode rest (← c.push (← slot hooks mode id r))

/-- The catalogue of a file with the lifecycles of a book. -/
def catalogue (f : CatalogueFile) (hooks : HookBook σ) (mode : Mode) :
    Except CatalogueError (Catalogue σ) :=
  pushAll hooks mode f.toList (.empty mode)

end CatalogueFile
end Rollout
