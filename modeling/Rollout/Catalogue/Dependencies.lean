/-
# Dependencies

What the proposals of a catalogue need of the registry when their turn comes, found out
without running them. A proposal needs the names that it retires and, where it does not deploy,
the names that it expects or writes. After it the names that it writes are available, and those
that it retires are not.

`Catalogue.issues` lists the needed names that will not be available: by proposal, then by
name.
-/

import Rollout.Catalogue

namespace Rollout

/-- Why a needed name is not available. -/
inductive IssueKind
  /-- Neither the registry nor an earlier proposal provides it. -/
  | missing
  /-- An earlier proposal retired it. -/
  | deprecated (retirer : String)
deriving DecidableEq, Repr

/-- A name that a proposal needs and will not find. -/
structure Issue where
  proposal : String
  name : String
  kind : IssueKind
deriving DecidableEq, Repr

namespace Issue

def message (i : Issue) : String :=
  match i.kind with
  | .missing => i.proposal ++ " needs " ++ i.name ++ ", which no one provides"
  | .deprecated id => i.proposal ++ " needs " ++ i.name ++ ", deprecated by " ++ id

def document (i : Issue) : Document :=
  .map ([("proposal", .text i.proposal), ("name", .text i.name)] ++
    match i.kind with
    | .missing => [("kind", .text "missing")]
    | .deprecated id => [("kind", .text "deprecated"), ("by", .text id)])

end Issue

/-- What is known of names at some place in a catalogue: which are available, and by whom
those that are not were retired last. -/
structure Availability where
  available : KeySet String
  retiredBy : Table String String := .empty
deriving DecidableEq

namespace Availability

/-- What is known at the start. -/
def ofSnapshot (s : Snapshot) : Availability := { available := .ofList s.liveNames }

/-- The name has become available. -/
def provide (a : Availability) (name : String) : Availability where
  available := a.available.add name
  retiredBy := a.retiredBy.erase name

/-- The name has been retired by a proposal. -/
def retire (id : String) (a : Availability) (name : String) : Availability where
  available := Table.erase a.available name
  retiredBy := a.retiredBy.insert name id

variable {σ : Type}

/-- What is known after a proposal. -/
def after (a : Availability) (p : Proposal σ) : Availability :=
  p.deprecated.toList.foldl (retire p.id) (p.affected.toList.foldl provide a)

/-- What is wrong with a name that a proposal needs. -/
def issue? (a : Availability) (p : Proposal σ) (name : String) : Option Issue :=
  if a.available.contains name then none
  else
    match a.retiredBy.find? name with
    | some id => some { proposal := p.id, name, kind := .deprecated id }
    | none => some { proposal := p.id, name, kind := .missing }

end Availability

namespace Catalogue

variable {σ : Type}

/-- The names that a proposal needs. -/
def needs (c : Catalogue σ) (p : Proposal σ) : KeySet String :=
  if c.deploys p then p.deprecated
  else (p.deprecated.union p.expected).union p.affected

/-- The issues of proposals in a row. -/
def issuesOf (c : Catalogue σ) : Availability → List (Proposal σ) → List Issue
  | _, [] => []
  | a, p :: r => (c.needs p).toList.filterMap (a.issue? p) ++ issuesOf c (a.after p) r

/-- The issues of a catalogue that starts from a registry. -/
def issues (c : Catalogue σ) (initial : Snapshot) : List Issue :=
  c.issuesOf (.ofSnapshot initial) c.active

end Catalogue
end Rollout
