/-
# Phases and states

A run carries a proposal through phases. How far it has come is its state, which moves only
forward:

| from | to |
| --- | --- |
| pending | deployed, torn down |
| deployed | configured, torn down |
| configured | validated, torn down |
| validated | torn down |
-/

import Rollout.Document.Decoder

namespace Rollout

/-- A part of a proposal's run that an error may belong to. -/
inductive Phase
  /-- Finding resources in place of deploying them. -/
  | resolve
  | deploy
  | setup
  /-- Execution of the payload, and retiring names. -/
  | governance
  | validate
  | teardown
deriving DecidableEq, Repr, Inhabited

namespace Phase

def all : List Phase := [resolve, deploy, setup, governance, validate, teardown]

def text : Phase → String
  | resolve => "resolve"
  | deploy => "deploy"
  | setup => "setup"
  | governance => "governance"
  | validate => "validate"
  | teardown => "teardown"

def ofText? (s : String) : Option Phase := all.find? fun p => p.text == s

def decode : Decoder Phase := Decoder.name all ofText?

def document (p : Phase) : Document := .text p.text

end Phase

/-- How far a proposal has come in a run. -/
inductive ProposalState
  | pending
  | deployed
  | configured
  | validated
  | tornDown
deriving DecidableEq, Repr, Inhabited

namespace ProposalState

def all : List ProposalState := [pending, deployed, configured, validated, tornDown]

/-- The place among the states. -/
def index : ProposalState → Nat
  | pending => 0
  | deployed => 1
  | configured => 2
  | validated => 3
  | tornDown => 4

def text : ProposalState → String
  | pending => "PENDING"
  | deployed => "DEPLOYED"
  | configured => "CONFIGURED"
  | validated => "VALIDATED"
  | tornDown => "TORN_DOWN"

def ofText? (s : String) : Option ProposalState := all.find? fun p => p.text == s

def decode : Decoder ProposalState := Decoder.name all ofText?

def document (s : ProposalState) : Document := .text s.text

/-- The states that can follow. -/
def next : ProposalState → List ProposalState
  | pending => [deployed, tornDown]
  | deployed => [configured, tornDown]
  | configured => [validated, tornDown]
  | validated => [tornDown]
  | tornDown => []

end ProposalState

/-- A step from one state to another that cannot follow it. -/
structure IllegalTransition where
  source : ProposalState
  target : ProposalState
deriving DecidableEq, Repr

namespace IllegalTransition

def message (t : IllegalTransition) : String :=
  "illegal transition " ++ t.source.text ++ " -> " ++ t.target.text

end IllegalTransition

/-- Allows a step, or says what is wrong with it. -/
def ProposalState.step (source target : ProposalState) : Except IllegalTransition Unit :=
  if target ∈ source.next then .ok () else .error { source, target }

end Rollout
