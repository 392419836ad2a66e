/-
# Validation

A proposal is validated by assertions from three sources, in this order: its names (those it
writes are live, those it retires are not), its invariants, and its validate hook. All go into
one set, and what keeps an assertion from being made is an error beside it.
-/

import Rollout.Run.Error

namespace Rollout

/-- What came of validating a proposal. -/
structure Validation where
  failures : List AssertionFailure
  /-- What kept assertions from being made. -/
  errors : List RunError
  evaluated : Nat
  skipped : Nat
deriving DecidableEq

namespace Validation

/-- Whether all assertions were made and held. -/
def passed (v : Validation) : Bool := v.failures.isEmpty && v.errors.isEmpty

/-- The name is live. -/
def liveAssertion (registry : Snapshot) (name : String) : Assertion where
  name := "signoff: " ++ name ++ " is live"
  holds := registry.isLive name
  detail :=
    match registry.get name with
    | .ok _ => ""
    | .error e => e.message

/-- The name is not live. -/
def retiredAssertion (registry : Snapshot) (name : String) : Assertion where
  name := "signoff: " ++ name ++ " is deprecated"
  holds := !registry.isLive name
  detail := name ++ " is still live"

variable {σ : Type}

/-- The assertions on the names of a proposal. -/
def signoff (p : Proposal σ) (registry : Snapshot) : List Assertion :=
  p.affected.toList.map (liveAssertion registry)
    ++ p.deprecated.toList.map (retiredAssertion registry)

/-- Checks invariants one after another. -/
def checkAll (registry : Snapshot) (chain : Chain) :
    List Invariant → AssertionSet → List RunError × AssertionSet
  | [], set => ([], set)
  | i :: r, set =>
    let (outcome, set) := i.check registry chain set
    let (errors, set) := checkAll registry chain r set
    match outcome with
    | .ok () => (errors, set)
    | .error e => (.ofHook .validate e :: errors, set)

/-- Validates a proposal. -/
def ofProposal (p : Proposal σ) (ctx : ValidateContext) (rest : σ) : Validation × σ :=
  let set := (signoff p ctx.registry).foldl AssertionSet.record .empty
  let (errors, set) := checkAll ctx.registry ctx.chain p.invariants set
  let (outcome, set, rest) := p.lifecycle.validate ctx set rest
  let hookErrors := match outcome.inPhase .validate with
    | .ok () => []
    | .error e => [e]
  ({ failures := set.failures
     errors := errors ++ hookErrors
     evaluated := set.evaluated
     skipped := set.skipped }, rest)

/-- The failures of a proposal outside a run, against a registry alone; an error counts as a
failure named after the phase. -/
def standalone (p : Proposal σ) (registry : Snapshot) (chain : Chain) (rest : σ) :
    List AssertionFailure × σ :=
  let ctx : ValidateContext :=
    { registry, previous := registry, resources := [], outputs := .empty, chain }
  let (v, rest) := ofProposal p ctx rest
  (v.failures ++ v.errors.map fun e => ⟨Phase.validate.text, e.message⟩, rest)

end Validation
end Rollout
