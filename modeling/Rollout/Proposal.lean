/-
# Proposals

A proposal is one unit of change: what it deploys and checks (its lifecycle and invariants),
what it asks governance to do (its payload), and which names it writes, retires or expects.
-/

import Rollout.Invariant
import Rollout.Lifecycle
import Rollout.Payload

namespace Rollout

/-- One unit of change. -/
structure Proposal (σ : Type) where
  id : String
  category : Category := .dao
  /-- Whether it deploys where deployments are made. -/
  deploys : Bool := true
  /-- What the executor is given before it acts. -/
  totalValue : Amount := .zero
  /-- The id of the action on the chain, if it was submitted already. -/
  existingId : Option String := none
  /-- The names it writes. -/
  affected : KeySet String := .empty
  /-- The names it retires. -/
  deprecated : KeySet String := .empty
  /-- The names it finds where it does not deploy. -/
  expected : KeySet String := .empty
  invariants : List Invariant := []
  payload : Option Payload := none
  lifecycle : Lifecycle σ := .idle

namespace Proposal

variable {σ : Type}

/-- Whether it asks governance for anything. -/
def hasGovernance (p : Proposal σ) : Bool := p.category.hasGovernance && p.payload.isSome

/-- Names in braces, ascending. -/
def spelledNames (names : List String) : String :=
  "\x7b" ++ String.intercalate ", " (names.map Text.quoted) ++ "\x7d"

/-- The proposal spelled out, but for what it does. -/
def spelled (p : Proposal σ) : String :=
  "ProposalDescriptor \x7b id: " ++ Text.quoted p.id
    ++ ", category: " ++ p.category.spelled
    ++ ", deploy: " ++ toString p.deploys
    ++ ", total_value: " ++ p.totalValue.text
    ++ ", affected: " ++ spelledNames p.affected.toList
    ++ ", deprecated: " ++ spelledNames p.deprecated.toList
    ++ ", expected: " ++ spelledNames p.expected.toList ++ ", .. \x7d"

end Proposal
end Rollout
