/-
# Governance

An action is what a proposal asks for: calls made in order by the timelock of the proposal's
category, after the timelock was given the action's total value. It takes effect as a whole or
not at all.
-/

import Rollout.Chain.Method

namespace Rollout

/-- What a proposal asks governance to do. -/
structure Action where
  proposalId : String
  category : Category
  existingProposalId : Option String := none
  totalValue : Amount := .zero
  calls : List Call
deriving DecidableEq

namespace Action

def decode : Decoder Action := fun dialect n => do
  let keys := ["proposalId", "category", "existingProposalId", "totalValue", "calls"]
  match ← Decoder.record keys dialect n with
  | [proposalId, category, existing, totalValue, calls] =>
    return {
      proposalId := ← Decoder.required Decoder.text dialect proposalId
      category := ← Decoder.required Category.decode dialect category
      existingProposalId :=
        ← Decoder.orElse none (Decoder.option Decoder.text) dialect existing
      totalValue := ← Decoder.orElse .zero Amount.decode dialect totalValue
      calls := ← Decoder.required (Decoder.list Call.decode) dialect calls }
  | _ => none

def document (a : Action) : Document :=
  .ofFields [
    ("proposalId", some (.text a.proposalId)),
    ("category", some a.category.document),
    ("existingProposalId", a.existingProposalId.map .text),
    ("totalValue", some a.totalValue.document),
    ("calls", some (.list (a.calls.map Call.document)))]

end Action

/-- The timelocks of the categories, and the ids of the actions executed so far. -/
structure Governance where
  timelocks : Table Category Address := .empty
  executed : List String := []
deriving DecidableEq

namespace Governance

def empty : Governance := {}

instance : Inhabited Governance := ⟨empty⟩

def withTimelock (g : Governance) (category : Category) (timelock : Address) : Governance :=
  { g with timelocks := g.timelocks.insert category timelock }

def timelock? (g : Governance) (category : Category) : Option Address :=
  g.timelocks.find? category

/-- Makes calls one after another, the first of which has the number `index`; the first that
is refused ends them all. -/
def applyAll (sender : Address) : Nat → Chain → List Call →
    Except ChainError (List Event × Chain)
  | _, c, [] => .ok ([], c)
  | index, c, call :: r =>
    match c.apply sender call with
    | .error e => .error (.command index call.method e)
    | .ok (e, c) => do
      let (es, c) ← applyAll sender (index + 1) c r
      return (e :: es, c)

/-- The event that ends an executed action. -/
def executedEvent (timelock : Address) (a : Action) : Event where
  emitter := timelock
  name := "ProposalExecuted"
  data := .ofFields
    [("proposal", .text a.proposalId), ("onChainId", .ofText? a.existingProposalId)]

/-- Executes an action: its receipt, and the chain and the record of actions after it. -/
def execute (g : Governance) (a : Action) (c : Chain) :
    Except ChainError (Receipt × Chain × Governance) :=
  match g.timelock? a.category with
  | none => .error (.noTimelock a.category)
  | some timelock => do
    let (es, c) ← applyAll timelock 0 (c.fund timelock a.totalValue) a.calls
    return (⟨es ++ [executedEvent timelock a]⟩, c,
      { g with executed := g.executed ++ [a.proposalId] })

end Governance
end Rollout
