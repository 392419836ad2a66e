/-
# Calls submitted one after another

Whoever submits calls to a chain is told of each what came of it, and goes on if one is refused. A
refused call leaves the chain as it was, so what every accepted call keeps, all of them keep
(`Chain.submitAll_induction`). The calls of an executed action are accepted, every one, so it keeps
the same once its timelock has been given the total value (`Governance.execute_induction`).
-/

import Rollout.Chain.Operation
import Rollout.Proofs.Chain.Performed

namespace Rollout
namespace Chain

/-- Submits a call. A refused one leaves the chain as it was. -/
def submit (c : Chain) (sender : Address) (call : Call) : Except ChainError Receipt × Chain :=
  match c.call sender call with
  | .ok (receipt, c') => (.ok receipt, c')
  | .error e => (.error e, c)

/-- Submits calls, each by its sender, one after another: what came of each, and the chain after
the last. -/
def submitAll : Chain → List (Address × Call) → List (Except ChainError Receipt) × Chain
  | c, [] => ([], c)
  | c, (sender, call) :: rest =>
    let (x, c) := c.submit sender call
    let (xs, c) := submitAll c rest
    (x :: xs, c)

variable {c c' : Chain} {sender : Address} {call : Call}

/-- A call that succeeds is answered with its event. -/
theorem submit_of_ok {e : Event} (h : c.apply sender call = .ok (e, c')) :
    c.submit sender call = (.ok ⟨[e]⟩, c') := by
  rw [submit, Chain.call, h]
  rfl

/-- A call that fails changes nothing. -/
theorem submit_of_error {e : ChainError} (h : c.apply sender call = .error e) :
    c.submit sender call = (.error e, c) := by
  rw [submit, Chain.call, h]
  rfl

/-- The first call is submitted before the others. -/
theorem submitAll_cons (c : Chain) (sender : Address) (call : Call)
    (rest : List (Address × Call)) :
    c.submitAll ((sender, call) :: rest) =
      ((c.submit sender call).1 :: ((c.submit sender call).2.submitAll rest).1,
        ((c.submit sender call).2.submitAll rest).2) := rfl

/-- **What every accepted call keeps, all calls together keep.** -/
theorem submitAll_induction {P : Chain → Prop} {calls : List (Address × Call)} (start : P c)
    (step : ∀ sender call, (sender, call) ∈ calls → ∀ c e c', P c →
      c.apply sender call = .ok (e, c') → P c') : P (c.submitAll calls).2 := by
  induction calls generalizing c with
  | nil => exact start
  | cons x calls ih =>
    obtain ⟨sender, call⟩ := x
    rw [submitAll_cons]
    have rest : ∀ c, P c → P (c.submitAll calls).2 := fun c hc =>
      ih hc fun sender call h => step sender call (List.mem_cons_of_mem _ h)
    cases h : c.apply sender call with
    | error e =>
      rw [submit_of_error h]
      exact rest c start
    | ok y =>
      obtain ⟨e, c'⟩ := y
      rw [submit_of_ok h]
      exact rest c' (step sender call List.mem_cons_self c e c' start h)

/-- Calls that are submitted are operations of a kind. -/
theorem performAll_call (s : Operation.System) (calls : List (Address × Call)) :
    Operation.performAll s (calls.map fun x => .call x.1 x.2)
      = s.withChain (s.chain.submitAll calls).2 := by
  induction calls generalizing s with
  | nil => rfl
  | cons x calls ih =>
    obtain ⟨sender, call⟩ := x
    rw [List.map_cons, Operation.performAll, submitAll_cons, Operation.perform, submit]
    cases s.chain.call sender call with
    | error e => exact ih s
    | ok y => exact ih _

end Chain

namespace Governance

variable {g g' : Governance} {a : Action} {c c' : Chain} {receipt : Receipt}

/-- What every call of an action keeps, the action keeps. -/
theorem applyAll_induction {P : Chain → Prop} {sender : Address} {index : Nat} {calls : List Call}
    {es : List Event} (start : P c)
    (step : ∀ call d e d', P d → d.apply sender call = .ok (e, d') → P d')
    (h : applyAll sender index c calls = .ok (es, c')) : P c' := by
  induction calls generalizing index c es with
  | nil =>
    cases h
    exact start
  | cons call calls ih =>
    rw [applyAll] at h
    cases applied : c.apply sender call with
    | error e =>
      rw [applied] at h
      cases h
    | ok x =>
      obtain ⟨e, c₁⟩ := x
      simp only [applied, bind_eq_ok_iff] at h
      obtain ⟨⟨es', c₂⟩, rest, ⟨⟩⟩ := h
      exact ih (step call c e c₁ start applied) rest

/-- An executed action has a timelock that makes its calls, and is on record. -/
theorem exists_of_execute (h : g.execute a c = .ok (receipt, c', g')) :
    ∃ timelock es, g.timelock? a.category = some timelock ∧
      applyAll timelock 0 (c.fund timelock a.totalValue) a.calls = .ok (es, c') ∧
      receipt = ⟨es ++ [executedEvent timelock a]⟩ ∧
      g' = { g with executed := g.executed ++ [a.proposalId] } := by
  rw [execute] at h
  cases assigned : g.timelock? a.category with
  | none =>
    rw [assigned] at h
    cases h
  | some timelock =>
    simp only [assigned, bind_eq_ok_iff] at h
    obtain ⟨⟨es, c₁⟩, applied, ⟨⟩⟩ := h
    exact ⟨timelock, es, rfl, applied, rfl, rfl⟩

/-- **What every accepted call keeps, an executed action keeps** once its timelock is funded. -/
theorem execute_induction {P : Chain → Prop} (h : g.execute a c = .ok (receipt, c', g'))
    (funded : ∀ timelock, P (c.fund timelock a.totalValue))
    (step : ∀ sender call d e d', P d → d.apply sender call = .ok (e, d') → P d') : P c' := by
  obtain ⟨timelock, es, -, applied, -, -⟩ := exists_of_execute h
  exact applyAll_induction (funded timelock) (step timelock) applied

end Governance
end Rollout
