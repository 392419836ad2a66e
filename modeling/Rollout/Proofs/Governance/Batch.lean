/-
# An action is its calls, all or none

An action is executed on a draft of the chain that takes up call after call and is thrown away as
soon as one is refused. It comes to the same as the calls submitted one by one by the timelock, once
that has been given the total value (`Governance.oneByOne`):

| one by one | the action | the chain and the record of actions |
| --- | --- | --- |
| all are accepted | succeeds, with all their events and one of its own | as the calls leave it; one more id |
| one is refused | fails and names the first that is | as before |
| there is no timelock | fails | as before |

Up to the first refusal the draft is the chain that the calls before it leave, which is an
induction on the calls (`Governance.applyAll_of_accepted`, `Governance.applyAll_of_refused`).
-/

import Rollout.Lifecycle
import Rollout.Proofs.Chain.Submission

namespace Rollout

/-- What came of several things is all good, or there is a first failure. -/
theorem exists_map_ok_or_error {ε α : Type} (xs : List (Except ε α)) :
    (∃ as : List α, xs = as.map .ok) ∨
      ∃ (as : List α) (e : ε) (rest : List (Except ε α)), xs = as.map .ok ++ .error e :: rest := by
  induction xs with
  | nil => exact .inl ⟨[], rfl⟩
  | cons x xs ih =>
    cases x with
    | error e => exact .inr ⟨[], e, xs, rfl⟩
    | ok a =>
      rcases ih with ⟨as, rfl⟩ | ⟨as, e, rest, rfl⟩
      · exact .inl ⟨a :: as, rfl⟩
      · exact .inr ⟨a :: as, e, rest, rfl⟩

namespace Governance

variable {timelock : Address} {c c' : Chain} {calls : List Call} {receipts : List Receipt}

/-- The calls of an action submitted one by one by a timelock that has been given the action's
total value: what came of each, and the chain after the last. -/
def oneByOne (timelock : Address) (a : Action) (c : Chain) :
    List (Except ChainError Receipt) × Chain :=
  (c.fund timelock a.totalValue).submitAll (a.calls.map fun call => (timelock, call))

/-! ## The draft -/

/-- Calls that are accepted one by one are accepted together, and all of their events are handed
back. -/
theorem applyAll_of_accepted (index : Nat)
    (h : c.submitAll (calls.map fun call => (timelock, call)) = (receipts.map .ok, c')) :
    applyAll timelock index c calls = .ok (receipts.flatMap (·.events), c') := by
  induction calls generalizing index c receipts with
  | nil =>
    obtain ⟨nil, rfl⟩ := Prod.mk.inj h
    rw [List.map_eq_nil_iff.1 nil.symm]
    rfl
  | cons call calls ih =>
    rw [List.map_cons, Chain.submitAll_cons] at h
    obtain ⟨results, left⟩ := Prod.mk.inj h
    cases applied : c.apply timelock call with
    | error e =>
      rw [Chain.submit_of_error applied] at results
      cases receipts <;> cases results
    | ok y =>
      obtain ⟨e, c₁⟩ := y
      rw [Chain.submit_of_ok applied] at results left
      cases receipts with
      | nil => cases results
      | cons receipt receipts =>
        obtain ⟨head, tail⟩ := List.cons.inj results
        cases head
        have rest := ih (index + 1) (Prod.ext tail left)
        rw [applyAll]
        simp only [applied, rest]
        rfl

/-- Calls of which one is refused one by one are refused together, with the number and the method of
that one. -/
theorem applyAll_of_refused (index : Nat) {cause : ChainError}
    {rest : List (Except ChainError Receipt)}
    (h : (c.submitAll (calls.map fun call => (timelock, call))).1
      = receipts.map .ok ++ .error cause :: rest) :
    ∃ call, calls[receipts.length]? = some call ∧ applyAll timelock index c calls
      = .error (.command (index + receipts.length) call.method cause) := by
  induction calls generalizing index c receipts with
  | nil => cases receipts <;> cases h
  | cons call calls ih =>
    rw [List.map_cons, Chain.submitAll_cons] at h
    cases applied : c.apply timelock call with
    | error e =>
      rw [Chain.submit_of_error applied] at h
      cases receipts with
      | nil =>
        obtain ⟨head, -⟩ := List.cons.inj h
        cases head
        exact ⟨call, rfl, by rw [applyAll, applied]; rfl⟩
      | cons receipt receipts => cases h
    | ok y =>
      obtain ⟨e, c₁⟩ := y
      rw [Chain.submit_of_ok applied] at h
      cases receipts with
      | nil => cases h
      | cons receipt receipts =>
        obtain ⟨-, tail⟩ := List.cons.inj h
        obtain ⟨call', found, refused⟩ := ih (index + 1) tail
        refine ⟨call', found, ?_⟩
        rw [applyAll]
        simp only [applied, refused]
        rw [List.length_cons, Nat.add_assoc, Nat.add_comm 1]
        rfl

/-! ## Actions -/

/-- What the execution of an action in a simulated run comes to, told by its calls one by one. -/
structure AllOrNone {τ : Type} (a : Action) (w : World (Simulation τ)) : Prop where
  /-- It succeeds exactly if there is a timelock and no call is refused. -/
  isOk_iff : (Executor.simulated a w).1.isOk = true ↔
    ∃ timelock, w.rest.governance.timelock? a.category = some timelock ∧
      ∀ x ∈ (oneByOne timelock a w.chain).1, x.isOk = true
  /-- If all calls are accepted, it has their events and its own, the chain is as they leave it,
  and its id is put on record. -/
  accepted : ∀ (timelock : Address) (receipts : List Receipt),
    w.rest.governance.timelock? a.category = some timelock →
    (oneByOne timelock a w.chain).1 = receipts.map .ok →
    Executor.simulated a w = (.ok ⟨receipts.flatMap (·.events) ++ [executedEvent timelock a]⟩,
      { chain := (oneByOne timelock a w.chain).2
        rest := { w.rest with
          governance := { w.rest.governance with
            executed := w.rest.governance.executed ++ [a.proposalId] } } })
  /-- If a call is refused after some that are accepted, it fails for that one. -/
  refused : ∀ (timelock : Address) (receipts : List Receipt) (cause : ChainError)
    (rest : List (Except ChainError Receipt)),
    w.rest.governance.timelock? a.category = some timelock →
    (oneByOne timelock a w.chain).1 = receipts.map .ok ++ .error cause :: rest →
    ∃ call, a.calls[receipts.length]? = some call ∧ Executor.simulated a w
      = (.error (.command receipts.length call.method cause), w)
  /-- Without a timelock it fails. -/
  unassigned : w.rest.governance.timelock? a.category = none →
    Executor.simulated a w = (.error (.noTimelock a.category), w)
  /-- If it fails, chain and record are as before. -/
  kept : (Executor.simulated a w).1.isOk = false → (Executor.simulated a w).2 = w

variable {τ : Type} {a : Action} {w : World (Simulation τ)}

/-- An action whose calls are accepted one by one is carried out, and the event of the proposal
comes last. -/
theorem simulated_of_accepted (assigned : w.rest.governance.timelock? a.category = some timelock)
    (h : (oneByOne timelock a w.chain).1 = receipts.map .ok) :
    Executor.simulated a w = (.ok ⟨receipts.flatMap (·.events) ++ [executedEvent timelock a]⟩,
      { chain := (oneByOne timelock a w.chain).2
        rest := { w.rest with
          governance := { w.rest.governance with
            executed := w.rest.governance.executed ++ [a.proposalId] } } }) := by
  have drafted := applyAll_of_accepted 0 (Prod.ext h rfl)
  rw [Executor.simulated, execute]
  simp only [assigned, drafted]
  rfl

/-- An action one of whose calls is refused one by one is refused, and the world stays as it is. -/
theorem simulated_of_refused {cause : ChainError} {rest : List (Except ChainError Receipt)}
    (assigned : w.rest.governance.timelock? a.category = some timelock)
    (h : (oneByOne timelock a w.chain).1 = receipts.map .ok ++ .error cause :: rest) :
    ∃ call, a.calls[receipts.length]? = some call ∧ Executor.simulated a w
      = (.error (.command receipts.length call.method cause), w) := by
  obtain ⟨call, found, drafted⟩ := applyAll_of_refused 0 h
  refine ⟨call, found, ?_⟩
  rw [Nat.zero_add] at drafted
  rw [Executor.simulated, execute]
  simp only [assigned, drafted]
  rfl

/-- An action of a category without a timelock is refused, and the world stays as it is. -/
theorem simulated_of_unassigned (h : w.rest.governance.timelock? a.category = none) :
    Executor.simulated a w = (.error (.noTimelock a.category), w) := by
  rw [Executor.simulated, execute]
  simp only [h]

/-- **An action is its calls, all or none.** Its execution succeeds exactly if its timelock, given
the total value, could submit all its calls one by one, and then comes to the same; otherwise it
changes nothing and names the first call that would be refused. -/
theorem allOrNone_simulated (a : Action) (w : World (Simulation τ)) : AllOrNone a w := by
  have outcome : (∃ (timelock : Address) (receipts : List Receipt),
      w.rest.governance.timelock? a.category = some timelock ∧
        (oneByOne timelock a w.chain).1 = receipts.map .ok) ∨
      ∃ e, Executor.simulated a w = (.error e, w) ∧ ∀ timelock : Address,
        w.rest.governance.timelock? a.category = some timelock →
          ∃ x ∈ (oneByOne timelock a w.chain).1, x.isOk = false := by
    cases assigned : w.rest.governance.timelock? a.category with
    | none => exact .inr ⟨_, simulated_of_unassigned assigned, nofun⟩
    | some timelock =>
      rcases exists_map_ok_or_error (oneByOne timelock a w.chain).1 with
        ⟨receipts, h⟩ | ⟨receipts, cause, rest, h⟩
      · exact .inl ⟨timelock, receipts, rfl, h⟩
      · obtain ⟨call, -, failed⟩ := simulated_of_refused assigned h
        refine .inr ⟨_, failed, fun t ht => ?_⟩
        cases ht
        exact ⟨.error cause, by rw [h]; simp, rfl⟩
  constructor
  case isOk_iff =>
    rcases outcome with ⟨timelock, receipts, assigned, h⟩ | ⟨e, failed, refusal⟩
    · rw [simulated_of_accepted assigned h]
      refine ⟨fun _ => ⟨timelock, assigned, fun x hx => ?_⟩, fun _ => rfl⟩
      rw [h] at hx
      obtain ⟨receipt, -, rfl⟩ := List.mem_map.1 hx
      rfl
    · rw [failed]
      refine ⟨nofun, ?_⟩
      rintro ⟨timelock, assigned, accepted⟩
      obtain ⟨x, hx, bad⟩ := refusal timelock assigned
      rw [accepted x hx] at bad
      cases bad
  case accepted => exact fun timelock receipts => simulated_of_accepted
  case refused => exact fun timelock receipts cause rest => simulated_of_refused
  case unassigned => exact simulated_of_unassigned
  case kept =>
    intro bad
    rcases outcome with ⟨timelock, receipts, assigned, h⟩ | ⟨e, failed, -⟩
    · rw [simulated_of_accepted assigned h] at bad
      cases bad
    · rw [failed]

end Governance
end Rollout
