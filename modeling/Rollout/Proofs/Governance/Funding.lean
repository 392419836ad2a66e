/-
# A declared value is enough

A timelock is given an action's total value and then pays for the calls one after another. The
balance that it starts from may be anything, and what is added to it beyond the greatest amount is
lost; but the total value is an amount itself, so afterwards the timelock has at least that:

| step | the timelock's balance |
| --- | --- |
| the total value is given | at least the total value |
| currency is attached to a call | less by at most the call's value |
| a method is performed | as before |

A call to the timelock itself gives back what it took. So while the values attached to the calls
add up to no more than the total value, the balance covers what the calls still to come are to be
given (`Governance.covered_applyAll`), and no call is refused for want of currency, as methods are
refused for other causes (`Governance.errs_applyAll`).
-/

import Rollout.Proofs.Chain.Currency
import Rollout.Proofs.Chain.Refusals

namespace Rollout

/-- The sum of the values attached to calls, which may be beyond the greatest amount. -/
def Call.attached : List Call → Nat
  | [] => 0
  | call :: calls => call.value.units + attached calls

/-- What an error goes back to, if it was handed up from a command of an action. -/
def ChainError.root : ChainError → ChainError
  | command _ _ cause => cause.root
  | e => e

/-! ## A rich timelock -/

namespace Drill

/-- The bank, on which the governor is a contract itself and has the greatest amount. -/
def hoard : Chain := (bank.install (.ofNat 7) "Timelock").setNative (.ofNat 7) .greatest

/-- An action that gives the governor 21 and attaches them to its calls: 7 to one of the token, 14 to
one of the governor itself. -/
def spree : Action where
  proposalId := "spree"
  category := .dao
  totalValue := ⟨21, by decide⟩
  calls :=
    [ { target := coin, method := "pause", value := ⟨7, by decide⟩ },
      { target := .ofNat 7, method := "pause", value := ⟨14, by decide⟩ }]

end Drill

namespace Chain

variable {c c' : Chain} {sender : Address} {call : Call} {e : Event}

/-! ## One balance -/

/-- An account that is updated but for its native currency leaves the native balances. -/
theorem nativeBalance_updateAccount_of_native (c : Chain) (a b : Address) {f : Account → Account}
    (hf : ∀ x, (f x).native = x.native) :
    (c.updateAccount a f).nativeBalance b = c.nativeBalance b := by
  rw [nativeBalance, account_updateAccount, nativeBalance]
  by_cases h : b = a
  · rw [if_pos h, hf, h]
  · rw [if_neg h]

/-- Whoever is funded has at least what was given. -/
theorem le_nativeBalance_fund (c : Chain) (a : Address) (amount : Amount) :
    amount.units ≤ ((c.fund a amount).nativeBalance a).units := by
  have bounded := amount.isLt
  rw [nativeBalance, fund, account_updateAccount, if_pos rfl, Amount.units_add]
  omega

/-- To pay for a call costs the sender at most the value of the call, and nothing where it is the
target itself. -/
theorem nativeBalance_le_of_attach (h : c.attach sender call = .ok c') :
    (c.nativeBalance sender).units ≤ (c'.nativeBalance sender).units + call.value.units := by
  rcases attach_eq_ok_iff.1 h with ⟨-, rfl⟩ | ⟨-, rest, hrest, rfl⟩
  · exact Nat.le_add_right ..
  · obtain ⟨enough, left⟩ := Amount.sub?_eq_some_iff.1 hrest
    have bounded := (c.account sender).native.isLt
    have taken : ((c.setNative sender rest).account sender).native = rest := by
      rw [setNative, account_updateAccount, if_pos rfl]
    rw [nativeBalance, nativeBalance, fund, account_updateAccount]
    by_cases own : sender = call.target
    · rw [if_pos own, ← own, Amount.units_add, taken]
      omega
    · rw [if_neg own, taken]
      omega

/-- No method touches a native balance. -/
theorem nativeBalance_of_performed (h : Performed c sender call e c') (a : Address) :
    c'.nativeBalance a = c.nativeBalance a := by
  cases h with
  | changeFixedRole method account asked => rw [nativeBalance, account_changeRole, nativeBalance]
  | changeRole method named account asked => rw [nativeBalance, account_changeRole, nativeBalance]
  | setPaused method asked => exact nativeBalance_updateAccount_of_native _ _ _ fun _ => rfl
  | mint method account quantity asked unpaused => rfl
  | transfer method account quantity unpaused moved =>
    obtain ⟨rest, -, rfl⟩ := moveTokens_eq_ok_iff.1 moved
    rfl
  | burn method quantity unpaused moved =>
    obtain ⟨rest, -, rfl⟩ := moveTokens_eq_ok_iff.1 moved
    rfl
  | setStorage method named given asked =>
    exact nativeBalance_updateAccount_of_native _ _ _ fun _ => rfl
  | setOracle method quantity flag asked =>
    exact nativeBalance_updateAccount_of_native _ _ _ fun _ => rfl

/-! ## One call -/

/-- An accepted call costs its sender at most its value. -/
theorem nativeBalance_le_of_apply (h : c.apply sender call = .ok (e, c')) :
    (c.nativeBalance sender).units ≤ (c'.nativeBalance sender).units + call.value.units := by
  obtain ⟨-, c₁, attached, performed⟩ := exists_performed h
  rw [nativeBalance_of_performed performed]
  exact nativeBalance_le_of_attach attached

/-- What the sender can pay for is attached. -/
theorem exists_attach_eq_ok (enough : call.value.units ≤ (c.nativeBalance sender).units) :
    ∃ c₁, c.attach sender call = .ok c₁ := by
  by_cases free : call.value.units = 0
  · exact ⟨c, attach_eq_ok_iff.2 (.inl ⟨free, rfl⟩)⟩
  · exact ⟨_, attach_eq_ok_iff.2 (.inr ⟨Nat.pos_of_ne_zero free, _, if_pos enough, rfl⟩)⟩

/-- A refused method is not refused for want of native currency. -/
theorem Refusal.root_ne {cause : ChainError} (h : Refusal sender call cause) :
    cause.root ≠ .insufficientNative := by
  cases h <;> nofun

/-- **A call that its sender can pay for is not refused for want of currency.** -/
theorem errs_apply (enough : call.value.units ≤ (c.nativeBalance sender).units) :
    Errs (fun cause => cause.root ≠ .insufficientNative) (c.apply sender call) := by
  obtain ⟨c₁, attached⟩ := exists_attach_eq_ok enough
  rw [apply, attached, contract]
  split
  · exact fun cause h => (errs_perform c₁ sender call cause h).root_ne
  · exact .error (by simp [ChainError.root])

end Chain

/-! ## All calls -/

namespace Governance

variable {g : Governance} {a : Action} {c d : Chain} {timelock : Address} {calls : List Call}

/-- **At every call the timelock can pay for what is left.** If its balance covers all calls and the
first few of them are accepted, it covers the others. -/
theorem covered_applyAll {index i : Nat} {es : List Event}
    (enough : Call.attached calls ≤ (c.nativeBalance timelock).units)
    (h : applyAll timelock index c (calls.take i) = .ok (es, d)) :
    Call.attached (calls.drop i) ≤ (d.nativeBalance timelock).units := by
  induction calls generalizing c index i es with
  | nil =>
    rw [List.drop_nil]
    exact Nat.zero_le _
  | cons call calls ih =>
    cases i with
    | zero =>
      cases h
      exact enough
    | succ i =>
      rw [List.take_succ_cons, applyAll] at h
      cases applied : c.apply timelock call with
      | error cause =>
        rw [applied] at h
        cases h
      | ok x =>
        obtain ⟨e, c₁⟩ := x
        simp only [applied, bind_eq_ok_iff] at h
        obtain ⟨⟨es', c₂⟩, rest, ⟨⟩⟩ := h
        have cost := Chain.nativeBalance_le_of_apply applied
        rw [Call.attached] at enough
        exact ih (by omega) rest

/-- Calls that the timelock can pay for are not refused for want of currency. -/
theorem errs_applyAll {index : Nat}
    (enough : Call.attached calls ≤ (c.nativeBalance timelock).units) :
    Errs (fun cause => cause.root ≠ .insufficientNative) (applyAll timelock index c calls) := by
  induction calls generalizing c index with
  | nil => exact .ok _
  | cons call calls ih =>
    rw [Call.attached] at enough
    rw [applyAll]
    cases applied : c.apply timelock call with
    | error cause => exact .error (Chain.errs_apply (by omega) cause applied)
    | ok x =>
      obtain ⟨e, c₁⟩ := x
      have cost := Chain.nativeBalance_le_of_apply applied
      exact (ih (by omega)).bind fun _ => .ok _

/-- The timelock of an action can pay for all its calls. -/
structure Afforded (g : Governance) (a : Action) (c : Chain) : Prop where
  /-- Whenever some calls were accepted, the timelock has what all the others are to be given. -/
  covered : ∀ timelock i es d, g.timelock? a.category = some timelock →
    applyAll timelock 0 (c.fund timelock a.totalValue) (a.calls.take i) = .ok (es, d) →
      Call.attached (a.calls.drop i) ≤ (d.nativeBalance timelock).units
  /-- If the action is refused, then not for want of native currency. -/
  refused : ∀ cause, g.execute a c = .error cause → cause.root ≠ .insufficientNative

/-- **A declared value is enough.** If the values attached to the calls of an action add up to no more
than its total value, then on every chain, whatever the timelock had before and wherever the calls
go, the timelock can pay for all of them. -/
theorem afforded_execute (g : Governance) (a : Action) (c : Chain)
    (declared : Call.attached a.calls ≤ a.totalValue.units) : Afforded g a c := by
  have funded (timelock : Address) : Call.attached a.calls
      ≤ ((c.fund timelock a.totalValue).nativeBalance timelock).units :=
    Nat.le_trans declared (Chain.le_nativeBalance_fund ..)
  refine ⟨fun timelock i es d _ h => covered_applyAll (funded timelock) h, ?_⟩
  rw [execute]
  split
  · exact Errs.error (by simp [ChainError.root])
  · next timelock _ => exact (errs_applyAll (funded timelock)).bind fun _ => .ok _

/-- The governor has the greatest amount already, so what it is given is lost, and one of its calls
goes to itself; and all of them are paid for. -/
theorem afforded_execute_spree :
    Call.attached Drill.spree.calls = 21 ∧
    (Drill.hoard.fund (.ofNat 7) Drill.spree.totalValue).nativeBalance (.ofNat 7) = .greatest ∧
    (Drill.council.execute Drill.spree Drill.hoard).isOk = true ∧
    Afforded Drill.council Drill.spree Drill.hoard :=
  ⟨rfl, by decide +kernel, by decide +kernel, afforded_execute _ _ _ (by decide)⟩

end Governance
end Rollout
