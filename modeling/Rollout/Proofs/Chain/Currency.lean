/-
# How much native currency there is

The currency of a chain is the sum of the native balances. What is attached to a call is taken from
one balance, which is refused if there is too little, and added to another, where it would be lost
beyond the greatest amount. No balance is greater than the sum (`Chain.units_native_le`), so while
the sum is at most the greatest amount nothing is lost:

| step | currency |
| --- | --- |
| a call, accepted or refused | as before |
| `fund a n` | more by `n` |
| an executed action | more by its total value |

The second and the third need that the new sum is still an amount.
-/

import Rollout.Proofs.Chain.Access

namespace Rollout

/-! ## A small chain -/

namespace Drill

/-- The bank, on which a token holder and the token itself have currency. -/
def till : Chain :=
  (bank.setNative (.ofNat 3) ⟨9, by decide⟩).setNative coin ⟨8, by decide⟩

/-- Calls with currency attached: one that is accepted, one that is refused after the currency was
moved, and one that the token makes to itself. -/
def payments : List (Address × Call) :=
  let me := (Address.ofNat 4).toValue
  let pay : Call := { target := coin, method := "transfer", arguments := [me, .text "2"] }
  [ (.ofNat 3, { pay with value := ⟨4, by decide⟩ }),
    (.ofNat 3, { pay with method := "mint", value := ⟨5, by decide⟩ }),
    (coin, { pay with method := "burn", arguments := [.text "0"], value := ⟨5, by decide⟩ })]

/-- An action that gives the governor six and sends five of it to the token. -/
def levy : Action where
  proposalId := "levy"
  category := .dao
  totalValue := ⟨6, by decide⟩
  calls := [{ target := coin, method := "pause", value := ⟨5, by decide⟩ }]

/-- The governance whose timelock is the governor of the bank. -/
def council : Governance := Governance.empty.withTimelock .dao (.ofNat 7)

end Drill

namespace Chain

variable {c c' : Chain} {sender : Address} {call : Call} {e : Event}

/-- The sum of the native balances. -/
def currency (c : Chain) : Nat := c.accounts.total (·.native.units)

/-! ## One balance -/

/-- The native units of an account are those of its entry, or none. -/
theorem units_native (c : Chain) (a : Address) :
    (c.account a).native.units = (c.accounts.find? a).elim 0 (·.native.units) := by
  rw [account]
  cases c.accounts.find? a <;> rfl

/-- No balance is greater than the sum. -/
theorem units_native_le (c : Chain) (a : Address) : (c.account a).native.units ≤ c.currency := by
  have := Table.total_erase (·.native.units) c.accounts a
  rw [units_native, currency]
  omega

/-- A change to an account changes the sum by what its balance is more or less than before. -/
theorem currency_updateAccount (c : Chain) (a : Address) (f : Account → Account) :
    (c.updateAccount a f).currency + (c.account a).native.units
      = c.currency + (f (c.account a)).native.units := by
  rw [units_native]
  exact Table.total_insert ..

/-- A change that leaves the balance alone leaves the sum alone. -/
theorem currency_updateAccount_of_native (c : Chain) (a : Address) {f : Account → Account}
    (hf : ∀ x, (f x).native = x.native) : (c.updateAccount a f).currency = c.currency := by
  have := currency_updateAccount c a f
  rw [hf] at this
  omega

/-- **Funding adds what it gives**, as long as the sum stays an amount. -/
theorem currency_fund {a : Address} {amount : Amount}
    (bounded : c.currency + amount.units ≤ Amount.greatest.units) :
    (c.fund a amount).currency = c.currency + amount.units := by
  have changed := currency_updateAccount c a fun x => { x with native := x.native.add amount }
  have balance := units_native_le c a
  have bounded : c.currency + amount.units ≤ 2 ^ (128 : Nat) - 1 := bounded
  rw [Amount.units_add, Nat.min_eq_left (by omega)] at changed
  rw [fund]
  omega

/-! ## One call -/

/-- What is attached to a call only changes hands. -/
theorem currency_of_attach (bounded : c.currency ≤ Amount.greatest.units)
    (h : c.attach sender call = .ok c') : c'.currency = c.currency := by
  rcases attach_eq_ok_iff.1 h with ⟨-, rfl⟩ | ⟨-, rest, hrest, rfl⟩
  · rfl
  · obtain ⟨enough, left⟩ := Amount.sub?_eq_some_iff.1 hrest
    have taken : (c.setNative sender rest).currency + (c.account sender).native.units
        = c.currency + rest.units := currency_updateAccount ..
    rw [currency_fund (by omega)]
    omega

/-- No method touches a native balance. -/
theorem currency_of_performed (h : Performed c sender call e c') : c'.currency = c.currency := by
  cases h with
  | @changeFixedRole role grant a method account asked => cases grant <;> rfl
  | @changeRole role grant a method named account asked => cases grant <;> rfl
  | setPaused method asked => exact currency_updateAccount_of_native _ _ fun _ => rfl
  | mint method account quantity asked unpaused => rfl
  | transfer method account quantity unpaused moved =>
    obtain ⟨rest, -, rfl⟩ := moveTokens_eq_ok_iff.1 moved
    rfl
  | burn method quantity unpaused moved =>
    obtain ⟨rest, -, rfl⟩ := moveTokens_eq_ok_iff.1 moved
    rfl
  | setStorage method named given asked => exact currency_updateAccount_of_native _ _ fun _ => rfl
  | setOracle method quantity flag asked => exact currency_updateAccount_of_native _ _ fun _ => rfl

/-- **A call neither makes nor loses native currency.** -/
theorem currency_of_apply (bounded : c.currency ≤ Amount.greatest.units)
    (h : c.apply sender call = .ok (e, c')) : c'.currency = c.currency := by
  obtain ⟨-, c₁, attached, performed⟩ := exists_performed h
  rw [currency_of_performed performed, currency_of_attach bounded attached]

end Chain

/-! ## Actions -/

namespace Governance

variable {c c' : Chain}

/-- An executed action adds its total value and nothing else. -/
theorem currency_execute {g g' : Governance} {a : Action} {receipt : Receipt}
    (h : g.execute a c = .ok (receipt, c', g'))
    (bounded : c.currency + a.totalValue.units ≤ Amount.greatest.units) :
    c'.currency = c.currency + a.totalValue.units := by
  refine execute_induction (P := fun d => d.currency = c.currency + a.totalValue.units) h
    (fun _ => Chain.currency_fund bounded) ?_
  intro sender call d e d' same applied
  rw [Chain.currency_of_apply (by omega) applied, same]

end Governance

/-! ## All of them -/

namespace Chain

/-- **Native currency is conserved.** On a chain whose balances together are an amount, calls of any
kind, accepted or refused, leave their sum as it is; and funding an account and executing an action
add what is given and the total value, as long as the sum is an amount afterwards. -/
theorem conserved_submitAll (c : Chain) (bounded : c.currency ≤ Amount.greatest.units) :
    (∀ calls, (c.submitAll calls).2.currency = c.currency) ∧
      (∀ a amount, c.currency + amount.units ≤ Amount.greatest.units →
        (c.fund a amount).currency = c.currency + amount.units) ∧
      ∀ (g g' : Governance) (action : Action) receipt c',
        g.execute action c = .ok (receipt, c', g') →
        c.currency + action.totalValue.units ≤ Amount.greatest.units →
          c'.currency = c.currency + action.totalValue.units := by
  refine ⟨fun calls => ?_, fun a amount => currency_fund, fun g g' action receipt c' executed =>
    Governance.currency_execute executed⟩
  refine submitAll_induction (P := fun d => d.currency = c.currency) rfl ?_
  intro sender call _ d e d' same h
  rw [currency_of_apply (by omega) h, same]

/-- Seventeen of the currency stay seventeen, whether calls are accepted or refused, and the action
adds the six it comes with. -/
theorem conserved_submitAll_drill :
    (Drill.till.submitAll Drill.payments).1.map (·.isOk) = [true, false, true] ∧
      Drill.till.currency = 17 ∧ (Drill.till.submitAll Drill.payments).2.currency = 17 ∧
      (Drill.till.fund (.ofNat 3) ⟨4, by decide⟩).currency = 21 ∧
      (Drill.council.execute Drill.levy Drill.till).isOk = true ∧
      ∀ receipt c' g', Drill.council.execute Drill.levy Drill.till = .ok (receipt, c', g') →
        c'.currency = 23 := by
  obtain ⟨calls, funds, actions⟩ := conserved_submitAll Drill.till (by decide +kernel)
  have start : Drill.till.currency = 17 := by decide +kernel
  refine ⟨by decide +kernel, start, (calls _).trans start, ?_, by decide +kernel, ?_⟩
  · rw [funds _ _ (by decide +kernel), start]
    rfl
  · intro receipt c' g' executed
    rw [actions _ g' _ receipt c' executed (by decide +kernel), start]
    rfl

end Chain
end Rollout
