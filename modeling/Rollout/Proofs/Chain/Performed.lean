/-
# What an accepted call does

A call that is accepted finds code at its target, moves the currency attached to it, and then does
what its method says. `Performed` has one case for each kind of method: what it reads off the
arguments, which role it asks the sender for, and the chain it leads to. What is true of all calls
is shown from these cases.
-/

import Rollout.Chain.Method
import Rollout.Proofs.Errors

namespace Rollout

namespace Chain

variable {c c' : Chain} {sender : Address} {call : Call} {e : Event}

/-! ## Conditions -/

/-- A sender meets the roles that are required exactly if it has one of them. -/
theorem requireRole_eq_ok_iff {roles : List String} {u : Unit} :
    c.requireRole roles sender = .ok u ↔ ∃ role ∈ roles, c.hasRole role sender = true := by
  rw [requireRole]
  cases h : roles.any fun r => c.hasRole r sender with
  | true => simpa using h
  | false => simpa using h

/-- A contract is had exactly if its address has code. -/
theorem contract_eq_ok_iff {a : Address} {x : Account} :
    c.contract a = .ok x ↔ c.hasCode a = true ∧ x = c.account a := by
  rw [contract]
  cases c.hasCode a <;> simp [eq_comm]

/-! ## Movements -/

/-- Tokens are moved exactly if the source has them, and then from its balance to that of the
target. -/
theorem moveTokens_eq_ok_iff {token source target : Address} {amount : Amount} :
    c.moveTokens token source target amount = .ok c' ↔
      ∃ rest, (c.tokenBalance token source).sub? amount = some rest ∧
        c' = (c.setToken token source rest).setToken token target
          (((c.setToken token source rest).tokenBalance token target).add amount) := by
  rw [moveTokens]
  cases (c.tokenBalance token source).sub? amount with
  | none => simp
  | some rest => simp [eq_comm]

/-- An account is debited exactly if it has the amount. -/
theorem debit_eq_ok_iff {a : Address} {amount : Amount} :
    c.debit a amount = .ok c' ↔
      ∃ rest, (c.account a).native.sub? amount = some rest ∧ c' = c.setNative a rest := by
  rw [debit]
  cases (c.account a).native.sub? amount with
  | none => simp
  | some rest => simp [eq_comm]

/-- The currency of a call is moved from its sender to its target, if there is any. -/
theorem attach_eq_ok_iff :
    c.attach sender call = .ok c' ↔ call.value.units = 0 ∧ c' = c ∨ 0 < call.value.units ∧
      ∃ rest, (c.account sender).native.sub? call.value = some rest ∧
        c' = (c.setNative sender rest).fund call.target call.value := by
  rw [attach]
  by_cases h : 0 < call.value.units
  · rw [if_pos h, bind_eq_ok_iff]
    constructor
    · rintro ⟨c₁, debited, funded⟩
      obtain ⟨rest, hrest, rfl⟩ := debit_eq_ok_iff.1 debited
      cases funded
      exact .inr ⟨h, rest, hrest, rfl⟩
    · rintro (⟨zero, -⟩ | ⟨-, rest, hrest, rfl⟩)
      · omega
      · exact ⟨_, debit_eq_ok_iff.2 ⟨rest, hrest, rfl⟩, rfl⟩
  · rw [if_neg h, Except.ok.injEq]
    constructor
    · exact fun e => .inl ⟨by omega, e.symm⟩
    · rintro (⟨-, e⟩ | ⟨pos, -⟩)
      · exact e.symm
      · exact absurd pos h

/-! ## Methods -/

/-- What methods do at the target of a call whose currency has been moved. -/
inductive Performed (c : Chain) (sender : Address) (call : Call) : Event → Chain → Prop
  | changeFixedRole {role : String} {grant : Bool} {a : Address}
      (method : Method.ofName call.method = .changeFixedRole role grant)
      (account : call.addressArgument 0 = .ok a)
      (asked : c.requireRole [Role.govern] sender = .ok ()) :
      Performed c sender call (c.changeRole role a grant).1 (c.changeRole role a grant).2
  | changeRole {role : String} {grant : Bool} {a : Address}
      (method : Method.ofName call.method = .changeRole grant)
      (named : call.textArgument 0 = .ok role)
      (account : call.addressArgument 1 = .ok a)
      (asked : c.requireRole [Role.govern] sender = .ok ()) :
      Performed c sender call (c.changeRole role a grant).1 (c.changeRole role a grant).2
  | setPaused {paused : Bool}
      (method : Method.ofName call.method = .setPaused paused)
      (asked : c.requireRole [Role.govern, Role.guardian] sender = .ok ()) :
      Performed c sender call
        { emitter := call.target
          name := if paused then "Paused" else "Unpaused"
          data := .ofFields [("account", sender.toValue)] }
        (c.setPaused call.target paused)
  | mint {a : Address} {amount : Amount}
      (method : Method.ofName call.method = .mint)
      (account : call.addressArgument 0 = .ok a)
      (quantity : call.amountArgument 1 = .ok amount)
      (asked : c.requireRole [Role.minter] sender = .ok ())
      (unpaused : c.requireUnpaused call.target = .ok ()) :
      Performed c sender call (transferEvent call.target .zero a amount)
        (c.setToken call.target a ((c.tokenBalance call.target a).add amount))
  | transfer {a : Address} {amount : Amount} {c' : Chain}
      (method : Method.ofName call.method = .transfer)
      (account : call.addressArgument 0 = .ok a)
      (quantity : call.amountArgument 1 = .ok amount)
      (unpaused : c.requireUnpaused call.target = .ok ())
      (moved : c.moveTokens call.target sender a amount = .ok c') :
      Performed c sender call (transferEvent call.target sender a amount) c'
  | burn {amount : Amount} {c' : Chain}
      (method : Method.ofName call.method = .burn)
      (quantity : call.amountArgument 0 = .ok amount)
      (unpaused : c.requireUnpaused call.target = .ok ())
      (moved : c.moveTokens call.target sender .zero amount = .ok c') :
      Performed c sender call (transferEvent call.target sender .zero amount)
        (c'.eraseToken call.target .zero)
  | setStorage {key : String} {v : Value}
      (method : Method.ofName call.method = .setStorage)
      (named : call.textArgument 0 = .ok key)
      (given : call.argument 1 = .ok v)
      (asked : c.requireRole [Role.govern] sender = .ok ()) :
      Performed c sender call
        { emitter := call.target
          name := "StorageSet"
          data := .ofFields [("key", .text key), ("value", v)] }
        (c.setStorage call.target key v)
  | setOracle {value : Amount} {valid : Bool}
      (method : Method.ofName call.method = .setOracle)
      (quantity : call.amountArgument 0 = .ok value)
      (flag : call.flagArgument 1 = .ok valid)
      (asked : c.requireRole [Role.govern] sender = .ok ()) :
      Performed c sender call
        { emitter := call.target
          name := "OracleUpdate"
          data := .ofFields [("value", value.toValue), ("valid", .bool valid)] }
        (c.setOracle call.target { value, valid })

/-- Every accepted method is one of these. -/
theorem performed_of_eq (h : c.perform sender call = .ok (e, c')) :
    Performed c sender call e c' := by
  unfold perform at h
  cases method : Method.ofName call.method with
  | changeFixedRole role grant =>
    simp only [method, bind_eq_ok_iff] at h
    obtain ⟨a, account, ⟨⟩, asked, ⟨⟩⟩ := h
    exact .changeFixedRole method account asked
  | changeRole grant =>
    simp only [method, bind_eq_ok_iff] at h
    obtain ⟨role, named, a, account, ⟨⟩, asked, ⟨⟩⟩ := h
    exact .changeRole method named account asked
  | setPaused paused =>
    simp only [method, bind_eq_ok_iff] at h
    obtain ⟨⟨⟩, asked, ⟨⟩⟩ := h
    exact .setPaused method asked
  | mint =>
    simp only [method, bind_eq_ok_iff] at h
    obtain ⟨a, account, amount, quantity, ⟨⟩, asked, ⟨⟩, unpaused, ⟨⟩⟩ := h
    exact .mint method account quantity asked unpaused
  | transfer =>
    simp only [method, bind_eq_ok_iff] at h
    obtain ⟨a, account, amount, quantity, ⟨⟩, unpaused, c₁, moved, ⟨⟩⟩ := h
    exact .transfer method account quantity unpaused moved
  | burn =>
    simp only [method, bind_eq_ok_iff] at h
    obtain ⟨amount, quantity, ⟨⟩, unpaused, c₁, moved, ⟨⟩⟩ := h
    exact .burn method quantity unpaused moved
  | setStorage =>
    simp only [method, bind_eq_ok_iff] at h
    obtain ⟨key, named, v, given, ⟨⟩, asked, ⟨⟩⟩ := h
    exact .setStorage method named given asked
  | setOracle =>
    simp only [method, bind_eq_ok_iff] at h
    obtain ⟨value, quantity, valid, flag, ⟨⟩, asked, ⟨⟩⟩ := h
    exact .setOracle method quantity flag asked
  | unknown =>
    simp only [method, reduceCtorEq] at h

/-- **What an accepted call does.** Its target has code, its currency is moved, and its method is
performed. -/
theorem exists_performed (h : c.apply sender call = .ok (e, c')) :
    c.hasCode call.target = true ∧ ∃ c₁, c.attach sender call = .ok c₁ ∧
      Performed c₁ sender call e c' := by
  rw [apply, bind_eq_ok_iff] at h
  obtain ⟨x, code, h⟩ := h
  rw [bind_eq_ok_iff] at h
  obtain ⟨c₁, attached, performed⟩ := h
  exact ⟨(contract_eq_ok_iff.1 code).1, c₁, attached, performed_of_eq performed⟩

end Chain
end Rollout
