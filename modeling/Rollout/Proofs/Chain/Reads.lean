/-
# What is read off a chain

A read that is about a contract is accepted where there is code (`Chain.read_eq_ok_iff`). A write
changes one account, one balance in a token or the holders of one role. For each there is an
equation that says what is read afterwards:

| write | read | is |
| --- | --- | --- |
| `updateAccount a f` | `account b` | the changed account for `a`, else as before |
| `updateAccount a f` | `accounts.find? b` | as before, unless `b` is `a` |
| `setToken t h n`, `eraseToken t h` | `holdings u` | the changed table for `t`, else as before |
| `setToken t h n` | `tokenBalance u k` | `n` for `t` and `h`, else as before |
| `eraseToken t h` | `tokenBalance u k` | nothing for `t` and `h`, else as before |
| `changeRole r a g` | `account b`, `holdings u` | as before |
| `changeRole r a g` | `hasRole s b` | `g` for `r` and `a`, else as before |
-/

import Rollout.Proofs.Chain.Performed
import Rollout.Proofs.Table.Members

namespace Rollout
namespace Chain

variable {c : Chain}

/-! ## Contracts -/

section Contracts

variable {a : Address}

/-- A read that is about a contract is accepted where there is code. -/
theorem read_eq_ok_iff {α : Type} {f : Account → α} {b : α} :
    (c.contract a >>= fun x => pure (f x)) = .ok b ↔ c.hasCode a = true ∧ b = f (c.account a) := by
  simp only [bind_eq_ok_iff, contract_eq_ok_iff]
  constructor
  · rintro ⟨x, ⟨code, rfl⟩, ⟨⟩⟩
    exact ⟨code, rfl⟩
  · rintro ⟨code, rfl⟩
    exact ⟨_, ⟨code, rfl⟩, rfl⟩

/-- A balance is read of contracts alone. -/
theorem balanceOf_eq_ok_iff {holder : Address} {balance : Amount} :
    c.balanceOf a holder = .ok balance ↔ c.hasCode a = true ∧ balance = c.tokenBalance a holder :=
  read_eq_ok_iff

/-- A pause is read of contracts alone. -/
theorem isPaused_eq_ok_iff {flag : Bool} :
    c.isPaused a = .ok flag ↔ c.hasCode a = true ∧ flag = (c.account a).paused :=
  read_eq_ok_iff

/-- A slot is read of contracts alone. -/
theorem storage_eq_ok_iff {key : String} {slot : Option Value} :
    c.storage a key = .ok slot ↔ c.hasCode a = true ∧ slot = (c.account a).storage.find? key :=
  read_eq_ok_iff

/-- A reading is read of contracts that have one. -/
theorem readOracle_eq_ok_iff {reading : Reading} :
    c.readOracle a = .ok reading ↔
      c.hasCode a = true ∧ (c.account a).oracle = some reading := by
  simp only [readOracle, bind_eq_ok_iff, contract_eq_ok_iff]
  constructor
  · rintro ⟨x, ⟨code, rfl⟩, read⟩
    cases found : (c.account a).oracle with
    | none => simp [found, throw, throwThe, MonadExceptOf.throw] at read
    | some r =>
      rw [found] at read
      cases read
      exact ⟨code, rfl⟩
  · rintro ⟨code, found⟩
    refine ⟨_, ⟨code, rfl⟩, ?_⟩
    rw [found]
    rfl

/-- What is told of the reading of a contract, if it has one or not. -/
theorem readOracle_of_hasCode (code : c.hasCode a = true) :
    c.readOracle a = (c.account a).oracle.elim (.error (.notAnOracle a)) .ok := by
  rw [readOracle, contract_eq_ok_iff.2 ⟨code, rfl⟩]
  cases found : (c.account a).oracle with
  | none => simp [bind, Except.bind, found, throw, throwThe, MonadExceptOf.throw]
  | some r => simp [bind, Except.bind, found, pure, Except.pure]

end Contracts

/-! ## Accounts -/

/-- Updating an account leaves all others. -/
theorem account_updateAccount (c : Chain) (a b : Address) (f : Account → Account) :
    (c.updateAccount a f).account b = if b = a then f (c.account a) else c.account b :=
  Table.getD_find?_alter ..

/-- Updating an account twice is updating it by both. -/
theorem updateAccount_updateAccount (c : Chain) (a : Address) (f g : Account → Account) :
    (c.updateAccount a f).updateAccount a g = c.updateAccount a fun x => g (f x) :=
  congrArg (fun accounts => { c with accounts }) (Table.alter_alter ..)

/-- No other account is touched, nor any made. -/
theorem find?_updateAccount_of_ne (c : Chain) {a b : Address} (f : Account → Account) (h : b ≠ a) :
    (c.updateAccount a f).accounts.find? b = c.accounts.find? b :=
  Table.find?_insert_of_ne _ _ h

/-- A change that leaves the pause flag alone leaves all pause flags alone. -/
theorem paused_updateAccount (c : Chain) (a b : Address) {f : Account → Account}
    (hf : ∀ x, (f x).paused = x.paused) :
    ((c.updateAccount a f).account b).paused = (c.account b).paused := by
  rw [account_updateAccount]
  by_cases h : b = a
  · rw [if_pos h, hf, h]
  · rw [if_neg h]

/-! ## Roles -/

/-- The holders that are listed are those that have the role. -/
theorem mem_roleHolders_iff {role : String} {a : Address} :
    a ∈ c.roleHolders role ↔ c.hasRole role a = true :=
  KeySet.contains_iff_mem.symm

/-- The holders of a role are listed in ascending order, each once. -/
theorem pairwise_roleHolders (c : Chain) (role : String) :
    (c.roleHolders role).Pairwise fun a b => a.val < b.val := by
  rw [roleHolders, Table.keys, List.pairwise_map]
  exact ((c.roles.find? role).getD .empty).ascending.imp Nat.compare_eq_lt.1

/-- Changing a role leaves all accounts. -/
@[simp] theorem account_changeRole (role : String) (a b : Address) (grant : Bool) :
    (c.changeRole role a grant).2.account b = c.account b := by
  cases grant <;> rfl

/-- A role that is given or taken is had, or not, by that account alone. -/
theorem hasRole_changeRole (c : Chain) (role : String) (a : Address) (grant : Bool)
    (role' : String) (b : Address) : (c.changeRole role a grant).2.hasRole role' b
      = if role' = role ∧ b = a then grant else c.hasRole role' b := by
  cases grant with
  | true =>
    show (((c.roles.alter role .empty (KeySet.add · a)).find? role').getD .empty).contains b = _
    rw [Table.getD_find?_alter, hasRole]
    by_cases hr : role' = role
    · subst hr
      rw [if_pos rfl, Table.contains, KeySet.add, Table.find?_insert]
      by_cases ha : b = a <;> simp [ha, Table.contains]
    · simp [hr]
  | false =>
    show (((c.roles.alter role .empty (Table.erase · a)).find? role').getD .empty).contains b = _
    rw [Table.getD_find?_alter, hasRole]
    by_cases hr : role' = role
    · subst hr
      rw [if_pos rfl, Table.contains, Table.find?_erase]
      by_cases ha : b = a <;> simp [ha, Table.contains]
    · simp [hr]

/-! ## Tokens -/

/-- The balances in a token. -/
def holdings (c : Chain) (token : Address) : Table Address Amount :=
  (c.tokens.find? token).getD .empty

/-- A balance is that of the holdings, or nothing. -/
theorem tokenBalance_eq (c : Chain) (token holder : Address) :
    c.tokenBalance token holder = ((c.holdings token).find? holder).getD .zero := rfl

/-- Changing a role leaves all holdings of tokens. -/
@[simp] theorem holdings_changeRole (role : String) (a token : Address) (grant : Bool) :
    (c.changeRole role a grant).2.holdings token = c.holdings token := by
  cases grant <;> rfl

/-- Setting a balance leaves the holdings of other tokens. -/
theorem holdings_setToken (c : Chain) (token token' holder : Address) (amount : Amount) :
    (c.setToken token holder amount).holdings token'
      = if token' = token then (c.holdings token).insert holder amount
        else c.holdings token' :=
  Table.getD_find?_alter ..

/-- Erasing a balance leaves the holdings of other tokens. -/
theorem holdings_eraseToken (c : Chain) (token token' holder : Address) :
    (c.eraseToken token holder).holdings token'
      = if token' = token then (c.holdings token).erase holder else c.holdings token' :=
  Table.getD_find?_alter ..

/-- Setting a balance leaves all others. -/
theorem tokenBalance_setToken (c : Chain) (token holder : Address) (amount : Amount)
    (token' holder' : Address) :
    (c.setToken token holder amount).tokenBalance token' holder'
      = if token' = token ∧ holder' = holder then amount else c.tokenBalance token' holder' := by
  rw [tokenBalance_eq, holdings_setToken, tokenBalance_eq]
  by_cases ht : token' = token
  · subst ht
    rw [if_pos rfl, Table.find?_insert]
    by_cases hh : holder' = holder
    · simp [hh]
    · simp [hh]
  · simp [ht]

/-- Erasing a balance leaves all others. -/
theorem tokenBalance_eraseToken (c : Chain) (token holder token' holder' : Address) :
    (c.eraseToken token holder).tokenBalance token' holder'
      = if token' = token ∧ holder' = holder then .zero else c.tokenBalance token' holder' := by
  rw [tokenBalance_eq, holdings_eraseToken, tokenBalance_eq]
  by_cases ht : token' = token
  · subst ht
    rw [if_pos rfl, Table.find?_erase]
    by_cases hh : holder' = holder
    · simp [hh]
    · simp [hh]
  · simp [ht]

end Chain
end Rollout
