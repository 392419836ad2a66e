/-
# How much there is of a token

The supply of a token is the sum of the balances in it. A balance that is set changes it by the
difference to the old one, and moving tokens or dropping a balance never makes it greater
(`Chain.supply_moveTokens_le`, `Chain.supply_eraseToken_le`).
-/

import Rollout.Proofs.Chain.Performed
import Rollout.Proofs.Chain.Reads
import Rollout.Proofs.Table.Total

namespace Rollout
namespace Chain

variable {c c' : Chain}

/-- The sum of the balances in a token. -/
def supply (c : Chain) (token : Address) : Nat := (c.holdings token).total Amount.units

/-- Tokens with the same holdings have the same supply. -/
theorem supply_congr {token : Address} (h : c'.holdings token = c.holdings token) :
    c'.supply token = c.supply token := by
  rw [supply, h, supply]

/-- The units of a balance are those of its entry, or none. -/
theorem units_tokenBalance (c : Chain) (token holder : Address) :
    (c.tokenBalance token holder).units
      = ((c.holdings token).find? holder).elim 0 Amount.units := by
  rw [tokenBalance_eq]
  cases (c.holdings token).find? holder <;> rfl

/-- No balance is greater than the sum. -/
theorem units_tokenBalance_le (c : Chain) (token holder : Address) :
    (c.tokenBalance token holder).units ≤ c.supply token := by
  have := Table.total_erase Amount.units (c.holdings token) holder
  rw [units_tokenBalance, supply]
  omega

/-- A new balance changes the sum by what it is more or less than the old one. -/
theorem supply_setToken (c : Chain) (token holder : Address) (amount : Amount) :
    (c.setToken token holder amount).supply token + (c.tokenBalance token holder).units
      = c.supply token + amount.units := by
  rw [supply, holdings_setToken, if_pos rfl, units_tokenBalance, supply]
  exact Table.total_insert ..

/-- Setting a balance leaves the supply of other tokens. -/
theorem supply_setToken_of_ne {token token' : Address} (h : token' ≠ token) (holder : Address)
    (amount : Amount) : (c.setToken token holder amount).supply token' = c.supply token' :=
  supply_congr (by rw [holdings_setToken, if_neg h])

/-- Where a balance is dropped, the sum gets no greater. -/
theorem supply_eraseToken_le (c : Chain) (token token' holder : Address) :
    (c.eraseToken token holder).supply token' ≤ c.supply token' := by
  rw [supply, holdings_eraseToken, supply]
  split
  · next h =>
    subst h
    have := Table.total_erase Amount.units (c.holdings token') holder
    omega
  · exact Nat.le_refl _

/-- Where tokens are moved, the sum gets no greater: what the source loses is at least what the
target gets. -/
theorem supply_moveTokens_le {token source target : Address} {amount : Amount}
    (h : c.moveTokens token source target amount = .ok c') (token' : Address) :
    c'.supply token' ≤ c.supply token' := by
  obtain ⟨rest, hrest, rfl⟩ := moveTokens_eq_ok_iff.1 h
  by_cases ht : token' = token
  · subst ht
    obtain ⟨enough, left⟩ := Amount.sub?_eq_some_iff.1 hrest
    have taken := supply_setToken c token' source rest
    have given := supply_setToken (c.setToken token' source rest) token' target
      (((c.setToken token' source rest).tokenBalance token' target).add amount)
    rw [Amount.units_add] at given
    omega
  · exact Nat.le_of_eq (by rw [supply_setToken_of_ne ht, supply_setToken_of_ne ht])

end Chain
end Rollout
