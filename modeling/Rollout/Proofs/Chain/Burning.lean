/-
# What is burned

A holder burns tokens by moving them to the zero address, whose balance is then dropped. So more
may go than what was moved: what the zero address held before is dropped with it. After an accepted
call the balances in the token are

| holder | balance |
| --- | --- |
| the zero address | nothing |
| the sender, if that is another | less by the amount |
| anybody else | as before |

and balances in other tokens are as before (`Chain.tokenBalance_of_burn`). Hence exactly the amount
is burned exactly if the zero address held nothing, or burned all it held itself
(`Chain.burned_iff`). Tokens are sent to it by a `transfer` like to any other
(`Chain.burned_beyond_amount`).
-/

import Rollout.Proofs.Chain.Access

namespace Rollout

/-! ## A small chain -/

namespace Drill

/-- The token holder of the bank sends four to the zero address. -/
def offering : Call :=
  { target := coin, method := "transfer", arguments := [Address.zero.toValue, .text "4"] }

/-- The call to burn two. -/
def burning : Call := { target := coin, method := "burn", arguments := [.text "2"] }

/-- The bank after four were sent to the zero address. -/
def shrine : Chain := (bank.submit (.ofNat 3) offering).2

end Drill

namespace Chain

variable {c c' : Chain} {sender : Address} {call : Call} {e : Event} {amount : Amount}

/-! ## Sums after a write -/

/-- Dropping a balance takes it out of the sum. -/
theorem supply_eraseToken (c : Chain) (token holder : Address) :
    (c.eraseToken token holder).supply token + (c.tokenBalance token holder).units
      = c.supply token := by
  rw [supply, holdings_eraseToken, if_pos rfl, units_tokenBalance, supply]
  exact Table.total_erase ..

/-- A balance that is set and then dropped might as well have been dropped. -/
theorem supply_eraseToken_setToken (c : Chain) (token holder : Address) (amount : Amount) :
    ((c.setToken token holder amount).eraseToken token holder).supply token
      + (c.tokenBalance token holder).units = c.supply token := by
  have changed := supply_setToken c token holder amount
  have dropped := supply_eraseToken (c.setToken token holder amount) token holder
  rw [tokenBalance_setToken, if_pos ⟨rfl, rfl⟩] at dropped
  omega

/-! ## One call -/

/-- An accepted call to burn moves the amount from the sender to the zero address and drops what
that holds then. -/
theorem exists_of_burn (h : c.apply sender call = .ok (e, c')) (method : call.method = "burn")
    (quantity : call.amountArgument 0 = .ok amount) :
    ∃ c₁ c₂ : Chain, (∀ token, c₁.holdings token = c.holdings token) ∧
      c₁.moveTokens call.target sender .zero amount = .ok c₂ ∧
      c' = c₂.eraseToken call.target .zero := by
  obtain ⟨-, c₁, attached, performed⟩ := exists_performed h
  have named : Method.ofName call.method = .burn := by rw [method]; decide
  cases performed with
  | burn method' quantity' unpaused moved =>
    rw [quantity] at quantity'
    cases quantity'
    exact ⟨c₁, _, holdings_of_attach attached, moved, rfl⟩
  | _ => simp_all

/-- **The balances after an accepted call to burn.** -/
theorem tokenBalance_of_burn (h : c.apply sender call = .ok (e, c')) (method : call.method = "burn")
    (quantity : call.amountArgument 0 = .ok amount) :
    ∃ rest, (c.tokenBalance call.target sender).sub? amount = some rest ∧
      ∀ token holder, c'.tokenBalance token holder =
        if token = call.target ∧ holder = .zero then .zero
        else if token = call.target ∧ holder = sender then rest
        else c.tokenBalance token holder := by
  obtain ⟨c₁, c₂, same, moved, rfl⟩ := exists_of_burn h method quantity
  have before : ∀ token holder, c₁.tokenBalance token holder = c.tokenBalance token holder := by
    intro token holder
    rw [tokenBalance_eq, same, tokenBalance_eq]
  obtain ⟨rest, hrest, rfl⟩ := moveTokens_eq_ok_iff.1 moved
  rw [before] at hrest
  refine ⟨rest, hrest, fun token holder => ?_⟩
  rw [tokenBalance_eraseToken]
  by_cases zero : token = call.target ∧ holder = .zero
  · rw [if_pos zero, if_pos zero]
  · rw [if_neg zero, if_neg zero, tokenBalance_setToken, if_neg zero, tokenBalance_setToken,
      before]

/-- Beside the amount, the token loses what the zero address holds, of which the amount is a part
where it is the sender. -/
theorem supply_of_burn (h : c.apply sender call = .ok (e, c')) (method : call.method = "burn")
    (quantity : call.amountArgument 0 = .ok amount) :
    c'.supply call.target + amount.units + (c.tokenBalance call.target .zero).units
      = c.supply call.target + if sender = .zero then amount.units else 0 := by
  obtain ⟨c₁, c₂, same, moved, rfl⟩ := exists_of_burn h method quantity
  obtain ⟨rest, hrest, rfl⟩ := moveTokens_eq_ok_iff.1 moved
  obtain ⟨enough, left⟩ := Amount.sub?_eq_some_iff.1 hrest
  have taken := supply_setToken c₁ call.target sender rest
  have dropped := supply_eraseToken_setToken (c₁.setToken call.target sender rest) call.target
    .zero (((c₁.setToken call.target sender rest).tokenBalance call.target .zero).add amount)
  have before (holder : Address) :
      c₁.tokenBalance call.target holder = c.tokenBalance call.target holder := by
    rw [tokenBalance_eq, same, tokenBalance_eq]
  have total : c₁.supply call.target = c.supply call.target := supply_congr (same call.target)
  -- What the zero address holds once the amount is taken from the sender, who may be the same.
  have held : (c₁.setToken call.target sender rest).tokenBalance call.target .zero
      = if sender = .zero then rest else c.tokenBalance call.target .zero := by
    rw [tokenBalance_setToken, before]
    by_cases zero : sender = .zero
    · simp [zero]
    · simp [zero, Ne.symm zero]
  have left' := congrArg Amount.units held
  rw [before] at enough left taken
  by_cases zero : sender = .zero
  · subst zero
    rw [if_pos rfl] at left' ⊢
    omega
  · rw [if_neg zero] at left' ⊢
    omega

/-! ## Exactly the amount -/

/-- From one chain to another exactly an amount of a token is burned that a sender holds. -/
structure Burned (c c' : Chain) (token sender : Address) (amount : Amount) : Prop where
  /-- The sender has that much less. -/
  taken : (c'.tokenBalance token sender).units + amount.units = (c.tokenBalance token sender).units
  /-- All other balances, of this token and of others, are as before. -/
  others : ∀ token' holder, ¬ (token' = token ∧ holder = sender) →
    c'.tokenBalance token' holder = c.tokenBalance token' holder
  /-- There is that much less of the token. -/
  supply : c'.supply token + amount.units = c.supply token

/-- **Exactly the amount is burned exactly if the zero address held nothing**, or, where it is the
sender, nothing but the amount. -/
theorem burned_iff {receipt : Receipt} (h : c.call sender call = .ok (receipt, c'))
    (method : call.method = "burn") (quantity : call.amountArgument 0 = .ok amount) :
    Burned c c' call.target sender amount ↔
      c.tokenBalance call.target .zero = if sender = .zero then amount else .zero := by
  rw [Chain.call, bind_eq_ok_iff] at h
  obtain ⟨⟨e, c₁⟩, applied, ⟨⟩⟩ := h
  obtain ⟨rest, hrest, balances⟩ := tokenBalance_of_burn applied method quantity
  obtain ⟨enough, left⟩ := Amount.sub?_eq_some_iff.1 hrest
  have total := supply_of_burn applied method quantity
  constructor
  · rintro ⟨-, -, supply⟩
    apply Amount.ext_units
    by_cases zero : sender = .zero
    · simp only [zero, if_true] at total ⊢
      omega
    · simp only [zero, if_false] at total ⊢
      show _ = 0
      omega
  · intro held
    by_cases zero : sender = .zero
    · subst zero
      rw [if_pos rfl] at held
      rw [held] at total left
      refine ⟨?_, fun token' holder other => ?_, ?_⟩
      · rw [balances, if_pos ⟨rfl, rfl⟩, held]
        exact Nat.zero_add _
      · rw [balances, if_neg other, if_neg other]
      · simp only [if_true] at total
        omega
    · rw [if_neg zero] at held
      refine ⟨?_, fun token' holder other => ?_, ?_⟩
      · rw [balances, if_neg (fun both => zero both.2), if_pos ⟨rfl, rfl⟩]
        omega
      · rw [balances]
        by_cases atZero : token' = call.target ∧ holder = .zero
        · rw [if_pos atZero, atZero.1, atZero.2, held]
        · rw [if_neg atZero, if_neg other]
      · rw [if_neg zero, held] at total
        exact total

/-- Where nobody has sent anything to the zero address, two are burned of ten. -/
theorem burned_iff_drill : ∃ receipt c',
    Drill.bank.call (.ofNat 3) Drill.burning = .ok (receipt, c') ∧
      Burned Drill.bank c' Drill.coin (.ofNat 3) ⟨2, by decide⟩ := by
  have accepted : (Drill.bank.call (.ofNat 3) Drill.burning).isOk = true := by decide +kernel
  cases called : Drill.bank.call (.ofNat 3) Drill.burning with
  | error e =>
    rw [called] at accepted
    cases accepted
  | ok x =>
    obtain ⟨receipt, c'⟩ := x
    have quantity : Drill.burning.amountArgument 0 = .ok ⟨2, by decide⟩ := rfl
    exact ⟨receipt, c', rfl, (burned_iff called rfl quantity).2 (by decide)⟩

/-- **More than the amount may be burned.** Once four were sent to the zero address, a call to burn
two takes six from the token: the four that another address holds go with the two. -/
theorem burned_beyond_amount :
    (Drill.bank.submit (.ofNat 3) Drill.offering).1.isOk = true ∧
      (Drill.shrine.submit (.ofNat 3) Drill.burning).1.isOk = true ∧
      Drill.burning.method = "burn" ∧ Drill.burning.value = .zero ∧
      Drill.burning.amountArgument 0 = .ok ⟨2, by decide⟩ ∧
      Drill.shrine.supply Drill.coin = 10 ∧
      (Drill.shrine.submit (.ofNat 3) Drill.burning).2.supply Drill.coin = 4 ∧
      ¬ Burned Drill.shrine (Drill.shrine.submit (.ofNat 3) Drill.burning).2 Drill.coin (.ofNat 3)
        ⟨2, by decide⟩ := by
  have before : Drill.shrine.supply Drill.coin = 10 := by decide +kernel
  have after : (Drill.shrine.submit (.ofNat 3) Drill.burning).2.supply Drill.coin = 4 := by
    decide +kernel
  refine ⟨by decide +kernel, by decide +kernel, rfl, rfl, rfl, before, after, ?_⟩
  intro burned
  have supply := burned.supply
  rw [before, after] at supply
  cases supply

end Chain
end Rollout
