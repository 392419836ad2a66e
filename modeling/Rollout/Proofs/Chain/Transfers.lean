/-
# What is transferred and minted

An accepted `transfer` takes an amount from one balance and adds it to another, an accepted `mint`
only adds it, and what is added to a balance beyond the greatest amount is lost. No balance is
greater than the sum of those in its token, so while that sum is an amount nothing is lost:

| call | balance | becomes | sum |
| --- | --- | --- | --- |
| `transfer r n` by `s` | that of `s` | less by `n` | as before |
| | that of `r` | more by `n` | |
| `transfer s n` by `s` | that of `s` | as before | as before |
| `mint r n` | that of `r` | more by `n` | more by `n` |

All other balances, in this token and in others, are as before, and whoever reads the event learns
the token, the parties and the amount (`Chain.exact_of_call`). To give to a holder what was taken
from another is to mint it, so the second half of a transfer is an instance of the first lemma
about minting (`Chain.minted_setToken`).
-/

import Rollout.Proofs.Address.Text
import Rollout.Proofs.Amount.Text
import Rollout.Proofs.Chain.Access
import Rollout.Proofs.Table.Overlay

namespace Rollout

/-! ## A small chain -/

namespace Drill

/-- The bank with a minter. -/
def press : Chain := bank.grantRole Role.minter (.ofNat 5)

/-- The call to pay four to another holder. -/
def payment : Call :=
  { target := coin, method := "transfer", arguments := [(Address.ofNat 4).toValue, .text "4"] }

/-- The call of a holder to pay all ten to itself. -/
def roundabout : Call :=
  { target := coin, method := "transfer", arguments := [(Address.ofNat 3).toValue, .text "10"] }

/-- All that can be minted beside ten. -/
def remainder : Amount := ⟨340282366920938463463374607431768211445, by decide⟩

/-- The call to mint it. -/
def coining : Call :=
  { target := coin, method := "mint", arguments := [(Address.ofNat 4).toValue, remainder.toValue] }

end Drill

/-! ## What an event tells -/

/-- Of several fields with one key the last is found. -/
theorem Value.field?_ofFields (fields : List (String × Value)) (key : String) :
    (ofFields fields).field? key = (fields.reverse.find? (·.1 = key)).map (·.2) :=
  Table.find?_ofList fields key

namespace Event

/-- The address in a field of the data. -/
def address? (e : Event) (key : String) : Option Address :=
  match e.data.field? key with
  | some (.text s) => (Address.ofText s).toOption
  | _ => none

/-- The amount in a field of the data. -/
def amount? (e : Event) (key : String) : Option Amount :=
  (e.data.field? key).bind Amount.ofValue?

/-- The event says that an amount of a token went from one party to another. -/
structure Reports (e : Event) (token source target : Address) (amount : Amount) : Prop where
  emitter : e.emitter = token
  name : e.name = "Transfer"
  source : e.address? "from" = some source
  target : e.address? "to" = some target
  amount : e.amount? "value" = some amount

end Event

/-! ## Arguments as they are written -/

namespace Call

variable {call : Call} {index : Nat}

/-- An address that is written as an argument is read back. -/
theorem addressArgument_of_toValue {a : Address} (h : call.arguments[index]? = some a.toValue) :
    call.addressArgument index = .ok a := by
  have text : call.textArgument index = .ok a.text := by
    rw [textArgument, argument, h]
    rfl
  refine bind_eq_ok_iff.2 ⟨a.text, text, ?_⟩
  simp only [Address.ofText_text]
  rfl

/-- An amount that is written as an argument is read back. -/
theorem amountArgument_of_toValue {a : Amount} (h : call.arguments[index]? = some a.toValue) :
    call.amountArgument index = .ok a := by
  have given : call.argument index = .ok a.toValue := by rw [argument, h]
  have read : Amount.ofValue? a.toValue = some a := Amount.ofText?_text a
  refine bind_eq_ok_iff.2 ⟨a.toValue, given, ?_⟩
  simp only [read]
  rfl

end Call

namespace Chain

variable {c c₁ c' : Chain} {sender token source target : Address} {call : Call} {e : Event}
  {amount rest : Amount}

/-- What is written into the event of a movement is read out of it. -/
theorem reports_transferEvent (token source target : Address) (amount : Amount) :
    (transferEvent token source target amount).Reports token source target amount where
  emitter := rfl
  name := rfl
  source := by
    simp [transferEvent, Event.address?, Value.field?_ofFields, Address.toValue,
      Address.ofText_text, Except.toOption]
  target := by
    simp [transferEvent, Event.address?, Value.field?_ofFields, Address.toValue,
      Address.ofText_text, Except.toOption]
  amount := by
    simp [transferEvent, Event.amount?, Value.field?_ofFields, Amount.toValue, Amount.ofValue?,
      Amount.ofText?_text]

/-! ## Giving -/

/-- From one chain to another exactly an amount of a token is given to a holder. -/
structure Minted (c c' : Chain) (token target : Address) (amount : Amount) : Prop where
  given : (c'.tokenBalance token target).units
    = (c.tokenBalance token target).units + amount.units
  /-- All other balances, of this token and of others, are as before. -/
  others : ∀ token' holder, ¬ (token' = token ∧ holder = target) →
    c'.tokenBalance token' holder = c.tokenBalance token' holder
  supply : c'.supply token = c.supply token + amount.units

/-- **What is added to a balance arrives in full**, as long as the sum stays an amount. -/
theorem minted_setToken (bounded : c.supply token + amount.units ≤ Amount.greatest.units) :
    Minted c (c.setToken token target ((c.tokenBalance token target).add amount)) token target
      amount := by
  have balance := units_tokenBalance_le c token target
  have bounded : c.supply token + amount.units ≤ 2 ^ (128 : Nat) - 1 := bounded
  have sum : ((c.tokenBalance token target).add amount).units
      = (c.tokenBalance token target).units + amount.units := by
    rw [Amount.units_add, Nat.min_eq_left (by omega)]
  refine ⟨?_, fun token' holder other => ?_, ?_⟩
  · rw [tokenBalance_setToken, if_pos ⟨rfl, rfl⟩, sum]
  · rw [tokenBalance_setToken, if_neg other]
  · have changed := supply_setToken c token target ((c.tokenBalance token target).add amount)
    omega

/-! ## Moving -/

/-- From one chain to another exactly an amount of a token is moved between two holders, who may be
the same. -/
structure Transferred (c c' : Chain) (token source target : Address) (amount : Amount) : Prop where
  supply : c'.supply token = c.supply token
  taken : source ≠ target → (c'.tokenBalance token source).units + amount.units
    = (c.tokenBalance token source).units
  given : source ≠ target → (c'.tokenBalance token target).units
    = (c.tokenBalance token target).units + amount.units
  /-- What a holder moves to itself changes nothing. -/
  toSelf : source = target → ∀ token' holder,
    c'.tokenBalance token' holder = c.tokenBalance token' holder
  /-- All other balances, of this token and of others, are as before. -/
  others : ∀ token' holder, ¬ (token' = token ∧ (holder = source ∨ holder = target)) →
    c'.tokenBalance token' holder = c.tokenBalance token' holder

/-- What is taken from a balance is taken from the sum. -/
theorem supply_setToken_of_sub? (h : (c.tokenBalance token source).sub? amount = some rest) :
    (c.setToken token source rest).supply token + amount.units = c.supply token := by
  obtain ⟨enough, left⟩ := Amount.sub?_eq_some_iff.1 h
  have changed := supply_setToken c token source rest
  omega

/-- **Moving is exact** where the sum is an amount. -/
theorem transferred_moveTokens (bounded : c.supply token ≤ Amount.greatest.units)
    (h : c.moveTokens token source target amount = .ok c') :
    Transferred c c' token source target amount := by
  obtain ⟨rest, hrest, hc'⟩ := moveTokens_eq_ok_iff.1 h
  obtain ⟨enough, left⟩ := Amount.sub?_eq_some_iff.1 hrest
  have taken := supply_setToken_of_sub? hrest
  have minted : Minted (c.setToken token source rest) c' token target amount := by
    rw [hc']
    exact minted_setToken (by omega)
  -- A balance once the amount is taken and before it is given.
  have between := tokenBalance_setToken c token source rest
  refine ⟨?_, fun apart => ?_, fun apart => ?_, ?_, fun token' holder other => ?_⟩
  · rw [minted.supply, taken]
  · rw [minted.others token source fun both => apart both.2, between, if_pos ⟨rfl, rfl⟩]
    omega
  · rw [minted.given, between, if_neg fun both => apart both.2.symm]
  · rintro rfl token' holder
    by_cases it : token' = token ∧ holder = source
    · obtain ⟨rfl, rfl⟩ := it
      apply Amount.ext_units
      rw [minted.given, between, if_pos ⟨rfl, rfl⟩]
      omega
    · rw [minted.others token' holder it, between, if_neg it]
  · rw [minted.others token' holder fun both => other ⟨both.1, .inr both.2⟩, between,
      if_neg fun both => other ⟨both.1, .inl both.2⟩]

/-! ## One call -/

/-- Currency that is attached to a call does not count among the balances. -/
theorem Transferred.of_attach (attached : c.attach sender call = .ok c₁)
    (h : Transferred c₁ c' token source target amount) :
    Transferred c c' token source target amount := by
  have same := supply_congr (holdings_of_attach attached token)
  have balance := tokenBalance_of_attach attached
  obtain ⟨supply, taken, given, toSelf, others⟩ := h
  simp only [same, balance] at supply taken given toSelf others
  exact ⟨supply, taken, given, toSelf, others⟩

/-- What is minted after currency was attached is minted by the whole call. -/
theorem Minted.of_attach (attached : c.attach sender call = .ok c₁)
    (h : Minted c₁ c' token target amount) : Minted c c' token target amount := by
  have same := supply_congr (holdings_of_attach attached token)
  have balance := tokenBalance_of_attach attached
  obtain ⟨given, others, supply⟩ := h
  simp only [same, balance] at given others supply
  exact ⟨given, others, supply⟩

/-- An accepted call to transfer moves the amount that it states. -/
theorem exists_of_transfer (h : c.apply sender call = .ok (e, c'))
    (method : call.method = "transfer") :
    ∃ target amount c₁, call.addressArgument 0 = .ok target ∧ call.amountArgument 1 = .ok amount ∧
      c.attach sender call = .ok c₁ ∧
      c₁.moveTokens call.target sender target amount = .ok c' ∧
      e = transferEvent call.target sender target amount := by
  obtain ⟨-, c₁, attached, performed⟩ := exists_performed h
  have named : Method.ofName call.method = .transfer := by rw [method]; decide
  cases performed with
  | transfer method' account quantity unpaused moved =>
    exact ⟨_, _, c₁, account, quantity, attached, moved, rfl⟩
  | _ => simp_all

/-- An accepted call to mint gives the amount that it states. -/
theorem exists_of_mint (h : c.apply sender call = .ok (e, c')) (method : call.method = "mint") :
    ∃ target amount c₁, call.addressArgument 0 = .ok target ∧ call.amountArgument 1 = .ok amount ∧
      c.attach sender call = .ok c₁ ∧
      c' = c₁.setToken call.target target ((c₁.tokenBalance call.target target).add amount) ∧
      e = transferEvent call.target .zero target amount := by
  obtain ⟨-, c₁, attached, performed⟩ := exists_performed h
  have named : Method.ofName call.method = .mint := by rw [method]; decide
  cases performed with
  | mint method' account quantity asked unpaused =>
    exact ⟨_, _, c₁, account, quantity, attached, rfl, rfl⟩
  | _ => simp_all

/-- **Transfers and mints are exact.** Where the balances in a token together are an amount, an
accepted call to transfer moves from its sender exactly the amount that it states to the holder
that it states, and an accepted call to mint gives exactly that amount, if the sum stays an amount;
and the one event that is emitted reports it. -/
theorem exact_of_call {receipt : Receipt} (bounded : c.supply call.target ≤ Amount.greatest.units)
    (h : c.call sender call = .ok (receipt, c')) :
    (call.method = "transfer" → ∃ target amount,
      call.addressArgument 0 = .ok target ∧ call.amountArgument 1 = .ok amount ∧
        Transferred c c' call.target sender target amount ∧
        ∃ e, receipt.events = [e] ∧ e.Reports call.target sender target amount) ∧
    (call.method = "mint" → ∃ target amount,
      call.addressArgument 0 = .ok target ∧ call.amountArgument 1 = .ok amount ∧
        (c.supply call.target + amount.units ≤ Amount.greatest.units →
          Minted c c' call.target target amount) ∧
        ∃ e, receipt.events = [e] ∧ e.Reports call.target .zero target amount) := by
  rw [Chain.call, bind_eq_ok_iff] at h
  obtain ⟨⟨e, c₂⟩, applied, ⟨⟩⟩ := h
  constructor
  · intro method
    obtain ⟨target, amount, c₁, account, quantity, attached, moved, rfl⟩ :=
      exists_of_transfer applied method
    rw [← supply_congr (holdings_of_attach attached call.target)] at bounded
    exact ⟨target, amount, account, quantity,
      (transferred_moveTokens bounded moved).of_attach attached, _, rfl, reports_transferEvent ..⟩
  · intro method
    obtain ⟨target, amount, c₁, account, quantity, attached, rfl, rfl⟩ :=
      exists_of_mint applied method
    refine ⟨target, amount, account, quantity, fun bounded => ?_, _, rfl, reports_transferEvent ..⟩
    rw [← supply_congr (holdings_of_attach attached call.target)] at bounded
    exact (minted_setToken bounded).of_attach attached

/-- A holder of ten pays four to another and then, where the ten are all there is, ten to itself;
and where the sum becomes the greatest amount, another is given all that is missing. -/
theorem exact_of_call_drill :
    (∃ receipt c', Drill.press.call (.ofNat 3) Drill.payment = .ok (receipt, c') ∧
      Transferred Drill.press c' Drill.coin (.ofNat 3) (.ofNat 4) ⟨4, by decide⟩) ∧
    (∃ receipt c', Drill.press.call (.ofNat 3) Drill.roundabout = .ok (receipt, c') ∧
      Transferred Drill.press c' Drill.coin (.ofNat 3) (.ofNat 3) ⟨10, by decide⟩) ∧
    ∃ receipt c', Drill.press.call (.ofNat 5) Drill.coining = .ok (receipt, c') ∧
      Minted Drill.press c' Drill.coin (.ofNat 4) Drill.remainder := by
  have bounded : Drill.press.supply Drill.coin ≤ Amount.greatest.units := by decide +kernel
  refine ⟨?_, ?_, ?_⟩
  · have accepted : (Drill.press.call (.ofNat 3) Drill.payment).isOk = true := by decide +kernel
    obtain ⟨⟨receipt, c'⟩, called⟩ := exists_of_isOk accepted
    obtain ⟨target, amount, account, quantity, moved, -⟩ := (exact_of_call bounded called).1 rfl
    have account' : Drill.payment.addressArgument 0 = .ok (.ofNat 4) :=
      Call.addressArgument_of_toValue rfl
    have quantity' : Drill.payment.amountArgument 1 = .ok ⟨4, by decide⟩ := rfl
    cases account.symm.trans account'
    cases quantity.symm.trans quantity'
    exact ⟨receipt, c', called, moved⟩
  · have accepted : (Drill.press.call (.ofNat 3) Drill.roundabout).isOk = true := by
      decide +kernel
    obtain ⟨⟨receipt, c'⟩, called⟩ := exists_of_isOk accepted
    obtain ⟨target, amount, account, quantity, moved, -⟩ := (exact_of_call bounded called).1 rfl
    have account' : Drill.roundabout.addressArgument 0 = .ok (.ofNat 3) :=
      Call.addressArgument_of_toValue rfl
    have quantity' : Drill.roundabout.amountArgument 1 = .ok ⟨10, by decide⟩ := rfl
    cases account.symm.trans account'
    cases quantity.symm.trans quantity'
    exact ⟨receipt, c', called, moved⟩
  · have accepted : (Drill.press.call (.ofNat 5) Drill.coining).isOk = true := by decide +kernel
    obtain ⟨⟨receipt, c'⟩, called⟩ := exists_of_isOk accepted
    obtain ⟨target, amount, account, quantity, minted, -⟩ := (exact_of_call bounded called).2 rfl
    have account' : Drill.coining.addressArgument 0 = .ok (.ofNat 4) :=
      Call.addressArgument_of_toValue rfl
    have quantity' : Drill.coining.amountArgument 1 = .ok Drill.remainder :=
      Call.amountArgument_of_toValue rfl
    cases account.symm.trans account'
    cases quantity.symm.trans quantity'
    exact ⟨receipt, c', called, minted (by decide +kernel)⟩

end Chain
end Rollout
