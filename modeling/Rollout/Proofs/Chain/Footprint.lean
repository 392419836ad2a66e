/-
# What a call may touch

An accepted call moves the currency attached to it and then does what its method says. Each of these
steps stays with the sender, the target and what the arguments name:

| step | touches |
| --- | --- |
| moving the currency | the native balances of sender and target |
| giving or taking a role | whether the named account has the named role (`Call.membership?`) |
| `pause`, `unpause`, `setStorage`, `setOracle` | the account of the target, but not its artifact |
| `mint`, `transfer`, `burn` | balances in the target |

So all else is as before (`Chain.Confined`), the counts of deployments among it. The sender may be
the target, and then its account may change as the target's.
-/

import Rollout.Proofs.Chain.Access

namespace Rollout

/-! ## A small chain -/

namespace Drill

/-- The bank, its governor and its holder with twelve of the currency each. -/
def vestry : Chain :=
  (bank.setNative (.ofNat 7) ⟨12, by decide⟩).setNative (.ofNat 3) ⟨12, by decide⟩

/-- The call to make another account a minter, with eleven of the currency attached. -/
def promotion : Call where
  target := coin
  method := "grantMinter"
  arguments := [(Address.ofNat 4).toValue]
  value := ⟨11, by decide⟩

end Drill

/-! ## What a call names -/

/-- The role and the account that the arguments of a call name, if its method gives or takes a role.
Some methods fix the role by their own name. -/
def Call.membership? (call : Call) : Option (String × Address) :=
  match Method.ofName call.method with
  | .changeFixedRole role _ => do return (role, ← (call.addressArgument 0).toOption)
  | .changeRole _ => do
    return (← (call.textArgument 0).toOption, ← (call.addressArgument 1).toOption)
  | _ => none

namespace Chain

variable {c c' d : Chain} {sender : Address} {call : Call} {e : Event}

/-! ## What is left alone -/

/-- Two chains differ in nothing but what a call of a sender may touch. -/
structure Confined (c c' : Chain) (sender : Address) (call : Call) : Prop where
  /-- All accounts but two are as before, and no others are made. -/
  bystanders : ∀ a, a ≠ sender → a ≠ call.target → c'.accounts.find? a = c.accounts.find? a
  /-- A sender that is not the target may have another native balance, and nothing else. -/
  sender : sender ≠ call.target →
    c'.account sender = { c.account sender with native := (c'.account sender).native }
  artifact : (c'.account call.target).artifact = (c.account call.target).artifact
  nonces : c'.nonces = c.nonces
  holdings : ∀ token, token ≠ call.target → c'.holdings token = c.holdings token
  roles : ∀ role a, call.membership? ≠ some (role, a) → c'.hasRole role a = c.hasRole role a

namespace Confined

/-- Nothing is outside the footprint of a call that does nothing. -/
theorem refl (c : Chain) (sender : Address) (call : Call) : Confined c c sender call where
  bystanders _ _ _ := rfl
  sender _ := rfl
  artifact := rfl
  nonces := rfl
  holdings _ _ := rfl
  roles _ _ _ := rfl

/-- Two steps inside the footprint of a call are inside it together. -/
theorem trans (h : Confined c c' sender call) (h' : Confined c' d sender call) :
    Confined c d sender call where
  bystanders a hs ht := (h'.bystanders a hs ht).trans (h.bystanders a hs ht)
  sender apart := by
    rw [h'.sender apart, h.sender apart]
  artifact := h'.artifact.trans h.artifact
  nonces := h'.nonces.trans h.nonces
  holdings token other := (h'.holdings token other).trans (h.holdings token other)
  roles role a unnamed := (h'.roles role a unnamed).trans (h.roles role a unnamed)

/-! ## Writes -/

/-- The native balance of the sender is changed, which may be the target. -/
theorem setNative (c : Chain) (sender : Address) (call : Call) (amount : Amount) :
    Confined c (c.setNative sender amount) sender call where
  bystanders a hs _ := find?_updateAccount_of_ne c _ hs
  sender _ := by
    rw [Chain.setNative, account_updateAccount, if_pos rfl]
  artifact := by
    rw [Chain.setNative, account_updateAccount]
    split
    · next same => rw [same]
    · rfl
  nonces := rfl
  holdings _ _ := rfl
  roles _ _ _ := rfl

/-- The account of the target is changed, but not its artifact. -/
theorem updateTarget (c : Chain) (sender : Address) (call : Call) {f : Account → Account}
    (hf : ∀ x, (f x).artifact = x.artifact) :
    Confined c (c.updateAccount call.target f) sender call where
  bystanders a _ ht := find?_updateAccount_of_ne c _ ht
  sender apart := by
    rw [account_updateAccount, if_neg apart]
  artifact := by
    rw [account_updateAccount, if_pos rfl, hf]
  nonces := rfl
  holdings _ _ := rfl
  roles _ _ _ := rfl

/-- Setting a balance of the target's token is inside the footprint. -/
theorem setToken (c : Chain) (sender : Address) (call : Call) (holder : Address)
    (amount : Amount) : Confined c (c.setToken call.target holder amount) sender call :=
  { refl c sender call with
    holdings := fun token other => by rw [holdings_setToken, if_neg other] }

/-- Erasing a balance of the target's token is inside the footprint. -/
theorem eraseToken (c : Chain) (sender : Address) (call : Call) (holder : Address) :
    Confined c (c.eraseToken call.target holder) sender call :=
  { refl c sender call with
    holdings := fun token other => by rw [holdings_eraseToken, if_neg other] }

/-- Moving the target's tokens is inside the footprint. -/
theorem moveTokens {source target : Address} {amount : Amount} (sender : Address)
    (h : c.moveTokens call.target source target amount = .ok c') : Confined c c' sender call := by
  obtain ⟨rest, -, rfl⟩ := moveTokens_eq_ok_iff.1 h
  exact (setToken c sender call source rest).trans (setToken ..)

/-- The named account is given the named role, or it is taken from it. -/
theorem changeRole (c : Chain) (sender : Address) {role : String} {a : Address} (grant : Bool)
    (named : call.membership? = some (role, a)) :
    Confined c (c.changeRole role a grant).2 sender call where
  bystanders _ _ _ := by cases grant <;> rfl
  sender _ := by rw [account_changeRole]
  artifact := by rw [account_changeRole]
  nonces := by cases grant <;> rfl
  holdings token _ := holdings_changeRole role a token grant
  roles role' b unnamed := by
    rw [hasRole_changeRole, if_neg]
    rintro ⟨rfl, rfl⟩
    exact unnamed named

/-! ## Calls -/

/-- Attaching currency to a call is inside its footprint. -/
theorem of_attach (h : c.attach sender call = .ok c') : Confined c c' sender call := by
  rcases attach_eq_ok_iff.1 h with ⟨-, rfl⟩ | ⟨-, rest, -, rfl⟩
  · exact .refl ..
  · exact (setNative c sender call rest).trans (updateTarget _ sender call fun _ => rfl)

/-- **Whatever a call performs is inside its footprint.** -/
theorem of_performed (h : Performed c sender call e c') : Confined c c' sender call := by
  cases h with
  | changeFixedRole method account asked =>
    exact changeRole c sender _ (by rw [Call.membership?, method, account]; rfl)
  | changeRole method named account asked =>
    exact changeRole c sender _ (by rw [Call.membership?, method, named, account]; rfl)
  | setPaused method asked => exact updateTarget c sender call fun _ => rfl
  | mint method account quantity asked unpaused => exact setToken ..
  | transfer method account quantity unpaused moved => exact moveTokens sender moved
  | burn method quantity unpaused moved => exact (moveTokens sender moved).trans (eraseToken ..)
  | setStorage method named given asked => exact updateTarget c sender call fun _ => rfl
  | setOracle method quantity flag asked => exact updateTarget c sender call fun _ => rfl

/-- **An accepted call touches nothing else**, whatever its method. -/
theorem of_apply (h : c.apply sender call = .ok (e, c')) : Confined c c' sender call := by
  obtain ⟨-, c₁, attached, performed⟩ := exists_performed h
  exact (of_attach attached).trans (of_performed performed)

end Confined

/-- **A call touches its sender, its target and what it names, or nothing at all.** If it is accepted,
all other accounts, of a sender that is not the target all but the native balance, the artifact of
the target, all counts of deployments, all balances in other tokens and who has which role, but for
the one pair that the arguments name, are as before. If it is refused, everything is. -/
theorem confined_submit (c : Chain) (sender : Address) (call : Call) :
    (∀ receipt c', c.submit sender call = (.ok receipt, c') → Confined c c' sender call) ∧
      ∀ e c', c.submit sender call = (.error e, c') → c' = c := by
  cases applied : c.apply sender call with
  | error e =>
    rw [submit_of_error applied]
    exact ⟨nofun, fun _ _ h => (Prod.mk.inj h).2.symm⟩
  | ok x =>
    obtain ⟨event, c₁⟩ := x
    rw [submit_of_ok applied]
    refine ⟨?_, nofun⟩
    rintro receipt _ ⟨⟩
    exact .of_apply applied

/-- The governor makes another account a minter and pays the target for it. A holder who is no
governor gets back what the refused call has moved already. -/
theorem confined_submit_promotion :
    (∃ receipt c', Drill.vestry.submit (.ofNat 7) Drill.promotion = (.ok receipt, c') ∧
      c'.hasRole Role.minter (.ofNat 4) = true ∧
      [c'.nativeBalance (.ofNat 7), c'.nativeBalance Drill.coin].map (·.units) = [1, 11] ∧
      Confined Drill.vestry c' (.ofNat 7) Drill.promotion) ∧
    (Drill.vestry.attach (.ofNat 3) Drill.promotion).isOk = true ∧
    ∃ e c', Drill.vestry.submit (.ofNat 3) Drill.promotion = (.error e, c') ∧
      c' = Drill.vestry := by
  refine ⟨⟨_, _, rfl, by decide, by decide, ?_⟩, by decide, _, _, rfl, ?_⟩
  · exact (confined_submit Drill.vestry (.ofNat 7) Drill.promotion).1 _ _ rfl
  · exact (confined_submit Drill.vestry (.ofNat 3) Drill.promotion).2 _ _ rfl

end Chain
end Rollout
