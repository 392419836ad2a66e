/-
# What callers without roles cannot change

Roles are given and taken by governors alone. So senders of whom none is a governor get no role
by any calls, and what only the holder of a role may change stays as it is:

| no sender is | stays as it is |
| --- | --- |
| governor | the holders of all roles; code, storage and oracle readings |
| governor or guardian | pause flags too |
| governor or minter | what there is of each token, or it gets less |

One accepted call keeps these by the cases of `Performed`, and so do all calls together
(`Chain.kept_submitAll`).
-/

import Rollout.Proofs.Chain.Submission
import Rollout.Proofs.Chain.Supply

namespace Rollout

/-! ## A small chain -/

namespace Drill

/-- A token. -/
def coin : Address := .ofNat 1

/-- A chain on which one account governs and another holds ten of the token. -/
def bank : Chain :=
  ((Chain.empty.install coin "Coin").grantRole Role.govern (.ofNat 7)).setToken coin (.ofNat 3)
    ⟨10, by decide⟩

/-- Calls by two accounts that have no role. -/
def attempts : List (Address × Call) :=
  let me := (Address.ofNat 4).toValue
  [ (.ofNat 3, { target := coin, method := "transfer", arguments := [me, .text "4"] }),
    (.ofNat 4, { target := coin, method := "grantGovernor", arguments := [me] }),
    (.ofNat 4, { target := coin, method := "mint", arguments := [me, .text "1"] }),
    (.ofNat 4, { target := coin, method := "burn", arguments := [.text "2"] })]

end Drill

namespace Chain

variable {c c' : Chain} {sender : Address} {call : Call} {e : Event}

/-! ## What is kept -/

/-- What only governors may change is the same on two chains. -/
structure Kept (c c' : Chain) : Prop where
  roles : c'.roles = c.roles
  artifact : ∀ a, (c'.account a).artifact = (c.account a).artifact
  storage : ∀ a, (c'.account a).storage = (c.account a).storage
  oracle : ∀ a, (c'.account a).oracle = (c.account a).oracle

namespace Kept

variable {d : Chain}

/-- Nothing changes where nothing is done. -/
theorem refl (c : Chain) : Kept c c := ⟨rfl, fun _ => rfl, fun _ => rfl, fun _ => rfl⟩

/-- What two steps leave, both together leave. -/
theorem trans (h : Kept c c') (h' : Kept c' d) : Kept c d where
  roles := h'.roles.trans h.roles
  artifact a := (h'.artifact a).trans (h.artifact a)
  storage a := (h'.storage a).trans (h.storage a)
  oracle a := (h'.oracle a).trans (h.oracle a)

/-- A role is had on one chain if it is on the other. -/
theorem hasRole (h : Kept c c') (role : String) (a : Address) :
    c'.hasRole role a = c.hasRole role a := by
  rw [Chain.hasRole, Chain.hasRole, h.roles]

/-- A change to an account that leaves code, storage and reading alone. -/
theorem updateAccount (c : Chain) (a : Address) {f : Account → Account}
    (hf : ∀ x, (f x).artifact = x.artifact ∧ (f x).storage = x.storage ∧ (f x).oracle = x.oracle) :
    Kept c (c.updateAccount a f) := by
  have alike : ∀ b, ((c.updateAccount a f).account b).artifact = (c.account b).artifact ∧
      ((c.updateAccount a f).account b).storage = (c.account b).storage ∧
      ((c.updateAccount a f).account b).oracle = (c.account b).oracle := by
    intro b
    rw [account_updateAccount]
    by_cases h : b = a
    · rw [if_pos h, h]
      exact hf _
    · rw [if_neg h]
      exact ⟨rfl, rfl, rfl⟩
  exact ⟨rfl, fun b => (alike b).1, fun b => (alike b).2.1, fun b => (alike b).2.2⟩

/-- Setting a token balance leaves what only governors may change. -/
theorem setToken (c : Chain) (token holder : Address) (amount : Amount) :
    Kept c (c.setToken token holder amount) :=
  ⟨rfl, fun _ => rfl, fun _ => rfl, fun _ => rfl⟩

/-- Erasing a token balance leaves what only governors may change. -/
theorem eraseToken (c : Chain) (token holder : Address) : Kept c (c.eraseToken token holder) :=
  ⟨rfl, fun _ => rfl, fun _ => rfl, fun _ => rfl⟩

/-- Moving tokens leaves what only governors may change. -/
theorem moveTokens {token source target : Address} {amount : Amount}
    (h : c.moveTokens token source target amount = .ok c') : Kept c c' := by
  obtain ⟨rest, -, rfl⟩ := moveTokens_eq_ok_iff.1 h
  exact (setToken c token source rest).trans (setToken ..)

end Kept

/-! ## Currency that is moved -/

/-- Attaching currency to a call leaves what only governors may change. -/
theorem kept_of_attach (h : c.attach sender call = .ok c') : Kept c c' := by
  rcases attach_eq_ok_iff.1 h with ⟨-, rfl⟩ | ⟨-, rest, -, rfl⟩
  · exact .refl _
  · have debited : Kept c (c.setNative sender rest) := .updateAccount _ _ fun _ => ⟨rfl, rfl, rfl⟩
    exact debited.trans (.updateAccount _ _ fun _ => ⟨rfl, rfl, rfl⟩)

/-- Attaching currency to a call pauses nothing. -/
theorem paused_of_attach (h : c.attach sender call = .ok c') (a : Address) :
    (c'.account a).paused = (c.account a).paused := by
  rcases attach_eq_ok_iff.1 h with ⟨-, rfl⟩ | ⟨-, rest, -, rfl⟩
  · rfl
  · rw [fund, paused_updateAccount, setNative, paused_updateAccount]
    · exact fun _ => rfl
    · exact fun _ => rfl

/-- Attaching currency to a call leaves all holdings of tokens. -/
theorem holdings_of_attach (h : c.attach sender call = .ok c') (token : Address) :
    c'.holdings token = c.holdings token := by
  rcases attach_eq_ok_iff.1 h with ⟨-, rfl⟩ | ⟨-, rest, -, rfl⟩
  · rfl
  · rfl

/-- Attaching currency to a call leaves all token balances. -/
theorem tokenBalance_of_attach (h : c.attach sender call = .ok c') (token holder : Address) :
    c'.tokenBalance token holder = c.tokenBalance token holder := by
  rw [tokenBalance_eq, holdings_of_attach h, tokenBalance_eq]

/-! ## One call -/

/-- A sender that meets a required role has it. -/
theorem hasRole_of_requireRole {role : String} (h : c.requireRole [role] sender = .ok ()) :
    c.hasRole role sender = true := by
  obtain ⟨r, hr, held⟩ := requireRole_eq_ok_iff.1 h
  rwa [List.mem_singleton.1 hr] at held

/-- **A call that is not a governor's keeps what is the governors'.** -/
theorem kept_of_apply (h : c.apply sender call = .ok (e, c'))
    (ungoverned : c.hasRole Role.govern sender = false) : Kept c c' := by
  obtain ⟨-, c₁, attached, performed⟩ := exists_performed h
  have attached := kept_of_attach attached
  have refused : c₁.requireRole [Role.govern] sender ≠ .ok () := fun asked => by
    have held := hasRole_of_requireRole asked
    rw [attached.hasRole, ungoverned] at held
    cases held
  refine attached.trans ?_
  cases performed with
  | changeFixedRole method account asked => exact absurd asked refused
  | changeRole method named account asked => exact absurd asked refused
  | setPaused method asked => exact .updateAccount _ _ fun _ => ⟨rfl, rfl, rfl⟩
  | mint method account quantity asked unpaused => exact .setToken ..
  | transfer method account quantity unpaused moved => exact .moveTokens moved
  | burn method quantity unpaused moved => exact (Kept.moveTokens moved).trans (.eraseToken ..)
  | setStorage method named given asked => exact absurd asked refused
  | setOracle method quantity flag asked => exact absurd asked refused

/-- A call that is neither a governor's nor a guardian's sets no pause flag. -/
theorem paused_of_apply (h : c.apply sender call = .ok (e, c'))
    (ungoverned : c.hasRole Role.govern sender = false)
    (unguarded : c.hasRole Role.guardian sender = false) (a : Address) :
    (c'.account a).paused = (c.account a).paused := by
  obtain ⟨-, c₁, attached, performed⟩ := exists_performed h
  have roles := (kept_of_attach attached).hasRole
  rw [← paused_of_attach attached]
  cases performed with
  | changeFixedRole method account asked => rw [account_changeRole]
  | changeRole method named account asked => rw [account_changeRole]
  | setPaused method asked =>
    obtain ⟨role, hr, held⟩ := requireRole_eq_ok_iff.1 asked
    simp only [List.mem_cons, List.not_mem_nil, or_false] at hr
    rw [roles] at held
    rcases hr with rfl | rfl
    · rw [ungoverned] at held
      cases held
    · rw [unguarded] at held
      cases held
  | mint method account quantity asked unpaused => rfl
  | transfer method account quantity unpaused moved =>
    obtain ⟨rest, -, rfl⟩ := moveTokens_eq_ok_iff.1 moved
    rfl
  | burn method quantity unpaused moved =>
    obtain ⟨rest, -, rfl⟩ := moveTokens_eq_ok_iff.1 moved
    rfl
  | setStorage method named given asked =>
    rw [setStorage, paused_updateAccount]
    exact fun _ => rfl
  | setOracle method quantity flag asked =>
    rw [setOracle, paused_updateAccount]
    exact fun _ => rfl

/-- A call that is not a minter's makes no tokens. -/
theorem supply_le_of_apply (h : c.apply sender call = .ok (e, c'))
    (unminting : c.hasRole Role.minter sender = false) (token : Address) :
    c'.supply token ≤ c.supply token := by
  obtain ⟨-, c₁, attached, performed⟩ := exists_performed h
  have roles := (kept_of_attach attached).hasRole
  have same : c₁.supply token = c.supply token := supply_congr (holdings_of_attach attached token)
  rw [← same]
  cases performed with
  | changeFixedRole method account asked =>
    exact Nat.le_of_eq (supply_congr (holdings_changeRole ..))
  | changeRole method named account asked =>
    exact Nat.le_of_eq (supply_congr (holdings_changeRole ..))
  | setPaused method asked => exact Nat.le_refl _
  | mint method account quantity asked unpaused =>
    have held := hasRole_of_requireRole asked
    rw [roles, unminting] at held
    cases held
  | transfer method account quantity unpaused moved => exact supply_moveTokens_le moved token
  | burn method quantity unpaused moved =>
    exact Nat.le_trans (supply_eraseToken_le ..) (supply_moveTokens_le moved token)
  | setStorage method named given asked => exact Nat.le_refl _
  | setOracle method quantity flag asked => exact Nat.le_refl _

/-! ## All calls -/

/-- **Nobody gets a role by calls of those who have none.** Calls of any kind, accepted or refused,
whose senders are no governors leave all roles, code, storage and readings as they are; if none is
a guardian either, the pause flags too; and if none is a minter, no token gets more. -/
theorem kept_submitAll (c : Chain) (calls : List (Address × Call))
    (ungoverned : ∀ x ∈ calls, c.hasRole Role.govern x.1 = false) :
    Kept c (c.submitAll calls).2 ∧
      ((∀ x ∈ calls, c.hasRole Role.guardian x.1 = false) →
        ∀ a, ((c.submitAll calls).2.account a).paused = (c.account a).paused) ∧
      ((∀ x ∈ calls, c.hasRole Role.minter x.1 = false) →
        ∀ token, (c.submitAll calls).2.supply token ≤ c.supply token) := by
  -- The roles stay those of the start, so at every call the sender still lacks them.
  have governed : ∀ d, Kept c d → ∀ x ∈ calls, d.hasRole Role.govern x.1 = false := by
    intro d kept x hx
    rw [kept.hasRole]
    exact ungoverned x hx
  refine submitAll_induction (P := fun d => Kept c d ∧
    ((∀ x ∈ calls, c.hasRole Role.guardian x.1 = false) →
      ∀ a, (d.account a).paused = (c.account a).paused) ∧
    ((∀ x ∈ calls, c.hasRole Role.minter x.1 = false) →
      ∀ token, d.supply token ≤ c.supply token))
    ⟨.refl c, fun _ _ => rfl, fun _ _ => Nat.le_refl _⟩ ?_
  rintro sender call hx d e d' ⟨kept, paused, supply⟩ h
  refine ⟨?_, fun unguarded a => ?_, fun unminting token => ?_⟩
  · exact kept.trans (kept_of_apply h (governed d kept _ hx))
  · have unguarded' : d.hasRole Role.guardian sender = false := by
      rw [kept.hasRole]
      exact unguarded _ hx
    rw [paused_of_apply h (governed d kept _ hx) unguarded', paused unguarded]
  · have unminting' : d.hasRole Role.minter sender = false := by
      rw [kept.hasRole]
      exact unminting _ hx
    exact Nat.le_trans (supply_le_of_apply h unminting' token) (supply unminting token)

/-- Two holders without a role: the first pays the second and the second burns some of it, and both
are refused a role and new tokens. -/
theorem kept_submitAll_drill :
    (Drill.bank.submitAll Drill.attempts).1.map (·.isOk) = [true, false, false, true] ∧
    Drill.bank.supply Drill.coin = 10 ∧
    (Drill.bank.submitAll Drill.attempts).2.supply Drill.coin = 8 ∧
    Kept Drill.bank (Drill.bank.submitAll Drill.attempts).2 ∧
    (∀ a, ((Drill.bank.submitAll Drill.attempts).2.account a).paused
      = (Drill.bank.account a).paused) ∧
    ∀ token, (Drill.bank.submitAll Drill.attempts).2.supply token ≤ Drill.bank.supply token := by
  obtain ⟨kept, paused, supply⟩ := kept_submitAll Drill.bank Drill.attempts (by decide)
  exact ⟨by decide +kernel, by decide +kernel, by decide +kernel, kept, paused (by decide),
    supply (by decide)⟩

end Chain
end Rollout
