/-
# What a pause holds still

A paused token refuses everything that would change a balance in it, whoever asks:

| call | at the paused token | elsewhere |
| --- | --- | --- |
| `mint`, `transfer`, `burn` | refused | touches the balances of its own target |
| any other | touches no balance | touches no balance |

So as long as the flag stands, the balances do (`Chain.holdings_of_apply`). To take the flag away one
has to be a governor or a guardian, and to become one a governor is needed. Where no sender is
either of them, flag and balances stay for good (`Chain.frozen_submitAll`).
-/

import Rollout.Proofs.Chain.Access

namespace Rollout

/-! ## A paused token -/

namespace Drill

/-- Another token. -/
def note : Address := .ofNat 2

/-- The bank, its token paused, with another token of which the holder has three. -/
def closedBank : Chain :=
  ((bank.setPaused coin true).install note "Note").setToken note (.ofNat 3) ⟨3, by decide⟩

/-- The attempts on the paused token, then one to unpause it, and a transfer of the other token with
the paused one for its receiver. -/
def siege : List (Address × Call) :=
  attempts ++
    [ (.ofNat 3, { target := coin, method := "unpause" }),
      (.ofNat 3,
        { target := note, method := "transfer", arguments := [coin.toValue, .text "3"] })]

end Drill

namespace Chain

variable {c c' : Chain} {sender token : Address} {call : Call} {e : Event}

/-! ## One call -/

/-- Tokens that are moved leave the balances in other tokens alone. -/
theorem holdings_of_moveTokens {moving source target : Address} {amount : Amount}
    (h : c.moveTokens moving source target amount = .ok c') (other : token ≠ moving) :
    c'.holdings token = c.holdings token := by
  obtain ⟨rest, -, rfl⟩ := moveTokens_eq_ok_iff.1 h
  rw [holdings_setToken, if_neg other, holdings_setToken, if_neg other]

/-- **No accepted call changes a balance in a paused token**, whoever makes it. -/
theorem holdings_of_apply (h : c.apply sender call = .ok (e, c'))
    (paused : (c.account token).paused = true) : c'.holdings token = c.holdings token := by
  obtain ⟨-, c₁, attached, performed⟩ := exists_performed h
  rw [← holdings_of_attach attached token]
  -- What asks its target not to be paused has another target.
  have other : c₁.requireUnpaused call.target = .ok () → token ≠ call.target := by
    rintro unpaused rfl
    rw [requireUnpaused, paused_of_attach attached, if_pos paused] at unpaused
    cases unpaused
  cases performed with
  | changeFixedRole method account asked => exact holdings_changeRole ..
  | changeRole method named account asked => exact holdings_changeRole ..
  | setPaused method asked => rfl
  | mint method account quantity asked unpaused =>
    rw [holdings_setToken, if_neg (other unpaused)]
  | transfer method account quantity unpaused moved =>
    exact holdings_of_moveTokens moved (other unpaused)
  | burn method quantity unpaused moved =>
    rw [holdings_eraseToken, if_neg (other unpaused)]
    exact holdings_of_moveTokens moved (other unpaused)
  | setStorage method named given asked => rfl
  | setOracle method quantity flag asked => rfl

/-! ## All calls -/

/-- What is left of a paused token: the roles as they were, so that nobody has come by the right to
unpause it, its code, its flag and all balances in it. -/
structure Frozen (c c' : Chain) (token : Address) : Prop where
  kept : Kept c c'
  paused : (c'.account token).paused = true
  holdings : c'.holdings token = c.holdings token

/-- An accepted call by a sender who was neither governor nor guardian from the start keeps a paused
token frozen. -/
theorem Frozen.of_apply {d d' : Chain} (frozen : Frozen c d token)
    (ungoverned : c.hasRole Role.govern sender = false)
    (unguarded : c.hasRole Role.guardian sender = false)
    (h : d.apply sender call = .ok (e, d')) : Frozen c d' token := by
  have ungoverned' : d.hasRole Role.govern sender = false := by
    rw [frozen.kept.hasRole, ungoverned]
  have unguarded' : d.hasRole Role.guardian sender = false := by
    rw [frozen.kept.hasRole, unguarded]
  refine ⟨frozen.kept.trans (kept_of_apply h ungoverned'), ?_, ?_⟩
  · rw [paused_of_apply h ungoverned' unguarded', frozen.paused]
  · rw [holdings_of_apply h frozen.paused, frozen.holdings]

/-- **A paused token is frozen.** Where a token is paused, calls of any kind and at any targets,
accepted or refused, whose senders are neither governors nor guardians leave it paused and every
balance in it as it was. -/
theorem frozen_submitAll (c : Chain) (token : Address) (calls : List (Address × Call))
    (paused : c.isPaused token = .ok true)
    (powerless : ∀ x ∈ calls,
      c.hasRole Role.govern x.1 = false ∧ c.hasRole Role.guardian x.1 = false) :
    (c.submitAll calls).2.isPaused token = .ok true ∧
      ∀ holder, (c.submitAll calls).2.balanceOf token holder = c.balanceOf token holder := by
  obtain ⟨code, flag⟩ := isPaused_eq_ok_iff.1 paused
  have frozen : Frozen c (c.submitAll calls).2 token := by
    refine submitAll_induction (P := (Frozen c · token)) ⟨.refl c, flag.symm, rfl⟩ ?_
    intro sender call hx d e d' frozen h
    obtain ⟨ungoverned, unguarded⟩ := powerless _ hx
    exact frozen.of_apply ungoverned unguarded h
  have code' : (c.submitAll calls).2.hasCode token = true := by
    rw [hasCode, frozen.kept.artifact]
    exact code
  refine ⟨isPaused_eq_ok_iff.2 ⟨code', frozen.paused.symm⟩, fun holder => ?_⟩
  rw [balanceOf_eq_ok_iff.2 ⟨code', rfl⟩, balanceOf_eq_ok_iff.2 ⟨code, rfl⟩, tokenBalance_eq,
    frozen.holdings, tokenBalance_eq]

/-- Two holders without a role can neither move, mint or burn the paused token nor unpause it, and
are free to pay in another. -/
theorem frozen_submitAll_siege :
    (Drill.closedBank.submitAll Drill.siege).1.map (·.isOk)
      = [false, false, false, false, false, true] ∧
    (Drill.closedBank.submitAll Drill.siege).2.isPaused Drill.coin = .ok true ∧
    Drill.closedBank.balanceOf Drill.coin (.ofNat 3) = .ok ⟨10, by decide⟩ ∧
    ∀ holder, (Drill.closedBank.submitAll Drill.siege).2.balanceOf Drill.coin holder
      = Drill.closedBank.balanceOf Drill.coin holder := by
  obtain ⟨paused, balances⟩ := frozen_submitAll Drill.closedBank Drill.coin Drill.siege
    rfl (by decide)
  exact ⟨by decide +kernel, paused, rfl, balances⟩

end Chain
end Rollout
