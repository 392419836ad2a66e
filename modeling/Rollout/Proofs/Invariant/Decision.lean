/-
# What invariants decide

An invariant states something of a registry and a chain (`Invariant.States`):

| invariant | states that |
| --- | --- |
| `roleHeldBy` | all accounts listed have the role, and if it is exclusive nobody else has |
| `balanceWithin` | the balance lies between the bounds |
| `oracleWithin` | the reading is valid and lies between the bounds |
| `paused` | the pause flag is the expected one |
| `storageEquals` | the slot is set, and to the expected value |

If an invariant is evaluated, the assertion made of it holds exactly if what it states is true
(`Invariant.Evaluated.holds_iff`). So to check an invariant is to decide it (`Invariant.Decided`):
either something is in the way and nothing is recorded, or one assertion is.
-/

import Rollout.Proofs.Assertion.Recording
import Rollout.Proofs.Invariant.Evaluation
import Rollout.Proofs.Value.Agreement

namespace Rollout
namespace Invariant

open Template (party)

variable {s : Snapshot} {c : Chain} {i : Invariant} {a : Assertion}

/-! ## What is stated -/

/-- What an invariant says of a registry and a chain. Values are the same up to the sign of the
zeros inside. -/
def States (s : Snapshot) (c : Chain) : Invariant → Prop
  | roleHeldBy role holders exclusive =>
    (∀ r ∈ holders, ∃ a, party s r = .ok a ∧ c.hasRole role a = true) ∧
      (exclusive = true → ∀ a, c.hasRole role a = true → ∃ r ∈ holders, party s r = .ok a)
  | balanceWithin token holder least greatest =>
    ∃ t h, party s token = .ok t ∧ party s holder = .ok h ∧
      least.units ≤ (c.tokenBalance t h).units ∧ (c.tokenBalance t h).units ≤ greatest.units
  | oracleWithin oracle least greatest =>
    ∃ o reading, party s oracle = .ok o ∧ (c.account o).oracle = some reading ∧
      reading.valid = true ∧
      least.units ≤ reading.value.units ∧ reading.value.units ≤ greatest.units
  | paused resource flag => ∃ r, party s resource = .ok r ∧ (c.account r).paused = flag
  | storageEquals resource key expected =>
    ∃ r v w, party s resource = .ok r ∧ (c.account r).storage.find? key = some v ∧
      Template.resolve s expected = .ok w ∧ v.unsigned = w.unsigned

/-- A reading is within its bounds exactly if its units are. -/
theorem holds_within_iff {name : String} {value least greatest : Amount} :
    (Assertion.within name value least greatest).holds = true ↔
      least.units ≤ value.units ∧ value.units ≤ greatest.units := by
  rw [Assertion.within, Bool.and_eq_true, decide_eq_true_iff, decide_eq_true_iff]

/-- Who should have a role has it, and if it is exclusive nobody else does. -/
theorem holds_heldAssertion_iff {name : String} {expected actual : List Address}
    {exclusive : Bool} : (heldAssertion name expected actual exclusive).holds = true ↔
      (∀ a ∈ expected, a ∈ actual) ∧ (exclusive = true → ∀ a ∈ actual, a ∈ expected) := by
  rw [heldAssertion, Bool.and_eq_true, List.isEmpty_iff, List.isEmpty_iff,
    List.filter_eq_nil_iff, List.filter_eq_nil_iff]
  refine and_congr (forall₂_congr fun a _ => ?_) ?_
  · simp
  · cases exclusive with
    | false => simp
    | true => simp

/-- **The assertion holds exactly if what the invariant states is true.** -/
theorem Evaluated.holds_iff (h : Evaluated s c i a) : a.holds = true ↔ i.States s c := by
  cases h with
  | roleHeldBy read =>
    rw [holds_heldAssertion_iff]
    simp only [Template.mem_of_parties read, Chain.mem_roleHolders_iff]
    refine and_congr_left fun _ => ?_
    constructor
    · intro all r mem
      obtain ⟨x, found⟩ := Template.exists_parties_eq_ok_iff.1 ⟨_, read⟩ r mem
      exact ⟨x, found, all x ⟨r, mem, found⟩⟩
    · rintro all x ⟨r, mem, found⟩
      obtain ⟨y, found', holds⟩ := all r mem
      cases found.symm.trans found'
      exact holds
  | balanceWithin tokenAt holderAt =>
    rw [holds_within_iff]
    constructor
    · exact fun between => ⟨_, _, tokenAt, holderAt, between⟩
    · rintro ⟨t, h, tokenAt', holderAt', between⟩
      cases tokenAt.symm.trans tokenAt'
      cases holderAt.symm.trans holderAt'
      exact between
  | oracleWithin oracleAt code found =>
    rw [readingAssertion, Bool.and_eq_true, holds_within_iff]
    constructor
    · exact fun right => ⟨_, _, oracleAt, found, right⟩
    · rintro ⟨o, reading, oracleAt', found', right⟩
      cases oracleAt.symm.trans oracleAt'
      cases found.symm.trans found'
      exact right
  | paused resourceAt =>
    show ((_ == _) = true) ↔ _
    rw [beq_iff_eq]
    constructor
    · exact fun same => ⟨_, resourceAt, same⟩
    · rintro ⟨r, resourceAt', same⟩
      cases resourceAt.symm.trans resourceAt'
      exact same
  | storageEquals resourceAt resolved =>
    show Option.any _ _ = true ↔ _
    simp only [Option.any_eq_true, Value.agrees_iff]
    constructor
    · rintro ⟨v, found, same⟩
      exact ⟨_, v, _, resourceAt, found, resolved, same⟩
    · rintro ⟨r, v, w, resourceAt', found, resolved', same⟩
      cases resourceAt.symm.trans resourceAt'
      cases resolved.symm.trans resolved'
      exact ⟨v, found, same⟩

/-! ## Checking -/

/-- An invariant that is evaluated records its assertion. -/
theorem check_of_evaluated (set : AssertionSet) (h : Evaluated s c i a) :
    i.check s c set = (.ok (), set.record a) := by
  rw [check, assertion_eq_ok_iff.2 h]

/-- An invariant with an obstacle fails, and nothing is recorded. -/
theorem check_of_obstacle (set : AssertionSet) (h : Obstacle s c i) :
    ∃ e, i.check s c set = (.error e, set) := by
  rw [check]
  cases made : i.assertion s c with
  | ok a => exact absurd h (assertion_eq_ok_iff.1 made).not_obstacle
  | error e => exact ⟨e, rfl⟩

/-- What checking an invariant comes to. -/
structure Decided (s : Snapshot) (c : Chain) (set : AssertionSet) (i : Invariant) : Prop where
  /-- It fails exactly if something is in the way, and then the set is as before. -/
  fails_iff : (∃ e, (i.check s c set).1 = .error e) ↔ Obstacle s c i
  untouched : ∀ e, (i.check s c set).1 = .error e → (i.check s c set).2 = set
  /-- Otherwise one assertion is recorded, which halts no set. In a set that is not halted it holds
  exactly if what the invariant states is true. -/
  records : (i.check s c set).1 = .ok () →
    ∃ a, a.name = i.title ∧ a.gating = false ∧ (i.check s c set).2 = set.record a ∧
      (set.haltedBy = none → (set.holds a = true ↔ i.States s c))
  /-- That set has then evaluated one more, and nothing new has failed exactly if it is true. -/
  counts : (i.check s c set).1 = .ok () → set.haltedBy = none →
    (i.check s c set).2.haltedBy = none ∧
      (i.check s c set).2.evaluated = set.evaluated + 1 ∧
      (i.check s c set).2.skipped = set.skipped ∧
      ((i.check s c set).2.failures = set.failures ↔ i.States s c)

/-- **To check an invariant is to decide what it states.** -/
theorem decided_check (s : Snapshot) (c : Chain) (set : AssertionSet) (i : Invariant) :
    Decided s c set i := by
  by_cases obstacle : Obstacle s c i
  · obtain ⟨e, checked⟩ := check_of_obstacle set obstacle
    constructor
    · exact ⟨fun _ => obstacle, fun _ => ⟨e, by rw [checked]⟩⟩
    · intro e' _
      rw [checked]
    · intro ok
      rw [checked] at ok
      cases ok
    · intro ok
      rw [checked] at ok
      cases ok
  · obtain ⟨a, evaluated⟩ := exists_evaluated obstacle
    have checked := check_of_evaluated set evaluated
    constructor
    · refine ⟨?_, fun h => absurd h obstacle⟩
      rintro ⟨e, fails⟩
      rw [checked] at fails
      cases fails
    · intro e fails
      rw [checked] at fails
      cases fails
    · intro _
      refine ⟨a, evaluated.name, evaluated.gating, by rw [checked], fun going => ?_⟩
      rw [AssertionSet.holds, going, ← evaluated.holds_iff]
      rfl
    · intro _ going
      rw [checked, ← evaluated.holds_iff]
      cases held : a.holds with
      | true =>
        rw [AssertionSet.record_of_holds going held]
        exact ⟨going, rfl, rfl, iff_of_true rfl rfl⟩
      | false =>
        rw [AssertionSet.record_of_fails going held, evaluated.gating]
        exact ⟨rfl, rfl, rfl, by simp⟩

end Invariant
end Rollout
