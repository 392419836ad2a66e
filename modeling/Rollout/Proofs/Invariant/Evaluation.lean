/-
# How invariants are evaluated

To evaluate an invariant is to look up accounts and to read the chain. `Invariant.Evaluated` has one
case for each kind of invariant: what is looked up and read, and the assertion that is made of it.
Something may be in the way (`Invariant.Obstacle`):

| invariant | in the way is |
| --- | --- |
| `roleHeldBy` | a reference |
| `balanceWithin`, `paused` | a reference, no code |
| `oracleWithin` | a reference, no code, no reading |
| `storageEquals` | a reference, a placeholder, no code |

An invariant is evaluated exactly if nothing is in the way (`Invariant.Evaluated.not_obstacle`,
`Invariant.exists_evaluated`). Nothing else that was evaluated before has any influence.
-/

import Rollout.Invariant
import Rollout.Proofs.Chain.Reads
import Rollout.Proofs.Template.Parties
import Rollout.Proofs.Template.Resolution

namespace Rollout

namespace Invariant

open Template (party parties Placeholder)

variable {s : Snapshot} {c : Chain} {i : Invariant} {a : Assertion}

/-! ## Evaluation -/

/-- What its assertion is called. -/
def title (i : Invariant) : String := "invariant: " ++ i.name

/-- What is looked up and read for an invariant, and the assertion made of it. -/
inductive Evaluated (s : Snapshot) (c : Chain) : Invariant → Assertion → Prop
  | roleHeldBy {role : String} {holders : List String} {exclusive : Bool} {expected : List Address}
      (read : parties s holders = .ok expected) :
      Evaluated s c (.roleHeldBy role holders exclusive)
        (heldAssertion (title (.roleHeldBy role holders exclusive)) expected (c.roleHolders role)
          exclusive)
  | balanceWithin {token holder : String} {least greatest : Amount} {t h : Address}
      (tokenAt : party s token = .ok t) (holderAt : party s holder = .ok h)
      (code : c.hasCode t = true) :
      Evaluated s c (.balanceWithin token holder least greatest)
        (.within (title (.balanceWithin token holder least greatest)) (c.tokenBalance t h) least
          greatest)
  | oracleWithin {oracle : String} {least greatest : Amount} {o : Address} {reading : Reading}
      (oracleAt : party s oracle = .ok o) (code : c.hasCode o = true)
      (read : (c.account o).oracle = some reading) :
      Evaluated s c (.oracleWithin oracle least greatest)
        (readingAssertion (title (.oracleWithin oracle least greatest)) reading least greatest)
  | paused {resource : String} {flag : Bool} {r : Address}
      (resourceAt : party s resource = .ok r) (code : c.hasCode r = true) :
      Evaluated s c (.paused resource flag)
        (.equal (title (.paused resource flag)) ((c.account r).paused == flag)
          (toString (c.account r).paused) (toString flag))
  | storageEquals {resource key : String} {expected v : Value} {r : Address}
      (resourceAt : party s resource = .ok r) (resolved : Template.resolve s expected = .ok v)
      (code : c.hasCode r = true) :
      Evaluated s c (.storageEquals resource key expected)
        (.equal (title (.storageEquals resource key expected))
          (((c.account r).storage.find? key).any (·.agrees v))
          (slotText ((c.account r).storage.find? key)) (slotText (some v)))

/-- **An invariant makes an assertion exactly if it is evaluated to it.** -/
theorem assertion_eq_ok_iff : i.assertion s c = .ok a ↔ Evaluated s c i a := by
  cases i with
  | roleHeldBy role holders exclusive =>
    simp only [assertion, bind_eq_ok_iff, mapError_eq_ok_iff]
    constructor
    · rintro ⟨expected, read, ⟨⟩⟩
      exact .roleHeldBy read
    · intro h
      cases h with
      | roleHeldBy read => exact ⟨_, read, rfl⟩
  | balanceWithin token holder least greatest =>
    simp only [assertion, bind_eq_ok_iff, mapError_eq_ok_iff, Chain.balanceOf_eq_ok_iff]
    constructor
    · rintro ⟨t, tokenAt, h, holderAt, balance, ⟨code, rfl⟩, ⟨⟩⟩
      exact .balanceWithin tokenAt holderAt code
    · intro h
      cases h with
      | balanceWithin tokenAt holderAt code => exact ⟨_, tokenAt, _, holderAt, _, ⟨code, rfl⟩, rfl⟩
  | oracleWithin oracle least greatest =>
    simp only [assertion, bind_eq_ok_iff, mapError_eq_ok_iff, Chain.readOracle_eq_ok_iff]
    constructor
    · rintro ⟨o, oracleAt, reading, ⟨code, read⟩, ⟨⟩⟩
      exact .oracleWithin oracleAt code read
    · intro h
      cases h with
      | oracleWithin oracleAt code read => exact ⟨_, oracleAt, _, ⟨code, read⟩, rfl⟩
  | paused resource flag =>
    simp only [assertion, bind_eq_ok_iff, mapError_eq_ok_iff, Chain.isPaused_eq_ok_iff]
    constructor
    · rintro ⟨r, resourceAt, actual, ⟨code, rfl⟩, ⟨⟩⟩
      exact .paused resourceAt code
    · intro h
      cases h with
      | paused resourceAt code => exact ⟨_, resourceAt, _, ⟨code, rfl⟩, rfl⟩
  | storageEquals resource key expected =>
    simp only [assertion, bind_eq_ok_iff, mapError_eq_ok_iff, Chain.storage_eq_ok_iff]
    constructor
    · rintro ⟨r, resourceAt, v, resolved, slot, ⟨code, rfl⟩, ⟨⟩⟩
      exact .storageEquals resourceAt resolved code
    · intro h
      cases h with
      | storageEquals resourceAt resolved code =>
        exact ⟨_, resourceAt, _, resolved, _, ⟨code, rfl⟩, rfl⟩

/-- The assertion of an invariant is called by its title. -/
theorem Evaluated.name (h : Evaluated s c i a) : a.name = i.title := by
  cases h <;> rfl

/-- What an invariant finds halts no set. -/
theorem Evaluated.gating (h : Evaluated s c i a) : a.gating = false := by
  cases h <;> rfl

/-! ## What is in the way -/

/-- The references to accounts. -/
def references : Invariant → List String
  | roleHeldBy _ holders _ => holders
  | balanceWithin token holder _ _ => [token, holder]
  | oracleWithin oracle _ _ => [oracle]
  | paused resource _ => [resource]
  | storageEquals resource _ _ => [resource]

/-- The reference to the contract that is read, if one is. -/
def subject? : Invariant → Option String
  | roleHeldBy _ _ _ => none
  | balanceWithin token _ _ _ => some token
  | oracleWithin oracle _ _ => some oracle
  | paused resource _ => some resource
  | storageEquals resource _ _ => some resource

/-- What keeps an invariant from being evaluated. -/
inductive Obstacle (s : Snapshot) (c : Chain) : Invariant → Prop
  /-- A reference stands for nothing. -/
  | reference {i : Invariant} {r : String} {e : LookupError} (mem : r ∈ i.references)
      (unread : party s r = .error e) : Obstacle s c i
  /-- A placeholder inside the expected value is for a name that is not live. -/
  | placeholder {resource key n : String} {expected : Value} {x : List Value.Step × String}
      (mem : x ∈ expected.texts) (ph : Placeholder x.2 n) (dead : s.isLive n = false) :
      Obstacle s c (.storageEquals resource key expected)
  /-- The contract that is read has no code. -/
  | noCode {i : Invariant} {r : String} {a : Address} (subject : i.subject? = some r)
      (read : party s r = .ok a) (code : c.hasCode a = false) : Obstacle s c i
  /-- The oracle has no reading. -/
  | noReading {oracle : String} {least greatest : Amount} {a : Address}
      (read : party s oracle = .ok a) (silent : (c.account a).oracle = none) :
      Obstacle s c (.oracleWithin oracle least greatest)

/-- All references of an invariant that is evaluated are resolved. -/
theorem Evaluated.exists_party (h : Evaluated s c i a) {r : String} (mem : r ∈ i.references) :
    ∃ x, party s r = .ok x := by
  cases h with
  | roleHeldBy read => exact Template.exists_parties_eq_ok_iff.1 ⟨_, read⟩ r mem
  | balanceWithin tokenAt holderAt =>
    rcases List.mem_pair.1 mem with rfl | rfl
    · exact ⟨_, tokenAt⟩
    · exact ⟨_, holderAt⟩
  | oracleWithin oracleAt => exact List.mem_singleton.1 mem ▸ ⟨_, oracleAt⟩
  | paused resourceAt => exact List.mem_singleton.1 mem ▸ ⟨_, resourceAt⟩
  | storageEquals resourceAt => exact List.mem_singleton.1 mem ▸ ⟨_, resourceAt⟩

/-- The subject of an invariant that is evaluated has code. -/
theorem Evaluated.exists_hasCode (h : Evaluated s c i a) {r : String}
    (subject : i.subject? = some r) : ∃ x, party s r = .ok x ∧ c.hasCode x = true := by
  cases h with
  | roleHeldBy => cases subject
  | balanceWithin tokenAt _ code => cases subject; exact ⟨_, tokenAt, code⟩
  | oracleWithin oracleAt code => cases subject; exact ⟨_, oracleAt, code⟩
  | paused resourceAt code => cases subject; exact ⟨_, resourceAt, code⟩
  | storageEquals resourceAt _ code => cases subject; exact ⟨_, resourceAt, code⟩

/-- An invariant that is evaluated has no obstacle. -/
theorem Evaluated.not_obstacle (h : Evaluated s c i a) : ¬ Obstacle s c i := by
  intro obstacle
  cases obstacle with
  | reference mem unread =>
    obtain ⟨x, read⟩ := h.exists_party mem
    rw [unread] at read
    cases read
  | placeholder mem ph dead =>
    cases h with
    | storageEquals _ resolved =>
      have readable := Template.exists_resolve_eq_ok_iff.1 ⟨_, resolved⟩ _ mem
      have live := Template.failure?_eq_none_iff.1 readable _ ph
      rw [dead] at live
      cases live
  | noCode subject read code =>
    obtain ⟨x, read', code'⟩ := h.exists_hasCode subject
    rw [read] at read'
    cases read'
    rw [code] at code'
    cases code'
  | noReading read silent =>
    cases h with
    | oracleWithin oracleAt _ found =>
      rw [read] at oracleAt
      cases oracleAt
      rw [silent] at found
      cases found

/-- Where nothing is in the way, the invariant is evaluated. -/
theorem exists_evaluated (clear : ¬ Obstacle s c i) : ∃ a, Evaluated s c i a := by
  have reads (r : String) (mem : r ∈ i.references) : ∃ x, party s r = .ok x := by
    cases read : party s r with
    | ok x => exact ⟨x, rfl⟩
    | error e => exact absurd (.reference mem read) clear
  have coded (r : String) (subject : i.subject? = some r) (x : Address)
      (read : party s r = .ok x) : c.hasCode x = true := by
    cases code : c.hasCode x with
    | true => rfl
    | false => exact absurd (.noCode subject read code) clear
  cases i with
  | roleHeldBy role holders exclusive =>
    obtain ⟨expected, read⟩ := Template.exists_parties_eq_ok_iff.2 reads
    exact ⟨_, .roleHeldBy read⟩
  | balanceWithin token holder least greatest =>
    obtain ⟨t, tokenAt⟩ := reads token List.mem_cons_self
    obtain ⟨h, holderAt⟩ := reads holder (List.mem_cons_of_mem _ List.mem_cons_self)
    exact ⟨_, .balanceWithin tokenAt holderAt (coded token rfl t tokenAt)⟩
  | oracleWithin oracle least greatest =>
    obtain ⟨o, oracleAt⟩ := reads oracle List.mem_cons_self
    cases read : (c.account o).oracle with
    | some reading => exact ⟨_, .oracleWithin oracleAt (coded oracle rfl o oracleAt) read⟩
    | none => exact absurd (.noReading oracleAt read) clear
  | paused resource flag =>
    obtain ⟨r, resourceAt⟩ := reads resource List.mem_cons_self
    exact ⟨_, .paused resourceAt (coded resource rfl r resourceAt)⟩
  | storageEquals resource key expected =>
    obtain ⟨r, resourceAt⟩ := reads resource List.mem_cons_self
    obtain ⟨v, resolved⟩ := Template.exists_resolve_eq_ok_iff.2 fun x mem =>
      Template.failure?_eq_none_iff.2 fun n ph => by
        cases live : s.isLive n with
        | true => rfl
        | false => exact absurd (.placeholder mem ph live) clear
    exact ⟨_, .storageEquals resourceAt resolved (coded resource rfl r resourceAt)⟩

end Invariant
end Rollout
