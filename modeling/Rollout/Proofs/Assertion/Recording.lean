/-
# What recording comes to

A set that is not halted looks at an assertion, a halted one only counts it:

| set | assertion | after it |
| --- | --- | --- |
| halted | any | one more is skipped |
| not halted | holds | one more is looked at |
| not halted | fails | one more is looked at and failed; it halts the set if it is gating |

So of a list of assertions those up to the first failed gating one are looked at
(`AssertionSet.reached`), and what the list comes to is read off these (`AssertionSet.tally`).
A set that is not halted takes that up after what it has already (`AssertionSet.foldl_record`): what
was recorded before has no influence on what is recorded after.
-/

import Rollout.Assertion

namespace Rollout

/-- Whether a set that looks at the assertion is halted by it. -/
def Assertion.halts (a : Assertion) : Bool := a.gating && !a.holds

namespace AssertionSet

variable {s : AssertionSet} {a : Assertion} {as : List Assertion}

/-! ## One assertion -/

/-- A halted set counts what is recorded as skipped and looks at nothing. -/
theorem record_of_halted (halted : s.haltedBy ≠ none) :
    s.record a = { s with skipped := s.skipped + 1 } := by
  rw [record, if_pos (Option.isSome_iff_ne_none.2 halted)]

/-- What holds is counted, and nothing else happens. -/
theorem record_of_holds (going : s.haltedBy = none) (held : a.holds = true) :
    s.record a = { s with evaluated := s.evaluated + 1 } := by
  simp [record, going, held]

/-- What fails is counted and noted, and halts the set if it is gating. -/
theorem record_of_fails (going : s.haltedBy = none) (failed : a.holds = false) :
    s.record a = { s with
      failures := s.failures ++ [a.failure]
      haltedBy := if a.gating then some a.name else none
      evaluated := s.evaluated + 1 } := by
  simp [record, going, failed]

/-- An assertion that halts no set leaves a set going. -/
theorem haltedBy_record (going : s.haltedBy = none) (passable : a.halts = false) :
    (s.record a).haltedBy = none := by
  cases held : a.holds with
  | true => rw [record_of_holds going held, going]
  | false =>
    have ungated : a.gating = false := by simpa [Assertion.halts, held] using passable
    rw [record_of_fails going held, ungated]
    rfl

/-- A halted set counts all that comes and is otherwise as it was. -/
theorem foldl_record_of_halted (halted : s.haltedBy ≠ none) :
    as.foldl record s = { s with skipped := s.skipped + as.length } := by
  induction as generalizing s with
  | nil => rfl
  | cons a as ih =>
    have still : { s with skipped := s.skipped + 1 }.haltedBy ≠ none := halted
    rw [List.foldl_cons, record_of_halted halted, ih still, List.length_cons, Nat.add_assoc,
      Nat.add_comm 1]

/-! ## A list of assertions -/

/-- The number of the first assertion that halts, or of all if none does. -/
def firstHalt (as : List Assertion) : Nat := as.findIdx Assertion.halts

/-- The assertions that are looked at. -/
def reached (as : List Assertion) : List Assertion := as.take (firstHalt as + 1)

/-- What halts at the head of a list is the first to halt. -/
theorem firstHalt_cons_of_halts (h : a.halts = true) : firstHalt (a :: as) = 0 := by
  rw [firstHalt, List.findIdx_cons, h]
  rfl

/-- What does not halt at the head of a list is passed by. -/
theorem firstHalt_cons_of_not_halts (h : a.halts = false) :
    firstHalt (a :: as) = firstHalt as + 1 := by
  rw [firstHalt, List.findIdx_cons, h]
  rfl

/-- Nothing is looked at behind what halts. -/
theorem reached_cons_of_halts (h : a.halts = true) : reached (a :: as) = [a] := by
  rw [reached, firstHalt_cons_of_halts h]
  rfl

/-- What does not halt is looked at before the rest. -/
theorem reached_cons_of_not_halts (h : a.halts = false) :
    reached (a :: as) = a :: reached as := by
  rw [reached, firstHalt_cons_of_not_halts h, List.take_succ_cons, reached]

/-- If none of the assertions halts, all are looked at. -/
theorem reached_eq_self (h : ∀ a ∈ as, a.halts = false) : reached as = as := by
  induction as with
  | nil => rfl
  | cons a as ih =>
    obtain ⟨here, there⟩ := List.forall_mem_cons.1 h
    rw [reached_cons_of_not_halts here, ih there]

/-- What a list of assertions comes to. -/
def tally (as : List Assertion) : AssertionSet where
  failures := ((reached as).filter (!·.holds)).map Assertion.failure
  haltedBy := as[firstHalt as]?.map (·.name)
  evaluated := (reached as).length
  skipped := as.length - (reached as).length

/-- What comes of a set and of what is recorded in it after that. -/
def append (s t : AssertionSet) : AssertionSet where
  failures := s.failures ++ t.failures
  haltedBy := t.haltedBy
  evaluated := s.evaluated + t.evaluated
  skipped := s.skipped + t.skipped

/-- Behind what halts, a list adds one failure and is otherwise skipped. -/
theorem append_tally_of_halts (h : a.halts = true) :
    s.append (tally (a :: as)) =
      { failures := s.failures ++ [a.failure]
        haltedBy := some a.name
        evaluated := s.evaluated + 1
        skipped := s.skipped + as.length } := by
  have failed : a.holds = false := by
    rw [Assertion.halts, Bool.and_eq_true, Bool.not_eq_true'] at h
    exact h.2
  rw [append, tally, reached_cons_of_halts h, firstHalt_cons_of_halts h]
  simp [failed]

/-- What does not halt is evaluated before the rest. -/
theorem tally_cons_of_not_halts (h : a.halts = false) :
    tally (a :: as) =
      { failures := (if a.holds then [] else [a.failure]) ++ (tally as).failures
        haltedBy := (tally as).haltedBy
        evaluated := (tally as).evaluated + 1
        skipped := (tally as).skipped } := by
  rw [tally, reached_cons_of_not_halts h, firstHalt_cons_of_not_halts h]
  cases held : a.holds <;> simp [tally, held]

/-- **A set that is not halted takes up what the assertions come to by themselves.** -/
theorem foldl_record (going : s.haltedBy = none) : as.foldl record s = s.append (tally as) := by
  induction as generalizing s with
  | nil =>
    obtain ⟨failures, haltedBy, evaluated, skipped⟩ := s
    cases going
    simp [append, tally, reached]
  | cons a as ih =>
    rw [List.foldl_cons]
    cases halts : a.halts with
    | true =>
      -- The set is halted, so that the rest of the list is only counted.
      have gating : a.gating = true ∧ a.holds = false := by simpa [Assertion.halts] using halts
      rw [append_tally_of_halts halts, record_of_fails going gating.2, gating.1,
        foldl_record_of_halted (by simp)]
      rfl
    | false =>
      rw [ih (haltedBy_record going halts), tally_cons_of_not_halts halts]
      cases held : a.holds with
      | true =>
        rw [record_of_holds going held]
        simp [append, Nat.add_assoc, Nat.add_comm 1]
      | false =>
        rw [record_of_fails going held]
        simp [append, Nat.add_assoc, Nat.add_comm 1]

/-- Appending to the empty set gives what is appended. -/
theorem empty_append (t : AssertionSet) : empty.append t = t := by
  simp [append, empty]

/-- Recording a list in the empty set gives its tally. -/
theorem foldl_record_empty (as : List Assertion) : as.foldl record empty = tally as := by
  rw [foldl_record rfl, empty_append]

/-- Assertions that halt nothing are all looked at. -/
theorem tally_of_not_halts (h : ∀ a ∈ as, a.halts = false) :
    tally as =
      { failures := (as.filter (!·.holds)).map Assertion.failure, evaluated := as.length } := by
  have none : as[firstHalt as]? = none := by
    have all : firstHalt as = as.length := List.findIdx_eq_length.2 h
    rw [all, List.getElem?_eq_none (Nat.le_refl _)]
  rw [tally, reached_eq_self h, none, Nat.sub_self]
  rfl

end AssertionSet
end Rollout
