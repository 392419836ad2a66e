/-
# Assertions

An assertion is a named predicate with the answer whether it holds. An `AssertionSet` takes
assertions one after another and keeps those that failed. A gating assertion that fails halts
the set: whatever comes later is counted as skipped and is not looked at.

| assertion | holds if | detail when it fails |
| --- | --- | --- |
| `check`, `require` | as given | a fixed text |
| `within v a b` | `a ≤ v ≤ b` | `v outside [a, b]` |
| `close x y t` | `x` and `y` lie at most `t` apart | `x not within t of y` |
| `equal` | as given | `expected y, got x` |
-/

import Rollout.Amount

namespace Rollout

/-- An assertion that failed: its name, and what was seen. -/
structure AssertionFailure where
  name : String
  detail : String
deriving DecidableEq

namespace AssertionFailure

def text (f : AssertionFailure) : String := f.name ++ ": " ++ f.detail

def decode : Decoder AssertionFailure := fun dialect n => do
  match ← Decoder.record ["name", "detail"] dialect n with
  | [name, detail] =>
    return {
      name := ← Decoder.required Decoder.text dialect name
      detail := ← Decoder.required Decoder.text dialect detail }
  | _ => none

def document (f : AssertionFailure) : Document :=
  .map [("name", .text f.name), ("detail", .text f.detail)]

end AssertionFailure

/-- A named predicate with the answer whether it holds, and what to report if not. -/
structure Assertion where
  name : String
  holds : Bool
  detail : String
  gating : Bool := false
deriving DecidableEq

namespace Assertion

/-- An assertion of its own. -/
def check (name : String) (holds : Bool) : Assertion where
  name := name
  holds := holds
  detail := "predicate did not hold"

/-- An assertion that later ones rely on. -/
def require (name : String) (holds : Bool) : Assertion where
  name := name
  holds := holds
  detail := "precondition did not hold"
  gating := true

/-- The value lies between two bounds, which count as inside. -/
def within (name : String) (value least greatest : Amount) : Assertion where
  name := name
  holds := least.units ≤ value.units && value.units ≤ greatest.units
  detail := value.text ++ " outside [" ++ least.text ++ ", " ++ greatest.text ++ "]"

/-- Two amounts lie no further apart than the tolerance. -/
def close (name : String) (actual expected tolerance : Amount) : Assertion where
  name := name
  holds := actual.distance expected ≤ tolerance.units
  detail := actual.text ++ " not within " ++ tolerance.text ++ " of " ++ expected.text

/-- Two values, given with their texts, are equal. -/
def equal (name : String) (holds : Bool) (actual expected : String) : Assertion where
  name := name
  holds := holds
  detail := "expected " ++ expected ++ ", got " ++ actual

def failure (a : Assertion) : AssertionFailure := ⟨a.name, a.detail⟩

end Assertion

/-- What came of the assertions so far. -/
structure AssertionSet where
  failures : List AssertionFailure := []
  /-- The failed gating assertion. -/
  haltedBy : Option String := none
  evaluated : Nat := 0
  skipped : Nat := 0
deriving DecidableEq

namespace AssertionSet

def empty : AssertionSet := {}

instance : Inhabited AssertionSet := ⟨empty⟩

/-- Whether no assertion failed. -/
def allHeld (s : AssertionSet) : Bool := s.failures.isEmpty

/-- Whether an assertion handed over now would be looked at and hold. -/
def holds (s : AssertionSet) (a : Assertion) : Bool := s.haltedBy.isNone && a.holds

/-- The set after one more assertion. -/
def record (s : AssertionSet) (a : Assertion) : AssertionSet :=
  if s.haltedBy.isSome then { s with skipped := s.skipped + 1 }
  else if a.holds then { s with evaluated := s.evaluated + 1 }
  else
    { s with
      evaluated := s.evaluated + 1
      failures := s.failures ++ [a.failure]
      haltedBy := if a.gating then some a.name else none }

end AssertionSet
end Rollout
