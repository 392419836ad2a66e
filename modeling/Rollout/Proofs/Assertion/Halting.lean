/-
# A failed gate halts a set

Assertions are made in six forms (`Assertion.Form`), each with a predicate of its own:

| form | holds iff |
| --- | --- |
| `check`, `checkWith`, `require` | as given |
| `equal x y` | the two are the same |
| `within v a b` | `a ≤ v ≤ b` |
| `close x y t` | `x - y` is at most `t`, with either sign |

The predicates are about numbers without bound, so that no sum or difference of amounts can wrap.

Of the assertions that are made one after another in a fresh set, the first `require` that fails is
the *gate*. All up to it are evaluated and all after it are skipped, whatever their forms; what
this means for the failures, the answers and the verdict is `AssertionSet.Halting`.
-/

import Rollout.Proofs.Assertion.Recording

namespace Rollout

namespace Assertion

/-! ## Forms -/

/-- The forms in which an assertion is made. -/
inductive Form : Type 1
  | check (name : String) (holds : Bool)
  | checkWith (name : String) (holds : Bool) (detail : String)
  | require (name : String) (holds : Bool)
  /-- Two values of any type, with its equality and with what a value of it is written as. -/
  | equal {α : Type} (name : String) (same : α → α → Bool) (spell : α → String)
      (actual expected : α)
  | within (name : String) (value least greatest : Amount)
  | close (name : String) (actual expected tolerance : Amount)

namespace Form

variable {f : Form}

/-- The assertion that is made. -/
def assertion : Form → Assertion
  | check name holds => .check name holds
  | checkWith name holds detail => { Assertion.check name holds with detail }
  | require name holds => .require name holds
  | equal name same spell x y => .equal name (same x y) (spell x) (spell y)
  | within name v a b => .within name v a b
  | close name x y t => .close name x y t

/-- The name that is given. -/
def name : Form → String
  | check name _ | checkWith name _ _ | require name _ | equal name _ _ _ _
  | within name _ _ _ | close name _ _ _ => name

/-- The predicate. -/
def Holds : Form → Prop
  | check _ holds | checkWith _ holds _ | require _ holds => holds = true
  | equal _ same _ x y => same x y = true
  | within _ v a b => a.units ≤ v.units ∧ v.units ≤ b.units
  | close _ x y t => ((x.units : Int) - y.units).natAbs ≤ t.units

/-- Whether the form is a `require` that fails. -/
def failsGate : Form → Bool
  | require _ holds => !holds
  | _ => false

/-- The assertion that is made has the name that was given. -/
@[simp] theorem name_assertion (f : Form) : f.assertion.name = f.name := by
  cases f <;> rfl

/-- **The assertion that is made holds exactly if what it says is so.** -/
theorem holds_assertion_iff : f.assertion.holds = true ↔ f.Holds := by
  cases f with
  | within name v a b =>
    show (decide (a.units ≤ v.units) && decide (v.units ≤ b.units)) = true ↔ _
    rw [Bool.and_eq_true, decide_eq_true_iff, decide_eq_true_iff]
    rfl
  | close name x y t =>
    have apart : x.distance y = ((x.units : Int) - y.units).natAbs := by
      rw [Amount.distance]
      omega
    show decide (x.distance y ≤ t.units) = true ↔ _
    rw [decide_eq_true_iff, apart]
    rfl
  | check | checkWith | require | equal => exact Iff.rfl

instance : DecidablePred Holds := fun _ => decidable_of_iff _ holds_assertion_iff

/-- Whether the assertion holds is decided by what it says. -/
theorem holds_assertion_eq (f : Form) : f.assertion.holds = decide f.Holds := by
  rw [Bool.eq_iff_iff, decide_eq_true_iff, holds_assertion_iff]

/-- A `require` that fails halts the set, and nothing else does. -/
theorem halts_assertion (f : Form) : f.assertion.halts = f.failsGate := by
  cases f with
  | require name holds => exact Bool.true_and _
  | check | checkWith | equal | within | close => exact Bool.false_and _

end Form
end Assertion

namespace AssertionSet

open Assertion (Form)

variable {fs : List Form} {i : Nat}

/-! ## The gate -/

/-- What assertions made one after another in a fresh set come to. -/
def made (fs : List Form) : AssertionSet := (fs.map Form.assertion).foldl record empty

/-- The number of the first `require` that fails, or of all if none does. -/
def gate (fs : List Form) : Nat := fs.findIdx Form.failsGate

/-- The first of the assertions to halt is the gate. -/
theorem firstHalt_map_assertion (fs : List Form) :
    firstHalt (fs.map Form.assertion) = gate fs := by
  have same : Assertion.halts ∘ Form.assertion = Form.failsGate := funext Form.halts_assertion
  rw [firstHalt, List.findIdx_map, same, gate]

/-- What is made is the tally of the assertions. -/
theorem made_eq_tally (fs : List Form) : made fs = tally (fs.map Form.assertion) :=
  foldl_record_empty _

/-- The assertions that are looked at are those up to the gate. -/
theorem reached_map_assertion (fs : List Form) :
    reached (fs.map Form.assertion) = (fs.take (gate fs + 1)).map Form.assertion := by
  rw [reached, firstHalt_map_assertion, List.map_take]

/-- The set is halted by the name of the gate, if there is one. -/
theorem haltedBy_made (fs : List Form) : (made fs).haltedBy = fs[gate fs]?.map Form.name := by
  rw [made_eq_tally]
  show (fs.map Form.assertion)[firstHalt (fs.map Form.assertion)]?.map (·.name) = _
  rw [firstHalt_map_assertion, List.getElem?_map, Option.map_map]
  congr 1
  exact funext Form.name_assertion

/-! ## One assertion after others -/

/-- One more of the list is one more record. -/
theorem made_take_succ (h : i < fs.length) :
    made (fs.take (i + 1)) = (made (fs.take i)).record fs[i].assertion := by
  rw [made, List.take_succ_eq_append_getElem h, List.map_append, List.foldl_append]
  rfl

/-- The set is going before the gate and at the gate. -/
theorem haltedBy_made_take_of_le (h : i ≤ gate fs) : (made (fs.take i)).haltedBy = none := by
  have all : gate (fs.take i) = (fs.take i).length := by
    rw [gate, List.findIdx_take, ← gate, Nat.min_eq_left h, List.length_take]
    have bound : gate fs ≤ fs.length := List.findIdx_le_length
    omega
  rw [haltedBy_made, all, List.getElem?_eq_none (Nat.le_refl _)]
  rfl

/-- The set is halted after the gate. -/
theorem haltedBy_made_take_of_lt (hi : i < fs.length) (h : gate fs < i) :
    (made (fs.take i)).haltedBy ≠ none := by
  have same : gate (fs.take i) = gate fs := by
    rw [gate, List.findIdx_take, ← gate, Nat.min_eq_right (by omega)]
  have there : gate fs < (fs.take i).length := by
    rw [List.length_take]
    omega
  rw [haltedBy_made, same, List.getElem?_eq_getElem there]
  exact Option.some_ne_none _

/-! ## All assertions -/

/-- What comes of assertions made one after another in a fresh set. -/
structure Halting (fs : List Form) : Prop where
  /-- Every assertion up to the gate is evaluated. -/
  evaluated : ∀ i < fs.length, i ≤ gate fs →
    (made (fs.take (i + 1))).evaluated = (made (fs.take i)).evaluated + 1 ∧
      (made (fs.take (i + 1))).skipped = (made (fs.take i)).skipped
  /-- Every later one is counted as skipped, which is all that it does. -/
  skipped : ∀ i < fs.length, gate fs < i →
    made (fs.take (i + 1))
      = { made (fs.take i) with skipped := (made (fs.take i)).skipped + 1 }
  /-- All are counted once. -/
  counted : (made fs).evaluated = (fs.take (gate fs + 1)).length ∧
    (made fs).evaluated + (made fs).skipped = fs.length
  /-- Those that fail are the evaluated ones that do not hold. -/
  failures : (made fs).failures
    = ((fs.take (gate fs + 1)).filter fun f => ¬ f.Holds).map (·.assertion.failure)
  /-- The answer to one is whether it is evaluated and holds. -/
  answers : ∀ i (h : i < fs.length),
    (made (fs.take i)).holds fs[i].assertion = true ↔ i ≤ gate fs ∧ fs[i].Holds
  /-- The set is halted by the gate, if there is one. -/
  haltedBy : (made fs).haltedBy = fs[gate fs]?.map Form.name
  /-- Where something is skipped, something has failed. -/
  failing : 0 < (made fs).skipped → (made fs).allHeld = false

/-- The failures are those up to the gate that do not hold, in order. -/
theorem failures_made (fs : List Form) : (made fs).failures
    = ((fs.take (gate fs + 1)).filter fun f => ¬ f.Holds).map (·.assertion.failure) := by
  have fails : (fun a : Assertion => !a.holds) ∘ Form.assertion = fun f => decide ¬ f.Holds := by
    funext f
    rw [Function.comp, Form.holds_assertion_eq, decide_not]
  rw [made_eq_tally, tally, reached_map_assertion, List.filter_map, List.map_map, fails]
  rfl

/-- Those up to the gate are evaluated and the others skipped. -/
theorem counted_made (fs : List Form) :
    (made fs).evaluated = (fs.take (gate fs + 1)).length ∧
      (made fs).evaluated + (made fs).skipped = fs.length := by
  have evaluated : (made fs).evaluated = (fs.take (gate fs + 1)).length := by
    rw [made_eq_tally, tally, reached_map_assertion, List.length_map]
  have skipped : (made fs).skipped = fs.length - (fs.take (gate fs + 1)).length := by
    rw [made_eq_tally, tally, reached_map_assertion, List.length_map, List.length_map]
  have bound : (fs.take (gate fs + 1)).length ≤ fs.length := by
    rw [List.length_take]
    exact Nat.min_le_right _ _
  exact ⟨evaluated, by omega⟩

/-- **A failed gate halts a set**, and nothing else keeps an assertion from being evaluated. -/
theorem halting_made (fs : List Form) : Halting fs where
  evaluated i hi h := by
    have going := haltedBy_made_take_of_le h
    rw [made_take_succ hi]
    cases held : fs[i].assertion.holds with
    | true => rw [record_of_holds going held]; exact ⟨rfl, rfl⟩
    | false => rw [record_of_fails going held]; exact ⟨rfl, rfl⟩
  skipped i hi h := by
    rw [made_take_succ hi, record_of_halted (haltedBy_made_take_of_lt hi h)]
  counted := counted_made fs
  failures := failures_made fs
  answers i hi := by
    rw [holds, Bool.and_eq_true, Form.holds_assertion_iff]
    refine and_congr_left fun _ => ?_
    rcases Nat.lt_or_ge (gate fs) i with after | before
    · have halted := haltedBy_made_take_of_lt hi after
      simp [halted, Nat.not_le.2 after]
    · have going := haltedBy_made_take_of_le before
      simp [going, before]
  haltedBy := haltedBy_made fs
  failing skips := by
    -- Something comes after the gate, so that the gate is among the assertions, and it failed.
    have counts := counted_made fs
    rw [List.length_take] at counts
    have there : gate fs < fs.length := by omega
    have failed : fs[gate fs].failsGate = true := List.findIdx_getElem
    have dead : ¬ fs[gate fs].Holds := by
      rw [← Form.holds_assertion_iff, Bool.not_eq_true]
      have halts := (Form.halts_assertion _).trans failed
      rw [Assertion.halts, Bool.and_eq_true, Bool.not_eq_true'] at halts
      exact halts.2
    have mem : fs[gate fs] ∈ fs.take (gate fs + 1) := by
      rw [List.take_succ_eq_append_getElem there]
      exact List.mem_append_right _ List.mem_cons_self
    rw [allHeld, List.isEmpty_eq_false_iff, failures_made]
    exact List.ne_nil_of_mem
      (List.mem_map_of_mem (List.mem_filter.2 ⟨mem, decide_eq_true dead⟩))

end AssertionSet
end Rollout
