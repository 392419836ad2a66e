/-
# What the dependency check knows

The check goes through the proposals with the names that are available. A proposal adds those
that it writes and then takes away those that it retires, whatever else happens to it
(`Availability.mem_available_after_iff`), and if there are no issues every proposal finds what it
needs among the names that the ones before it leave (`Catalogue.needs_available`).
-/

import Rollout.Catalogue.Dependencies
import Rollout.Proofs.Table.Members

namespace Rollout

variable {σ : Type}

/-! ## One proposal -/

namespace Availability

/-- Providing names makes them available and leaves all others as they are. -/
theorem mem_available_foldl_provide {a : Availability} {ns : List String} {n : String} :
    n ∈ (ns.foldl provide a).available.toList ↔ n ∈ ns ∨ n ∈ a.available.toList := by
  induction ns generalizing a with
  | nil => simp
  | cons m ns ih =>
    rw [List.foldl_cons, ih, provide, KeySet.mem_add, List.mem_cons, or_left_comm, or_assoc]

/-- Retiring names makes them unavailable and leaves all others as they are. -/
theorem mem_available_foldl_retire {a : Availability} {id : String} {ns : List String}
    {n : String} :
    n ∈ (ns.foldl (retire id) a).available.toList ↔ n ∉ ns ∧ n ∈ a.available.toList := by
  induction ns generalizing a with
  | nil => simp
  | cons m ns ih =>
    rw [List.foldl_cons, ih, retire, KeySet.mem_erase, List.mem_cons, not_or, and_left_comm,
      and_assoc]

/-- What is available after a proposal. -/
theorem mem_available_after_iff {a : Availability} {p : Proposal σ} {n : String} :
    n ∈ (a.after p).available.toList ↔
      n ∉ p.deprecated.toList ∧ (n ∈ p.affected.toList ∨ n ∈ a.available.toList) := by
  rw [after, mem_available_foldl_retire, mem_available_foldl_provide]

/-- A name is without issue exactly if it is available. -/
theorem issue?_eq_none_iff {a : Availability} {p : Proposal σ} {n : String} :
    a.issue? p n = none ↔ n ∈ a.available.toList := by
  rw [← KeySet.contains_iff_mem, issue?]
  cases a.available.contains n with
  | true => simp
  | false => cases a.retiredBy.find? n <;> simp

end Availability

/-! ## All proposals -/

namespace Catalogue

/-- What a proposal needs: what it retires and, where it does not deploy, what it expects and
writes. -/
theorem mem_needs_iff {c : Catalogue σ} {p : Proposal σ} {n : String} :
    n ∈ (c.needs p).toList ↔ n ∈ p.deprecated.toList ∨
      c.deploys p = false ∧ (n ∈ p.expected.toList ∨ n ∈ p.affected.toList) := by
  rw [needs]
  cases c.deploys p with
  | true => simp
  | false =>
    rw [if_neg Bool.false_ne_true, KeySet.mem_union, KeySet.mem_union, ← or_assoc, or_comm,
      or_comm (a := n ∈ p.affected.toList), eq_self_iff_true, true_and]

/-- **Without issues, every proposal finds what it needs** among the names that the ones before
it leave. -/
theorem needs_available {c : Catalogue σ} {a : Availability} {ps : List (Proposal σ)}
    (clean : c.issuesOf a ps = []) {i : Nat} {p : Proposal σ} (hp : ps[i]? = some p) {n : String}
    (hn : n ∈ (c.needs p).toList) :
    n ∈ ((ps.take i).foldl Availability.after a).available.toList := by
  induction ps generalizing a i with
  | nil => cases hp
  | cons q ps ih =>
    rw [issuesOf, List.append_eq_nil_iff, List.filterMap_eq_nil_iff] at clean
    cases i with
    | zero =>
      cases hp
      exact Availability.issue?_eq_none_iff.1 (clean.1 n hn)
    | succ i =>
      rw [List.take_succ_cons, List.foldl_cons]
      exact ih clean.2 hp

end Catalogue
end Rollout
