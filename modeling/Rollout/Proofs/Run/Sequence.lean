/-
# Proposals one after another

A run applies the active proposals of a catalogue in order, each to the registry and the world
that the one before it left (`Runner.left`). Every result of its report belongs to the proposal
of the same place, and is what applying that proposal there comes to
(`Runner.result_of_run`); so what holds of one proposal's run holds of each result.
-/

import Rollout.Proofs.Run.Course
import Rollout.Run.Report

namespace Rollout

variable {σ : Type}

namespace Runner

variable {r : Runner σ} {c : Catalogue σ}

/-- The result of a proposal has its identifier. -/
theorem id_applyProposal (r : Runner σ) (p : Proposal σ) (deploys : Bool) (registry : Registry)
    (w : World σ) : (r.applyProposal p deploys registry w).result.id = p.id := by
  obtain ⟨calls, g, o, w', course, applied, -⟩ := applyProposal_cases r p deploys registry w
  rw [applied]
  cases course <;> cases o <;> rfl

/-- The result of a proposal has its category. -/
theorem category_applyProposal (r : Runner σ) (p : Proposal σ) (deploys : Bool)
    (registry : Registry) (w : World σ) :
    (r.applyProposal p deploys registry w).result.category = p.category := by
  obtain ⟨calls, g, o, w', course, applied, -⟩ := applyProposal_cases r p deploys registry w
  rw [applied]
  cases course <;> cases o <;> rfl

/-! ## Several proposals -/

/-- The results have the identifiers of the proposals, in order. -/
theorem ids_applyAll (r : Runner σ) (c : Catalogue σ) (ps : List (Proposal σ))
    (registry : Registry) (w : World σ) :
    (r.applyAll c ps registry w).1.map (·.id) = ps.map (·.id) := by
  induction ps generalizing registry w with
  | nil => rfl
  | cons p ps ih => simp only [applyAll, List.map_cons, ih, id_applyProposal]

/-- The results have the categories of the proposals, in order. -/
theorem categories_applyAll (r : Runner σ) (c : Catalogue σ) (ps : List (Proposal σ))
    (registry : Registry) (w : World σ) :
    (r.applyAll c ps registry w).1.map (·.category) = ps.map (·.category) := by
  induction ps generalizing registry w with
  | nil => rfl
  | cons p ps ih => simp only [applyAll, List.map_cons, ih, category_applyProposal]

/-- Of a catalogue nothing counts but which proposals are deployed. -/
theorem applyAll_congr {c' : Catalogue σ} (h : ∀ p, c.deploys p = c'.deploys p)
    (ps : List (Proposal σ)) (registry : Registry) (w : World σ) :
    r.applyAll c ps registry w = r.applyAll c' ps registry w := by
  induction ps generalizing registry w with
  | nil => rfl
  | cons p ps ih => simp only [applyAll, h, ih]

/-- What some proposals leave, the others are applied to. -/
theorem applyAll_append (r : Runner σ) (c : Catalogue σ) (ps qs : List (Proposal σ))
    (registry : Registry) (w : World σ) :
    r.applyAll c (ps ++ qs) registry w =
      let (xs, registry₁, w₁) := r.applyAll c ps registry w
      let (ys, registry₂, w₂) := r.applyAll c qs registry₁ w₁
      (xs ++ ys, registry₂, w₂) := by
  induction ps generalizing registry w with
  | nil => rfl
  | cons p ps ih => simp only [List.cons_append, applyAll, ih]

/-- **What every proposal keeps, all of them keep.** -/
theorem applyAll_induction {P : Registry → World σ → Prop} {ps : List (Proposal σ)}
    {registry : Registry} {w : World σ} (start : P registry w)
    (step : ∀ p ∈ ps, ∀ registry w, P registry w →
      P (r.applyProposal p (c.deploys p) registry w).registry
        (r.applyProposal p (c.deploys p) registry w).world) :
    P (r.applyAll c ps registry w).2.1 (r.applyAll c ps registry w).2.2 := by
  induction ps generalizing registry w with
  | nil => exact start
  | cons p ps ih =>
    exact ih (step p List.mem_cons_self registry w start)
      fun q hq => step q (List.mem_cons_of_mem _ hq)

/-- The first results are those of the first proposals. -/
theorem take_applyAll (r : Runner σ) (c : Catalogue σ) (ps : List (Proposal σ))
    (registry : Registry) (w : World σ) (i : Nat) :
    (r.applyAll c ps registry w).1.take i = (r.applyAll c (ps.take i) registry w).1 := by
  induction ps generalizing registry w i with
  | nil => simp [applyAll]
  | cons p ps ih =>
    cases i with
    | zero => rfl
    | succ i => simp only [applyAll, List.take_succ_cons, ih]

/-- The registry and the world that the first proposals of a catalogue leave. -/
def left (r : Runner σ) (c : Catalogue σ) (initial : Registry) (w : World σ) (i : Nat) :
    Registry × World σ :=
  (r.applyAll c (c.active.take i) initial w).2

/-- A proposal is applied to what the ones before it left. -/
theorem left_succ (r : Runner σ) (initial : Registry) (w : World σ) {i : Nat} {p : Proposal σ}
    (hp : c.active[i]? = some p) : r.left c initial w (i + 1) =
      let (registry, w') := r.left c initial w i
      let g := r.applyProposal p (c.deploys p) registry w'
      (g.registry, g.world) := by
  rw [left, List.take_add_one, hp, applyAll_append]
  rfl

/-- After the last proposal nothing changes. -/
theorem left_of_length_le (r : Runner σ) (initial : Registry) (w : World σ) {i : Nat}
    (h : c.active.length ≤ i) : r.left c initial w i = (r.applyAll c c.active initial w).2 := by
  rw [left, List.take_of_length_le h]

/-- The result at a place is that of the proposal at that place, applied to what the ones before it
left. -/
theorem getElem?_applyAll (r : Runner σ) (c : Catalogue σ) (ps : List (Proposal σ))
    (registry : Registry) (w : World σ) (i : Nat) :
    (r.applyAll c ps registry w).1[i]? = ps[i]?.map fun p =>
      let (registry', w') := (r.applyAll c (ps.take i) registry w).2
      (r.applyProposal p (c.deploys p) registry' w').result := by
  induction ps generalizing registry w i with
  | nil => rfl
  | cons p ps ih =>
    cases i with
    | zero => rfl
    | succ i =>
      simp only [applyAll, List.getElem?_cons_succ, ih, List.take_succ_cons]

/-! ## Runs -/

/-- A run that comes to a report has applied the active proposals in order. -/
theorem run_eq_ok {initial : Registry} {w w' : World σ} {report : Report}
    (h : r.run c initial w = (.ok report, w')) :
    r.refusal? c initial.current = none ∧
      r.applyAll c c.active initial w = (report.results, report.registry, w') ∧
      report.skipped = c.placeholders := by
  rw [run] at h
  cases hr : r.refusal? c initial.current with
  | some e => rw [hr] at h; cases h
  | none =>
    rw [hr] at h
    cases h
    exact ⟨rfl, rfl, rfl⟩

/-- **What a result is.** It belongs to the active proposal of its place, and is what applying
that proposal to what the ones before it left comes to. -/
theorem result_of_run {initial : Registry} {w w' : World σ} {report : Report}
    (h : r.run c initial w = (.ok report, w')) (i : Nat) :
    report.results[i]? = c.active[i]?.map fun p =>
      (r.applyProposal p (c.deploys p) (r.left c initial w i).1 (r.left c initial w i).2).result := by
  have hi := getElem?_applyAll r c c.active initial w i
  rw [(run_eq_ok h).2.1] at hi
  exact hi

/-- A result of a run is what some proposal came to. -/
theorem exists_of_mem_results {initial : Registry} {w w' : World σ} {report : Report}
    (h : r.run c initial w = (.ok report, w')) {x : ProposalResult} (hx : x ∈ report.results) :
    ∃ p deploys registry w₀, x = (r.applyProposal p deploys registry w₀).result := by
  obtain ⟨i, hi⟩ := List.mem_iff_getElem?.1 hx
  rw [result_of_run h, Option.map_eq_some_iff] at hi
  obtain ⟨p, -, rfl⟩ := hi
  exact ⟨_, _, _, _, rfl⟩

/-- A result has a place among the results, and an active proposal has the same. -/
theorem exists_active_of_mem_results {initial : Registry} {w w' : World σ} {report : Report}
    (h : r.run c initial w = (.ok report, w')) {x : ProposalResult} (hx : x ∈ report.results) :
    ∃ (i : Nat) (p : Proposal σ), c.active[i]? = some p ∧ report.results[i]? = some x := by
  obtain ⟨i, hi⟩ := List.mem_iff_getElem?.1 hx
  have result := result_of_run h i
  rw [hi, eq_comm, Option.map_eq_some_iff] at result
  obtain ⟨p, hp, -⟩ := result
  exact ⟨i, p, hp, hi⟩

/-- The results of a run have the identifiers of the active proposals. -/
theorem ids_of_run {initial : Registry} {w w' : World σ} {report : Report}
    (h : r.run c initial w = (.ok report, w')) :
    report.results.map (·.id) = c.active.map (·.id) := by
  have := ids_applyAll r c c.active initial w
  rwa [(run_eq_ok h).2.1] at this

end Runner

/-! ## A small catalogue

Four proposals and a placeholder: one deploys a pool, one moves from the core to the pool, one
brings a pool in and panics in its setup, and one asks for what no one provides. Statements on
runs are tried on it. -/

namespace Drill

/-- The core, which is there from the start. -/
def core : Handle := { name := "core", address := .ofNat 1 }

/-- The pool that proposals deploy. -/
def pool : Handle := { name := "pool", address := .ofNat 2 }

/-- The hooks that deploy resources and otherwise do nothing. -/
def deploying (hs : List Handle) : Lifecycle Unit :=
  { Lifecycle.idle with deploy := fun _ w => (.ok { resources := hs }, w) }

/-- The small catalogue. -/
def catalogue : Catalogue Unit where
  slots := [
    .active { id := "add", affected := .ofList ["pool"], lifecycle := deploying [pool] },
    .active {
      id := "swap"
      deploys := false
      affected := .ofList ["pool"]
      deprecated := .ofList ["core"]
      expected := .ofList ["core"] },
    .active {
      id := "move"
      affected := .ofList ["pool"]
      lifecycle := {
        deploying [{ pool with address := .ofNat 3 }] with
        setup := fun _ w => (.panic none, w) } },
    .placeholder "later" .dao,
    .active {
      id := "drop"
      deprecated := .ofList ["pool"]
      payload := some { title := "drop", commands := [{ target := "vault", method := "close" }] } }]
  distinct := by decide

/-- A runner whose executor panics. -/
def runner : Runner Unit where
  config := { deployer := .ofNat 9 }
  executor _ w := (.panic none, w)

/-- A registry with the core in use. -/
def initial : Registry := .ofHandles [core]

/-- A world with nothing on the chain. -/
def world : World Unit := { chain := .empty, rest := () }

end Drill
end Rollout
