/-
# A failed staging leaves nothing behind

A proposal whose staging fails goes straight to its teardown. Of what it could change nothing is
changed by the run itself:

| what | is |
| --- | --- |
| the registry and its log | as before the proposal |
| names to be retired | not retired |
| the payload | not executed |
| the world | as the deploy hook, if it is called, and the teardown hook leave it |

So if those two hooks leave the world as it was, the catalogue without the proposal is run to the
same end: the same registry and world, and the same results of all other proposals
(`Runner.isolated_of_run`).
-/

import Rollout.Proofs.Run.Moves
import Rollout.Proofs.Run.Trace

namespace Rollout

variable {σ : Type}

/-! ## Catalogues without a proposal -/

namespace Catalogue

/-- The catalogue without the slot of an id. -/
def without (c : Catalogue σ) (id : String) : Catalogue σ where
  mode := c.mode
  slots := c.slots.filter (·.id ≠ id)
  distinct := (List.filter_sublist.map _).nodup c.distinct

/-- Leaving a proposal out has no part in whether others deploy. -/
theorem deploys_without (c : Catalogue σ) (id : String) (p : Proposal σ) :
    (c.without id).deploys p = c.deploys p := rfl

/-- Leaving a proposal out leaves the other active ones. -/
theorem active_without (c : Catalogue σ) (id : String) :
    (c.without id).active = c.active.filter (·.id ≠ id) := by
  rw [active, active, without, List.filterMap_filter, List.filter_filterMap]
  refine List.filterMap_congr fun s _ => ?_
  cases s with
  | active p => by_cases h : p.id = id <;> simp [Slot.id, Slot.proposal?, h, Option.filter]
  | placeholder id' category => by_cases h : id' = id <;> simp [Slot.id, Slot.proposal?, h]

/-- A proposal between others is taken out, and those stay. -/
theorem active_without_of_eq {c : Catalogue σ} {before after : List (Proposal σ)} {p : Proposal σ}
    (h : c.active = before ++ p :: after) : (c.without p.id).active = before ++ after := by
  have distinct := c.nodup_ids_active
  rw [h, List.map_append, List.map_cons, List.nodup_append, List.nodup_cons] at distinct
  obtain ⟨-, ⟨fresh, -⟩, apart⟩ := distinct
  have before_ne : ∀ q ∈ before, q.id ≠ p.id := fun q hq =>
    apart _ (List.mem_map_of_mem hq) _ List.mem_cons_self
  have after_ne : ∀ q ∈ after, q.id ≠ p.id := fun q hq e => fresh (e ▸ List.mem_map_of_mem hq)
  rw [active_without, h, List.filter_append, List.filter_cons, if_neg (by simp),
    List.filter_eq_self.2 fun q hq => by simp [before_ne q hq],
    List.filter_eq_self.2 fun q hq => by simp [after_ne q hq]]

/-- No placeholder is taken out with a proposal. -/
theorem placeholders_without {c : Catalogue σ} {p : Proposal σ} (hp : p ∈ c.active) :
    (c.without p.id).placeholders = c.placeholders := by
  obtain ⟨t, ht, proposal⟩ := List.mem_filterMap.1 hp
  have id_t : t.id = p.id := by
    cases t with
    | active q => cases proposal; rfl
    | placeholder id category => cases proposal
  have apart : ∀ s ∈ c.slots, s.proposal?.isNone = true → s.id ≠ p.id := by
    intro s hs none e
    rw [List.inj_on_of_nodup_map c.distinct hs ht (e.trans id_t.symm), proposal] at none
    cases none
  rw [placeholders, placeholders, without, List.filter_filter]
  congr 1
  refine List.filter_congr fun s hs => ?_
  cases none : s.proposal?.isNone with
  | true => simp [apart s hs none]
  | false => rfl

end Catalogue

namespace Runner

variable {r : Runner σ} {p : Proposal σ} {deploys : Bool} {registry : Registry} {w w₁ : World σ}

/-! ## A proposal whose staging fails -/

/-- What the teardown hook sees after a staging that failed. -/
def strandedContext (r : Runner σ) (registry : Snapshot) : PhaseContext where
  deployer := r.config.deployer
  registry := registry
  previous := registry
  resources := []
  outputs := .empty
  logging := r.config.logging

/-- The hooks that are called for a proposal whose staging fails leave the world as it is: the chain,
and what is kept beside it. Hooks that are functions of their context and the chain keep nothing, so
of those it is asked that they leave the chain alone. -/
structure Harmless (r : Runner σ) (p : Proposal σ) (deploys : Bool) (registry : Snapshot)
    (w : World σ) : Prop where
  deploy : deploys = true → (p.lifecycle.deploy (r.deployContext registry) w).2 = w
  teardown : (p.lifecycle.teardown (r.strandedContext registry) w).2 = w

/-- Only staging fails in its phases. -/
theorem exists_staged_eq_error
    (failed : (r.applyProposal p deploys registry w).result.failedIn .resolve = true ∨
      (r.applyProposal p deploys registry w).result.failedIn .deploy = true) :
    ∃ e w₁, r.staged p deploys registry.current w = (.error e, w₁) := by
  obtain ⟨calls, g, o, w', course, applied, -⟩ := applyProposal_cases r p deploys registry w
  rw [applied, ProposalResult.failedIn_concluded _ _ (by decide),
    ProposalResult.failedIn_concluded _ _ (by decide)] at failed
  cases course with
  | unstaged staging => exact ⟨_, _, staging⟩
  | unconfigured staging setup fails => exact absurd failed (by rintro (h | h) <;> cases h)
  | ungoverned setUp fails => exact absurd failed (by rintro (h | h) <;> cases h)
  | unretired executed fails => exact absurd failed (by rintro (h | h) <;> cases h)
  | checked executed retiring context hook =>
    rw [failedIn_validated (by decide), failedIn_validated (by decide)] at failed
    exact absurd failed (by simp)

/-- **A proposal whose staging fails leaves nothing behind** that its hooks do not. -/
theorem applyProposal_of_unstaged {e : RunError}
    (staging : r.staged p deploys registry.current w = (.error e, w₁)) :
    (r.applyProposal p deploys registry w).registry = registry ∧
      (r.applyProposal p deploys registry w).world
        = (p.lifecycle.teardown (r.strandedContext registry.current) w₁).2 := by
  have course := Course.unstaged staging
  rcases teardown : p.lifecycle.teardown (r.strandedContext registry.current) w₁ with ⟨o, w'⟩
  rw [course.applyProposal_eq teardown]
  exact ⟨rfl, rfl⟩

/-- A proposal that fails to get its resources, and whose hooks are harmless, changes nothing. -/
theorem applyProposal_of_harmless
    (failed : (r.applyProposal p deploys registry w).result.failedIn .resolve = true ∨
      (r.applyProposal p deploys registry w).result.failedIn .deploy = true)
    (harmless : Harmless r p deploys registry.current w) :
    (r.applyProposal p deploys registry w).registry = registry ∧
      (r.applyProposal p deploys registry w).world = w := by
  obtain ⟨e, w₁, staging⟩ := exists_staged_eq_error failed
  have same : w₁ = w := by
    have world := r.world_staged p deploys registry.current w
    rw [staging] at world
    cases deploys with
    | true => exact world.trans (harmless.deploy rfl)
    | false => exact world
  subst same
  obtain ⟨kept, left⟩ := applyProposal_of_unstaged staging
  exact ⟨kept, left.trans harmless.teardown⟩

/-! ## Runs -/

variable {c : Catalogue σ}

/-- A proposal that leaves registry and world as they are can be left out of several. -/
theorem applyAll_without {before after : List (Proposal σ)}
    (kept : let (registry₁, w₁) := (r.applyAll c before registry w).2
      (r.applyProposal p (c.deploys p) registry₁ w₁).registry = registry₁ ∧
        (r.applyProposal p (c.deploys p) registry₁ w₁).world = w₁) :
    r.applyAll c (before ++ after) registry w =
      let (xs, registry', w') := r.applyAll c (before ++ p :: after) registry w
      (xs.eraseIdx before.length, registry', w') := by
  obtain ⟨same_registry, same_world⟩ := kept
  have length : (r.applyAll c before registry w).1.length = before.length := by
    simpa using congrArg List.length (ids_applyAll r c before registry w)
  simp only [applyAll_append, applyAll, same_registry, same_world]
  rw [← length, List.eraseIdx_append_of_length_le (Nat.le_refl _), Nat.sub_self]
  rfl

/-- **What fails staging can be left out.** If dependencies are not strict and a deployer is set, the
run comes to a report; and if the staging of an active proposal fails and the hooks called for it
leave the world as it is, then the catalogue without it comes to the same registry and world, and to
the same results of all others. -/
theorem isolated_of_run (c : Catalogue σ) (initial : Registry) (w : World σ)
    (deployer : r.config.deployer ≠ .zero) (lax : r.config.strictDependencies = false) :
    ∃ report w', r.run c initial w = (.ok report, w') ∧
      ∀ i p x, c.active[i]? = some p → report.results[i]? = some x →
        x.failedIn .resolve = true ∨ x.failedIn .deploy = true →
        Harmless r p (c.deploys p) (r.left c initial w i).1.current (r.left c initial w i).2 →
          r.run (c.without p.id) initial w
            = (.ok { report with results := report.results.eraseIdx i }, w') := by
  have accepted : ∀ c : Catalogue σ, r.refusal? c initial.current = none := fun c => by
    simp [refusal?, Address.isZero, deployer, lax]
  have run := run_of_accepted (w := w) (accepted c)
  refine ⟨_, _, run, fun i p x hp hx failed harmless => ?_⟩
  obtain ⟨hi, at_i⟩ := List.getElem?_eq_some_iff.1 hp
  have split : c.active = c.active.take i ++ p :: c.active.drop (i + 1) := by
    rw [← at_i, List.getElem_cons_drop, List.take_append_drop]
  have place : (c.active.take i).length = i := List.length_take_of_le (Nat.le_of_lt hi)
  have result := result_of_run run i
  rw [hx, hp, Option.map_some, Option.some.injEq] at result
  rw [result] at failed
  have without : r.applyAll c (c.active.take i ++ c.active.drop (i + 1)) initial w = _ :=
    applyAll_without (applyProposal_of_harmless failed harmless)
  rw [← split, place] at without
  have deploys := applyAll_congr (r := r) (c.deploys_without p.id)
  rw [run_of_accepted (accepted _), Catalogue.active_without_of_eq split, deploys, without,
    Catalogue.placeholders_without (List.mem_of_getElem? hp)]

end Runner

/-- The runner that takes note of issues and goes on. -/
def Drill.lax : Runner Unit :=
  { Drill.runner with config := { Drill.runner.config with strictDependencies := false } }

/-- The proposal that would move the pool without saying so can be left out. -/
theorem Runner.isolated_of_run_relocation : ∃ report w',
    Drill.lax.run Drill.relocation (.ofHandles [Drill.pool]) Drill.world = (.ok report, w') ∧
      report.results.map (·.id) = ["away", "astray", "back"] ∧
      Drill.lax.run (Drill.relocation.without "astray") (.ofHandles [Drill.pool]) Drill.world
        = (.ok { report with results := report.results.eraseIdx 1 }, w') := by
  obtain ⟨report, w', run, isolated⟩ := isolated_of_run (r := Drill.lax) Drill.relocation
    (.ofHandles [Drill.pool]) Drill.world (by decide) rfl
  have results : report.results = (Drill.lax.applyAll Drill.relocation Drill.relocation.active
      (.ofHandles [Drill.pool]) Drill.world).1 := by
    rw [(run_eq_ok run).2.1]
  refine ⟨report, w', run, ids_of_run run, isolated 1 _ _ rfl (by rw [results]; rfl) ?_ ?_⟩
  · exact .inr (by decide)
  · exact ⟨fun _ => rfl, rfl⟩

end Rollout
