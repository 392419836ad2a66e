/-
# The calls of a whole run

A run that is refused calls nobody. One that is not makes the calls of its proposals one after
another, each proposal applied to what the ones before it left (`Runner.callsAll`). Both are read
off a run whose hooks and executor write down their calls (`Runner.trace`): it comes to the same as
the run without that, and leaves its calls beside it.
-/

import Rollout.Proofs.Run.Sequence

namespace Rollout

variable {σ : Type}

/-! ## Catalogues -/

namespace Slot

/-- A slot whose hooks write down their calls. -/
def recorded : Slot σ → Slot (Recorded σ)
  | active p => active p.recorded
  | placeholder id category => placeholder id category

/-- A recorded slot has the identifier of the slot. -/
theorem id_recorded (s : Slot σ) : s.recorded.id = s.id := by
  cases s <;> rfl

/-- A recorded slot holds the recorded proposal. -/
theorem proposal?_recorded (s : Slot σ) : s.recorded.proposal? = s.proposal?.map Proposal.recorded := by
  cases s <;> rfl

end Slot

namespace Catalogue

/-- Recorded slots have the identifiers of the slots. -/
theorem ids_recorded (slots : List (Slot σ)) :
    (slots.map Slot.recorded).map Slot.id = slots.map Slot.id := by
  rw [List.map_map]
  exact List.map_congr_left fun s _ => s.id_recorded

/-- A catalogue whose hooks write down their calls. -/
def recorded (c : Catalogue σ) : Catalogue (Recorded σ) where
  mode := c.mode
  slots := c.slots.map Slot.recorded
  distinct := by
    rw [ids_recorded]
    exact c.distinct

/-- The active proposals of a recorded catalogue are those of the catalogue, recorded. -/
theorem active_recorded (c : Catalogue σ) : c.recorded.active = c.active.map Proposal.recorded := by
  rw [active, active, recorded, List.filterMap_map, List.map_filterMap]
  exact congrArg (List.filterMap · c.slots) (funext Slot.proposal?_recorded)

/-- Recording leaves placeholders as they are. -/
theorem placeholders_recorded (c : Catalogue σ) : c.recorded.placeholders = c.placeholders := by
  rw [placeholders, placeholders, recorded, List.filter_map, ids_recorded]
  congr 1
  refine List.filter_congr fun s _ => ?_
  cases s <;> rfl

/-- Recording has no part in the issues of proposals. -/
theorem issuesOf_recorded (c : Catalogue σ) (a : Availability) (ps : List (Proposal σ)) :
    c.recorded.issuesOf a (ps.map Proposal.recorded) = c.issuesOf a ps := by
  induction ps generalizing a with
  | nil => rfl
  | cons p ps ih =>
    rw [List.map_cons, issuesOf, issuesOf, ← ih]
    rfl

/-- Writing down calls makes no difference to the dependency check. -/
theorem issues_recorded (c : Catalogue σ) (initial : Snapshot) :
    c.recorded.issues initial = c.issues initial := by
  rw [issues, issues, active_recorded, issuesOf_recorded]

end Catalogue

namespace Runner

variable {r : Runner σ} {c : Catalogue σ} {initial : Registry} {w w' : World σ}

/-! ## Several proposals -/

/-- The calls of proposals that are applied one after another. -/
def callsAll (r : Runner σ) (c : Catalogue σ) :
    List (Proposal σ) → Registry → World σ → List Invocation
  | [], _, _ => []
  | p :: rest, registry, w =>
    let g := r.applyProposal p (c.deploys p) registry w
    r.calls p (c.deploys p) registry w ++ callsAll r c rest g.registry g.world

/-- Recorded proposals come to what the proposals do, with their calls written down last. -/
theorem applyAll_recorded (r : Runner σ) (c : Catalogue σ) (ps : List (Proposal σ))
    (registry : Registry) (w : World σ) (cs : List Invocation) :
    r.recorded.applyAll c.recorded (ps.map Proposal.recorded) registry (w.recorded cs) =
      let (results, registry', w') := r.applyAll c ps registry w
      (results, registry', w'.recorded (cs ++ r.callsAll c ps registry w)) := by
  induction ps generalizing registry w cs with
  | nil => simp [applyAll, callsAll]
  | cons p ps ih =>
    have head := applyProposal_recorded r p (c.deploys p) registry w cs
    have deploys : c.recorded.deploys p.recorded = c.deploys p := rfl
    rw [List.map_cons, applyAll, deploys, head]
    simp only [Progress.recorded, ih, applyAll, callsAll, List.append_assoc]

/-- A call of several proposals is a call of one of them. -/
theorem exists_of_mem_callsAll {ps : List (Proposal σ)} {registry : Registry} {call : Invocation}
    (h : call ∈ r.callsAll c ps registry w) :
    ∃ p ∈ ps, ∃ registry' w', call ∈ r.calls p (c.deploys p) registry' w' := by
  induction ps generalizing registry w with
  | nil => cases h
  | cons p ps ih =>
    rcases List.mem_append.1 h with h | h
    · exact ⟨p, List.mem_cons_self, _, _, h⟩
    · obtain ⟨q, hq, called⟩ := ih h
      exact ⟨q, List.mem_cons_of_mem _ hq, called⟩

/-! ## Runs -/

/-- The calls that are made in a run. -/
def trace (r : Runner σ) (c : Catalogue σ) (initial : Registry) (w : World σ) :
    List Invocation :=
  (r.recorded.run c.recorded initial (w.recorded [])).2.rest.calls

/-- A recorded run is refused exactly if the run is. -/
theorem refusal?_recorded (r : Runner σ) (c : Catalogue σ) (initial : Snapshot) :
    r.recorded.refusal? c.recorded initial = r.refusal? c initial := by
  rw [refusal?, refusal?, Catalogue.issues_recorded]
  rfl

/-- A run that is refused changes nothing. -/
theorem run_of_refused {e : RunError} (h : r.refusal? c initial.current = some e) :
    r.run c initial w = (.error e, w) := by
  rw [run, h]

/-- A run that is not refused applies its active proposals. -/
theorem run_of_accepted (h : r.refusal? c initial.current = none) :
    r.run c initial w =
      let (results, registry, w') := r.applyAll c c.active initial w
      (.ok { registry, results, skipped := c.placeholders }, w') := by
  rw [run, h]

/-- A run that is recorded comes to the same and leaves the calls of its proposals, or none if it is
refused. -/
theorem run_recorded_eq (r : Runner σ) (c : Catalogue σ) (initial : Registry) (w : World σ)
    (cs : List Invocation) :
    r.recorded.run c.recorded initial (w.recorded cs) =
      ((r.run c initial w).1, (r.run c initial w).2.recorded (cs ++
        if (r.refusal? c initial.current).isSome then [] else r.callsAll c c.active initial w)) := by
  cases h : r.refusal? c initial.current with
  | some e =>
    have h' : r.recorded.refusal? c.recorded initial.current = some e := by
      rw [refusal?_recorded, h]
    rw [run_of_refused h, run_of_refused h']
    simp
  | none =>
    have h' : r.recorded.refusal? c.recorded initial.current = none := by
      rw [refusal?_recorded, h]
    rw [run_of_accepted h, run_of_accepted h', Catalogue.active_recorded, applyAll_recorded,
      Catalogue.placeholders_recorded]
    rfl

/-- **The calls of a run** are those of its proposals in order, or none if it is refused. -/
theorem trace_eq (r : Runner σ) (c : Catalogue σ) (initial : Registry) (w : World σ) :
    r.trace c initial w
      = if (r.refusal? c initial.current).isSome then [] else r.callsAll c c.active initial w := by
  rw [trace, run_recorded_eq]
  rfl

/-- The run that writes down its calls is the run without that and the list of calls. -/
theorem run_recorded (r : Runner σ) (c : Catalogue σ) (initial : Registry) (w : World σ)
    (cs : List Invocation) :
    r.recorded.run c.recorded initial (w.recorded cs)
      = ((r.run c initial w).1, (r.run c initial w).2.recorded (cs ++ r.trace c initial w)) := by
  rw [trace_eq, run_recorded_eq]

end Runner
end Rollout
