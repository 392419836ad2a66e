/-
# A replay is a run in which nothing is flagged to deploy

A catalogue file can be bound for a replay, or bound fresh with all its flags taken away. What is
bound differs in the mode and in the flags, and wherever a decision hangs on them, it comes out the
same:

| decision | in a replay | fresh, without flags |
| --- | --- | --- |
| what a record without hooks and deployments is bound to | idle hooks | idle hooks |
| whether a proposal is deployed | no | no |
| which names a proposal needs | all that it names | all that it names |
| how its resources are had | found | found |

So both are bound (`CatalogueFile.exists_catalogue_eq_ok`), place by place alike
(`Catalogue.Unflags`), and a run of one is a run of the other (`Catalogue.Unflags.run`).
-/

import Rollout.Proofs.Catalogue.Binding
import Rollout.Proofs.Run.Admission

namespace Rollout

variable {σ : Type}

/-! ## Flags taken away -/

/-- The record of a proposal that does not deploy. -/
def CatalogueRecord.undeployed (r : CatalogueRecord) : CatalogueRecord := { r with deploys := false }

/-- The file with every flag taken away. -/
def CatalogueFile.undeployed (f : CatalogueFile) : CatalogueFile where
  toList := f.toList.map fun e => (e.1, e.2.undeployed)
  distinct := by
    rw [List.map_map]
    exact f.distinct

/-- The proposal that is not flagged to deploy. -/
def Proposal.undeployed (p : Proposal σ) : Proposal σ := { p with deploys := false }

namespace Slot

/-- The slot with the flag of its proposal taken away. -/
def undeployed : Slot σ → Slot σ
  | active p => active p.undeployed
  | placeholder id category => placeholder id category

/-- An undeployed slot holds the undeployed proposal. -/
theorem proposal?_undeployed (s : Slot σ) :
    s.undeployed.proposal? = s.proposal?.map Proposal.undeployed := by
  cases s <;> rfl

/-- An undeployed slot has the identifier of the slot. -/
theorem id_undeployed (s : Slot σ) : s.undeployed.id = s.id := by
  cases s <;> rfl

end Slot

/-! ## Binding a file -/

namespace CatalogueFile

variable {hooks : HookBook σ} {mode : Mode} {id : String} {r : CatalogueRecord}

/-- The lifecycle of a record that does not have to deploy. -/
def idleLifecycle (hooks : HookBook σ) (id : String) (r : CatalogueRecord) : Lifecycle σ :=
  (hooks.find? id).getD (if r.deployments.isEmpty then .idle else .declared r.deployments)

/-- The slot of a record that does not have to deploy. -/
def idleSlot (hooks : HookBook σ) (id : String) (r : CatalogueRecord) : Slot σ :=
  match r.payload with
  | none => .placeholder id r.category
  | some payload => .active {
      id
      category := r.category
      deploys := r.deploys
      totalValue := r.totalValue
      existingId := r.existingId
      affected := .ofList r.affected
      deprecated := .ofList r.deprecated
      expected := .ofList r.expectedNames
      invariants := r.invariants
      payload := some payload
      lifecycle := idleLifecycle hooks id r }

/-- A record with its flag cleared has the undeployed slot. -/
theorem idleSlot_undeployed (hooks : HookBook σ) (id : String) (r : CatalogueRecord) :
    idleSlot hooks id r.undeployed = (idleSlot hooks id r).undeployed := by
  obtain ⟨deploys, totalValue, payload, existingId, affected, deprecated, category, expected,
    invariants, deployments⟩ := r
  cases payload <;> rfl

/-- A record that does not have to deploy has a lifecycle. -/
theorem lifecycle_of_idle (idle : (r.deploys && mode = .fresh) = false) :
    lifecycle hooks mode id r = .ok (idleLifecycle hooks id r) := by
  unfold lifecycle idleLifecycle
  cases hooks.find? id with
  | some l => rfl
  | none =>
    rw [idle]
    cases r.deployments.isEmpty with
    | true => rfl
    | false => rfl

/-- A record whose flag does not count has its slot whatever the hooks are. -/
theorem slot_of_idle (idle : (r.deploys && mode = .fresh) = false) :
    slot hooks mode id r = .ok (idleSlot hooks id r) := by
  unfold slot idleSlot
  cases r.payload with
  | none => rfl
  | some payload =>
    simp only [lifecycle_of_idle idle]
    rfl

/-- Slots under new names are pushed one after another. -/
theorem pushAll_of_idle (hooks : HookBook σ) {es : List (String × CatalogueRecord)}
    (idle : ∀ e ∈ es, (e.2.deploys && mode = .fresh) = false) {c : Catalogue σ}
    (distinct : (c.slots.map Slot.id ++ es.map (·.1)).Nodup) :
    ∃ c', pushAll hooks mode es c = .ok c' ∧ c'.mode = c.mode
      ∧ c'.slots = c.slots ++ es.map fun e => idleSlot hooks e.1 e.2 := by
  induction es generalizing c with
  | nil => exact ⟨c, rfl, rfl, (List.append_nil _).symm⟩
  | cons e es ih =>
    have bound : slot hooks mode e.1 e.2 = .ok (idleSlot hooks e.1 e.2) :=
      slot_of_idle (idle e List.mem_cons_self)
    obtain ⟨c₁, step, mode₁, slots₁, distinct₁⟩ := pushAll_cons distinct bound
    obtain ⟨c', rest, mode', slots'⟩ :=
      ih (fun e he => idle e (List.mem_cons_of_mem _ he)) distinct₁
    refine ⟨c', step.trans rest, mode'.trans mode₁, ?_⟩
    rw [slots', slots₁, List.append_assoc]
    rfl

/-- **A file in which nothing has to deploy is bound.** -/
theorem exists_catalogue_eq_ok (f : CatalogueFile) (hooks : HookBook σ) (mode : Mode)
    (idle : ∀ e ∈ f.toList, (e.2.deploys && mode = .fresh) = false) :
    ∃ c, catalogue f hooks mode = .ok c ∧ c.mode = mode
      ∧ c.slots = f.toList.map fun e => idleSlot hooks e.1 e.2 := by
  have distinct : ((Catalogue.empty mode : Catalogue σ).slots.map Slot.id
      ++ f.toList.map (·.1)).Nodup := f.distinct
  obtain ⟨c, bound, same, slots⟩ := pushAll_of_idle hooks idle distinct
  exact ⟨c, bound, same, slots⟩

end CatalogueFile

/-! ## Catalogues alike but for mode and flags -/

namespace Catalogue

/-- A replay, and the fresh catalogue of the same proposals without flags. -/
structure Unflags (c c' : Catalogue σ) : Prop where
  replay : c.mode = .replay
  slots : c'.slots = c.slots.map Slot.undeployed

namespace Unflags

variable {c c' : Catalogue σ} (h : Unflags c c')

include h

/-- Its active proposals are those of the catalogue, undeployed. -/
theorem active : c'.active = c.active.map Proposal.undeployed := by
  rw [Catalogue.active, Catalogue.active, h.slots, List.filterMap_map, List.map_filterMap]
  exact congrArg (List.filterMap · c.slots) (funext Slot.proposal?_undeployed)

/-- It has the placeholders of the catalogue. -/
theorem placeholders : c'.placeholders = c.placeholders := by
  have ids : (c.slots.filter (·.proposal?.isNone)).map (Slot.id ∘ Slot.undeployed)
      = (c.slots.filter (·.proposal?.isNone)).map Slot.id :=
    List.map_congr_left fun s _ => s.id_undeployed
  rw [Catalogue.placeholders, Catalogue.placeholders, h.slots, List.filter_map, List.map_map, ← ids]
  congr 1
  refine List.filter_congr fun s _ => ?_
  cases s <;> rfl

/-- Neither of them deploys a proposal. -/
theorem deploys (p : Proposal σ) : c'.deploys p.undeployed = c.deploys p := by
  rw [Catalogue.deploys, Catalogue.deploys, h.replay]
  exact Bool.and_false _

/-- Its proposals need what those of the catalogue need. -/
theorem needs (p : Proposal σ) : c'.needs p.undeployed = c.needs p := by
  rw [Catalogue.needs, Catalogue.needs, h.deploys]
  rfl

/-- Its proposals have the issues that those of the catalogue have. -/
theorem issuesOf (a : Availability) (ps : List (Proposal σ)) :
    c'.issuesOf a (ps.map Proposal.undeployed) = c.issuesOf a ps := by
  induction ps generalizing a with
  | nil => rfl
  | cons p ps ih =>
    have after : a.after p.undeployed = a.after p := rfl
    rw [List.map_cons, Catalogue.issuesOf, Catalogue.issuesOf, h.needs, after, ih]
    rfl

/-- It has the issues of the catalogue. -/
theorem issues (s : Snapshot) : c'.issues s = c.issues s := by
  rw [Catalogue.issues, Catalogue.issues, h.active, h.issuesOf]

end Unflags
end Catalogue

/-! ## Runs -/

namespace Runner

variable (r : Runner σ) (p : Proposal σ) (deploys : Bool) (registry : Registry) (w : World σ)

/-- The flag is read where the catalogue decides, and nowhere else. -/
theorem applyProposal_undeployed : r.applyProposal p.undeployed deploys registry w
    = r.applyProposal p deploys registry w := rfl

/-- The flag of a proposal has no part in the calls that applying it makes. -/
theorem calls_undeployed :
    r.calls p.undeployed deploys registry w = r.calls p deploys registry w := rfl

end Runner

namespace Catalogue.Unflags

variable {c c' : Catalogue σ} (h : Unflags c c') (r : Runner σ)

include h

/-- Its proposals come to what those of the catalogue come to. -/
theorem applyAll (ps : List (Proposal σ)) (registry : Registry) (w : World σ) :
    r.applyAll c' (ps.map Proposal.undeployed) registry w = r.applyAll c ps registry w := by
  induction ps generalizing registry w with
  | nil => rfl
  | cons p ps ih =>
    simp only [List.map_cons, Runner.applyAll, h.deploys, r.applyProposal_undeployed, ih]

/-- Its proposals make the calls of those of the catalogue. -/
theorem callsAll (ps : List (Proposal σ)) (registry : Registry) (w : World σ) :
    r.callsAll c' (ps.map Proposal.undeployed) registry w = r.callsAll c ps registry w := by
  induction ps generalizing registry w with
  | nil => rfl
  | cons p ps ih =>
    simp only [List.map_cons, Runner.callsAll, h.deploys, r.applyProposal_undeployed,
      r.calls_undeployed, ih]

/-- A run of it is refused exactly if one of the catalogue is. -/
theorem refusal? (s : Snapshot) : r.refusal? c' s = r.refusal? c s := by
  rw [Runner.refusal?, Runner.refusal?, h.issues]

/-- **A run of it is a run of the catalogue.** -/
theorem run (initial : Registry) (w : World σ) : r.run c' initial w = r.run c initial w := by
  rw [Runner.run, Runner.run, h.refusal?, h.active, h.applyAll, h.placeholders]

/-- A run of it makes the calls of a run of the catalogue. -/
theorem trace (initial : Registry) (w : World σ) : r.trace c' initial w = r.trace c initial w := by
  rw [Runner.trace_eq, Runner.trace_eq, h.refusal?, h.active, h.callsAll]

end Catalogue.Unflags

/-- **A replay is a fresh run in which nothing is flagged to deploy.** A file can be bound in both
ways, whatever the hooks; what is bound has the same issues, is run to the same end and calls the
same hooks with the same data. -/
theorem CatalogueFile.unflagged (f : CatalogueFile) (hooks : HookBook σ) :
    ∃ c c', catalogue f hooks .replay = .ok c ∧ catalogue f.undeployed hooks .fresh = .ok c' ∧
      (∀ s, c.issues s = c'.issues s) ∧
      ∀ (r : Runner σ) initial w, r.run c initial w = r.run c' initial w ∧
        r.trace c initial w = r.trace c' initial w := by
  obtain ⟨c, bound, mode, slots⟩ := exists_catalogue_eq_ok f hooks .replay
    fun e _ => Bool.and_false _
  obtain ⟨c', bound', -, slots'⟩ := exists_catalogue_eq_ok f.undeployed hooks .fresh fun e he => by
    obtain ⟨x, -, rfl⟩ := List.mem_map.1 he
    rfl
  have unflags : Catalogue.Unflags c c' := by
    refine ⟨mode, ?_⟩
    rw [slots', slots, undeployed, List.map_map, List.map_map]
    exact List.map_congr_left fun e _ => idleSlot_undeployed hooks e.1 e.2
  exact ⟨c, c', bound, bound', fun s => (unflags.issues s).symm,
    fun r initial w => ⟨(unflags.run r initial w).symm, (unflags.trace r initial w).symm⟩⟩

end Rollout
