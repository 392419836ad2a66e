/-
# Binding a catalogue file

Every record of a file is bound by itself. One without a payload becomes a placeholder, any other a
proposal, whose lifecycle is the first that there is:

| hooks under the id | deployments | has to deploy | lifecycle |
| --- | --- | --- | --- |
| some | | | the hooks |
| none | some | | the one that makes them |
| none | none | no | idle |
| none | none | yes | none, the record is lacking |

The ids of a file differ, so no slot is refused for its id. What can go wrong is a lacking record,
and the first of them is what the error names (`CatalogueFile.errorOf?_catalogue`). If there is none,
or nothing has to deploy, the slots are what the records say, one for each and in their order
(`CatalogueFile.bound_catalogue`).
-/

import Rollout.Catalogue.File
import Rollout.Proofs.Errors
import Rollout.Proofs.Table.Members
import Mathlib.Data.List.Forall2

namespace Rollout

variable {σ : Type}

/-- A slot under a new id is put at the end. -/
theorem Catalogue.push_of_not_mem {c : Catalogue σ} {s : Slot σ}
    (fresh : s.id ∉ c.slots.map Slot.id) :
    ∃ c', c.push s = .ok c' ∧ c'.mode = c.mode ∧ c'.slots = c.slots ++ [s] :=
  ⟨_, dif_neg fresh, rfl, rfl⟩

namespace CatalogueFile

variable {hooks : HookBook σ} {mode : Mode} {r : CatalogueRecord} {x : String × CatalogueRecord}
  {es : List (String × CatalogueRecord)} {c : Catalogue σ} {e : CatalogueError}

/-! ## What a record is bound to -/

/-- The lifecycle of a record: hooks before deployments, and deployments before nothing. -/
inductive Chosen (hooks : HookBook σ) (id : String) (r : CatalogueRecord) : Lifecycle σ → Prop
  | hooks {l : Lifecycle σ} (registered : hooks.find? id = some l) : Chosen hooks id r l
  | declared (unregistered : hooks.find? id = none) (nonempty : r.deployments ≠ []) :
      Chosen hooks id r (.declared r.deployments)
  | idle (unregistered : hooks.find? id = none) (empty : r.deployments = []) :
      Chosen hooks id r .idle

/-- The proposal is what a record says. -/
structure Describes (hooks : HookBook σ) (x : String × CatalogueRecord) (p : Proposal σ) :
    Prop where
  id : p.id = x.1
  category : p.category = x.2.category
  deploys : p.deploys = x.2.deploys
  totalValue : p.totalValue = x.2.totalValue
  existingId : p.existingId = x.2.existingId
  affected : ∀ n, n ∈ p.affected.toList ↔ n ∈ x.2.affected
  deprecated : ∀ n, n ∈ p.deprecated.toList ↔ n ∈ x.2.deprecated
  expected : ∀ names, x.2.expected = some names → ∀ n, n ∈ p.expected.toList ↔ n ∈ names
  /-- Only names that are left out are the affected ones; an empty list is no such omission. -/
  omitted : x.2.expected = none → ∀ n, n ∈ p.expected.toList ↔ n ∈ x.2.affected
  invariants : p.invariants = x.2.invariants
  payload : p.payload = x.2.payload
  lifecycle : Chosen hooks x.1 x.2 p.lifecycle

/-- The slot is what a record says, under the id of the record. -/
inductive Binds (hooks : HookBook σ) (x : String × CatalogueRecord) : Slot σ → Prop
  | placeholder (absent : x.2.payload = none) : Binds hooks x (.placeholder x.1 x.2.category)
  | active {p : Proposal σ} (present : x.2.payload ≠ none) (describes : Describes hooks x p) :
      Binds hooks x (.active p)

/-- A slot that is bound to a record has its id. -/
theorem Binds.id {s : Slot σ} (h : Binds hooks x s) : s.id = x.1 := by
  cases h with
  | placeholder absent => rfl
  | active present describes => exact describes.id

/-- A proposal that deploys where deployments are made, and has nothing to deploy with. -/
structure Lacking (hooks : HookBook σ) (x : String × CatalogueRecord) : Prop where
  present : x.2.payload ≠ none
  deploys : x.2.deploys = true
  unregistered : hooks.find? x.1 = none
  empty : x.2.deployments = []

/-- The id is that of the first lacking record. -/
def FirstLacking (hooks : HookBook σ) (es : List (String × CatalogueRecord)) (id : String) : Prop :=
  ∃ before r after, es = before ++ (id, r) :: after ∧ (∀ x ∈ before, ¬ Lacking hooks x) ∧
    Lacking hooks (id, r)

/-! ## One record -/

/-- A lifecycle that is had of a record is the one that it chooses. -/
theorem chosen_of_lifecycle {l : Lifecycle σ} (h : lifecycle hooks mode x.1 x.2 = .ok l) :
    Chosen hooks x.1 x.2 l := by
  rw [lifecycle] at h
  cases registered : hooks.find? x.1 with
  | some hooked =>
    rw [registered] at h
    cases h
    exact .hooks registered
  | none =>
    simp only [registered] at h
    split at h
    · next nonempty =>
      cases h
      exact .declared registered (by simpa using nonempty)
    · next empty =>
      split at h
      · cases h
      · cases h
        exact .idle registered (by simpa using empty)

/-- A record has no lifecycle exactly if it deploys in a fresh catalogue without hooks or
deployments. -/
theorem lifecycle_eq_error_iff : lifecycle hooks mode x.1 x.2 = .error e ↔
    (mode = .fresh ∧ x.2.deploys = true ∧ hooks.find? x.1 = none ∧ x.2.deployments = []) ∧
      e = .missingLifecycle x.1 := by
  rw [lifecycle]
  cases registered : hooks.find? x.1 with
  | some hooked => simp
  | none =>
    cases deployments : x.2.deployments with
    | cons s ss => simp
    | nil => cases x.2.deploys <;> cases mode <;> simp [eq_comm]

/-- A slot that is had of a record is bound to it. -/
theorem binds_of_slot {s : Slot σ} (h : slot hooks mode x.1 x.2 = .ok s) : Binds hooks x s := by
  rw [slot] at h
  cases payload : x.2.payload with
  | none =>
    rw [payload] at h
    cases h
    exact .placeholder payload
  | some p =>
    simp only [payload, bind_eq_ok_iff] at h
    obtain ⟨l, chosen, ⟨⟩⟩ := h
    refine .active (by simp [payload]) ?_
    exact {
      id := rfl
      category := rfl
      deploys := rfl
      totalValue := rfl
      existingId := rfl
      affected := fun n => KeySet.mem_ofList
      deprecated := fun n => KeySet.mem_ofList
      expected := fun names given n => by
        rw [KeySet.mem_ofList, CatalogueRecord.expectedNames, given, Option.getD_some]
      omitted := fun omitted n => by
        rw [KeySet.mem_ofList, CatalogueRecord.expectedNames, omitted, Option.getD_none]
      invariants := rfl
      payload := payload.symm
      lifecycle := chosen_of_lifecycle chosen }

/-- A record can only be refused for lacking a lifecycle, and only where it has to deploy. -/
theorem slot_eq_error_iff : slot hooks mode x.1 x.2 = .error e ↔
    (mode = .fresh ∧ Lacking hooks x) ∧ e = .missingLifecycle x.1 := by
  rw [slot]
  cases payload : x.2.payload with
  | none =>
    refine iff_of_false nofun ?_
    rintro ⟨⟨-, lacking⟩, -⟩
    exact lacking.present payload
  | some p =>
    simp only [bind_eq_error_iff, reduceCtorEq, and_false, exists_false, or_false, pure,
      Except.pure, lifecycle_eq_error_iff]
    constructor
    · rintro ⟨⟨fresh, deploys, unregistered, empty⟩, named⟩
      exact ⟨⟨fresh, by simp [payload], deploys, unregistered, empty⟩, named⟩
    · rintro ⟨⟨fresh, -, deploys, unregistered, empty⟩, named⟩
      exact ⟨⟨fresh, deploys, unregistered, empty⟩, named⟩

/-! ## All records -/

/-- A slot that is made under a new id is pushed, and the ids to come are as new as before. -/
theorem pushAll_cons {s : Slot σ} (distinct : (c.slots.map Slot.id ++ (x :: es).map (·.1)).Nodup)
    (bound : slot hooks mode x.1 x.2 = .ok s) :
    ∃ c', pushAll hooks mode (x :: es) c = pushAll hooks mode es c' ∧ c'.mode = c.mode ∧
      c'.slots = c.slots ++ [s] ∧ (c'.slots.map Slot.id ++ es.map (·.1)).Nodup := by
  have named : s.id = x.1 := (binds_of_slot bound).id
  have fresh : s.id ∉ c.slots.map Slot.id := fun mem =>
    (List.nodup_append.1 distinct).2.2 _ mem _ List.mem_cons_self named
  obtain ⟨c', pushed, same, slots⟩ := Catalogue.push_of_not_mem fresh
  refine ⟨c', ?_, same, slots, ?_⟩
  · rw [pushAll, bound]
    show (c.push s).bind _ = _
    rw [pushed]
    rfl
  · rw [slots, List.map_append, List.append_assoc, List.map_singleton, named]
    exact distinct

/-- Under new ids, binding comes to the error of the first record that comes to one. -/
theorem errorOf?_pushAll (distinct : (c.slots.map Slot.id ++ es.map (·.1)).Nodup) :
    errorOf? (pushAll hooks mode es c) =
      es.findSome? fun x => errorOf? (slot hooks mode x.1 x.2) := by
  induction es generalizing c with
  | nil => rfl
  | cons x es ih =>
    rw [List.findSome?_cons]
    cases bound : slot hooks mode x.1 x.2 with
    | error e =>
      rw [pushAll, bound]
      rfl
    | ok s =>
      obtain ⟨c', step, -, -, distinct'⟩ := pushAll_cons distinct bound
      rw [step]
      exact ih distinct'

/-- Under new ids, the slots that are pushed are those of the records, in order. -/
theorem forall₂_pushAll {c' : Catalogue σ} (distinct : (c.slots.map Slot.id ++ es.map (·.1)).Nodup)
    (h : pushAll hooks mode es c = .ok c') :
    c'.mode = c.mode ∧ ∃ ss, c'.slots = c.slots ++ ss ∧
      List.Forall₂ (fun x s => slot hooks mode x.1 x.2 = .ok s) es ss := by
  induction es generalizing c with
  | nil =>
    cases h
    exact ⟨rfl, [], (List.append_nil _).symm, .nil⟩
  | cons x es ih =>
    cases bound : slot hooks mode x.1 x.2 with
    | error e =>
      rw [pushAll, bound] at h
      cases h
    | ok s =>
      obtain ⟨c₁, step, mode₁, slots₁, distinct₁⟩ := pushAll_cons distinct bound
      obtain ⟨same, ss, slots, rest⟩ := ih distinct₁ (step.symm.trans h)
      refine ⟨same.trans mode₁, s :: ss, ?_, .cons bound rest⟩
      rw [slots, slots₁, List.append_assoc]
      rfl

variable (f : CatalogueFile)

/-- A file fails with the error of its first record that has no slot. -/
theorem errorOf?_catalogue : errorOf? (catalogue f hooks mode) =
    f.toList.findSome? fun x => errorOf? (slot hooks mode x.1 x.2) :=
  errorOf?_pushAll f.distinct

/-- Binding fails by the first lacking record, where something has to deploy. -/
theorem catalogue_eq_error_iff : catalogue f hooks mode = .error e ↔
    mode = .fresh ∧ ∃ id, FirstLacking hooks f.toList id ∧ e = .missingLifecycle id := by
  simp only [← errorOf?_eq_some_iff (x := catalogue f hooks mode), errorOf?_catalogue,
    List.findSome?_eq_some_iff, errorOf?_eq_some_iff, slot_eq_error_iff]
  constructor
  · rintro ⟨before, ⟨id, r⟩, after, split, ⟨⟨fresh, lacking⟩, named⟩, earlier⟩
    refine ⟨fresh, id, ⟨before, r, after, split, fun x hx h => ?_, lacking⟩, named⟩
    have refused : slot hooks mode x.1 x.2 = .error (.missingLifecycle x.1) :=
      slot_eq_error_iff.2 ⟨⟨fresh, h⟩, rfl⟩
    have bound := earlier x hx
    rw [refused] at bound
    cases bound
  · rintro ⟨fresh, id, ⟨before, r, after, split, earlier, lacking⟩, named⟩
    refine ⟨before, (id, r), after, split, ⟨⟨fresh, lacking⟩, named⟩, fun x hx => ?_⟩
    cases bound : slot hooks mode x.1 x.2 with
    | error e => exact absurd (slot_eq_error_iff.1 bound).1.2 (earlier x hx)
    | ok s => rfl

/-- Where a record is lacking, there is a first one. -/
theorem exists_firstLacking :
    (∃ id, FirstLacking hooks es id) ↔ ∃ x ∈ es, Lacking hooks x := by
  constructor
  · rintro ⟨id, before, r, after, rfl, -, lacking⟩
    exact ⟨(id, r), List.mem_append_right _ List.mem_cons_self, lacking⟩
  · rintro ⟨x, hx, lacking⟩
    induction es with
    | nil => cases hx
    | cons y es ih =>
      by_cases first : Lacking hooks y
      · exact ⟨y.1, [], y.2, es, rfl, nofun, first⟩
      · have later : x ∈ es := by
          rcases List.mem_cons.1 hx with rfl | later
          · exact absurd lacking first
          · exact later
        obtain ⟨id, before, r, after, rfl, earlier, lacking⟩ := ih later
        refine ⟨id, y :: before, r, after, rfl, fun z hz => ?_, lacking⟩
        rcases List.mem_cons.1 hz with rfl | hz
        · exact first
        · exact earlier z hz

/-- What binding a file comes to. -/
structure Bound (f : CatalogueFile) (hooks : HookBook σ) (mode : Mode)
    (result : Except CatalogueError (Catalogue σ)) : Prop where
  fails_iff : (∃ e, result = .error e) ↔ mode = .fresh ∧ ∃ x ∈ f.toList, Lacking hooks x
  error : ∀ e, result = .error e → ∃ id, FirstLacking hooks f.toList id ∧ e = .missingLifecycle id
  ok : ∀ c, result = .ok c → c.mode = mode ∧ List.Forall₂ (Binds hooks) f.toList c.slots

/-- **Binding a file is faithful, or names the first record that is lacking.** -/
theorem bound_catalogue (f : CatalogueFile) (hooks : HookBook σ) (mode : Mode) :
    Bound f hooks mode (catalogue f hooks mode) where
  fails_iff := by
    simp only [catalogue_eq_error_iff, ← exists_firstLacking]
    constructor
    · rintro ⟨e, fresh, id, first, -⟩
      exact ⟨fresh, id, first⟩
    · rintro ⟨fresh, id, first⟩
      exact ⟨_, fresh, id, first, rfl⟩
  error e h := (catalogue_eq_error_iff f).1 h |>.2
  ok c h := by
    have distinct : ((Catalogue.empty mode : Catalogue σ).slots.map Slot.id
        ++ f.toList.map (·.1)).Nodup := f.distinct
    obtain ⟨same, ss, slots, bound⟩ := forall₂_pushAll distinct h
    refine ⟨same, ?_⟩
    rw [show c.slots = ss from slots]
    exact bound.imp fun x s => binds_of_slot

end CatalogueFile
end Rollout
