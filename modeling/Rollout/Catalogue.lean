/-
# Catalogues

A catalogue is a sequence of proposals and placeholders under distinct ids, in the order in
which they are applied. Its mode decides whether proposals deploy: in a fresh catalogue each
does as it is flagged, in a replay all have been deployed already and none does.
-/

import Rollout.Proposal

namespace Rollout

/-- Whether deployments are made. -/
inductive Mode
  | fresh
  | replay
deriving DecidableEq, Repr, Inhabited

namespace Mode

def all : List Mode := [fresh, replay]

def text : Mode → String
  | fresh => "fresh"
  | replay => "replay"

def ofText? : String → Option Mode
  | "fresh" => some fresh
  | "replay" => some replay
  | _ => none

def decode : Decoder Mode := Decoder.name all ofText?

def document (m : Mode) : Document := .text m.text

end Mode

/-- One place in a catalogue. -/
inductive Slot (σ : Type)
  | active (proposal : Proposal σ)
  /-- A place without a proposal, passed over in a run. -/
  | placeholder (id : String) (category : Category)

namespace Slot

variable {σ : Type}

def id : Slot σ → String
  | active p => p.id
  | placeholder id _ => id

def proposal? : Slot σ → Option (Proposal σ)
  | active p => some p
  | placeholder _ _ => none

end Slot

/-- Why a catalogue cannot be put together. -/
inductive CatalogueError
  | duplicateId (id : String)
  /-- The proposal has to deploy, and nothing is known of what. -/
  | missingLifecycle (id : String)
deriving DecidableEq, Repr

namespace CatalogueError

def message : CatalogueError → String
  | duplicateId id => "duplicate proposal id: " ++ id
  | missingLifecycle id =>
    "proposal " ++ id ++ " deploys but has no lifecycle hooks or declared deployments"

/-- The name of the kind of error. -/
def code : CatalogueError → String
  | duplicateId _ => "DuplicateId"
  | missingLifecycle _ => "MissingLifecycle"

end CatalogueError

/-- Proposals in the order in which they are applied. -/
structure Catalogue (σ : Type) where
  mode : Mode := .fresh
  slots : List (Slot σ) := []
  distinct : (slots.map Slot.id).Nodup := by simp

namespace Catalogue

variable {σ : Type}

def empty (mode : Mode) : Catalogue σ := { mode }

instance : Inhabited (Catalogue σ) := ⟨empty .fresh⟩

/-- The catalogue with one more slot at its end. -/
def push (c : Catalogue σ) (s : Slot σ) : Except CatalogueError (Catalogue σ) :=
  if h : s.id ∈ c.slots.map Slot.id then .error (.duplicateId s.id)
  else .ok {
    c with
    slots := c.slots ++ [s]
    distinct := by
      rw [List.map_append, List.nodup_append]
      refine ⟨c.distinct, by simp, ?_⟩
      intro a ha b hb e
      simp only [List.map_cons, List.map_nil, List.mem_singleton] at hb
      subst hb e
      exact h ha }

def size (c : Catalogue σ) : Nat := c.slots.length

def isEmpty (c : Catalogue σ) : Bool := c.slots.isEmpty

/-- The slot of an id. -/
def get? (c : Catalogue σ) (id : String) : Option (Slot σ) := c.slots.find? (·.id == id)

/-- The proposals in order. -/
def active (c : Catalogue σ) : List (Proposal σ) := c.slots.filterMap Slot.proposal?

/-- No two active proposals have one id. -/
theorem nodup_ids_active (c : Catalogue σ) : (c.active.map (·.id)).Nodup := by
  have sub : (c.active.map (·.id)).Sublist (c.slots.map Slot.id) := by
    rw [active]
    induction c.slots with
    | nil => exact List.Sublist.refl _
    | cons s slots ih =>
      cases s with
      | active p => exact ih.cons_cons _
      | placeholder id category => exact ih.cons _
  exact sub.nodup c.distinct

/-- The ids of the placeholders in order. -/
def placeholders (c : Catalogue σ) : List String :=
  (c.slots.filter (·.proposal?.isNone)).map Slot.id

/-- Whether a proposal is deployed when the catalogue is run. -/
def deploys (c : Catalogue σ) (p : Proposal σ) : Bool := c.mode = .fresh && p.deploys

end Catalogue
end Rollout
