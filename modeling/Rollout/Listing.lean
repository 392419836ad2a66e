/-
# Listings

A listing holds items under names, each name once, in the order in which the names first came
up. An item that comes under a name already there takes the place of the earlier one.
-/

namespace Rollout

universe u

/-- Named items in the order of their names' first mention. -/
structure Listing (α : Type u) where
  toList : List (String × α) := []
  distinct : (toList.map (·.1)).Nodup := by simp
deriving DecidableEq

namespace Listing

variable {α : Type u}

def empty : Listing α := {}

instance : Inhabited (Listing α) := ⟨empty⟩

def names (l : Listing α) : List String := l.toList.map (·.1)

def size (l : Listing α) : Nat := l.toList.length

def isEmpty (l : Listing α) : Bool := l.toList.isEmpty

/-- The item of a name. -/
def find? (l : Listing α) (name : String) : Option α :=
  (l.toList.find? (·.1 == name)).map (·.2)

def contains (l : Listing α) (name : String) : Bool := l.toList.any (·.1 == name)

/-- The items with one under a name in place of the one there, or at the end. -/
def putIn (name : String) (a : α) : List (String × α) → List (String × α)
  | [] => [(name, a)]
  | (n, b) :: r => if n = name then (n, a) :: r else (n, b) :: putIn name a r

/-- Putting in an entry adds its name, if it is new. -/
theorem mem_names_putIn {name : String} {a : α} {xs : List (String × α)} {n : String} :
    n ∈ (putIn name a xs).map (·.1) ↔ n = name ∨ n ∈ xs.map (·.1) := by
  induction xs with
  | nil => simp [putIn]
  | cons e r ih =>
    obtain ⟨m, b⟩ := e
    unfold putIn
    split
    · next h => subst h; simp
    · simp only [List.map_cons, List.mem_cons, ih]
      exact ⟨fun h => by rcases h with h | h | h <;> simp [h],
        fun h => by rcases h with h | h | h <;> simp [h]⟩

/-- Putting in an entry keeps names different. -/
theorem nodup_names_putIn (name : String) (a : α) {xs : List (String × α)}
    (h : (xs.map (·.1)).Nodup) : ((putIn name a xs).map (·.1)).Nodup := by
  induction xs with
  | nil => simp [putIn]
  | cons e r ih =>
    obtain ⟨m, b⟩ := e
    rw [List.map_cons, List.nodup_cons] at h
    unfold putIn
    split
    · exact List.nodup_cons.2 h
    · next hne =>
      rw [List.map_cons, List.nodup_cons, mem_names_putIn]
      exact ⟨fun h' => h'.elim hne h.1, ih h.2⟩

/-- Puts an item under a name. -/
def insert (l : Listing α) (name : String) (a : α) : Listing α :=
  ⟨putIn name a l.toList, nodup_names_putIn name a l.distinct⟩

/-- Puts items one after another. -/
def ofList (xs : List (String × α)) : Listing α := xs.foldl (fun l e => l.insert e.1 e.2) empty

end Listing
end Rollout
