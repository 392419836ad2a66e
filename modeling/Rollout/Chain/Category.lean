/-
# Governance categories

Which body decides on a proposal: the token holders, the tribal council, the optimistic
approval process, or nobody. Categories are ordered as listed.
-/

import Rollout.Document.Decoder

namespace Rollout

/-- The body that decides on a proposal. -/
inductive Category
  | dao
  | tribalCouncil
  | optimisticApproval
  | none
deriving DecidableEq, Repr, Inhabited

namespace Category

def all : List Category := [dao, tribalCouncil, optimisticApproval, none]

/-- The place among the categories. -/
def index : Category → Nat
  | dao => 0
  | tribalCouncil => 1
  | optimisticApproval => 2
  | none => 3

instance : Ord Category := ⟨compareOn index⟩

instance : Std.TransOrd Category := inferInstanceAs (Std.TransCmp (compareOn index))

/-- Categories with the same index are the same. -/
theorem index_injective {a b : Category} (h : a.index = b.index) : a = b := by
  cases a <;> cases b <;> first | rfl | cases h

instance : Std.LawfulEqOrd Category where
  compare_self {a} := by
    show compare a.index a.index = .eq
    simp
  eq_of_compare {a b} h := by
    have h : compare a.index b.index = .eq := h
    exact index_injective (by simpa using h)

/-- Whether anybody decides. -/
def hasGovernance (c : Category) : Bool := c ≠ none

def text : Category → String
  | dao => "dao"
  | tribalCouncil => "tc"
  | optimisticApproval => "oa"
  | none => "none"

/-- The name inside messages that spell values out. -/
def spelled : Category → String
  | dao => "Dao"
  | tribalCouncil => "TribalCouncil"
  | optimisticApproval => "OptimisticApproval"
  | none => "None"

/-- The category of a name or of its other spelling. -/
def ofText? : String → Option Category
  | "dao" => some dao
  | "DAO" => some dao
  | "tc" => some tribalCouncil
  | "TC" => some tribalCouncil
  | "oa" => some optimisticApproval
  | "OA" => some optimisticApproval
  | "none" => some none
  | "None" => some none
  | _ => Option.none

def decode : Decoder Category := Decoder.name all ofText?

def document (c : Category) : Document := .text c.text

/-- A category is read from its text. -/
theorem ofText?_text (c : Category) : ofText? c.text = some c := by cases c <;> rfl

end Category
end Rollout
