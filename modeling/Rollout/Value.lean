/-
# Free values

The values that storage slots, call arguments, event data and deployment outputs hold: null,
truth values, numbers, text, lists and objects. An object made by `Value.ofFields` has its keys
in ascending order, each once, so that equal objects are equal values; `Value.Ordered` says
that all objects inside a value are of that form.

A whole number and a double are different values even where they are numerically equal, and
`Value.agrees` compares values with the two double zeros taken as one.
-/

import Rollout.Table
import Rollout.Number.Shortest
import Rollout.Text.Quoted

namespace Rollout

-- Powers are those of core, whatever is imported beside this module.
attribute [local instance (high)] instPowNat

/-- A number of a document: whole, or a double. -/
inductive Number
  | int (i : Int)
  | double (x : Double)
deriving DecidableEq, Repr

namespace Number

/-- The decimal text. -/
def text : Number → String
  | int i => toString i
  | double x => x.text

/-- Equal as numbers of one kind. -/
def agrees : Number → Number → Bool
  | int i, int j => i == j
  | double x, double y => x.agrees y
  | _, _ => false

/-- The number as a natural number below `2 ^ 64`, if it is a whole one in that range. -/
def word? : Number → Option Nat
  | int i => if 0 ≤ i ∧ i < 2 ^ (64 : Nat) then some i.toNat else none
  | double _ => none

end Number

/-- A free value. -/
inductive Value
  | null
  | bool (b : Bool)
  | number (n : Number)
  | text (s : String)
  | list (items : List Value)
  | object (fields : List (String × Value))
deriving Inhabited

namespace Value

/-- The object of a list of fields, the last of several with one key counting. -/
def ofFields (fields : List (String × Value)) : Value := object (Table.ofList fields).entries

def nat (n : Nat) : Value := number (.int n)

/-- The value of optional text: null when there is none. -/
def ofText? : Option String → Value
  | some s => text s
  | none => null

mutual

/-- Equality, decided. -/
def eq : Value → Value → Bool
  | null, null => true
  | bool a, bool b => a == b
  | number a, number b => a == b
  | text a, text b => a == b
  | list a, list b => eqList a b
  | object a, object b => eqFields a b
  | _, _ => false

def eqList : List Value → List Value → Bool
  | [], [] => true
  | x :: a, y :: b => eq x y && eqList a b
  | _, _ => false

def eqFields : List (String × Value) → List (String × Value) → Bool
  | [], [] => true
  | (j, x) :: a, (k, y) :: b => j == k && eq x y && eqFields a b
  | _, _ => false

end

mutual

/-- Values are found equal exactly if they are. -/
theorem eq_iff (a b : Value) : eq a b = true ↔ a = b := by
  cases a <;> cases b <;> simp [eq]
  · exact eqList_iff _ _
  · exact eqFields_iff _ _

/-- Items are found equal exactly if they are. -/
theorem eqList_iff (a b : List Value) : eqList a b = true ↔ a = b := by
  cases a <;> cases b <;> simp [eqList]
  next x a y b => rw [eq_iff x y, eqList_iff a b]

/-- Fields are found equal exactly if they are. -/
theorem eqFields_iff (a b : List (String × Value)) : eqFields a b = true ↔ a = b := by
  cases a <;> cases b <;> simp [eqFields]
  next x a y b =>
    obtain ⟨j, x⟩ := x
    obtain ⟨k, y⟩ := y
    simp [eq_iff x y, eqFields_iff a b]

end

instance : DecidableEq Value := fun a b =>
  if h : eq a b = true then .isTrue ((eq_iff a b).1 h)
  else .isFalse (fun e => h ((eq_iff a b).2 e))

mutual

/-- Equality with the two double zeros taken as one. -/
def agrees : Value → Value → Bool
  | null, null => true
  | bool a, bool b => a == b
  | number a, number b => a.agrees b
  | text a, text b => a == b
  | list a, list b => agreesList a b
  | object a, object b => agreesFields a b
  | _, _ => false

def agreesList : List Value → List Value → Bool
  | [], [] => true
  | x :: a, y :: b => agrees x y && agreesList a b
  | _, _ => false

def agreesFields : List (String × Value) → List (String × Value) → Bool
  | [], [] => true
  | (j, x) :: a, (k, y) :: b => j == k && agrees x y && agreesFields a b
  | _, _ => false

end

mutual

/-- Every object inside has its keys in ascending order, each once. -/
def Ordered : Value → Prop
  | list items => OrderedList items
  | object fields => Ascending fields ∧ OrderedFields fields
  | _ => True

def OrderedList : List Value → Prop
  | [] => True
  | x :: r => Ordered x ∧ OrderedList r

def OrderedFields : List (String × Value) → Prop
  | [] => True
  | (_, x) :: r => Ordered x ∧ OrderedFields r

end

mutual

/-- The value with its constructors spelled out, for messages. -/
def spelled : Value → String
  | null => "Null"
  | bool b => "Bool(" ++ toString b ++ ")"
  | number n => "Number(" ++ n.text ++ ")"
  | text s => "String(" ++ Text.quoted s ++ ")"
  | list items => "Array [" ++ String.intercalate ", " (spelledList items) ++ "]"
  | object fields => "Object \x7b" ++ String.intercalate ", " (spelledFields fields) ++ "\x7d"

def spelledList : List Value → List String
  | [] => []
  | x :: r => spelled x :: spelledList r

def spelledFields : List (String × Value) → List String
  | [] => []
  | (k, x) :: r => (Text.quoted k ++ ": " ++ spelled x) :: spelledFields r

end

/-- The value under a key of an object. -/
def field? (v : Value) (key : String) : Option Value :=
  match v with
  | object fields => Table.findIn key fields
  | _ => none

end Value
end Rollout
