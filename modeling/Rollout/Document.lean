/-
# Documents

What a value is written as: a tree whose maps keep their entries in the order they stand in,
repeated keys included. `Value.document` takes a free value to its document and `Document.value`
back, the last of several entries with one key counting and a double that is not finite as null.

What a text is read as may lack a value or a settled meaning: that is `Rollout.Node`.
-/

import Rollout.Value

namespace Rollout

/-- A document tree. -/
inductive Document
  | null
  | bool (b : Bool)
  | number (n : Number)
  | text (s : String)
  | list (items : List Document)
  | map (entries : List (String × Document))
deriving Inhabited

namespace Value

/-- A number as a free value: null if it is a double that is not finite. -/
def ofNumber : Number → Value
  | .int i => number (.int i)
  | .double x => if x.isFinite then number (.double x) else null

end Value

namespace Document

mutual

/-- The free value of a document. -/
def value : Document → Value
  | null => .null
  | bool b => .bool b
  | number n => .ofNumber n
  | text s => .text s
  | list items => .list (values items)
  | map entries => .ofFields (fields entries)

def values : List Document → List Value
  | [] => []
  | d :: r => value d :: values r

def fields : List (String × Document) → List (String × Value)
  | [] => []
  | (k, d) :: r => (k, value d) :: fields r

end

def int (i : Int) : Document := number (.int i)

def nat (n : Nat) : Document := number (.int n)

/-- A map of the fields that are there. -/
def ofFields (fields : List (String × Option Document)) : Document :=
  map (fields.filterMap fun f => f.2.map (f.1, ·))

end Document

namespace Value

mutual

/-- The document that a free value is written as. -/
def document : Value → Document
  | null => .null
  | bool b => .bool b
  | number n => .number n
  | text s => .text s
  | list items => .list (documents items)
  | object fields => .map (entries fields)

def documents : List Value → List Document
  | [] => []
  | v :: r => document v :: documents r

def entries : List (String × Value) → List (String × Document)
  | [] => []
  | (k, v) :: r => (k, document v) :: entries r

end

end Value
end Rollout
