/-
# Tables of a TOML text

The tables that a text has defined so far. A table may be defined in three ways, which differ
in what may be added to it later:

| defined by | a header may define it again | dotted keys may go through it |
| --- | --- | --- |
| a longer header, which it encloses | once | no |
| its own header | no | no |
| a dotted key | no | yes |

A key may be assigned once, and an assigned value never grows.
-/

import Rollout.Document

namespace Rollout
namespace Toml

/-- What defined a table. -/
inductive Origin
  | enclosing
  | header
  | dotted
deriving DecidableEq, Repr

/-- What stands under a key. -/
inductive Member
  | value (d : Document)
  | table (origin : Origin) (members : List (String × Member))

/-- The keys of a table with what stands under them, in order. -/
abbrev Members := List (String × Member)

namespace Member

mutual

def document : Member → Document
  | value d => d
  | table _ members => .map (documents members)

def documents : List (String × Member) → List (String × Document)
  | [] => []
  | (k, m) :: r => (k, document m) :: documents r

end

end Member

namespace Members

/-- What stands under a key. -/
def find? (key : String) (t : Members) : Option Member := t.lookup key

/-- The table with something else under a key that it has. -/
def replace (key : String) (m : Member) (t : Members) : Members :=
  t.map fun e => if e.1 = key then (key, m) else e

/-- Whether a path of the given sort may go through a table. -/
def passable (sort origin : Origin) : Bool := sort ≠ .dotted || origin = .dotted

/-- Changes the table at the end of a path. Tables that are missing on the way are made, as
tables of the given sort. -/
def within (sort : Origin) : List String → (Members → Option Members) → Members → Option Members
  | [], f, t => f t
  | key :: path, f, t =>
    match t.find? key with
    | none => do return t ++ [(key, .table sort (← within sort path f []))]
    | some (.value _) => none
    | some (.table origin members) =>
      if passable sort origin then do
        return t.replace key (.table origin (← within sort path f members))
      else none

/-- Assigns a value to a key that is not there yet. -/
def assign (key : String) (d : Document) (t : Members) : Option Members :=
  match t.find? key with
  | none => some (t ++ [(key, .value d)])
  | some _ => none

/-- Defines a table by its header. -/
def define (key : String) (t : Members) : Option Members :=
  match t.find? key with
  | none => some (t ++ [(key, .table .header [])])
  | some (.table .enclosing members) => some (t.replace key (.table .header members))
  | some _ => none

/-- Assigns a value to a dotted key; the last part is handed over on its own. -/
def assignAt (path : List String) (key : String) (d : Document) (t : Members) : Option Members :=
  t.within .dotted path (·.assign key d)

/-- Defines the table of a header; the last part is handed over on its own. -/
def defineAt (path : List String) (key : String) (t : Members) : Option Members :=
  t.within .enclosing path (·.define key)

end Members
end Toml
end Rollout
