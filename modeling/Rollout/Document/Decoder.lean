/-
# Decoders

A decoder reads a typed value off a node, or refuses it. What a node may look like depends on
its dialect:

| dialect | a record may be a list of its fields | a name may be a map from it to |
| --- | --- | --- |
| JSON, and settled nodes | yes | null |
| YAML | no | nothing: it may not |
| TOML | no | an empty table or list |

A record's unknown fields are skipped and its known fields may stand once; a key that is a number
means the field in that place. `Decoder.required` and `Decoder.orElse` say what a missing field
means. Null is no value of any type here but optional ones. A scalar in which nothing is written
is an empty list, map or record, and a local tag may stand for a name with nothing after it.
-/

import Rollout.Document.Node

namespace Rollout

/-- The forms of nodes that decoders tell apart. -/
inductive Dialect
  /-- JSON, and settled nodes. -/
  | json
  | yaml
  | toml
deriving DecidableEq, Repr

namespace Dialect

/-- Whether a list of fields may stand for a record. -/
def listedRecords : Dialect → Bool
  | json => true
  | _ => false

/-- Whether a name may be written as a map from it to this node. -/
def isBeside : Dialect → Node → Bool
  | json, .null => true
  | toml, .map [] => true
  | toml, .list [] => true
  | _, _ => false

end Dialect

/-- Reads a value of a type off a node. -/
abbrev Decoder (α : Type) := Dialect → Node → Option α

namespace Decoder

/-- Settles the node first. -/
def settled (dec : Decoder α) : Decoder α := fun _ n => do dec .json (← n.settle)

/-- A free value. -/
def value : Decoder Value := fun _ n => n.value?

/-- Text; a scalar is taken as it is written. -/
def text : Decoder String := fun _ n => n.name?

/-- A truth value. -/
def bool : Decoder Bool := fun _ n =>
  match n.untagged with
  | .bool b => some b
  | .scalar s => if s.allows .bool then Plain.bool? s.text else none
  | _ => none

/-- A whole number at least zero and below a bound of at most 64 bits. -/
def natBelow (bound : Nat) : Decoder Nat := fun _ n =>
  let word := match n.untagged with
    | .number n => n.word?
    | .scalar s => if s.allows .int then Plain.natural? s.text else none
    | _ => none
  word.filter (· < bound)

/-- An optional value: null, or a scalar that says null, is none. A tag makes a scalar a value,
unless it is the tag of null. -/
def option (dec : Decoder α) : Decoder (Option α)
  | _, .null => some none
  | _, .void => some none
  | dialect, .scalar s =>
    if s.tag = none ∧ s.saysNull then some none
    else if s.tag = some .null ∧ s.form = .plain then
      if Plain.isNull s.text then some none else none
    else (dec dialect (.scalar s)).map some
  | dialect, n => (dec dialect n).map some

/-- A list. -/
def list (dec : Decoder α) : Decoder (List α) := fun dialect n =>
  match n.untagged with
  | .list items => items.mapM (dec dialect)
  | n => if n.isBlank then some [] else none

/-- A map as its entries in order, repeated keys included. -/
def entriesBy (key : Decoder κ) (dec : Decoder α) : Decoder (List (κ × α)) := fun dialect n =>
  match n.untagged with
  | .map es => es.mapM fun e => do return (← key dialect e.1, ← dec dialect e.2)
  | n => if n.isBlank then some [] else none

/-- A map with text for keys. -/
def entries (dec : Decoder α) : Decoder (List (String × α)) := entriesBy text dec

/-- The name that a key stands for: by its text, or by its place among all. -/
def nameOfKey (all : List α) (of? : String → Option α) : Node → Option α
  | .number (.int i) => if 0 ≤ i then all[i.toNat]? else none
  | k => k.name?.bind of?

/-- One of several names. -/
def name (all : List α) (of? : String → Option α) : Decoder α
  | dialect, .map [(k, n)] => if dialect.isBeside n then nameOfKey all of? k else none
  | _, .tagged tag (.scalar s) => if s.saysNull then of? tag else none
  | _, .tagged _ _ => none
  | _, n => n.name?.bind of?

end Decoder

/-- The fields of a record as they were found: `none` for a missing one. -/
abbrev Fields := List (Option Node)

namespace Fields

/-- The place of the field that a key means, if the record has it. Refuses a key that is neither
text nor a number. -/
def place? (spellings : List (List String)) : Node → Option (Option Nat)
  | .number (.int i) => if 0 ≤ i then some (some i.toNat) else none
  | k => k.name?.map fun s => spellings.findIdx? (·.contains s)

/-- The only entry of a place; refuses a second one. -/
def only? (es : List (Option Nat × Node)) (place : Nat) : Option (Option Node) :=
  match es.filter (·.1 == some place) with
  | [] => some none
  | [e] => some (some e.2)
  | _ => none

/-- The fields of a record, one for each list of spellings, in that order. -/
def of? (spellings : List (List String)) : Decoder Fields := fun dialect n =>
  match n.untagged with
  | .map es => do
    let es ← es.mapM fun e => (place? spellings e.1).map (·, e.2)
    (List.range spellings.length).mapM (only? es)
  | .list items =>
    if dialect.listedRecords ∧ items.length ≤ spellings.length then
      some (items.map some ++ List.replicate (spellings.length - items.length) none)
    else none
  | n => if n.isBlank then some (spellings.map fun _ => none) else none

end Fields

namespace Decoder

/-- A record of fields with one spelling each. -/
def record (keys : List String) : Decoder Fields := Fields.of? (keys.map ([·]))

/-- A field that has to be there. -/
def required (dec : Decoder α) (dialect : Dialect) : Option Node → Option α
  | some n => dec dialect n
  | none => none

/-- A field that has a value when it is missing. -/
def orElse (a : α) (dec : Decoder α) (dialect : Dialect) : Option Node → Option α
  | some n => dec dialect n
  | none => some a

end Decoder
end Rollout
