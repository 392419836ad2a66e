/-
# Nodes

What a text is read as, before a decoder makes something of it. Besides the parts of a document
a node may be

* a scalar, whose meaning the decoder picks: `Node.name?` takes it as text, `Node.settle` decides
  from the scalar alone;
* tagged with a local name, which only readers that ask for text or for a name look at;
* the void of a text in which nothing stands;
* unreadable: well formed but without a value, such as a number too large for a double. It does no
  harm where it is skipped.

Keys are nodes too. `Node.value?` is the free value of a node; it takes keys as text. Settling a
node first differs in one thing: its keys then mean what they say, so that a number is no text.
-/

import Rollout.Document
import Rollout.Document.Scalar

namespace Rollout

/-- What a text is read as. -/
inductive Node
  | null
  | bool (b : Bool)
  | number (n : Number)
  | text (s : String)
  | scalar (s : Scalar)
  | tagged (tag : String) (n : Node)
  | list (items : List Node)
  | map (entries : List (Node × Node))
  | void
  | unreadable
deriving Inhabited

namespace Primitive

def node : Primitive → Node
  | null => .null
  | bool b => .bool b
  | number n => .number n
  | text s => .text s

def value : Primitive → Value
  | null => .null
  | bool b => .bool b
  | number n => .ofNumber n
  | text s => .text s

end Primitive

namespace Document

mutual

/-- A document as a node. -/
def node : Document → Node
  | null => .null
  | bool b => .bool b
  | number n => .number n
  | text s => .text s
  | list items => .list (nodes items)
  | map entries => .map (nodeEntries entries)

def nodes : List Document → List Node
  | [] => []
  | d :: r => node d :: nodes r

def nodeEntries : List (String × Document) → List (Node × Node)
  | [] => []
  | (k, d) :: r => (.text k, node d) :: nodeEntries r

end

end Document

namespace Node

def int (i : Int) : Node := number (.int i)

/-- The node without a local name. -/
def untagged : Node → Node
  | tagged _ n => untagged n
  | n => n

/-- The node as text: a scalar is taken as it is written. -/
def name? (n : Node) : Option String :=
  match n.untagged with
  | text s => some s
  | scalar s => some s.text
  | _ => none

/-- Whether nothing is written where a list or a map is looked for. -/
def isBlank : Node → Bool
  | scalar s => s.isBlank
  | void => true
  | _ => false

/-! ## Settled nodes -/

/-- A settled key. A number with a minus sign before it is no key, not even zero. -/
def settledKey (key settled : Node) : Node :=
  match key, settled with
  | scalar s, number n => if s.text.toList.head? = some '-' then unreadable else number n
  | _, k => k

mutual

/-- The node with the meaning of all scalars decided; `none` if some part of it has none or is
tagged with a local name. -/
def settle : Node → Option Node
  | scalar s => s.meaning.map Primitive.node
  | tagged _ _ => none
  | list items => (settleItems items).map list
  | map entries => (settleEntries entries).map map
  | void => some null
  | unreadable => none
  | n => some n

def settleItems : List Node → Option (List Node)
  | [] => some []
  | n :: r => do
    let n ← settle n
    let r ← settleItems r
    return n :: r

def settleEntries : List (Node × Node) → Option (List (Node × Node))
  | [] => some []
  | (k, n) :: r => do
    let k' ← settle k
    let n ← settle n
    let r ← settleEntries r
    return (settledKey k k', n) :: r

end

/-! ## Free values -/

mutual

/-- The free value of a node: of repeated keys the last counts. -/
def value? : Node → Option Value
  | null => some .null
  | bool b => some (.bool b)
  | number n => some (.ofNumber n)
  | text s => some (.text s)
  | scalar s => s.meaning.map Primitive.value
  | tagged _ _ => none
  | list items => (values? items).map .list
  | map entries => (fields? entries).map .ofFields
  | void => some .null
  | unreadable => none

def values? : List Node → Option (List Value)
  | [] => some []
  | n :: r => do
    let v ← value? n
    let r ← values? r
    return v :: r

def fields? : List (Node × Node) → Option (List (String × Value))
  | [] => some []
  | (k, n) :: r => do
    let k ← k.name?
    let v ← value? n
    let r ← fields? r
    return (k, v) :: r

end

end Node
end Rollout
