/-
# Anchors of a YAML text

What references stand for. An anchor gets a number when its node begins: the count of the names
known before, so that a name given anew may share its number with the next new one. A reference
means the number of its name at that place; a number means the node begun last that bears it, even
if that node comes after the reference.

`Tree.expand` puts the nodes in place of their references. A text holds few nodes and yet may stand
for very many, or for a node inside itself, so that there are two limits: on how deep lists and maps
lie in each other, and on how many references are followed. A list or map beyond the first and a
reference beyond the second is unreadable.
-/

import Rollout.Document.Node
import Rollout.Document.Yaml.Tree

namespace Rollout
namespace Yaml

/-- The numbers of the names known so far. -/
abbrev AnchorNumbers := List (String × Nat)

namespace Tree

mutual

/-- The tree with numbers for names; refuses a reference to an unknown name. -/
def number? : Tree String → AnchorNumbers → Option (Tree Nat × AnchorNumbers)
  | scalar s, ns => some (scalar s, ns)
  | tagged tag t, ns => do
    let (t, ns) ← number? t ns
    return (tagged tag t, ns)
  | anchored a t, ns => do
    let n := ns.length
    let (t, ns) ← number? t ((a, n) :: ns.filter (·.1 != a))
    return (anchored n t, ns)
  | reference a, ns => do return (reference (← ns.lookup a), ns)
  | list items, ns => do
    let (items, ns) ← numberItems? items ns
    return (list items, ns)
  | map es, ns => do
    let (es, ns) ← numberEntries? es ns
    return (map es, ns)

def numberItems? : List (Tree String) → AnchorNumbers → Option (List (Tree Nat) × AnchorNumbers)
  | [], ns => some ([], ns)
  | t :: r, ns => do
    let (t, ns) ← number? t ns
    let (r, ns) ← numberItems? r ns
    return (t :: r, ns)

def numberEntries? : List (Tree String × Tree String) → AnchorNumbers →
    Option (List (Tree Nat × Tree Nat) × AnchorNumbers)
  | [], ns => some ([], ns)
  | (k, v) :: r, ns => do
    let (k, ns) ← number? k ns
    let (v, ns) ← number? v ns
    let (r, ns) ← numberEntries? r ns
    return ((k, v) :: r, ns)

end

mutual

/-- The nodes that bear numbers, in the order in which they begin. -/
def anchors : Tree α → List (α × Tree α)
  | scalar _ => []
  | tagged _ t => anchors t
  | anchored a t => (a, t) :: anchors t
  | reference _ => []
  | list items => anchorsOfItems items
  | map es => anchorsOfEntries es

def anchorsOfItems : List (Tree α) → List (α × Tree α)
  | [] => []
  | t :: r => anchors t ++ anchorsOfItems r

def anchorsOfEntries : List (Tree α × Tree α) → List (α × Tree α)
  | [] => []
  | (k, v) :: r => anchors k ++ anchors v ++ anchorsOfEntries r

end

mutual

/-- How much is written: a list or map counts for its beginning and its end. -/
def size : Tree α → Nat
  | scalar _ => 1
  | tagged _ t => size t
  | anchored _ t => size t
  | reference _ => 1
  | list items => sizeOfItems items + 2
  | map es => sizeOfEntries es + 2

def sizeOfItems : List (Tree α) → Nat
  | [] => 0
  | t :: r => size t + sizeOfItems r

def sizeOfEntries : List (Tree α × Tree α) → Nat
  | [] => 0
  | (k, v) :: r => size k + size v + sizeOfEntries r

end

/-- How many lists and maps may lie in each other. -/
def depthLimit : Nat := 128

/-- How many references may be followed for each thing written. -/
def referenceRate : Nat := 100

/-- The tree without an anchor of its own. -/
def bare : Tree α → Tree α
  | anchored _ t => t
  | t => t

/-- What can still be followed, spent as the tree is walked. -/
abbrev Spending := StateT Nat Option

/-- A reference is followed; refuses where the limit is reached. -/
def spend : Spending Unit := do
  let left ← get
  match left with
  | 0 => failure
  | left + 1 => set left

/-- Spends nothing on what goes beyond the limit. -/
def orUnreadable (x : Spending Node) : Spending Node := fun left =>
  match x left with
  | some r => some r
  | none => some (.unreadable, left)

/-- The node of a tree in which no more than `depth` lists and maps lie in each other. Inside a
reference the limit on references is a limit on the whole of it; outside (`outer`) what goes beyond
it is unreadable. -/
def nodeWithin (target : Nat → Option (Tree Nat)) : Nat → Bool → Tree Nat → Spending Node
  | depth, outer, t =>
    let parts (outer : Bool) (t : Tree Nat) : Spending Node :=
      match t, depth with
      | scalar s, _ => return .scalar s
      | list items, depth + 1 => do
        return .list (← items.mapM (nodeWithin target depth outer))
      | map es, depth + 1 => do
        return .map (← es.mapM fun e => do
          return (← nodeWithin target depth outer e.1, ← nodeWithin target depth outer e.2))
      | _, _ => return .unreadable
    let whole (outer : Bool) (t : Tree Nat) : Spending Node :=
      match t with
      | tagged tag t => do return .tagged tag (← parts outer t)
      | t => parts outer t
    match t.bare with
    | reference a =>
      let followed : Spending Node := do
        spend
        whole false (← target a)
      if outer then orUnreadable followed else followed
    | t => whole outer t

/-- The node of a tree, references followed. -/
def expand (t : Tree Nat) : Option Node := do
  let targets := t.anchors.reverse
  let (n, _) ← nodeWithin (targets.lookup ·) depthLimit true t (referenceRate * t.size)
  return n

end Tree
end Yaml
end Rollout
