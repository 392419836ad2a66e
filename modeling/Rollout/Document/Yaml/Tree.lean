/-
# The tree of a YAML text

The one document that a text holds, made of its tokens, with its anchors and references by name. A
node of which nothing is written is a plain scalar without characters.

Before a node may stand an anchor and a tag, in either order and each once; a reference takes
neither. A list in block form that is the value or the key of a map may stand in the map's own
column: then no token opens or closes it. A pair in a list in brackets that begins with a question
mark and has no key loses the token after that mark.
-/

import Rollout.Document.Yaml.Token

namespace Rollout
namespace Yaml

/-- A node with anchors and references. -/
inductive Tree (α : Type)
  | scalar (s : Scalar)
  | list (items : List (Tree α))
  | map (entries : List (Tree α × Tree α))
  /-- With a local name. -/
  | tagged (tag : String) (t : Tree α)
  | anchored (a : α) (t : Tree α)
  | reference (a : α)

namespace Tree

/-- A node of which nothing is written. -/
def nothing : Tree α := scalar { text := "" }

end Tree

/-- What stands before a node. -/
structure Properties where
  anchor : Option String := none
  tag : Option TagName := none

namespace Properties

/-- The properties before a node, and what follows them. -/
def read (handles : List (String × TagName)) : List Token → Option (Properties × List Token)
  | .anchor a :: .tag t :: r => do return (⟨some a, some (← t.name? handles)⟩, r)
  | .tag t :: .anchor a :: r => do return (⟨some a, some (← t.name? handles)⟩, r)
  | .anchor a :: r => some (⟨some a, none⟩, r)
  | .tag t :: r => do return (⟨none, some (← t.name? handles)⟩, r)
  | r => some ({}, r)

def isEmpty (p : Properties) : Bool := p.anchor.isNone && p.tag.isNone

/-- A node with its properties. A tag counts if it is a local name. -/
def around (p : Properties) (t : Tree String) : Tree String :=
  let t := match p.tag.bind TagName.localText? with
    | some tag => .tagged tag t
    | none => t
  match p.anchor with
  | some a => .anchored a t
  | none => t

/-- A scalar with its properties. -/
def scalar (p : Properties) (form : Scalar.Form) (text : String) : Tree String :=
  let tag := match p.tag with
    | some name => if (TagName.localText? name).isSome then none else some (TagName.scalarTag name)
    | none => none
  p.around (.scalar { form, tag, text })

/-- The properties without a lone mark for a tag. -/
def withoutMark (p : Properties) : Properties :=
  if p.tag = some (bytes ['!']) then { p with tag := none } else p

end Properties

/-! ## Where nothing is written -/

def atItem : List Token → Bool
  | .item :: _ => true
  | _ => false

def atBlockEnd : List Token → Bool
  | .blockEnd :: _ => true
  | _ => false

def atEntry : List Token → Bool
  | .key :: _ => true
  | .value :: _ => true
  | _ => false

def atValue : List Token → Bool
  | .value :: _ => true
  | _ => false

/-- At the end of an item in a bracket, or of the bracket. -/
def atFlowEnd (bracket : Token → Bool) : List Token → Bool
  | .comma :: _ => true
  | t :: _ => bracket t
  | [] => false

def isCloseList : Token → Bool
  | .closeList => true
  | _ => false

def isCloseMap : Token → Bool
  | .closeMap => true
  | _ => false

/-- What may not stand at the start of a document after its mark. -/
def atDocumentEnd : List Token → Bool
  | .directive _ :: _ => true
  | .documentStart :: _ => true
  | .documentEnd :: _ => true
  | [] => true
  | _ => false

/-! ## Nodes -/

mutual

/-- A node and what follows it. In block form (`block`) collections in block form are nodes; with
`sameColumn` so is a list that no token opens. -/
def node (handles : List (String × TagName)) (block sameColumn : Bool) :
    Nat → List Token → Option (Tree String × List Token)
  | 0, _ => none
  | _ + 1, .reference a :: r => some (.reference a, r)
  | fuel + 1, ts => do
    let (p, ts) ← Properties.read handles ts
    match ts with
    | .scalar form s :: r => return (p.withoutMark.scalar form s, r)
    | .openList :: r =>
      let (items, r) ← flowItems handles fuel r
      return (p.around (.list items), r)
    | .openMap :: r =>
      let (es, r) ← flowEntries handles fuel r
      return (p.around (.map es), r)
    | ts =>
      if sameColumn && atItem ts then
        let (items, r) ← sameColumnItems handles fuel ts
        return (p.around (.list items), r)
      else
        match block, ts with
        | true, .blockList :: r =>
          let (items, r) ← blockItems handles fuel r
          return (p.around (.list items), r)
        | true, .blockMap :: r =>
          let (es, r) ← blockEntries handles fuel r
          return (p.around (.map es), r)
        | _, ts => if p.isEmpty then none else return (p.scalar .plain "", ts)

/-- A node in block form, nothing if the text is already `past` it. -/
def blockPart (handles : List (String × TagName)) (sameColumn past : Bool) :
    Nat → List Token → Option (Tree String × List Token)
  | 0, _ => none
  | fuel + 1, ts =>
    if past then some (.nothing, ts) else node handles true sameColumn fuel ts

/-- The items of a list in block form up to its end. -/
def blockItems (handles : List (String × TagName)) :
    Nat → List Token → Option (List (Tree String) × List Token)
  | fuel + 1, .item :: r => do
    let (t, r) ← blockPart handles false (atItem r || atBlockEnd r) fuel r
    let (ts, r) ← blockItems handles fuel r
    return (t :: ts, r)
  | _, .blockEnd :: r => some ([], r)
  | _, _ => none

/-- The items of a list that no token opens. -/
def sameColumnItems (handles : List (String × TagName)) :
    Nat → List Token → Option (List (Tree String) × List Token)
  | fuel + 1, .item :: r => do
    let (t, r) ← blockPart handles false (atItem r || atEntry r || atBlockEnd r) fuel r
    let (ts, r) ← sameColumnItems handles fuel r
    return (t :: ts, r)
  | 0, .item :: _ => none
  | _, r => some ([], r)

/-- The entries of a map in block form up to its end. -/
def blockEntries (handles : List (String × TagName)) :
    Nat → List Token → Option (List (Tree String × Tree String) × List Token)
  | fuel + 1, .key :: r => do
    let (k, r) ← blockPart handles true (atEntry r || atBlockEnd r) fuel r
    let (v, r) ← match r with
      | .value :: r => blockPart handles true (atEntry r || atBlockEnd r) fuel r
      | r => some (.nothing, r)
    let (es, r) ← blockEntries handles fuel r
    return ((k, v) :: es, r)
  | _, .blockEnd :: r => some ([], r)
  | _, _ => none

/-- A node in brackets, nothing if the text is already `past` it. -/
def flowPart (handles : List (String × TagName)) (past : Bool) :
    Nat → List Token → Option (Tree String × List Token)
  | 0, _ => none
  | fuel + 1, ts => if past then some (.nothing, ts) else node handles false false fuel ts

/-- An item of a list in brackets: a node, or a pair after its mark. -/
def flowItem (handles : List (String × TagName)) :
    Nat → List Token → Option (Tree String × List Token)
  | 0, _ => none
  | fuel + 1, .key :: r => do
    let noKey := atValue r || atFlowEnd isCloseList r
    let (k, r) ← flowPart handles noKey fuel r
    match if noKey then r.drop 1 else r with
    | .value :: r =>
      let (v, r) ← flowPart handles (atFlowEnd isCloseList r) fuel r
      return (.map [(k, v)], r)
    | r => return (.map [(k, .nothing)], r)
  | fuel + 1, ts => node handles false false fuel ts

/-- The items of a list in brackets up to its end. -/
def flowItems (handles : List (String × TagName)) :
    Nat → List Token → Option (List (Tree String) × List Token)
  | 0, _ => none
  | _ + 1, .closeList :: r => some ([], r)
  | fuel + 1, ts => do
    let (t, r) ← flowItem handles fuel ts
    match r with
    | .comma :: r =>
      let (ts, r) ← flowItems handles fuel r
      return (t :: ts, r)
    | .closeList :: r => return ([t], r)
    | _ => none

/-- An entry of a map in brackets: a pair after its mark, or a key alone. -/
def flowEntry (handles : List (String × TagName)) :
    Nat → List Token → Option ((Tree String × Tree String) × List Token)
  | 0, _ => none
  | fuel + 1, .key :: r => do
    let (k, r) ← flowPart handles (atValue r || atFlowEnd isCloseMap r) fuel r
    match r with
    | .value :: r =>
      let (v, r) ← flowPart handles (atFlowEnd isCloseMap r) fuel r
      return ((k, v), r)
    | r => return ((k, .nothing), r)
  | fuel + 1, ts => do
    let (k, r) ← node handles false false fuel ts
    return ((k, .nothing), r)

/-- The entries of a map in brackets up to its end. -/
def flowEntries (handles : List (String × TagName)) :
    Nat → List Token → Option (List (Tree String × Tree String) × List Token)
  | 0, _ => none
  | _ + 1, .closeMap :: r => some ([], r)
  | fuel + 1, ts => do
    let (e, r) ← flowEntry handles fuel ts
    match r with
    | .comma :: r =>
      let (es, r) ← flowEntries handles fuel r
      return (e :: es, r)
    | .closeMap :: r => return ([e], r)
    | _ => none

end

/-! ## Documents -/

/-- The directives at the start of tokens. -/
def directives : List Token → List Directive × List Token
  | .directive d :: r => let (ds, r) := directives r; (d :: ds, r)
  | r => ([], r)

/-- Nothing but marks that end a document. -/
def isOver : List Token → Bool
  | .documentEnd :: r => isOver r
  | r => r.isEmpty

/-- The one document of a text, its node or the mark that opens it first. Directives have to be
followed by that mark. -/
def Tree.ofTokens? (ts : List Token) : Option (Tree String) := do
  let (ds, r) := directives ts
  let handles ← handles? ds
  let fuel := 4 * ts.length + 4
  let (t, r) ← match r with
    | .documentStart :: r =>
      if atDocumentEnd r then some (.nothing, r) else node handles true false fuel r
    | r => if ds.isEmpty then node handles true false fuel r else none
  if isOver r then some t else none

end Yaml
end Rollout
