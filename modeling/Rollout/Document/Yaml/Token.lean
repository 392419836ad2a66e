/-
# Tokens of a YAML text

The text as marks and scalars. Block collections are told by their columns: where a mark or a key
stands to the right of the open ones a collection opens, and where a token stands to the left of it
it closes.

Whether a token is a key shows only at the colon after it. A token that may be one is remembered
with its place; at the colon the mark of a key goes in front of it, and with it the mark of a map if
one opens there. What is remembered is forgotten at the end of the line and after 1024 bytes.
A token that starts a line of a block map has to be a key.
-/

import Rollout.Document.Yaml.Scalar
import Rollout.Document.Yaml.Tag

namespace Rollout
namespace Yaml

/-- A token. -/
inductive Token
  | directive (d : Directive)
  | documentStart
  | documentEnd
  /-- A list in block form opens. -/
  | blockList
  /-- A map in block form opens. -/
  | blockMap
  /-- A list or map in block form closes. -/
  | blockEnd
  | openList
  | closeList
  | openMap
  | closeMap
  | comma
  /-- An item of a list in block form. -/
  | item
  | key
  | value
  | reference (name : String)
  | anchor (name : String)
  | tag (t : Tag)
  | scalar (form : Scalar.Form) (text : String)

/-- A token that may turn out to be a key. -/
structure PossibleKey where
  /-- The count of tokens before it. -/
  place : Nat
  line : Nat
  column : Nat
  offset : Nat
  /-- Whether nothing else may stand there. -/
  required : Bool

namespace PossibleKey

/-- How many bytes a colon may be from the start of its key. -/
def reach : Nat := 1024

/-- Whether a colon at the cursor comes too late. -/
def isLate (k : PossibleKey) (s : Cursor) : Bool :=
  k.line < s.line || k.offset + reach < s.offset

/-- The key if a colon at the cursor is in time, nothing if it is late; refuses a late one that is
required. -/
def inTime? (s : Cursor) : Option PossibleKey → Option (Option PossibleKey)
  | none => some none
  | some k => if k.isLate s then (if k.required then none else some none) else some (some k)

end PossibleKey

/-- A reader of tokens. -/
structure Lexer where
  cursor : Cursor
  /-- Whether the next token may be a key. A tab is no blank then, for tabs do not indent. -/
  keyAllowed : Bool := true
  /-- The columns of the open collections in block form, the innermost first. -/
  columns : List Nat := []
  possibleKey : Option PossibleKey := none
  /-- The possible keys of the text around each open bracket, the innermost first. -/
  outerKeys : List (Option PossibleKey) := []
  tokens : Array Token := #[]

namespace Lexer

/-- Whether the reader is inside brackets. -/
def flow (l : Lexer) : Bool := !l.outerKeys.isEmpty

/-- The first column that is inside the innermost collection in block form. -/
def depth (l : Lexer) : Nat :=
  match l.columns with
  | [] => 0
  | c :: _ => c + 1

def emit (t : Token) (l : Lexer) : Lexer := { l with tokens := l.tokens.push t }

/-- Puts a token before those from a place on. -/
def insert (place : Nat) (t : Token) (l : Lexer) : Lexer :=
  { l with tokens := l.tokens.insertIdxIfInBounds place t }

/-! ## Between tokens -/

/-- Past blanks, comments and line ends; a mark of the byte order may begin a line. In block form a
key is allowed on each new line. -/
def skipSpace (flow comment : Bool) : List Char → Cursor → Bool → Cursor × Bool
  | [], s, allowed => (s, allowed)
  | c :: r, s, allowed =>
    if isBreak c then skipSpace flow false r s.next (allowed || !flow)
    else if comment || c == ' ' || (c == '\t' && (flow || !allowed))
        || (c == '\ufeff' && s.column == 0) then
      skipSpace flow comment r s.next allowed
    else if c == '#' then skipSpace flow true r s.next allowed
    else (s, allowed)

/-- To the start of the next token. -/
def toToken (l : Lexer) : Lexer :=
  let (s, allowed) := skipSpace l.flow false l.cursor.rest l.cursor l.keyAllowed
  { l with cursor := s, keyAllowed := allowed }

/-- Forgets the possible keys that are too far back. -/
def dropLate (l : Lexer) : Option Lexer := do
  return { l with
    possibleKey := ← PossibleKey.inTime? l.cursor l.possibleKey
    outerKeys := ← l.outerKeys.mapM (PossibleKey.inTime? l.cursor) }

/-- Closes the collections in block form with a column of some kind. -/
def close (p : Nat → Bool) (l : Lexer) : Lexer :=
  if l.flow then l
  else
    { l with
      columns := l.columns.dropWhile p
      tokens := l.tokens ++ (l.columns.takeWhile p).map fun _ => Token.blockEnd }

/-! ## Keys and collections -/

/-- Forgets the possible key; refuses if it is required. -/
def dropKey (l : Lexer) : Option Lexer :=
  if l.possibleKey.any (·.required) then none else some { l with possibleKey := none }

/-- Remembers the token that begins here as a possible key, where one is allowed. -/
def saveKey (l : Lexer) : Option Lexer :=
  if l.keyAllowed then do
    let l ← l.dropKey
    return { l with
      possibleKey := some {
        place := l.tokens.size
        line := l.cursor.line
        column := l.cursor.column
        offset := l.cursor.offset
        required := !l.flow && l.columns.head? = some l.cursor.column } }
  else some l

/-- Opens a collection in block form in a column if it lies to the right of the open ones. -/
def openAt (column place : Nat) (t : Token) (l : Lexer) : Lexer :=
  if l.flow || column < l.depth then l
  else { l.insert place t with columns := column :: l.columns }

/-- Opens a collection in block form at the mark that comes next. -/
def openHere (t : Token) (l : Lexer) : Option Lexer :=
  if l.flow then some l
  else if l.keyAllowed then some (l.openAt l.cursor.column l.tokens.size t)
  else none

/-! ## Tokens -/

/-- Emits a token of some characters. Whether a key may follow is given. -/
def mark (t : Token) (width : Nat) (keyAllowed : Bool) (l : Lexer) : Lexer :=
  { l.emit t with cursor := l.cursor.skip width, keyAllowed }

/-- A directive, or a mark that starts or ends a document. -/
def outer (l : Lexer) : Option Lexer := (l.close fun _ => true).dropKey

/-- A bracket that opens a list or a map. -/
def openFlow (t : Token) (l : Lexer) : Option Lexer := do
  let l ← l.saveKey
  return { l.mark t 1 true with possibleKey := none, outerKeys := l.possibleKey :: l.outerKeys }

/-- A bracket that closes a list or a map. -/
def closeFlow (t : Token) (l : Lexer) : Option Lexer := do
  let l ← l.dropKey
  let l := match l.outerKeys with
    | [] => l
    | k :: r => { l with possibleKey := k, outerKeys := r }
  return l.mark t 1 false

/-- A colon: the end of a key if one was remembered. -/
def colon (l : Lexer) : Option Lexer := do
  match l.possibleKey with
  | some k =>
    let l := (l.insert k.place .key).openAt k.column k.place .blockMap
    return { l.mark .value 1 false with possibleKey := none }
  | none =>
    let l ← l.openHere .blockMap
    return l.mark .value 1 (!l.flow)

/-- The name of an anchor, after its mark. -/
def anchorName? (cs : List Char) : Option (List Char) :=
  let name := cs.takeWhile isNameChar
  let r := cs.drop name.length
  let ends := gapNext r
    || r.head?.any fun c => ['?', ':', ',', ']', '}', '%', '@'].contains c || c.toNat == 0x60
  if name.isEmpty || !ends then none else some name

/-- An anchor or a reference to one. -/
def named (t : String → Token) (l : Lexer) : Option Lexer := do
  let l ← l.saveKey
  let name ← anchorName? (l.cursor.rest.drop 1)
  return l.mark (t (String.ofList name)) (name.length + 1) false

/-- A tag. -/
def tagged (l : Lexer) : Option Lexer := do
  let l ← l.saveKey
  let (t, r) ← tag l.cursor.rest
  if gapNext r || (l.flow && r.head? = some ',') then
    return { l.emit (.tag t) with cursor := l.cursor.goTo r, keyAllowed := false }
  else none

/-- Block text. -/
def blockText (literal : Bool) (l : Lexer) : Option Lexer := do
  let l ← l.dropKey
  let (cs, s) ← block literal l.depth l.cursor
  let form := if literal then .literal else .quoted
  return { l.emit (.scalar form (String.ofList cs)) with cursor := s, keyAllowed := true }

/-- Quoted text. -/
def quotedText (double : Bool) (l : Lexer) : Option Lexer := do
  let l ← l.saveKey
  let (cs, s) ← quoted double l.cursor
  return { l.emit (.scalar .quoted (String.ofList cs)) with cursor := s, keyAllowed := false }

/-- Plain text. After a line end a key may follow. -/
def plainText (l : Lexer) : Option Lexer := do
  let l ← l.saveKey
  let t ← plain l.flow l.depth l.cursor
  return { l.emit (.scalar .plain (String.ofList t.text)) with
    cursor := t.after, keyAllowed := t.broken }

/-- One token, the cursor at its start. -/
def next (l : Lexer) : Option Lexer :=
  let s := l.cursor
  match s.rest with
  | [] => none
  | c :: r =>
    if s.column == 0 && c == '%' then do
      let l ← l.outer
      let (d, r) ← directive s.rest
      return { l.emit (.directive d) with cursor := s.goTo r, keyAllowed := false }
    else if s.atDocumentMark then do
      let l ← l.outer
      return l.mark (if c == '-' then .documentStart else .documentEnd) 3 false
    else match c with
      | '[' => l.openFlow .openList
      | '{' => l.openFlow .openMap
      | ']' => l.closeFlow .closeList
      | '}' => l.closeFlow .closeMap
      | ',' => do return (← l.dropKey).mark .comma 1 true
      | '*' => l.named .reference
      | '&' => l.named .anchor
      | '!' => l.tagged
      | '\'' => l.quotedText false
      | '"' => l.quotedText true
      | c =>
        if c == '-' && gapNext r then do
          return (← (← l.openHere .blockList).dropKey).mark .item 1 true
        else if c == '?' && (l.flow || gapNext r) then do
          return (← (← l.openHere .blockMap).dropKey).mark .key 1 (!l.flow)
        else if c == ':' && (l.flow || gapNext r) then l.colon
        else if !l.flow && (c == '|' || c == '>') then l.blockText (c == '|')
        else if startsPlain l.flow s.rest then l.plainText
        else none

/-- All tokens to the end of the text. The fuel bounds their count. -/
def run : Nat → Lexer → Option (Array Token)
  | 0, _ => none
  | fuel + 1, l => do
    let l := l.toToken
    let l ← l.dropLate
    let l := l.close (l.cursor.column < ·)
    if l.cursor.atEnd then return (← l.outer).tokens
    else run fuel (← l.next)

end Lexer

/-- The tokens of a text. -/
def tokens (cs : List Char) : Option (List Token) :=
  if cs.all isAllowed then
    let cs := unify cs
    (Lexer.run (cs.length + 1) { cursor := { rest := cs } }).map Array.toList
  else none

end Yaml
end Rollout
