/-
# Reading JSON

A text in JSON as a node. Blanks are the space, the tab, the line feed and the return.

* A number with a fraction or an exponent, `-0` and a whole number beyond 64 bits are doubles;
  of the digits of such a number those count that fit 64 bits together.
* A number beyond the doubles, text with half of a surrogate pair, and a list or map inside 127
  others are unreadable.
-/

import Rollout.Document.Node

namespace Rollout
namespace Json

-- Powers are those of core, whatever is imported beside this module.
attribute [local instance (high)] instPowNat

def skipBlanks (cs : List Char) : List Char :=
  cs.dropWhile fun c => c == ' ' || c == '\n' || c == '\t' || c == '\r'

/-- A piece of text between quotes: a character, or an escaped unit of 16 bits. -/
inductive Piece
  | char (c : Char)
  | unit (n : Nat)

/-- The pieces up to the closing quote, and what follows it. -/
def pieces : List Char → Option (List Piece × List Char)
  | [] => none
  | '"' :: r => some ([], r)
  | '\\' :: 'u' :: a :: b :: c :: d :: r => do
    let n ← [a, b, c, d].foldlM (fun n h => (Hex.digitValue? h).map (n * 16 + ·)) 0
    let (ps, r) ← pieces r
    return (.unit n :: ps, r)
  | '\\' :: c :: r => do
    let e ← match c with
      | '"' => some '"'
      | '\\' => some '\\'
      | '/' => some '/'
      | 'b' => some '\x08'
      | 'f' => some '\x0c'
      | 'n' => some '\n'
      | 'r' => some '\r'
      | 't' => some '\t'
      | _ => none
    let (ps, r) ← pieces r
    return (.char e :: ps, r)
  | c :: r => do
    if c.toNat < 0x20 then none
    else
      let (ps, r) ← pieces r
      return (.char c :: ps, r)

/-- The characters of pieces, surrogate pairs joined; `none` for a lone half. -/
def join : List Piece → Option (List Char)
  | [] => some []
  | .char c :: r => (join r).map (c :: ·)
  | .unit n :: .unit m :: r =>
    if 0xD800 ≤ n ∧ n < 0xDC00 then
      if 0xDC00 ≤ m ∧ m < 0xE000 then
        (join r).map (Char.ofNat (0x10000 + (n - 0xD800) * 0x400 + (m - 0xDC00)) :: ·)
      else none
    else if 0xDC00 ≤ n ∧ n < 0xE000 then none
    else (join (.unit m :: r)).map (Char.ofNat n :: ·)
  | .unit n :: r =>
    if 0xD800 ≤ n ∧ n < 0xE000 then none else (join r).map (Char.ofNat n :: ·)

/-- The text after an opening quote: `none` in the pair for text that has no value. -/
def quotedText (cs : List Char) : Option (Option String × List Char) := do
  let (ps, r) ← pieces cs
  return ((join ps).map String.ofList, r)

/-- As many leading digits as fit 64 bits after those in `n`, with the count of the rest. -/
def significant (n : Nat) : List Char → Nat × Nat
  | [] => (n, 0)
  | c :: r =>
    let m := n * 10 + (c.toNat - 48)
    if m < 2 ^ (64 : Nat) then significant m r else (n, r.length + 1)

/-- An exponent mark with its exponent, or nothing. -/
def exponent : List Char → Option (Option Int × List Char)
  | [] => some (none, [])
  | c :: r =>
    if c == 'e' || c == 'E' then
      let (negative, r) := match r with
        | '-' :: r => (true, r)
        | '+' :: r => (false, r)
        | r => (false, r)
      let ds := r.takeWhile Char.isDigit
      if ds.isEmpty then none
      else
        let n : Int := Nat.ofDigitChars 10 ds 0
        some (some (if negative then -n else n), r.dropWhile Char.isDigit)
    else some (none, c :: r)

/-- A number that is a double, unreadable if it lies beyond them. -/
def ofDouble : Option Double → Node
  | some x => .number (.double x)
  | none => .unreadable

/-- The whole number, or the double that stands in for one of more than 64 bits. -/
def wholeNumber (negative : Bool) (ds : List Char) : Node :=
  let (n, dropped) := significant 0 ds
  if dropped = 0 ∧ !negative then .int n
  else if dropped = 0 ∧ 0 < n ∧ n ≤ 2 ^ (63 : Nat) then .int (-n)
  else ofDouble (Decimal.inSteps negative n dropped)

/-- The double of digits, fraction digits and an exponent. -/
def fractionNumber (negative : Bool) (ds fs : List Char) (e : Int) : Node :=
  let (n, dropped) := significant 0 ds
  let (m, unused) := significant n fs
  let e := e + dropped - (fs.length - unused : Nat)
  ofDouble (Decimal.inSteps negative m e)

/-- A number, after its sign. -/
def numeral (negative : Bool) (cs : List Char) : Option (Node × List Char) := do
  let ds := cs.takeWhile Char.isDigit
  let r := cs.dropWhile Char.isDigit
  if ds.isEmpty || (ds.head? == some '0' && 1 < ds.length) then none
  else
    match r with
    | '.' :: r =>
      let fs := r.takeWhile Char.isDigit
      if fs.isEmpty then none
      else
        let (e, r) ← exponent (r.dropWhile Char.isDigit)
        return (fractionNumber negative ds fs (e.getD 0), r)
    | r =>
      match ← exponent r with
      | (some e, r) => return (fractionNumber negative ds [] e, r)
      | (none, r) => return (wholeNumber negative ds, r)

/-- How many lists and maps may enclose a readable list or map, and one more. -/
def depthLimit : Nat := 127

/-- A list or map, unreadable when too many others enclose it. -/
def enclosed (depth : Nat) (n : Node) : Node :=
  if depth < depthLimit then n else .unreadable

/-- A map of entries, unreadable when one of its keys is. -/
def ofEntries (es : List (Option String × Node)) : Node :=
  match es.mapM fun e => e.1.map fun k => (.text k, e.2) with
  | some es => .map es
  | none => .unreadable

mutual

/-- One value and what follows it. The fuel bounds the characters that are left. -/
def value : Nat → Nat → List Char → Option (Node × List Char)
  | 0, _, _ => none
  | fuel + 1, depth, cs =>
    match skipBlanks cs with
    | 'n' :: 'u' :: 'l' :: 'l' :: r => some (.null, r)
    | 't' :: 'r' :: 'u' :: 'e' :: r => some (.bool true, r)
    | 'f' :: 'a' :: 'l' :: 's' :: 'e' :: r => some (.bool false, r)
    | '"' :: r => do
      let (s, r) ← quotedText r
      match s with
      | some s => return (.text s, r)
      | none => return (.unreadable, r)
    | '-' :: r => numeral true r
    | '[' :: r =>
      match skipBlanks r with
      | ']' :: r => some (enclosed depth (.list []), r)
      | r => do
        let (ns, r) ← items fuel (depth + 1) r
        return (enclosed depth (.list ns), r)
    | '{' :: r =>
      match skipBlanks r with
      | '}' :: r => some (enclosed depth (.map []), r)
      | r => do
        let (es, r) ← entries fuel (depth + 1) r
        return (enclosed depth (ofEntries es), r)
    | r => numeral false r

/-- The values of a list, at least one, up to the closing bracket. -/
def items : Nat → Nat → List Char → Option (List Node × List Char)
  | 0, _, _ => none
  | fuel + 1, depth, cs => do
    let (n, r) ← value fuel depth cs
    match skipBlanks r with
    | ',' :: r =>
      let (ns, r) ← items fuel depth r
      return (n :: ns, r)
    | ']' :: r => return ([n], r)
    | _ => none

/-- The entries of a map, at least one, up to the closing brace. -/
def entries : Nat → Nat → List Char → Option (List (Option String × Node) × List Char)
  | 0, _, _ => none
  | fuel + 1, depth, cs =>
    match skipBlanks cs with
    | '"' :: r => do
      let (k, r) ← quotedText r
      match skipBlanks r with
      | ':' :: r =>
        let (n, r) ← value fuel depth r
        match skipBlanks r with
        | ',' :: r =>
          let (es, r) ← entries fuel depth r
          return ((k, n) :: es, r)
        | '}' :: r => return ([(k, n)], r)
        | _ => none
      | _ => none
    | _ => none

end

/-- The node of a text, nothing but blanks around it. -/
def read (s : String) : Option Node := do
  let cs := s.toList
  let (n, r) ← value (2 * cs.length + 2) 0 cs
  if (skipBlanks r).isEmpty then some n else none

end Json
end Rollout
