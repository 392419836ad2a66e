/-
# Reading TOML

A text in TOML as a document: lines that assign values to keys, under the headers of their
tables. Doubles, dates and lists of tables are refused, for no decoder here takes one.
-/

import Rollout.Document.Toml.Table
import Rollout.Document.Toml.Text

namespace Rollout
namespace Toml

/-- A key without quotes is made of these. -/
def isBare (c : Char) : Bool := c.isAlphanum || c == '_' || c == '-'

/-- One part of a key. -/
def part : List Char → Option (String × List Char)
  | '"' :: r => lineText '"' r
  | '\'' :: r => lineText '\'' r
  | cs =>
    let name := cs.takeWhile isBare
    if name.isEmpty then none else some (String.ofList name, cs.dropWhile isBare)

/-- A key: its parts but the last, the last, and what follows the blanks after it. -/
def key : Nat → List Char → Option (List String × String × List Char)
  | 0, _ => none
  | fuel + 1, cs => do
    let (name, r) ← part (skipBlanks cs)
    match skipBlanks r with
    | '.' :: r =>
      let (path, last, r) ← key fuel r
      return (name :: path, last, r)
    | r => return ([], name, r)

mutual

/-- One value and what follows it. The fuel bounds the characters that are left. -/
def value : Nat → List Char → Option (Document × List Char)
  | 0, _ => none
  | fuel + 1, cs =>
    match cs with
    | 't' :: 'r' :: 'u' :: 'e' :: r => some (.bool true, r)
    | 'f' :: 'a' :: 'l' :: 's' :: 'e' :: r => some (.bool false, r)
    | '[' :: r => do
      let (ds, r) ← items fuel (skipLines r)
      return (.list ds, r)
    | '{' :: r =>
      match skipBlanks r with
      | '}' :: r => some (.map [], r)
      | r => do
        let (t, r) ← pairs fuel [] r
        return (.map (Member.documents t), r)
    | '"' :: _ => (text cs).map fun (t, r) => (.text t, r)
    | '\'' :: _ => (text cs).map fun (t, r) => (.text t, r)
    | _ => (whole cs).map fun (i, r) => (.int i, r)

/-- The values of a list, up to its closing bracket. -/
def items : Nat → List Char → Option (List Document × List Char)
  | 0, _ => none
  | fuel + 1, cs =>
    match cs with
    | ']' :: r => some ([], r)
    | cs => do
      let (d, r) ← value fuel cs
      match skipLines r with
      | ',' :: r =>
        let (ds, r) ← items fuel (skipLines r)
        return (d :: ds, r)
      | ']' :: r => return ([d], r)
      | _ => none

/-- The assignments of a table on one line, up to its closing brace. -/
def pairs : Nat → Members → List Char → Option (Members × List Char)
  | 0, _, _ => none
  | fuel + 1, t, cs => do
    let (t, r) ← pair fuel t cs
    match skipBlanks r with
    | ',' :: r => pairs fuel t r
    | '}' :: r => return (t, r)
    | _ => none

/-- One assignment to a table. -/
def pair : Nat → Members → List Char → Option (Members × List Char)
  | 0, _, _ => none
  | fuel + 1, t, cs => do
    let (path, last, r) ← key (fuel + 1) cs
    match r with
    | '=' :: r =>
      let (d, r) ← value fuel (skipBlanks r)
      return (← t.assignAt path last d, r)
    | _ => none

end

/-- Whether nothing but a comment is left on a line. -/
def isVoid : List Char → Bool
  | [] => true
  | c :: _ => c == '#' || c == '\n' || c == '\r'

/-- One line: the table that it belongs to or opens, the tables after it, and the next line. -/
def line (fuel : Nat) (current : List String) (t : Members) (cs : List Char) :
    Option (List String × Members × List Char) :=
  match skipBlanks cs with
  | '[' :: r => do
    let (path, last, r) ← key fuel r
    match r with
    | ']' :: r => return (path ++ [last], ← t.defineAt path last, ← restOfLine r)
    | _ => none
  | r =>
    if isVoid r then do return (current, t, ← restOfLine r)
    else do
      let (path, last, r) ← key fuel r
      match r with
      | '=' :: r =>
        let (d, r) ← value fuel (skipBlanks r)
        let t ← t.within .enclosing current (·.assignAt path last d)
        return (current, t, ← restOfLine r)
      | _ => none

/-- The tables of the lines to the end of the text. -/
def lines : Nat → List String → Members → List Char → Option Members
  | _, _, t, [] => some t
  | 0, _, _, _ => none
  | fuel + 1, current, t, cs => do
    let (current, t, r) ← line (fuel + 1) current t cs
    lines fuel current t r

/-- The document of a text; a mark of the byte order may stand before it. -/
def read (s : String) : Option Document :=
  let cs := match s.toList with
    | '\ufeff' :: r => r
    | r => r
  (lines (2 * cs.length + 2) [] [] cs).map fun t => .map (Member.documents t)

end Toml
end Rollout
