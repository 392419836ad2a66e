/-
# Tags and directives of a YAML text

A tag is written in full, as `!<name>`, or as a handle with the rest of the name: `!`, `!!` or
`!word!`, for which a directive or the default gives the beginning of the name. Names are bytes,
of which those outside ASCII are written as `%` with two digits each; a zero byte ends a name.

| name | means |
| --- | --- |
| `tag:yaml.org,2002:` and `null`, `bool`, `int`, `float` | a type of scalars |
| `!` alone | before a scalar, that there is no tag |
| `!` and more | a local name |
| any other | that plain text is text |
-/

import Rollout.Text.Hex
import Rollout.Document.Scalar
import Rollout.Document.Yaml.Cursor

namespace Rollout
namespace Yaml

/-- The bytes of a name of a tag. -/
abbrev TagName := List UInt8

/-- A tag as it is written. -/
structure Tag where
  /-- Empty for a tag in full and for a lone `!`. -/
  handle : String
  rest : TagName

/-- A line before a document. -/
inductive Directive
  /-- A version that this reader knows. -/
  | version
  /-- What a handle stands for. -/
  | handle (handle : String) (name : TagName)

/-! ## Names -/

def bytes (cs : List Char) : TagName := cs.flatMap String.utf8EncodeChar

/-- The characters of names. Names in full have lists' marks in them too. -/
def isUriChar (full : Bool) (c : Char) : Bool :=
  isNameChar c || [';', '/', '?', ':', '@', '&', '=', '+', '$', '.', '!', '~', '*', '\'', '(',
    ')'].contains c || (full && [',', '[', ']'].contains c)

/-- How many bytes a character takes whose first byte is `n`. -/
def leadWidth? (n : Nat) : Option Nat :=
  if n < 0x80 then some 1
  else if n < 0xC0 then none
  else if n < 0xE0 then some 2
  else if n < 0xF0 then some 3
  else if n < 0xF8 then some 4
  else none

/-- The bytes of a name and what follows it; `pending` bytes of a character are still to come. -/
def uri (full : Bool) : Nat → List Char → Option (TagName × List Char)
  | pending, '%' :: a :: b :: r => do
    let n := (← Hex.digitValue? a) * 16 + (← Hex.digitValue? b)
    let pending ← match pending with
      | 0 => (leadWidth? n).map (· - 1)
      | pending + 1 => if 0x80 ≤ n ∧ n < 0xC0 then some pending else none
    let (name, r) ← uri full pending r
    return (n.toUInt8 :: name, r)
  | 0, c :: r =>
    if c == '%' then none
    else if isUriChar full c then do
      let (name, r) ← uri full 0 r
      return (c.toNat.toUInt8 :: name, r)
    else some ([], c :: r)
  | 0, [] => some ([], [])
  | _ + 1, _ => none

/-- A name of at least one byte, up to a zero byte. -/
def someName (full : Bool) (cs : List Char) : Option (TagName × List Char) := do
  let (name, r) ← uri full 0 cs
  if name.isEmpty then none else some (name.takeWhile (· ≠ 0), r)

/-- A handle of two marks with a word or nothing between them, if the text begins with one. -/
def handle? : List Char → Option (String × List Char)
  | '!' :: r =>
    let word := r.takeWhile isNameChar
    match r.drop word.length with
    | '!' :: r => some (String.ofList ('!' :: word ++ ['!']), r)
    | _ => none
  | _ => none

/-- A tag from its mark, and what follows it. -/
def tag : List Char → Option (Tag × List Char)
  | '!' :: '<' :: r => do
    let (name, r) ← someName true r
    match r with
    | '>' :: r => return (⟨"", name⟩, r)
    | _ => none
  | cs =>
    match handle? cs with
    | some (handle, r) => do
      let (name, r) ← someName false r
      return (⟨handle, name⟩, r)
    | none => do
      let r := cs.drop 1
      let word := r.takeWhile isNameChar
      let (name, r) ← uri false 0 (r.drop word.length)
      let name := (bytes word ++ name).takeWhile (· ≠ 0)
      return (if name.isEmpty then ⟨"", bytes ['!']⟩ else ⟨"!", name⟩, r)

/-! ## Directives -/

/-- A number of at most nine digits. -/
def shortNumber (cs : List Char) : Option (Nat × List Char) :=
  let ds := cs.takeWhile Char.isDigit
  if ds.isEmpty || 9 < ds.length then none
  else some (Nat.ofDigitChars 10 ds 0, cs.drop ds.length)

/-- A directive from its mark, and what follows its line. -/
def directive (cs : List Char) : Option (Directive × List Char) := do
  let cs := cs.drop 1
  let word := cs.takeWhile isNameChar
  let r := cs.drop word.length
  if !gapNext r then none
  else
    let r := r.dropWhile isBlank
    match String.ofList word with
    | "YAML" =>
      let (major, r) ← shortNumber r
      match r with
      | '.' :: r =>
        let (minor, r) ← shortNumber r
        if major = 1 ∧ (minor = 1 ∨ minor = 2) then return (.version, ← restOfLine r) else none
      | _ => none
    | "TAG" =>
      let (handle, r) ← match handle? r, r with
        | some h, _ => some h
        | none, '!' :: r => some ("!", r)
        | none, _ => none
      if r.head?.any isBlank then
        let (name, r) ← someName true (r.dropWhile isBlank)
        if gapNext r then return (.handle handle name, ← restOfLine r) else none
      else none
    | _ => none

/-! ## What a tag means -/

/-- What handles stand for where no directive says so. -/
def defaultHandles : List (String × TagName) :=
  [("!", bytes ['!']), ("!!", bytes "tag:yaml.org,2002:".toList)]

/-- The handles that directives define; refuses a second definition and a second version. -/
def handles? : List Directive → Option (List (String × TagName))
  | ds =>
    let handles := ds.filterMap fun
      | .handle handle name => some (handle, name)
      | .version => none
    if (handles.map (·.1)).Nodup ∧ ds.length ≤ handles.length + 1 then
      some (handles ++ defaultHandles)
    else none

namespace Tag

/-- The name of a tag; `none` for a handle that stands for nothing. -/
def name? (handles : List (String × TagName)) (t : Tag) : Option TagName :=
  if t.handle.isEmpty then some t.rest else (handles.lookup t.handle).map (· ++ t.rest)

end Tag

namespace TagName

/-- The bytes of a local name: what follows its mark. -/
def localPart? : TagName → Option TagName
  | b :: r => if b = 33 then some r else none
  | [] => none

/-- A local name as text, if it is text. -/
def localText? (name : TagName) : Option String := do
  String.fromUTF8? ⟨(← localPart? name).toArray⟩

/-- What the name means before a scalar. -/
def scalarTag (name : TagName) : Scalar.Tag :=
  let standard (s : String) : TagName := bytes ("tag:yaml.org,2002:" ++ s).toList
  if name = standard "null" then .null
  else if name = standard "bool" then .bool
  else if name = standard "int" then .int
  else if name = standard "float" then .float
  else if (localPart? name).isSome then .nameless
  else .other

end TagName
end Yaml
end Rollout
