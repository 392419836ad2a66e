/-
# Text and numbers in TOML

The lexical part of TOML: line ends, comments, text between quotes, and whole numbers.

| text | goes over lines | has escapes |
| --- | --- | --- |
| `"…"` | no | yes |
| `'…'` | no | no |
| `"""…"""` | yes | yes, also of a line end |
| `'''…'''` | yes | no |

A line ends in a line feed or a return and a line feed; in text both are a line feed.
-/

import Rollout.Text.Digits
import Rollout.Text.Hex

namespace Rollout
namespace Toml

def isBlank (c : Char) : Bool := c == ' ' || c == '\t'

def skipBlanks (cs : List Char) : List Char := cs.dropWhile isBlank

/-- The characters of comments and of text on one line. -/
def isText (c : Char) : Bool :=
  let n := c.toNat
  n == 9 || (0x20 ≤ n && n ≠ 0x7F)

/-- Past a line end, if the text begins with one. -/
def pastLineEnd? : List Char → Option (List Char)
  | '\n' :: r => some r
  | '\r' :: '\n' :: r => some r
  | _ => none

/-- Past blanks and a comment to the next line; refuses anything else on the line. -/
def restOfLine (cs : List Char) : Option (List Char) :=
  let cs := match skipBlanks cs with
    | '#' :: r => r.dropWhile isText
    | r => r
  if cs.isEmpty then some [] else pastLineEnd? cs

mutual

/-- Past blanks, comments and line ends. -/
def skipLines : List Char → List Char
  | ' ' :: r => skipLines r
  | '\t' :: r => skipLines r
  | '\n' :: r => skipLines r
  | '\r' :: '\n' :: r => skipLines r
  | '#' :: r => skipComment r
  | r => r

/-- Past a comment, and on from the next line. -/
def skipComment : List Char → List Char
  | '\n' :: r => skipLines r
  | '\r' :: '\n' :: r => skipLines r
  | c :: r => if isText c then skipComment r else c :: r
  | [] => []

end

/-! ## Text -/

/-- The character of a code point with a fixed count of hexadecimal digits. -/
def codePoint (width : Nat) (cs : List Char) : Option (Char × List Char) := do
  let ds ← (cs.take width).mapM Hex.digitValue?
  let n := Digits.value 16 ds
  if ds.length = width ∧ n.isValidChar then some (Char.ofNat n, cs.drop width) else none

/-- The character of an escape, after its backslash. -/
def escaped : List Char → Option (Char × List Char)
  | 'b' :: r => some ('\x08', r)
  | 't' :: r => some ('\t', r)
  | 'n' :: r => some ('\n', r)
  | 'f' :: r => some ('\x0c', r)
  | 'r' :: r => some ('\r', r)
  | '"' :: r => some ('"', r)
  | '\\' :: r => some ('\\', r)
  | 'u' :: r => codePoint 4 r
  | 'U' :: r => codePoint 8 r
  | _ => none

/-- Past blanks and line ends. -/
def skipGap : List Char → List Char
  | ' ' :: r => skipGap r
  | '\t' :: r => skipGap r
  | '\n' :: r => skipGap r
  | '\r' :: '\n' :: r => skipGap r
  | r => r

/-- Past an escaped line end and all blanks and line ends after it. -/
def pastFold? (cs : List Char) : Option (List Char) := (pastLineEnd? (skipBlanks cs)).map skipGap

/-- The text after an opening quote `q`, or after three of them where it goes over lines, and
what follows the closing ones. At most two quotes stand right before three closing ones. The
fuel bounds the characters that are left. -/
def quoted (q : Char) (overLines : Bool) : Nat → List Char → Option (List Char × List Char)
  | 0, _ => none
  | _ + 1, [] => none
  | fuel + 1, c :: r =>
    let more (head : List Char) (r : List Char) := do
      let (t, r) ← quoted q overLines fuel r
      return (head ++ t, r)
    if c == q then
      if overLines then
        let run := ((c :: r).takeWhile (· == q)).length
        if run < 3 then more (List.replicate run q) ((c :: r).drop run)
        else
          let kept := min (run - 3) 2
          some (List.replicate kept q, (c :: r).drop (kept + 3))
      else some ([], r)
    else if c == '\\' && q == '"' then
      match if overLines then pastFold? r else none with
      | some r => more [] r
      | none => do
        let (e, r) ← escaped r
        more [e] r
    else if isText c then more [c] r
    else if overLines then do more ['\n'] (← pastLineEnd? (c :: r))
    else none

/-- Text on one line, after its opening quote. -/
def lineText (q : Char) (cs : List Char) : Option (String × List Char) := do
  let (t, r) ← quoted q false (cs.length + 1) cs
  return (String.ofList t, r)

/-- Text of any of the four kinds. A line end right after three opening quotes is not part
of it. -/
def text : List Char → Option (String × List Char)
  | a :: b :: c :: r =>
    if a == b && b == c then do
      let r := (pastLineEnd? r).getD r
      let (t, r) ← quoted a true (r.length + 1) r
      return (String.ofList t, r)
    else lineText a (b :: c :: r)
  | a :: r => lineText a r
  | [] => none

/-! ## Whole numbers -/

/-- The value of a digit of a base. -/
def digit? (base : Nat) (c : Char) : Option Nat := (Hex.digitValue? c).filter (· < base)

/-- Digits, at least one, with single underscores between them. -/
def digits (base : Nat) : List Char → Option (List Nat × List Char)
  | [] => none
  | c :: '_' :: r => do
    let d ← digit? base c
    let (ds, r) ← digits base r
    return (d :: ds, r)
  | c :: r => do
    let d ← digit? base c
    match digits base r with
    | some (ds, r) => return (d :: ds, r)
    | none => if r.head?.all fun c => (digit? base c).isNone then some ([d], r) else none

/-- The number of digits of a base. -/
def natural (base : Nat) (cs : List Char) : Option (Nat × List Char) := do
  let (ds, r) ← digits base cs
  return (Digits.value base ds, r)

/-- A number in decimal, without leading zeros. -/
def decimal (cs : List Char) : Option (Nat × List Char) := do
  let (ds, r) ← digits 10 cs
  if ds.head? = some 0 ∧ ds ≠ [0] then none else some (Digits.value 10 ds, r)

/-- A whole number: in base 16, 8 or 2 behind a mark, or in decimal with a sign or none. -/
def whole : List Char → Option (Int × List Char)
  | '0' :: 'x' :: r => (natural 16 r).map fun (n, r) => (n, r)
  | '0' :: 'o' :: r => (natural 8 r).map fun (n, r) => (n, r)
  | '0' :: 'b' :: r => (natural 2 r).map fun (n, r) => (n, r)
  | '-' :: r => (decimal r).map fun (n, r) => (-n, r)
  | '+' :: r => (decimal r).map fun (n, r) => (n, r)
  | r => (decimal r).map fun (n, r) => (n, r)

end Toml
end Rollout
