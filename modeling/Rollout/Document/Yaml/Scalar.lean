/-
# The text of YAML scalars

Text in its four ways of writing, each read from a cursor at its start.

| written | ends |
| --- | --- |
| plain | before `: ` and ` #`, before a less indented line, inside brackets before `,[]{}` |
| `'single'` | at the quote; two quotes stand for one |
| `"double"` | at the quote; a backslash escapes |
| `\|` and `>` | before a less indented line |

A gap between two words is the blanks in it if it stays on one line. Else the first line end is a
blank, or nothing if more line ends follow, which are kept; blanks around line ends are dropped. A
gap that begins with a separator of lines or paragraphs keeps all its line ends.
-/

import Rollout.Text.Digits
import Rollout.Text.Hex
import Rollout.Document.Yaml.Cursor

namespace Rollout
namespace Yaml

/-- What a gap between two words stands for. -/
def gapText (gap : List Char) : List Char :=
  match gap.filter isBreak with
  | [] => gap
  | ['\n'] => [' ']
  | '\n' :: breaks => breaks
  | breaks => breaks

/-! ## Plain text -/

/-- Plain text may start here. -/
def startsPlain (flow : Bool) : List Char → Bool
  | [] => false
  | c :: r =>
    if c == '-' then !gapNext r
    else if c == '?' || c == ':' then !flow && !gapNext r
    else !isGap c && !isFlowMark c
      && !(['#', '&', '*', '!', '|', '>', '\'', '"', '%', '@'].contains c || c.toNat == 0x60)

/-- The next word of plain text, which may be empty. Refuses a colon that could end a key inside
brackets. -/
def word? (flow : Bool) : List Char → Option (List Char)
  | [] => some []
  | c :: r =>
    if isGap c || (c == ':' && gapNext r) || (flow && isFlowMark c) then some []
    else if flow && c == ':' && r.head?.any (fun d => isFlowMark d || d == '?') then none
    else (word? flow r).map (c :: ·)

/-- A tab stands left of a column in one of the lines that begin in a gap. The column of the gap
is `none` as long as it is on its first line. -/
def tabIndents (depth : Nat) : Option Nat → List Char → Bool
  | _, [] => false
  | column, c :: r =>
    if isBreak c then tabIndents depth (some 0) r
    else (c == '\t' && column.any (· < depth)) || tabIndents depth (column.map (· + 1)) r

/-- Plain text as far as it was read. -/
structure PlainText where
  text : List Char
  /-- Whether the gap after it goes over a line end. -/
  broken : Bool
  after : Cursor

/-- Plain text after a gap. The lines that carry it on are indented by at least `depth`, except
inside brackets. -/
def plainAfter (flow : Bool) (depth : Nat) (gap : List Char) (s : Cursor) : Option PlainText :=
  match _h : s.rest with
  | [] => some ⟨[], gap.any isBreak, s⟩
  | c :: r =>
    if s.atDocumentMark || c == '#' then some ⟨[], gap.any isBreak, s⟩
    else do
      let w ← word? flow (c :: r)
      if _hw : 0 < w.length then
        let gap' := (r.drop (w.length - 1)).takeWhile isGap
        let s' := s.skip (w.length + gap'.length)
        if tabIndents depth none gap' then none
        else if gap'.isEmpty then return ⟨gapText gap ++ w, false, s'⟩
        else if !flow && s'.column < depth then
          return ⟨gapText gap ++ w, gap'.any isBreak, s'⟩
        else
          let t ← plainAfter flow depth gap' s'
          return { t with text := gapText gap ++ w ++ t.text }
      else return ⟨[], gap.any isBreak, s⟩
termination_by s.rest.length
decreasing_by exact Cursor.length_rest_skip_lt ‹_› (by omega)

/-- Plain text from its first character. -/
def plain (flow : Bool) (depth : Nat) (s : Cursor) : Option PlainText :=
  plainAfter flow depth [] s

/-! ## Quoted text -/

/-- What a letter after a backslash stands for. -/
def escaped? : Char → Option Char
  | '0' => some '\x00'
  | 'a' => some '\x07'
  | 'b' => some '\x08'
  | 't' => some '\t'
  | '\t' => some '\t'
  | 'n' => some '\n'
  | 'v' => some '\x0b'
  | 'f' => some '\x0c'
  | 'r' => some '\r'
  | 'e' => some '\x1b'
  | ' ' => some ' '
  | '"' => some '"'
  | '/' => some '/'
  | '\\' => some '\\'
  | 'N' => some '\u0085'
  | '_' => some '\u00a0'
  | 'L' => some '\u2028'
  | 'P' => some '\u2029'
  | _ => none

/-- The count of hexadecimal digits after a letter. -/
def escapeWidth : Char → Nat
  | 'x' => 2
  | 'u' => 4
  | 'U' => 8
  | _ => 0

/-- The character of an escape, its letter and what follows given. -/
def escape? (letter : Char) (cs : List Char) : Option Char := do
  let width := escapeWidth letter
  if width = 0 then escaped? letter
  else
    let ds ← (cs.take width).mapM Hex.digitValue?
    let n := Digits.value 16 ds
    if ds.length = width ∧ n.isValidChar then some (Char.ofNat n) else none

/-- The rest of quoted text, and the place after its closing quote. Of an escaped line end and
the gap after it the further line ends stay. -/
def quotedRest (double : Bool) (s : Cursor) : Option (List Char × Cursor) :=
  match _h : s.rest with
  | [] => none
  | c :: r =>
    if s.atDocumentMark then none
    else if isGap c then do
      let gap := c :: r.takeWhile isGap
      let (t, s) ← quotedRest double (s.skip gap.length)
      return (gapText gap ++ t, s)
    else if double then
      if c == '"' then some ([], s.skip 1)
      else if c == '\\' then
        match r with
        | [] => none
        | e :: r =>
          if isBreak e then do
            let gap := r.takeWhile isGap
            let (t, s) ← quotedRest double (s.skip (gap.length + 2))
            return (gap.filter isBreak ++ t, s)
          else do
            let x ← escape? e r
            let (t, s) ← quotedRest double (s.skip (escapeWidth e + 2))
            return (x :: t, s)
      else do
        let (t, s) ← quotedRest double (s.skip 1)
        return (c :: t, s)
    else if c == '\'' && r.head? != some '\'' then some ([], s.skip 1)
    else do
      let (t, s) ← quotedRest double (s.skip (if c == '\'' then 2 else 1))
      return (c :: t, s)
termination_by s.rest.length
decreasing_by
  all_goals
    refine Cursor.length_rest_skip_lt ‹_› ?_
    first
      | omega
      | exact Nat.succ_pos _
      | split <;> omega

/-- Quoted text from its opening quote. -/
def quoted (double : Bool) (s : Cursor) : Option (List Char × Cursor) := quotedRest double s.next

/-! ## Block text -/

/-- What becomes of the line ends that end block text. -/
inductive Chomp
  | clip
  | strip
  | keep
deriving DecidableEq

def chomp? : List Char → Option (Chomp × List Char)
  | '+' :: r => some (.keep, r)
  | '-' :: r => some (.strip, r)
  | _ => none

/-- How deep block text is said to be indented: by at least one. -/
def increment? : List Char → Option (Nat × List Char)
  | c :: r => if '1' ≤ c ∧ c ≤ '9' then some (c.toNat - 48, r) else none
  | [] => none

/-- The marks after `|` or `>` in either order: what to do with the last line ends, and how deep
the text is said to be indented. -/
def blockMarks (cs : List Char) : Chomp × Option Nat × List Char :=
  match chomp? cs with
  | some (chomp, r) =>
    match increment? r with
    | some (n, r) => (chomp, some n, r)
    | none => (chomp, none, r)
  | none =>
    match increment? cs with
    | some (n, r) =>
      match chomp? r with
      | some (chomp, r) => (chomp, some n, r)
      | none => (.clip, some n, r)
    | none => (.clip, none, cs)

/-- The line ends of empty lines and the indentation after them: the line ends, the greatest
column met, and the place after. With no depth given all blanks are indentation. Refuses a tab in
it. -/
def emptyLines (depth : Option Nat) (s : Cursor) : Option (List Char × Nat × Cursor) :=
  match _h : s.rest with
  | [] => some ([], s.column, s)
  | c :: _ =>
    let inside := depth.all (s.column < ·)
    if c == ' ' && inside then emptyLines depth (s.skip 1)
    else if c == '\t' && inside then none
    else if isBreak c then do
      let (breaks, deepest, after) ← emptyLines depth (s.skip 1)
      return (c :: breaks, max s.column deepest, after)
    else some ([], s.column, s)
termination_by s.rest.length
decreasing_by all_goals exact Cursor.length_rest_skip_lt ‹_› (by omega)

/-- Block text as far as it was read: the text up to its last line, the end of that line, the
line ends after it, and the place after. -/
structure BlockText where
  text : List Char
  last : List Char
  trailing : List Char
  after : Cursor

/-- The lines of block text of a depth. Before them stand the end of the line before, if any, and
the ends of empty lines; `indented` says whether the line before was itself indented further. -/
def blockLines (literal : Bool) (depth : Nat) (last trailing : List Char) (indented : Bool)
    (s : Cursor) : Option BlockText :=
  if s.column = depth ∧ !s.atEnd then do
    let further := s.rest.head?.any isBlank
    let join :=
      if !literal && last == ['\n'] && !indented && !further then
        if trailing.isEmpty then [' '] else []
      else last
    let text := s.rest.takeWhile (!isBreak ·)
    let s' := s.skip text.length
    let last' := s'.rest.take 1
    let (trailing', _, s') ← emptyLines (some depth) (s'.skip last'.length)
    if s'.rest.length < s.rest.length then
      let t ← blockLines literal depth last' trailing' further s'
      return { t with text := join ++ trailing ++ text ++ t.text }
    else none
  else some ⟨[], last, trailing, s⟩
termination_by s.rest.length

/-- Block text, from its mark, inside a collection whose items are indented by at least `depth`. -/
def block (literal : Bool) (depth : Nat) (s : Cursor) : Option (List Char × Cursor) := do
  let (chomp, increment, r) := blockMarks (s.rest.drop 1)
  let s := s.goTo (← restOfLine r)
  let (leading, deepest, s) ← emptyLines (increment.map (depth - 1 + ·)) s
  let column := match increment with
    | some n => depth - 1 + n
    | none => max (max deepest depth) 1
  let t ← blockLines literal column [] leading false s
  let last := if chomp = .strip then [] else t.last
  let trailing := if chomp = .keep then t.trailing else []
  return (t.text ++ last ++ trailing, t.after)

end Yaml
end Rollout
