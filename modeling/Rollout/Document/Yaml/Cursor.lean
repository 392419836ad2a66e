/-
# A place in a YAML text

Where a reader stands: line, column, bytes of the line before it, and what is left. `Yaml.unify`
brings the line ends of all systems to the line feed; the separators of lines and of paragraphs,
U+2028 and U+2029, end a line too and stay what they are.

A cursor moves by `Cursor.skip` alone, and `Cursor.rest_skip` says that it then has dropped as many
characters.
-/

namespace Rollout
namespace Yaml

/-- The text with a line feed for the line ends of all systems. -/
def unify : List Char → List Char
  | '\r' :: '\n' :: r => '\n' :: unify r
  | '\r' :: r => '\n' :: unify r
  | '\x85' :: r => '\n' :: unify r
  | c :: r => c :: unify r
  | [] => []

/-- The characters that a text may hold. -/
def isAllowed (c : Char) : Bool :=
  let n := c.toNat
  n == 9 || n == 10 || n == 13 || (0x20 ≤ n && n ≤ 0x7E) || n == 0x85
    || (0xA0 ≤ n && n ≤ 0xFFFD) || 0x10000 ≤ n

def isBlank (c : Char) : Bool := c == ' ' || c == '\t'

/-- The character ends a line. -/
def isBreak (c : Char) : Bool := c == '\n' || c == '\u2028' || c == '\u2029'

/-- The character may stand between two words of one text. -/
def isGap (c : Char) : Bool := isBlank c || isBreak c

/-- The characters of the names of anchors, handles and directives. -/
def isNameChar (c : Char) : Bool := c.isAlphanum || c == '_' || c == '-'

/-- The marks of lists and maps in brackets. -/
def isFlowMark (c : Char) : Bool := c == ',' || c == '[' || c == ']' || c == '{' || c == '}'

/-- The text goes on with a blank or a line end, or ends. -/
def gapNext : List Char → Bool
  | [] => true
  | c :: _ => isGap c

/-- Three dashes or three dots, and nothing right after them. -/
def documentMark : List Char → Bool
  | '-' :: '-' :: '-' :: r => gapNext r
  | '.' :: '.' :: '.' :: r => gapNext r
  | _ => false

/-- Past the blanks and a comment to the end of a line, and past that; refuses anything else on
the line. -/
def restOfLine (cs : List Char) : Option (List Char) :=
  let cs := cs.dropWhile isBlank
  match if cs.head? = some '#' then cs.dropWhile (!isBreak ·) else cs with
  | [] => some []
  | c :: r => if isBreak c then some r else none

/-- A place in a text. -/
structure Cursor where
  rest : List Char
  line : Nat := 0
  column : Nat := 0
  /-- The bytes of the line before the place. -/
  offset : Nat := 0

namespace Cursor

/-- One character on. -/
def next (s : Cursor) : Cursor :=
  match s.rest with
  | [] => s
  | c :: r =>
    if isBreak c then { rest := r, line := s.line + 1 }
    else { s with rest := r, column := s.column + 1, offset := s.offset + c.utf8Size }

/-- A number of characters on. -/
def skip (s : Cursor) : Nat → Cursor
  | 0 => s
  | n + 1 => s.next.skip n

/-- One step on, one character less remains. -/
theorem rest_next (s : Cursor) : s.next.rest = s.rest.drop 1 := by
  unfold next
  split
  · next h => simp [h]
  · next h => split <;> simp [h]

/-- Some steps on, as many characters less remain. -/
theorem rest_skip (s : Cursor) (n : Nat) : (s.skip n).rest = s.rest.drop n := by
  induction n generalizing s with
  | zero => rfl
  | succ n ih => rw [skip, ih, rest_next, List.drop_drop, Nat.add_comm]

/-- Moving on over something leaves less. -/
theorem length_rest_skip_lt {s : Cursor} {c : Char} {r : List Char} (h : s.rest = c :: r) {n : Nat}
    (hn : 0 < n) : (s.skip n).rest.length < s.rest.length := by
  rw [rest_skip, List.length_drop, h, List.length_cons]
  omega

/-- To the place where `r` is left. -/
def goTo (s : Cursor) (r : List Char) : Cursor := s.skip (s.rest.length - r.length)

def atEnd (s : Cursor) : Bool := s.rest.isEmpty

/-- A line that starts or ends a document. -/
def atDocumentMark (s : Cursor) : Bool := s.column = 0 && documentMark s.rest

end Cursor
end Yaml
end Rollout
