/-
# File paths

Paths as text, with a slash between parts. Empty parts and parts `.` stand for nothing, except
at the front: an empty part there makes the path absolute, and a `.` there is kept.
-/

namespace Rollout
namespace Path

/-- The parts of a text between slashes. -/
def split : List Char → List (List Char)
  | [] => [[]]
  | c :: r =>
    if c = '/' then [] :: split r
    else match split r with
      | part :: rest => (c :: part) :: rest
      | [] => [[c]]

/-- The parts of a path. -/
def parts (p : String) : List String := (split p.toList).map String.ofList

def isAbsolute (p : String) : Bool := p.toList.head? == some '/'

/-- A path as seen from a folder. -/
def join (base p : String) : String :=
  if isAbsolute p || base.isEmpty then p
  else if base.toList.getLast? == some '/' then base ++ p
  else base ++ "/" ++ p

/-- Whether a part that is not the first stands for nothing. -/
def isVoid (part : String) : Bool := part == "" || part == "."

/-- The parts without those at the end that stand for nothing; the first is kept. -/
def trimmed : List String → List String
  | [] => []
  | first :: r => first :: (r.reverse.dropWhile isVoid).reverse

/-- The folder that a path lies in; the empty path and the root lie in none. -/
def parent? (p : String) : Option String :=
  match trimmed (parts p) with
  | [] => none
  | [""] => none
  | ps =>
    match trimmed ps.dropLast with
    | [""] => some "/"
    | qs => some ("/".intercalate qs)

/-- Whether a name ends in something behind at least one character. -/
def hasEnding (name ending : String) : Bool :=
  ending.toList.isSuffixOf name.toList && name ≠ ending

/-- Whether the last part of a path has one of the endings of YAML files. -/
def isYaml (p : String) : Bool :=
  let name := (trimmed (parts p)).getLast?.getD ""
  hasEnding name ".yaml" || hasEnding name ".yml"

example : parent? "sub/run.toml" = some "sub" ∧ parent? "run.toml" = some ""
    ∧ parent? "./sub/../sub/./a" = some "./sub/../sub" ∧ parent? "/a" = some "/"
    ∧ parent? "/" = none := by
  decide +kernel

example : join "sub" "a.json" = "sub/a.json" ∧ join "" "a.json" = "a.json"
    ∧ join "sub" "/a.json" = "/a.json" ∧ join "sub" "" = "sub/" := by
  decide +kernel

end Path
end Rollout
