/-
# Arguments

What an argument is by its looks alone:

| argument | is |
| --- | --- |
| `--` | the end of options |
| `--name` or `--name=value` | a long option |
| `-letters`, at least one | short options |
| the rest, a lone `-` included | a word |
-/

namespace Rollout

/-- What an argument is by its looks. -/
inductive Argument
  | endOfOptions
  | long (name : String) (value : Option String)
  | short (first : Char) (rest : List Char)
  | word (text : String)
deriving DecidableEq, Repr

namespace Argument

/-- A long option, from what follows its dashes: its value begins after the first `=`. -/
def longOf (cs : List Char) : Argument :=
  let name := String.ofList (cs.takeWhile (· ≠ '='))
  match cs.dropWhile (· ≠ '=') with
  | [] => long name none
  | _ :: value => long name (some (String.ofList value))

def ofText (text : String) : Argument :=
  match text.toList with
  | ['-', '-'] => endOfOptions
  | '-' :: '-' :: r => longOf r
  | '-' :: c :: r => short c r
  | _ => word text

end Argument
end Rollout
