/-
# Writing JSON

A document as JSON, on one line or over several, entries in the order they stand.
-/

import Rollout.Document
import Rollout.Text.Hex

namespace Rollout
namespace Json

/-- A character inside quotes. -/
def escape (c : Char) : String :=
  match c with
  | '"' => "\\\""
  | '\\' => "\\\\"
  | '\n' => "\\n"
  | '\r' => "\\r"
  | '\t' => "\\t"
  | '\x08' => "\\b"
  | '\x0c' => "\\f"
  | c =>
    if c.toNat < 0x20 then
      String.ofList ['\\', 'u', '0', '0', Hex.digit (c.toNat / 16), Hex.digit (c.toNat % 16)]
    else c.toString

/-- Text in quotes. -/
def quote (s : String) : String :=
  s.toList.foldl (fun out c => out ++ escape c) "\"" ++ "\""

end Json

namespace Document

mutual

/-- The document on one line, without blanks. -/
def compact : Document → String
  | null => "null"
  | bool b => toString b
  | number n => n.text
  | text s => Json.quote s
  | list items => "[" ++ String.intercalate "," (compactItems items) ++ "]"
  | map entries => "\x7b" ++ String.intercalate "," (compactEntries entries) ++ "\x7d"

def compactItems : List Document → List String
  | [] => []
  | d :: r => compact d :: compactItems r

def compactEntries : List (String × Document) → List String
  | [] => []
  | (k, d) :: r => (Json.quote k ++ ":" ++ compact d) :: compactEntries r

end

/-- Two blanks for each level. -/
def indent (level : Nat) : String := String.ofList (List.replicate (2 * level) ' ')

/-- Parts on lines of their own between two brackets; an empty list of parts on none. -/
def bracketed (level : Nat) (opening closing : String) (parts : List String) : String :=
  if parts.isEmpty then opening ++ closing
  else
    opening ++ "\n"
      ++ String.intercalate ",\n" (parts.map fun p => indent (level + 1) ++ p)
      ++ "\n" ++ indent level ++ closing

mutual

/-- The document with every item and entry on a line of its own. -/
def pretty (level : Nat) : Document → String
  | null => "null"
  | bool b => toString b
  | number n => n.text
  | text s => Json.quote s
  | list items => bracketed level "[" "]" (prettyItems (level + 1) items)
  | map entries => bracketed level "\x7b" "\x7d" (prettyEntries (level + 1) entries)

def prettyItems (level : Nat) : List Document → List String
  | [] => []
  | d :: r => pretty level d :: prettyItems level r

def prettyEntries (level : Nat) : List (String × Document) → List String
  | [] => []
  | (k, d) :: r => (Json.quote k ++ ": " ++ pretty level d) :: prettyEntries level r

end

end Document

/-- A free value as JSON on one line. -/
def Value.compact (v : Value) : String := v.document.compact

end Rollout
