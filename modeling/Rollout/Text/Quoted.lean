/-
# Quoted text

Text between quotes, with everything that would not be seen, or would end the text, escaped:

| character | written |
| --- | --- |
| the quote, the backslash | after a backslash |
| line feed, return, tab, NUL | `\n`, `\r`, `\t`, `\0` |
| any other that is not visible | `\u`, its code in braces |
| the rest | as it is |
-/

import Rollout.Text.Hex
import Rollout.Text.Visible

namespace Rollout
namespace Text

/-- A character inside text whose ends are marked by `mark`. -/
def escapeIn (mark : Char) (c : Char) : String :=
  if c == mark || c == '\\' then String.ofList ['\\', c]
  else if c == '\n' then "\\n"
  else if c == '\r' then "\\r"
  else if c == '\t' then "\\t"
  else if c == '\x00' then "\\0"
  else if isVisible c then c.toString
  else "\\u\x7b" ++ Hex.text c.toNat ++ "\x7d"

/-- Text in double quotes. -/
def quoted (s : String) : String :=
  s.toList.foldl (fun out c => out ++ escapeIn '"' c) "\"" ++ "\""

/-- One character in single quotes. -/
def quotedChar (c : Char) : String := "'" ++ escapeIn '\'' c ++ "'"

end Text
end Rollout
