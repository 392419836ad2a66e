/-
# Scalars

Text together with how it is written: without quotes, as a literal block, or in quotes, and with a
tag or without. `Scalar.meaning` is what a scalar stands for where any kind of value may stand:

| tag | meaning |
| --- | --- |
| of a type | the value of that type that the text is written as, or nothing |
| of any other name | the text |
| none | the meaning of the word if it stands without quotes, else the text |

A tag counts in every form of writing. Folded text counts as quoted.
-/

import Rollout.Document.Plain

namespace Rollout
namespace Scalar

/-- How text is written. -/
inductive Form
  /-- Without quotes. -/
  | plain
  /-- As a block whose line ends stay. -/
  | literal
  | quoted
deriving DecidableEq, Repr

/-- What the tag of a scalar says. -/
inductive Tag
  | null
  | bool
  | int
  | float
  /-- A name that is no type of values here, that of text included. -/
  | other
  /-- A local name that is no text. It says nothing, and yet is there. -/
  | nameless
deriving DecidableEq, Repr

end Scalar

/-- Text with how it is written. -/
structure Scalar where
  form : Scalar.Form := .plain
  tag : Option Scalar.Tag := none
  text : String
deriving DecidableEq, Repr

namespace Scalar

/-- What the text means without a tag. -/
def untagged (s : Scalar) : Option Primitive :=
  if s.form = .plain then Plain.meaning s.text else some (.text s.text)

/-- What the scalar stands for where any kind of value may stand. -/
def meaning (s : Scalar) : Option Primitive :=
  match s.tag with
  | some .null => if Plain.isNull s.text then some .null else none
  | some .bool => (Plain.bool? s.text).map .bool
  | some .int => (Plain.word? s.text).map fun i => .number (.int i)
  | some .float => (Plain.real? s.text).map fun x => .number (.double x)
  | some .other => some (.text s.text)
  | some .nameless => s.untagged
  | none => s.untagged

/-- Whether the text may be read as a type with this tag: it stands without quotes, or it is a
literal block that bears the tag. -/
def allows (s : Scalar) (t : Tag) : Bool :=
  s.form = .plain || (s.form = .literal && s.tag = some t)

/-- Whether nothing is written: it stands without quotes and has no characters. -/
def isBlank (s : Scalar) : Bool := s.form = .plain && s.text.isEmpty

/-- Whether the text says null to a reader that has dealt with the tag. -/
def saysNull (s : Scalar) : Bool := s.form = .plain && (s.text.isEmpty || Plain.isNull s.text)

end Scalar
end Rollout
