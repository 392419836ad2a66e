/-
# Words and what they mean

A word is text that may mean something other than itself. Left to itself, `Plain.meaning` says
what it stands for:

| text | meaning |
| --- | --- |
| nothing, `null`, `Null`, `NULL`, `~` | null |
| `true`, `True`, `TRUE`, `false`, `False`, `FALSE` | a truth value |
| an optional sign and `0x`, `0o` or `0b` with digits, or decimal digits | a whole number |
| a decimal with a point or an exponent, `.inf`, `.nan` | a double |
| the rest, leading zeros included | text |

A whole number that needs more than 64 bits but not more than 128 has no meaning at all, and
a longer one is a double. Where a reader asks for one of these types, the functions for that type
alone apply: `natural?` takes no minus sign, `real?` takes leading zeros.
-/

import Rollout.Value
import Rollout.Number.Decimal
import Rollout.Text.Hex

namespace Rollout

/-- A value without parts. -/
inductive Primitive
  | null
  | bool (b : Bool)
  | number (n : Number)
  | text (s : String)
deriving DecidableEq, Repr

namespace Plain

-- Powers are those of core, whatever is imported beside this module.
attribute [local instance (high)] instPowNat

def isNull (s : String) : Bool := s ∈ ["null", "Null", "NULL", "~"]

/-- The truth value that a word stands for. -/
def bool? (s : String) : Option Bool :=
  if s ∈ ["true", "True", "TRUE"] then some true
  else if s ∈ ["false", "False", "FALSE"] then some false
  else none

/-- The number written by digits of a base, at least one. -/
def digits? (base : Nat) (cs : List Char) : Option Nat :=
  if cs.isEmpty then none
  else cs.foldlM (fun a c => do
    let d ← Hex.digitValue? c
    if d < base then some (a * base + d) else none) 0

/-- A zero before further digits, after a sign or none: text, not a number. -/
def hasLeadingZero (cs : List Char) : Bool :=
  let body := match cs with
    | '-' :: r => r
    | '+' :: r => r
    | r => r
  match body with
  | '0' :: r => !r.isEmpty && r.all Char.isDigit
  | _ => false

/-- The number behind a base mark or in decimal, without a sign. -/
def unsigned? : List Char → Option Nat
  | '0' :: 'x' :: r => digits? 16 r
  | '0' :: 'o' :: r => digits? 8 r
  | '0' :: 'b' :: r => digits? 2 r
  | cs => digits? 10 cs

/-- The whole number that a word is written as, of any size. -/
def whole? (cs : List Char) : Option Int :=
  if hasLeadingZero cs then none
  else match cs with
    | '-' :: r => (unsigned? r).map fun n => -(n : Int)
    | '+' :: r => (unsigned? r).map Int.ofNat
    | r => (unsigned? r).map Int.ofNat

def inWord (i : Int) : Bool := -(2 ^ (63 : Nat)) ≤ i ∧ i < 2 ^ (64 : Nat)

/-- The whole number of 64 bits, signed or not, that a word is written as. -/
def word? (s : String) : Option Int := (whole? s.toList).filter inWord

/-- The number below `2 ^ 64` that a word without a minus sign is written as. -/
def natural? (s : String) : Option Nat :=
  if s.toList.head? = some '-' then none else (word? s).map Int.toNat

/-- The double written as a decimal: a sign or none, digits with or without a point, an
exponent or none. -/
def decimal? (cs : List Char) : Option Double := do
  let (negative, cs) := match cs with
    | '-' :: r => (true, r)
    | '+' :: r => (false, r)
    | r => (false, r)
  let whole := cs.takeWhile Char.isDigit
  let (fraction, cs) := match cs.dropWhile Char.isDigit with
    | '.' :: r => (r.takeWhile Char.isDigit, r.dropWhile Char.isDigit)
    | r => ([], r)
  let ds := whole ++ fraction
  let m ← digits? 10 ds
  let exponent ← match cs with
    | [] => some 0
    | c :: r =>
      if c == 'e' || c == 'E' then
        match r with
        | '-' :: r => (digits? 10 r).map fun n => -(n : Int)
        | '+' :: r => (digits? 10 r).map Int.ofNat
        | r => (digits? 10 r).map Int.ofNat
      else none
  let x := Decimal.nearest negative m ds.length (exponent - fraction.length)
  if x.isFinite then some x else none

/-- The double that a word is written as. -/
def real? (s : String) : Option Double :=
  let unsigned := match s.toList with
    | '+' :: r => String.ofList r
    | r => String.ofList r
  if unsigned ∈ [".inf", ".Inf", ".INF"] then some ⟨false, Double.infiniteCode⟩
  else if s ∈ ["-.inf", "-.Inf", "-.INF"] then some ⟨true, Double.infiniteCode⟩
  else if s ∈ [".nan", ".NaN", ".NAN"] then some ⟨false, Double.infiniteCode + 1⟩
  else decimal? s.toList

/-- The meaning of a word that no double is written as, or one with leading zeros. -/
def realOrText (s : String) : Primitive :=
  match if hasLeadingZero s.toList then none else real? s with
  | some x => .number (.double x)
  | none => .text s

/-- The meaning of a word; `none` where it has none. -/
def meaning (s : String) : Option Primitive :=
  if s.isEmpty || isNull s then some .null
  else match bool? s with
    | some b => some (.bool b)
    | none =>
      match whole? s.toList with
      | some i =>
        if inWord i then some (.number (.int i))
        else if -(2 ^ (127 : Nat)) ≤ i ∧ i < 2 ^ (128 : Nat) then none
        else some (realOrText s)
      | none => some (realOrText s)

end Plain
end Rollout
