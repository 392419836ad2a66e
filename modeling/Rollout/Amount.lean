/-
# Amounts

Amounts of currency and tokens are natural numbers below `2 ^ 128`. Adding stops at the
greatest amount; subtracting is refused where it would go below zero.

Amounts are written in decimal. Read from text they may have blanks around them, underscores
anywhere and one leading plus sign; read from a document they are such a text or a whole
number below `2 ^ 64`.
-/

import Rollout.Text.Blank
import Rollout.Document.Decoder

namespace Rollout

-- Powers are those of core, whatever is imported beside this module.
attribute [local instance (high)] instPowNat

/-- An amount of currency or of a token. -/
structure Amount where
  units : Nat
  isLt : units < 2 ^ (128 : Nat)
deriving DecidableEq

namespace Amount

/-- The amount of a number, if it is small enough. -/
def ofNat? (n : Nat) : Option Amount :=
  if h : n < 2 ^ (128 : Nat) then some ⟨n, h⟩ else none

def zero : Amount := ⟨0, by decide⟩

instance : Inhabited Amount := ⟨zero⟩

/-- The greatest amount. -/
def greatest : Amount := ⟨2 ^ (128 : Nat) - 1, by decide⟩

/-- Amounts with the same units are the same. -/
theorem ext_units {a b : Amount} (h : a.units = b.units) : a = b := by
  cases a; cases b; simp_all

/-- The sum, or the greatest amount if the sum is beyond it. -/
def add (a b : Amount) : Amount :=
  if h : a.units + b.units < 2 ^ (128 : Nat) then ⟨a.units + b.units, h⟩ else greatest

/-- The difference, if it is not below zero. -/
def sub? (a b : Amount) : Option Amount :=
  if b.units ≤ a.units then some ⟨a.units - b.units, Nat.lt_of_le_of_lt (Nat.sub_le ..) a.isLt⟩
  else none

/-- How far two amounts lie apart. -/
def distance (a b : Amount) : Nat := (a.units - b.units) + (b.units - a.units)

/-- Units are added up to the greatest amount. -/
theorem units_add (a b : Amount) :
    (a.add b).units = min (a.units + b.units) (2 ^ (128 : Nat) - 1) := by
  unfold add greatest
  split <;> simp <;> omega

/-- An amount is taken off exactly if it is not greater. -/
theorem sub?_eq_some_iff {a b c : Amount} :
    a.sub? b = some c ↔ b.units ≤ a.units ∧ c.units = a.units - b.units := by
  unfold sub?
  split
  · next h =>
    simp only [Option.some.injEq, h, true_and]
    exact ⟨fun e => e ▸ rfl, fun e => ext_units e.symm⟩
  · next h => simp [h]

/-- The decimal text. -/
def text (a : Amount) : String := a.units.repr

/-- Reads an amount; `none` for text that is not one. -/
def ofText? (s : String) : Option Amount :=
  let cs := (Text.trim s.toList).filter (· ≠ '_')
  let ds := match cs with
    | '+' :: r => r
    | r => r
  if ds.isEmpty || !ds.all Char.isDigit then none
  else ofNat? (Nat.ofDigitChars 10 ds 0)

/-- Reads an amount; the error is the text itself, blanks at its ends included. -/
def ofText (s : String) : Except String Amount :=
  match ofText? s with
  | some a => .ok a
  | none => .error s

/-- Reads an amount off a free value. -/
def ofValue? : Value → Option Amount
  | .number n => n.word?.bind ofNat?
  | .text s => ofText? s
  | _ => none

/-- Reads an amount off a node, the meaning of scalars settled. -/
def decode : Decoder Amount := Decoder.settled fun _ n =>
  match n with
  | .number n => n.word?.bind ofNat?
  | .text s => ofText? s
  | _ => none

def document (a : Amount) : Document := .text a.text

def toValue (a : Amount) : Value := .text a.text

end Amount
end Rollout
