/-
# Binary doubles

A double is its sign and the code of its magnitude: eleven exponent bits above 52 fraction
bits, read as one natural number. Codes ascend with the magnitudes they stand for.

| code | magnitude |
| --- | --- |
| below `2 ^ 52` | `code * 2 ^ (-1074)` |
| below `2047 * 2 ^ 52` | `(2 ^ 52 + code % 2 ^ 52) * 2 ^ (code / 2 ^ 52 - 1075)` |
| `2047 * 2 ^ 52` | infinite |

`roundedCode` takes a ratio to the nearest double, a tie to the even code.
-/

namespace Rollout

-- Powers are those of core, whatever is imported beside this module.
attribute [local instance (high)] instPowNat

/-- A double by its sign and the code of its magnitude. -/
structure Double where
  negative : Bool
  code : Nat
deriving DecidableEq, Repr

namespace Double

/-- The code of the infinite magnitude, the least that is not finite. -/
def infiniteCode : Nat := 2047 * 2 ^ (52 : Nat)

def isFinite (x : Double) : Bool := x.code < infiniteCode

def isZero (x : Double) : Bool := x.code == 0

/-- The exponent of the greatest power of two that is at most `num / den`. -/
def floorLog2 (num den : Nat) : Int :=
  let k : Int := (num.log2 : Int) - den.log2
  let fits := if 0 ≤ k then den * 2 ^ k.toNat ≤ num else den ≤ num * 2 ^ (-k).toNat
  if fits then k else k - 1

/-- The code of the double nearest to `num / den`; a tie goes to the even code. -/
def roundedCode (num den : Nat) : Nat :=
  if num = 0 ∨ den = 0 then 0
  else
    let e := max (floorLog2 num den - 52) (-1074)
    let n := num * 2 ^ (-e).toNat
    let d := den * 2 ^ e.toNat
    let q := n / d
    let r := n % d
    let up := d < 2 * r ∨ (d = 2 * r ∧ q % 2 = 1)
    min infiniteCode ((e + 1074).toNat * 2 ^ (52 : Nat) + (if up then q + 1 else q))

/-- The double nearest to a ratio of the given sign. -/
def ofRatio (negative : Bool) (num den : Nat) : Double := ⟨negative, roundedCode num den⟩

/-- The magnitude of a finite double as a whole number of `2 ^ exponent`. -/
def parts (x : Double) : Nat × Int :=
  if x.code < 2 ^ (52 : Nat) then (x.code, -1074)
  else (2 ^ (52 : Nat) + x.code % 2 ^ (52 : Nat), (x.code / 2 ^ (52 : Nat) : Nat) - 1075)

/-- The magnitude of a finite double as a numerator and a denominator. -/
def ratio (x : Double) : Nat × Nat :=
  let (m, e) := x.parts
  (m * 2 ^ e.toNat, 2 ^ (-e).toNat)

/-- The product, rounded; the sign is that of the first factor. -/
def scaleUp (x y : Double) : Double :=
  ofRatio x.negative (x.ratio.1 * y.ratio.1) (x.ratio.2 * y.ratio.2)

/-- The quotient, rounded; the sign is that of the dividend. -/
def scaleDown (x y : Double) : Double :=
  ofRatio x.negative (x.ratio.1 * y.ratio.2) (x.ratio.2 * y.ratio.1)

/-- Doubles compare by value: the two zeros are the same. -/
def agrees (x y : Double) : Bool := x == y || (x.isZero && y.isZero)

end Double
end Rollout
