/-
# Shortest decimal text of a double

The digits are the fewest that read back as the same double; of two such decimals the one
nearer to the value is taken, of two equally near the one with the even last digit. How they
are laid out is a `Layout`.
-/

import Rollout.Number.Double

namespace Rollout
namespace Double

-- Powers are those of core, whatever is imported beside this module.
attribute [local instance (high)] instPowNat

/-- How digits with a decimal exponent become text. -/
structure Layout where
  /-- Exponents of the first digit from here on are written positionally. -/
  positionalFrom : Int
  /-- Exponents of the first digit from here on carry an exponent mark. -/
  positionalBelow : Int
  /-- What stands between the digits and a non-negative exponent. -/
  upMark : String
  /-- What stands between the digits and the magnitude of a negative exponent. -/
  downMark : String

/-- Positional from `0.00001` to below `1e+16`, always with a point or an exponent. -/
def layout : Layout := ⟨-5, 16, "e+", "e-"⟩

/-- The exponent of the greatest power of ten that is at most `num / den`, for a positive
ratio that is at least `10 ^ (-400)`. -/
def floorLog10 (num den : Nat) : Int :=
  ((num * 10 ^ (400 : Nat) / den).repr.length : Int) - 401

/-- The nearest of the two decimals with `places` digits after the first, on either side of
`num / den`, that reads back as `code`: its digits as a number, and its last exponent. -/
def decimalWith? (code num den : Nat) (places : Nat) : Option (Nat × Int) :=
  let last : Int := floorLog10 num den - places
  let n := num * 10 ^ (-last).toNat
  let d := den * 10 ^ last.toNat
  let low := n / d
  let r := n % d
  let reads (m : Nat) : Bool :=
    roundedCode (m * 10 ^ last.toNat) (10 ^ (-last).toNat) == code
  let lowFirst := 2 * r < d ∨ (2 * r = d ∧ low % 2 = 0)
  let order := if lowFirst then [low, low + 1] else [low + 1, low]
  (order.find? reads).map (·, last)

/-- The fewest digits that read back, without trailing zeros, and the exponent of the last. -/
def shortest (x : Double) : Nat × Int :=
  let (num, den) := x.ratio
  match (List.range 17).findSome? (decimalWith? x.code num den) with
  | some found => found
  | none => (0, 0)

/-- Drops trailing zeros, moving the exponent of the last digit up. -/
def dropZeros : List Char → Int → List Char × Int
  | ds, e =>
    let zeros := (ds.reverse.takeWhile (· == '0')).length
    (ds.take (ds.length - zeros), e + zeros)

/-- The text of a positive finite double in a layout. -/
def magnitudeText (l : Layout) (x : Double) : String :=
  let (m, last) := x.shortest
  let (ds, last) := dropZeros m.repr.toList last
  let first : Int := last + ds.length - 1
  if l.positionalFrom ≤ first ∧ first < l.positionalBelow then
    if 0 ≤ last then
      String.ofList (ds ++ List.replicate last.toNat '0') ++ ".0"
    else if 0 ≤ first then
      let whole := (first + 1).toNat
      String.ofList (ds.take whole) ++ "." ++ String.ofList (ds.drop whole)
    else
      "0." ++ String.ofList (List.replicate (-first - 1).toNat '0' ++ ds)
  else
    let digits := match ds with
      | [] => ""
      | [d] => d.toString
      | d :: r => d.toString ++ "." ++ String.ofList r
    digits ++ (if 0 ≤ first then l.upMark else l.downMark) ++ first.natAbs.repr

/-- The text of a finite double. -/
def text (x : Double) : String :=
  (if x.negative then "-" else "")
    ++ (if x.isZero then "0.0" else magnitudeText layout x)

end Double
end Rollout
