/-
# Decimal text to doubles

Two ways to read a decimal `m * 10 ^ e`:

* `Decimal.nearest` rounds its exact value once.
* `Decimal.inSteps` first rounds the significand, then multiplies or divides by the double
  nearest to a power of ten, at most `10 ^ 308` at a time. It may miss the nearest double by
  a last digit, and it refuses what overflows.
-/

import Rollout.Number.Double

namespace Rollout
namespace Decimal

-- Powers are those of core, whatever is imported beside this module.
attribute [local instance (high)] instPowNat

/-- The double nearest to `m * 10 ^ e`. `digits` bounds the count of digits of `m`, so that
what is certainly infinite or certainly zero is settled without its power of ten. -/
def nearest (negative : Bool) (m : Nat) (digits : Nat) (e : Int) : Double :=
  if m = 0 then ⟨negative, 0⟩
  else if 400 < e then ⟨negative, Double.infiniteCode⟩
  else if e + digits < -400 then ⟨negative, 0⟩
  else Double.ofRatio negative (m * 10 ^ e.toNat) (10 ^ (-e).toNat)

/-- The double nearest to a power of ten. -/
def powerOfTen (k : Nat) : Double := Double.ofRatio false (10 ^ k) 1

/-- Scales a double by `10 ^ e`, rounding at each step; `none` if it overflows. -/
def scale (x : Double) (e : Int) : Option Double :=
  if e.natAbs ≤ 308 then
    if 0 ≤ e then
      let y := x.scaleUp (powerOfTen e.toNat)
      if y.isFinite then some y else none
    else some (x.scaleDown (powerOfTen (-e).toNat))
  else if x.isZero then some x
  else if 0 ≤ e then none
  else scale (x.scaleDown (powerOfTen 308)) (e + 308)
termination_by (-e).toNat
decreasing_by omega

/-- Reads `significand * 10 ^ e`, rounding the significand first. -/
def inSteps (negative : Bool) (significand : Nat) (e : Int) : Option Double :=
  scale (Double.ofRatio negative significand 1) e

end Decimal
end Rollout
