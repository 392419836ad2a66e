/-
# Names of runs

A run is named by the time it starts at and by chance: 26 digits in base 32, of which the first
ten are the milliseconds of the time and the rest are random. Names sort by time.
-/

import Rollout.Text.Digits

namespace Rollout
namespace RunName

/-- The digits, without letters that look like others. -/
def alphabet : List Char := "0123456789ABCDEFGHJKMNPQRSTVWXYZ".toList

def digit (n : Nat) : Char := alphabet[n]?.getD '0'

/-- The name of a run. -/
def text (milliseconds random : Nat) : String :=
  String.ofList ((Digits.fixed 32 10 milliseconds ++ Digits.fixed 32 16 random).map digit)

end RunName
end Rollout
