/-
# Hexadecimal digits

`digit` and `digitValue?` are inverse on the sixteen values; letters are written in lower case
and read in either.
-/

namespace Rollout
namespace Hex

/-- The lower-case digit of a value below 16. -/
def digit (n : Nat) : Char :=
  if n < 10 then Char.ofNat (n + 48) else Char.ofNat (n + 87)

/-- The value of a hexadecimal digit of either case. -/
def digitValue? (c : Char) : Option Nat :=
  let n := c.toNat
  if 48 ≤ n ∧ n ≤ 57 then some (n - 48)
  else if 97 ≤ n ∧ n ≤ 102 then some (n - 87)
  else if 65 ≤ n ∧ n ≤ 70 then some (n - 55)
  else none

/-- A digit is read as the number that it was written for. -/
theorem digitValue?_digit {n : Nat} (h : n < 16) : digitValue? (digit n) = some n := by
  have : ∀ n : Fin 16, digitValue? (digit n) = some n.val := by decide
  exact this ⟨n, h⟩

/-- A digit is read as a number below sixteen. -/
theorem digitValue?_lt {c : Char} {n : Nat} (h : digitValue? c = some n) : n < 16 := by
  simp only [digitValue?] at h
  split at h
  · cases h; omega
  · split at h
    · cases h; omega
    · split at h
      · cases h; omega
      · cases h

/-- A number in hexadecimal, without leading zeros. -/
def text (n : Nat) : String := String.ofList (Nat.toDigits 16 n)

end Hex
end Rollout
