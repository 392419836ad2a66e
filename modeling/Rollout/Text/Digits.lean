/-
# Positional digits

A number written with a fixed count of digits in a base, most significant digit first, and
read back. `value_fixed` says that what is read back is the number modulo `base ^ width`.
Bytes are digits in base 256; hexadecimal text has digits in base 16.
-/

namespace Rollout
namespace Digits

-- Powers are those of core, whatever is imported beside this module.
attribute [local instance (high)] instPowNat

/-- The `width` low digits of a number, most significant first. -/
def fixed (base : Nat) : Nat → Nat → List Nat
  | 0, _ => []
  | width + 1, n => fixed base width (n / base) ++ [n % base]

/-- The number that a list of digits stands for. -/
def value (base : Nat) (ds : List Nat) : Nat := ds.foldl (fun a d => a * base + d) 0

/-- One digit more is the base times the value and the digit. -/
theorem value_append_singleton (base : Nat) (ds : List Nat) (d : Nat) :
    value base (ds ++ [d]) = value base ds * base + d := by
  simp [value, List.foldl_append]

/-- As many digits are written as asked for. -/
@[simp] theorem length_fixed (base width n : Nat) : (fixed base width n).length = width := by
  induction width generalizing n with
  | zero => rfl
  | succ w ih => simp [fixed, ih]

/-- The digits that are written are those of the number, up to the width. -/
theorem value_fixed (base width n : Nat) :
    value base (fixed base width n) = n % base ^ width := by
  induction width generalizing n with
  | zero => simp [fixed, value, Nat.mod_one]
  | succ w ih =>
    rw [fixed, value_append_singleton, ih, Nat.pow_succ, Nat.mul_comm (base ^ w) base,
      Nat.mod_mul, Nat.mul_comm, Nat.add_comm]

/-- The digits that are written are below the base. -/
theorem lt_of_mem_fixed {base width n d : Nat} (hb : 0 < base) (h : d ∈ fixed base width n) :
    d < base := by
  induction width generalizing n with
  | zero => simp [fixed] at h
  | succ w ih =>
    simp only [fixed, List.mem_append, List.mem_singleton] at h
    rcases h with h | rfl
    · exact ih h
    · exact Nat.mod_lt _ hb

/-- Digits below the base come to less than the power of the base. -/
theorem value_lt {base : Nat} {ds : List Nat} (h : ∀ d ∈ ds, d < base) :
    value base ds < base ^ ds.length := by
  suffices ∀ (a : Nat) (m : Nat), a < m →
      ds.foldl (fun a d => a * base + d) a < m * base ^ ds.length by
    simpa [value] using this 0 1 (by omega)
  induction ds with
  | nil => simp
  | cons d r ih =>
    intro a m ham
    have hd := h d List.mem_cons_self
    have := ih (fun x hx => h x (List.mem_cons_of_mem _ hx)) (a * base + d) (m * base) (by
      calc a * base + d < a * base + base := by omega
        _ = (a + 1) * base := by rw [Nat.add_mul, Nat.one_mul]
        _ ≤ m * base := Nat.mul_le_mul_right _ ham)
    simpa [List.foldl_cons, Nat.pow_succ, Nat.mul_assoc, Nat.mul_comm base] using this

end Digits
end Rollout
