/-
# Addresses as bytes

Digits of a fixed count tell the number that they are written for, as long as it has no more
(`Digits.fixed_inj`), and are themselves what is written for their number (`Digits.fixed_value`). An
address is a number of twenty digits in base 256. So its bytes tell it (`Address.bytes_inj`), and any
twenty bytes are those of the address made of them (`Address.bytes_ofBytes`).
-/

import Rollout.Address
import Mathlib.Data.List.Induction

namespace Rollout

-- Powers are those of core, whatever is imported beside this module.
attribute [local instance (high)] instPowNat

namespace Digits

variable {base width : Nat}

/-- Digits are what is written for their number. -/
theorem fixed_value {ds : List Nat} (bounded : ∀ d ∈ ds, d < base) :
    fixed base ds.length (value base ds) = ds := by
  induction ds using List.reverseRecOn with
  | nil => rfl
  | append_singleton ds d ih =>
    have last : d < base := bounded d (List.mem_append_right _ List.mem_cons_self)
    have before := ih fun x hx => bounded x (List.mem_append_left _ hx)
    have quotient : (value base ds * base + d) / base = value base ds := by
      rw [Nat.mul_comm, Nat.mul_add_div (by omega), Nat.div_eq_of_lt last, Nat.add_zero]
    have remainder : (value base ds * base + d) % base = d := by
      rw [Nat.mul_comm, Nat.mul_add_mod, Nat.mod_eq_of_lt last]
    rw [List.length_append, List.length_singleton, value_append_singleton, fixed, quotient,
      remainder, before]

/-- Numbers that the digits suffice for are told by them. -/
theorem fixed_inj {m n : Nat} (hm : m < base ^ width) (hn : n < base ^ width) :
    fixed base width m = fixed base width n ↔ m = n := by
  constructor
  · intro same
    have values := congrArg (value base) same
    rwa [value_fixed, value_fixed, Nat.mod_eq_of_lt hm, Nat.mod_eq_of_lt hn] at values
  · rintro rfl
    rfl

end Digits

namespace Address

/-- An address has twenty bytes. -/
theorem length_bytes (a : Address) : a.bytes.length = 20 := Digits.length_fixed ..

/-- Addresses with the same bytes are the same. -/
theorem bytes_inj {a b : Address} : a.bytes = b.bytes ↔ a = b := by
  have small (x : Address) : x.val < 256 ^ (20 : Nat) := x.isLt
  constructor
  · exact fun same => ext_val ((Digits.fixed_inj (small a) (small b)).1 same)
  · rintro rfl
    rfl

/-- **Twenty bytes are those of the address made of them.** -/
theorem bytes_ofBytes {bs : List Nat} (length : bs.length = 20) (bounded : ∀ b ∈ bs, b < 256) :
    (ofBytes bs).bytes = bs := by
  have small : Digits.value 256 bs < 2 ^ (160 : Nat) := by
    have bound := Digits.value_lt bounded
    rw [length] at bound
    exact bound
  show Digits.fixed 256 20 (Digits.value 256 bs % 2 ^ (160 : Nat)) = bs
  rw [Nat.mod_eq_of_lt small, ← length, Digits.fixed_value bounded]

end Address
end Rollout
