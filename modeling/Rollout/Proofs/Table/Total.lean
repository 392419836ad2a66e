/-
# Totals over a table

The sum of a measure over the values of a table. A change to one key changes the total by what
is under the key before and after:

| operation | total |
| --- | --- |
| `t.insert k v` | that of `t`, less what was under `k`, and `v` |
| `t.erase k` | that of `t`, less what was under `k` |

Both are stated as sums, so that nothing is subtracted.
-/

import Rollout.Table

namespace Rollout
namespace Table

variable {κ : Type} {α : Type} [Ord κ]

/-- The sum of a measure over pairs. -/
def totalIn (f : α → Nat) : List (κ × α) → Nat
  | [] => 0
  | (_, v) :: r => f v + totalIn f r

/-- The sum of a measure over the values of a table. -/
def total (f : α → Nat) (t : Table κ α) : Nat := totalIn f t.entries

/-- Erasing a key that is not there leaves the total. -/
theorem totalIn_eraseIn_of_findIn_eq_none {f : α → Nat} {k : κ} {xs : List (κ × α)}
    (h : findIn k xs = none) : totalIn f (eraseIn k xs) = totalIn f xs := by
  induction xs with
  | nil => rfl
  | cons x r ih =>
    obtain ⟨k', v'⟩ := x
    rw [findIn] at h
    split at h
    · cases h
    · next hk =>
      have kept : eraseIn k ((k', v') :: r) = (k', v') :: eraseIn k r := by simp [eraseIn, hk]
      rw [kept, totalIn, totalIn, ih h]

/-- The first key is not among the others. -/
theorem findIn_tail_eq_none {k : κ} {v : α} {r : List (κ × α)} (h : Ascending ((k, v) :: r)) :
    findIn k r = none :=
  findIn_eq_none_of_lt (List.pairwise_cons.1 h).1

section Lookup

variable [Std.LawfulEqOrd κ]

/-- Erasing a key takes its value off the total. -/
theorem totalIn_eraseIn (f : α → Nat) (k : κ) {xs : List (κ × α)} (h : Ascending xs) :
    totalIn f (eraseIn k xs) + (findIn k xs).elim 0 f = totalIn f xs := by
  induction xs with
  | nil => rfl
  | cons x r ih =>
    obtain ⟨k', v'⟩ := x
    have ih := ih (List.pairwise_cons.1 h).2
    by_cases hk : compare k k' = .eq
    · obtain rfl := Std.LawfulEqOrd.eq_of_compare hk
      have dropped : eraseIn k ((k, v') :: r) = eraseIn k r := by simp [eraseIn]
      rw [dropped, totalIn_eraseIn_of_findIn_eq_none (findIn_tail_eq_none h), findIn,
        if_pos hk, totalIn, Option.elim_some, Nat.add_comm]
    · have kept : eraseIn k ((k', v') :: r) = (k', v') :: eraseIn k r := by simp [eraseIn, hk]
      rw [kept, findIn, if_neg hk, totalIn, totalIn]
      omega

/-- Erasing a key of a table takes its value off the total. -/
theorem total_erase (f : α → Nat) (t : Table κ α) (k : κ) :
    (t.erase k).total f + (t.find? k).elim 0 f = t.total f :=
  totalIn_eraseIn f k t.ascending

end Lookup

section Ordered

variable [Std.TransOrd κ]

/-- Inserting a value adds it to the total, less what was there. -/
theorem totalIn_insertIn (f : α → Nat) (k : κ) (v : α) {xs : List (κ × α)} (h : Ascending xs) :
    totalIn f (insertIn k v xs) + (findIn k xs).elim 0 f = totalIn f xs + f v := by
  induction xs with
  | nil => simp [insertIn, findIn, totalIn]
  | cons x r ih =>
    obtain ⟨k', v'⟩ := x
    have hr := List.pairwise_cons.1 h
    have ih := ih hr.2
    cases hk : compare k k' with
    | lt =>
      -- The key is below all others, so nothing was under it.
      have fresh : findIn k ((k', v') :: r) = none := by
        refine findIn_eq_none_of_lt fun e he => ?_
        rcases List.mem_cons.1 he with rfl | he
        · exact hk
        · exact Std.TransCmp.lt_trans hk (hr.1 e he)
      rw [fresh]
      simp only [insertIn, hk, totalIn, Option.elim_none]
      omega
    | eq =>
      simp only [insertIn, findIn, hk, if_true, totalIn, Option.elim_some]
      omega
    | gt =>
      simp only [insertIn, findIn, hk, totalIn, reduceCtorEq, if_false]
      omega

/-- Inserting a value in a table adds it to the total, less what was there. -/
theorem total_insert (f : α → Nat) (t : Table κ α) (k : κ) (v : α) :
    (t.insert k v).total f + (t.find? k).elim 0 f = t.total f + f v :=
  totalIn_insertIn f k v t.ascending

end Ordered

end Table
end Rollout
