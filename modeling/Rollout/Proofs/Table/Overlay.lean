/-
# Pairs put in one after another

Pairs that are put into a table one after another leave the last of each key, and under the other
keys what was there (`Table.find?_putAll`). If they are the entries of a second table the order in
which they come makes no difference, and the second table is laid over the first
(`Table.find?_putAll_of_perm`).
-/

import Rollout.Proofs.Table.Total

namespace Rollout
namespace Table

variable {κ : Type} {α : Type} [Ord κ]

/-! ## Look-up -/

section Lookup

variable [Std.LawfulEqOrd κ] [DecidableEq κ]

/-- In whatever order the entries come, the one of a key is the one that is found. -/
theorem find?_reverse_of_perm (t : Table κ α) {es : List (κ × α)} (h : es.Perm t.entries) (k : κ) :
    (es.reverse.find? (·.1 = k)).map (·.2) = t.find? k := by
  cases found : es.reverse.find? (·.1 = k) with
  | none =>
    cases under : t.find? k with
    | none => rfl
    | some v =>
      have mem : (k, v) ∈ es := h.mem_iff.2 (t.mem_entries_iff.2 under)
      have := List.find?_eq_none.1 found _ (List.mem_reverse.2 mem)
      simp at this
  | some e =>
    obtain ⟨k', v⟩ := e
    have mem : (k', v) ∈ t.entries := h.mem_iff.1 (List.mem_reverse.1 (List.mem_of_find?_eq_some found))
    obtain rfl : k' = k := by simpa using List.find?_some found
    exact (t.mem_entries_iff.1 mem).symm

end Lookup

section Ordered

variable [Std.TransOrd κ]

/-- Pairs put in one after another. -/
def putAll (t : Table κ α) (es : List (κ × α)) : Table κ α := es.foldl (fun t e => t.insert e.1 e.2) t

variable [Std.LawfulEqOrd κ] [DecidableEq κ]

/-- In a table with entries put in, a key has the last of them that is its own, or what it had. -/
theorem find?_putAll (t : Table κ α) (es : List (κ × α)) (k : κ) :
    (t.putAll es).find? k = ((es.reverse.find? (·.1 = k)).map (·.2)).or (t.find? k) := by
  induction es generalizing t with
  | nil => rfl
  | cons e es ih =>
    have tail : (t.putAll (e :: es)).find? k = ((t.insert e.1 e.2).putAll es).find? k := rfl
    rw [tail, ih, List.reverse_cons, List.find?_append, find?_insert]
    cases es.reverse.find? (·.1 = k) with
    | some x => rfl
    | none =>
      by_cases hk : e.1 = k
      · simp [hk]
      · simp [hk, Ne.symm hk]

/-- In a table made of entries, a key has the last of them that is its own. -/
theorem find?_ofList (es : List (κ × α)) (k : κ) :
    (ofList es).find? k = (es.reverse.find? (·.1 = k)).map (·.2) := by
  have laid := find?_putAll empty es k
  rwa [find?_empty, Option.or_none] at laid

/-- **One table laid over another.** Whatever the order in which its entries are put in, what the
second has is found, and else what the first has. -/
theorem find?_putAll_of_perm (t u : Table κ α) {es : List (κ × α)} (h : es.Perm u.entries) (k : κ) :
    (t.putAll es).find? k = (u.find? k).or (t.find? k) := by
  rw [find?_putAll, find?_reverse_of_perm u h]

end Ordered

/-! ## Size -/

/-- The size is the total of ones. -/
theorem total_one (t : Table κ α) : t.total (fun _ => 1) = t.size := by
  rw [total, size]
  induction t.entries with
  | nil => rfl
  | cons e es ih => rw [totalIn, ih, List.length_cons, Nat.add_comm]

/-- A table grows by a key that it did not have. -/
theorem size_insert [Std.TransOrd κ] (t : Table κ α) (k : κ) (v : α) :
    (t.insert k v).size = t.size + if (t.find? k).isSome then 0 else 1 := by
  have total := total_insert (fun _ => 1) t k v
  rw [total_one, total_one] at total
  cases found : t.find? k with
  | none =>
    rw [found, Option.elim_none] at total
    exact total
  | some x =>
    rw [found, Option.elim_some] at total
    exact Nat.succ.inj total

end Table
end Rollout
