/-
# Members of a set

A set is known by its members, read out in ascending order. For every operation there is one
equivalence that says what its members are:

| operation | `k` is a member iff |
| --- | --- |
| `s.erase k'` | it is one of `s` and not `k'` |
| `s.add k'` | it is `k'` or one of `s` |
| `ofList ks` | it is among `ks` |
| `s.union t` | it is one of `s` or of `t` |
-/

import Rollout.Table

namespace Rollout

namespace KeySet

variable {κ : Type} [Ord κ] [Std.LawfulEqOrd κ]

/-- A set contains what is in its list. -/
theorem contains_iff_mem {s : KeySet κ} {k : κ} : s.contains k = true ↔ k ∈ s.toList := by
  rw [Table.contains, Option.isSome_iff_exists, toList, Table.keys, List.mem_map]
  constructor
  · rintro ⟨v, hv⟩
    exact ⟨(k, v), (s.mem_entries_iff).2 hv, rfl⟩
  · rintro ⟨⟨k', v⟩, he, rfl⟩
    exact ⟨v, s.mem_entries_iff.1 he⟩

/-- The list of a set has no member twice. -/
theorem nodup_toList (s : KeySet κ) : s.toList.Nodup := Table.nodup_keys s

/-- Names are read out in order. -/
theorem pairwise_lt_toList (s : KeySet String) : s.toList.Pairwise (· < ·) := by
  rw [toList, Table.keys, List.pairwise_map]
  exact s.ascending.imp compareOfLessAndEq_eq_lt.1

variable [DecidableEq κ]

/-- Erasing takes out one member. -/
theorem mem_erase {s : KeySet κ} {k k' : κ} :
    k' ∈ toList (Table.erase s k) ↔ k' ≠ k ∧ k' ∈ s.toList := by
  rw [← contains_iff_mem, ← contains_iff_mem, Table.contains, Table.find?_erase, Table.contains]
  by_cases h : k' = k
  · simp [h]
  · simp [h]

variable [Std.TransOrd κ]

/-- Adding puts in one member. -/
theorem mem_add {s : KeySet κ} {k k' : κ} : k' ∈ (s.add k).toList ↔ k' = k ∨ k' ∈ s.toList := by
  rw [← contains_iff_mem, ← contains_iff_mem, add, Table.contains, Table.find?_insert,
    Table.contains]
  by_cases h : k' = k
  · simp [h]
  · simp [h]

/-- Adding members puts them in. -/
theorem mem_foldl_add {s : KeySet κ} {ks : List κ} {k : κ} :
    k ∈ (ks.foldl add s).toList ↔ k ∈ ks ∨ k ∈ s.toList := by
  induction ks generalizing s with
  | nil => simp
  | cons k' ks ih =>
    rw [List.foldl_cons, ih, mem_add, List.mem_cons, or_left_comm, or_assoc]

/-- The members of a set are those of the list that it was made of. -/
theorem mem_ofList {ks : List κ} {k : κ} : k ∈ (ofList ks).toList ↔ k ∈ ks := by
  rw [ofList, mem_foldl_add]
  exact or_iff_left List.not_mem_nil

/-- The members of a union are those of both. -/
theorem mem_union {s t : KeySet κ} {k : κ} :
    k ∈ (s.union t).toList ↔ k ∈ t.toList ∨ k ∈ s.toList :=
  mem_foldl_add

end KeySet

end Rollout
