/-
# Tables: finite maps in key order

A table holds its entries in strictly ascending key order, so two tables with the
same entries are equal and reading one out never depends on how it was filled.

| operation | meaning |
| --- | --- |
| `t.find? k` | the value under `k` |
| `t.insert k v` | `v` under `k`, all else as before |
| `t.erase k` | nothing under `k`, all else as before |
| `t.entries` | the pairs, keys ascending |
| `Table.ofList xs` | the pairs of `xs`, a later one winning |

The laws below say what each operation does to `find?`; `Table.ext_find?` says that
`find?` is all there is to a table.
-/

namespace Rollout

/-- Strictly ascending in the key. -/
def Ascending {κ : Type u} {α : Type v} [Ord κ] (xs : List (κ × α)) : Prop :=
  xs.Pairwise fun a b => compare a.1 b.1 = .lt

/-- A finite map, its entries in ascending key order. -/
structure Table (κ : Type u) (α : Type v) [Ord κ] where
  entries : List (κ × α)
  ascending : Ascending entries

namespace Table

variable {κ : Type u} {α : Type v} {β : Type w} [Ord κ]

/-- The table with no entry. -/
def empty : Table κ α := ⟨[], .nil⟩

instance : Inhabited (Table κ α) := ⟨empty⟩
instance : EmptyCollection (Table κ α) := ⟨empty⟩

/-- The value of the first pair with key `k`. -/
def findIn (k : κ) : List (κ × α) → Option α
  | [] => none
  | (k', v) :: r => if compare k k' = .eq then some v else findIn k r

/-- The value under a key. -/
def find? (t : Table κ α) (k : κ) : Option α := findIn k t.entries

/-- In the empty table no key is found. -/
@[simp] theorem find?_empty (k : κ) : (empty : Table κ α).find? k = none := rfl

/-- Whether a key has a value. -/
def contains (t : Table κ α) (k : κ) : Bool := (t.find? k).isSome

def keys (t : Table κ α) : List κ := t.entries.map (·.1)

def values (t : Table κ α) : List α := t.entries.map (·.2)

def size (t : Table κ α) : Nat := t.entries.length

def isEmpty (t : Table κ α) : Bool := t.entries.isEmpty

/-- Puts a pair where its key belongs, in place of a pair with the same key. -/
def insertIn (k : κ) (v : α) : List (κ × α) → List (κ × α)
  | [] => [(k, v)]
  | (k', v') :: r =>
    match compare k k' with
    | .lt => (k, v) :: (k', v') :: r
    | .eq => (k, v) :: r
    | .gt => (k', v') :: insertIn k v r

/-- Drops the pairs with key `k`. -/
def eraseIn (k : κ) (xs : List (κ × α)) : List (κ × α) :=
  xs.filter fun e => compare k e.1 != .eq

/-- Of what is inserted in, an entry is the new one or was there before. -/
theorem mem_insertIn {k : κ} {v : α} {xs : List (κ × α)} {e : κ × α}
    (h : e ∈ insertIn k v xs) : e = (k, v) ∨ e ∈ xs := by
  induction xs with
  | nil => simpa [insertIn] using h
  | cons x r ih =>
    obtain ⟨k', v'⟩ := x
    simp only [insertIn] at h
    split at h
    · simpa using h
    · rcases List.mem_cons.1 h with h | h
      · exact .inl h
      · exact .inr (List.mem_cons_of_mem _ h)
    · rcases List.mem_cons.1 h with h | h
      · exact .inr (h ▸ List.mem_cons_self)
      · exact (ih h).imp_right (List.mem_cons_of_mem _)

/-- Erasing keeps keys ascending. -/
theorem ascending_eraseIn (k : κ) {xs : List (κ × α)} (h : Ascending xs) :
    Ascending (eraseIn k xs) :=
  h.filter _

/-- The table without a key. -/
def erase (t : Table κ α) (k : κ) : Table κ α :=
  ⟨eraseIn k t.entries, ascending_eraseIn k t.ascending⟩

/-- Changing values keeps keys ascending. -/
theorem ascending_map (f : κ → α → β) {xs : List (κ × α)} (h : Ascending xs) :
    Ascending (xs.map fun e => (e.1, f e.1 e.2)) :=
  List.pairwise_map.2 h

instance [DecidableEq κ] [DecidableEq α] : DecidableEq (Table κ α) := fun a b =>
  if h : a.entries = b.entries then
    .isTrue (by cases a; cases b; simp_all)
  else
    .isFalse (fun e => h (e ▸ rfl))

/-- A key below all others is not found. -/
theorem findIn_eq_none_of_lt {k : κ} {l : List (κ × α)}
    (h : ∀ e ∈ l, compare k e.1 = .lt) : findIn k l = none := by
  induction l with
  | nil => rfl
  | cons x r ih =>
    obtain ⟨k', v'⟩ := x
    have := h _ List.mem_cons_self
    simp_all [findIn]

section Lookup

variable [Std.LawfulEqOrd κ]

/-- What is inserted is found. -/
theorem findIn_insertIn_self (k : κ) (v : α) (xs : List (κ × α)) :
    findIn k (insertIn k v xs) = some v := by
  induction xs with
  | nil => simp [insertIn, findIn]
  | cons x r ih =>
    obtain ⟨k', v'⟩ := x
    simp only [insertIn]
    split
    · simp [findIn]
    · simp [findIn]
    · next h => simp [findIn, h, ih]

/-- Other keys are found as before an insertion. -/
theorem findIn_insertIn_of_ne {k k' : κ} (v : α) (xs : List (κ × α)) (h : k' ≠ k) :
    findIn k' (insertIn k v xs) = findIn k' xs := by
  have hne : ¬ compare k' k = .eq := fun e => h (Std.LawfulEqOrd.eq_of_compare e)
  induction xs with
  | nil => simp [insertIn, findIn, hne]
  | cons x r ih =>
    obtain ⟨k'', v''⟩ := x
    simp only [insertIn]
    split
    · simp [findIn, hne]
    · next heq =>
      cases Std.LawfulEqOrd.eq_of_compare heq
      simp [findIn, hne]
    · simp [findIn, ih]

/-- What is erased is not found, and all else is as before. -/
theorem findIn_eraseIn [DecidableEq κ] (k k' : κ) (xs : List (κ × α)) :
    findIn k' (eraseIn k xs) = if k' = k then none else findIn k' xs := by
  induction xs with
  | nil => simp [eraseIn, findIn]
  | cons x r ih =>
    obtain ⟨k'', v''⟩ := x
    by_cases hk : compare k k'' = .eq
    · have : eraseIn k ((k'', v'') :: r) = eraseIn k r := by simp [eraseIn, hk]
      rw [this, ih]
      cases Std.LawfulEqOrd.eq_of_compare hk
      by_cases e : k' = k
      · simp [e]
      · have : ¬ compare k' k = .eq := fun c => e (Std.LawfulEqOrd.eq_of_compare c)
        simp [findIn, this]
    · have : eraseIn k ((k'', v'') :: r) = (k'', v'') :: eraseIn k r := by simp [eraseIn, hk]
      rw [this, findIn, findIn, ih]
      by_cases e : k' = k
      · subst e; simp [hk]
      · simp [e]

/-- A pair is an entry exactly if its key is found with its value. -/
theorem mem_entries_iff (t : Table κ α) {k : κ} {v : α} :
    (k, v) ∈ t.entries ↔ t.find? k = some v := by
  obtain ⟨xs, h⟩ := t
  show (k, v) ∈ xs ↔ findIn k xs = some v
  induction xs with
  | nil => simp [findIn]
  | cons x r ih =>
    obtain ⟨k', v'⟩ := x
    have hr := List.pairwise_cons.1 h
    by_cases e : compare k k' = .eq
    · cases Std.LawfulEqOrd.eq_of_compare e
      have hn : (k, v) ∉ r := fun hm => by simpa using hr.1 _ hm
      simp [findIn, hn, eq_comm]
    · have hn : k ≠ k' := fun c => e (by simp [c])
      simp [findIn, e, hn, ih hr.2]

/-- No key comes up twice. -/
theorem nodup_keys (t : Table κ α) : t.keys.Nodup := by
  rw [keys, List.Nodup, List.pairwise_map]
  refine t.ascending.imp fun {a b} lt e => ?_
  simp [e] at lt

/-- What is erased from a table is not found, and all else is as before. -/
theorem find?_erase [DecidableEq κ] (t : Table κ α) (k k' : κ) :
    (t.erase k).find? k' = if k' = k then none else t.find? k' := by
  have := findIn_eraseIn k k' t.entries
  by_cases h : k' = k <;> simp_all [find?, erase]

end Lookup

section Ordered

variable [Std.TransOrd κ]

/-- Inserting keeps keys ascending. -/
theorem ascending_insertIn (k : κ) (v : α) {xs : List (κ × α)} (h : Ascending xs) :
    Ascending (insertIn k v xs) := by
  induction xs with
  | nil => exact List.pairwise_singleton ..
  | cons x r ih =>
    obtain ⟨k', v'⟩ := x
    have hr := List.pairwise_cons.1 h
    simp only [insertIn]
    split
    · next hlt =>
      refine List.pairwise_cons.2 ⟨fun e he => ?_, h⟩
      rcases List.mem_cons.1 he with rfl | he
      · exact hlt
      · exact Std.TransCmp.lt_trans hlt (hr.1 e he)
    · next heq =>
      refine List.pairwise_cons.2 ⟨fun e he => ?_, hr.2⟩
      exact Std.TransCmp.lt_of_eq_of_lt heq (hr.1 e he)
    · next hgt =>
      refine List.pairwise_cons.2 ⟨fun e he => ?_, ih hr.2⟩
      rcases mem_insertIn he with rfl | he
      · exact Std.OrientedCmp.gt_iff_lt.1 hgt
      · exact hr.1 e he

/-- The table with a value put under a key. -/
def insert (t : Table κ α) (k : κ) (v : α) : Table κ α :=
  ⟨insertIn k v t.entries, ascending_insertIn k v t.ascending⟩

/-- The pairs of a list put in one after another: of two with one key the later stays. -/
def ofList (xs : List (κ × α)) : Table κ α := xs.foldl (fun t e => t.insert e.1 e.2) empty

/-- A change to the value under a key, which is taken as `d` when there is none. -/
def alter (t : Table κ α) (k : κ) (d : α) (f : α → α) : Table κ α :=
  t.insert k (f ((t.find? k).getD d))

variable [Std.LawfulEqOrd κ]

/-- What is inserted in a table is found. -/
@[simp] theorem find?_insert_self (t : Table κ α) (k : κ) (v : α) :
    (t.insert k v).find? k = some v :=
  findIn_insertIn_self k v t.entries

/-- Other keys of a table are found as before an insertion. -/
theorem find?_insert_of_ne (t : Table κ α) {k k' : κ} (v : α) (h : k' ≠ k) :
    (t.insert k v).find? k' = t.find? k' :=
  findIn_insertIn_of_ne v t.entries h

/-- What is inserted in a table is found, and all else is as before. -/
theorem find?_insert [DecidableEq κ] (t : Table κ α) (k k' : κ) (v : α) :
    (t.insert k v).find? k' = if k' = k then some v else t.find? k' := by
  split
  · next h => rw [h, find?_insert_self]
  · next h => exact find?_insert_of_ne t v h

/-- What is under a key after a change to one, if keys without a value count as the default. -/
theorem getD_find?_alter [DecidableEq κ] (t : Table κ α) (k k' : κ) (d : α) (f : α → α) :
    ((t.alter k d f).find? k').getD d
      = if k' = k then f ((t.find? k).getD d) else (t.find? k').getD d := by
  rw [alter, find?_insert]
  split
  · rfl
  · rfl

/-- Two tables that answer every question alike are equal. -/
theorem ext_find? {a b : Table κ α} (h : ∀ k, a.find? k = b.find? k) : a = b := by
  obtain ⟨xs, hx⟩ := a
  obtain ⟨ys, hy⟩ := b
  suffices xs = ys by subst this; rfl
  replace h : ∀ k, findIn k xs = findIn k ys := h
  induction xs generalizing ys with
  | nil =>
    cases ys with
    | nil => rfl
    | cons y r => obtain ⟨k, v⟩ := y; have := h k; simp [findIn] at this
  | cons x r ih =>
    obtain ⟨k, v⟩ := x
    cases ys with
    | nil => have := h k; simp [findIn] at this
    | cons y s =>
      obtain ⟨k', v'⟩ := y
      have hr := List.pairwise_cons.1 hx
      have hs := List.pairwise_cons.1 hy
      have key : k = k' := by
        rcases hc : compare k k' with _ | _ | _
        · have := h k
          rw [findIn_eq_none_of_lt (l := (k', v') :: s)] at this
          · simp [findIn] at this
          · intro e he
            rcases List.mem_cons.1 he with rfl | he
            · exact hc
            · exact Std.TransCmp.lt_trans hc (hs.1 e he)
        · exact Std.LawfulEqOrd.eq_of_compare hc
        · have hc := Std.OrientedCmp.gt_iff_lt.1 hc
          have := h k'
          rw [findIn_eq_none_of_lt (l := (k, v) :: r)] at this
          · simp [findIn] at this
          · intro e he
            rcases List.mem_cons.1 he with rfl | he
            · exact hc
            · exact Std.TransCmp.lt_trans hc (hr.1 e he)
      subst key
      have hv : v = v' := by have := h k; simpa [findIn] using this
      subst hv
      congr 1
      refine ih hr.2 s hs.2 fun q => ?_
      have hq := h q
      by_cases e : compare q k = .eq
      · cases Std.LawfulEqOrd.eq_of_compare e
        rw [findIn_eq_none_of_lt hr.1, findIn_eq_none_of_lt hs.1]
      · simpa [findIn, e] using hq

/-- Two changes under one key are one. -/
theorem alter_alter [DecidableEq κ] (t : Table κ α) (k : κ) (d : α) (f g : α → α) :
    (t.alter k d f).alter k d g = t.alter k d fun a => g (f a) := by
  refine ext_find? fun k' => ?_
  simp only [alter, find?_insert, if_true, Option.getD_some]
  by_cases h : k' = k
  · rw [if_pos h, if_pos h]
  · rw [if_neg h, if_neg h, if_neg h]

end Ordered

end Table

/-- A finite set, read out in ascending order. -/
abbrev KeySet (κ : Type u) [Ord κ] := Table κ Unit

namespace KeySet

variable {κ : Type u} [Ord κ]

/-- The members, ascending. -/
def toList (s : KeySet κ) : List κ := s.keys

section Ordered

variable [Std.TransOrd κ]

/-- The set with one more member. -/
def add (s : KeySet κ) (k : κ) : KeySet κ := Table.insert s k ()

/-- The set of the members of a list. -/
def ofList (ks : List κ) : KeySet κ := ks.foldl add Table.empty

/-- The members of either set. -/
def union (s t : KeySet κ) : KeySet κ := t.toList.foldl add s

end Ordered

end KeySet

end Rollout
