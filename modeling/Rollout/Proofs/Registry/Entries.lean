/-
# What is found in a registry after an operation

A snapshot is known by what it finds under each name (`Snapshot.ext_find?`). For every
operation there is one equation that says what is found after it:

| operation | found under `n` |
| --- | --- |
| `s.set e` | `e` if that is its name, else what `s` has |
| `a.merge b` | what `b` has, else what `a` has |
| `ofHandles hs` | the last of `hs` of that name, live |
| `ns.foldl retire s` | what `s` has, deprecated if `n` is among `ns` |
-/

import Rollout.Registry
import Rollout.Proofs.Table.Overlay
import Mathlib.Data.List.Nodup

namespace Rollout

namespace Entry

/-- The entry out of use. -/
def retired (e : Entry) : Entry := { e with status := .deprecated }

@[simp] theorem handle_retired (e : Entry) : e.retired.handle = e.handle := rfl

@[simp] theorem isLive_retired (e : Entry) : e.retired.isLive = false := rfl

@[simp] theorem handle_live (h : Handle) : (live h).handle = h := rfl

@[simp] theorem isLive_live (h : Handle) : (live h).isLive = true := rfl

/-- A live entry is the live one of its handle. -/
theorem eq_live_of_isLive {e : Entry} (h : e.isLive = true) : e = live e.handle := by
  obtain ⟨handle, status⟩ := e
  cases status with
  | live => rfl
  | deprecated => cases h

end Entry

namespace Snapshot

/-- A resource is found under its own name. -/
theorem name_of_find? {s : Snapshot} {n : String} {e : Entry} (h : s.entries.find? n = some e) :
    e.handle.name = n :=
  s.named _ (s.entries.mem_entries_iff.2 h)

/-- Two snapshots that find the same under every name are equal. -/
theorem ext_find? {a b : Snapshot} (h : ∀ n, a.entries.find? n = b.entries.find? n) : a = b := by
  have he : a.entries = b.entries := Table.ext_find? h
  cases a; cases b; cases he; rfl

/-- In the empty registry no name has an entry. -/
@[simp] theorem find?_empty (n : String) : empty.entries.find? n = none := rfl

/-- An entry that is set is found under the name of its handle, and leaves all others. -/
theorem find?_set (s : Snapshot) (e : Entry) (n : String) :
    (s.set e).entries.find? n = if n = e.handle.name then some e else s.entries.find? n :=
  Table.find?_insert ..

/-- Entries put one after another are pairs put into the table, each under the name of its
resource. -/
theorem entries_foldl_set (es : List Entry) (s : Snapshot) :
    (es.foldl set s).entries = s.entries.putAll (es.map fun e => (e.handle.name, e)) := by
  induction es generalizing s with
  | nil => rfl
  | cons e es ih => exact ih (s.set e)

/-- Of several entries put one after another, the last of a name is found. -/
theorem find?_foldl_set (es : List Entry) (s : Snapshot) (n : String) :
    (es.foldl set s).entries.find? n
      = (es.reverse.find? (·.handle.name = n)).or (s.entries.find? n) := by
  rw [entries_foldl_set, Table.find?_putAll, ← List.map_reverse, List.find?_map, Option.map_map]
  congr 1
  exact Option.map_id'

/-! ## Resources put in use -/

/-- A registry is made of handles by setting them live one after the other. -/
theorem ofHandles_eq (hs : List Handle) : ofHandles hs = (hs.map Entry.live).foldl set empty := by
  rw [ofHandles, List.foldl_map]; rfl

/-- In a registry made of handles a name has the last of them that has it. -/
theorem find?_ofHandles (hs : List Handle) (n : String) :
    (ofHandles hs).entries.find? n = (hs.reverse.find? (·.name = n)).map Entry.live := by
  rw [ofHandles_eq, find?_foldl_set, ← List.map_reverse, List.find?_map, find?_empty,
    Option.or_none]
  rfl

/-- Under a name that one resource has, and no other, that resource is the last. -/
theorem find?_reverse_of_mem {hs : List Handle} (hn : (hs.map (·.name)).Nodup) {h : Handle}
    (hh : h ∈ hs) : hs.reverse.find? (·.name = h.name) = some h := by
  cases hf : hs.reverse.find? (·.name = h.name) with
  | none =>
    have := List.find?_eq_none.1 hf h (List.mem_reverse.2 hh)
    simp at this
  | some x =>
    have hx : x ∈ hs := List.mem_reverse.1 (List.mem_of_find?_eq_some hf)
    have he : x.name = h.name := by simpa using List.find?_some hf
    rw [List.inj_on_of_nodup_map hn hx hh he]

/-! ## Merging -/

/-- To merge is to put the entries of the second snapshot into the table of the first. -/
theorem entries_merge (a b : Snapshot) : (a.merge b).entries = a.entries.putAll b.entries.entries := by
  have pairs : (b.entries.values.map fun e => (e.handle.name, e)) = b.entries.entries := by
    rw [Table.values, List.map_map]
    refine (List.map_congr_left fun e he => ?_).trans (List.map_id _)
    rw [Function.comp, b.named e he]
    rfl
  rw [merge, entries_foldl_set, pairs]

/-- **Merging is a union in which the second snapshot wins.** -/
theorem find?_merge (a b : Snapshot) (n : String) :
    (a.merge b).entries.find? n = (b.entries.find? n).or (a.entries.find? n) := by
  rw [entries_merge, Table.find?_putAll_of_perm _ _ (List.Perm.refl _)]

/-! ## Retiring -/

/-- Retiring a name retires its entry and leaves all others. -/
theorem find?_retire (s : Snapshot) (m n : String) :
    (s.retire m).entries.find? n
      = (s.entries.find? n).map fun e => if n = m then e.retired else e := by
  unfold retire
  split
  · next e he =>
    have hm : e.handle.name = m := name_of_find? he
    rw [find?_set]
    by_cases h : n = m
    · simp [h, he, hm, Entry.retired]
    · simp [h, hm]
  · next he =>
    by_cases h : n = m
    · simp [h, he]
    · simp [h]

/-- Retiring names retires their entries and leaves all others. -/
theorem find?_foldl_retire (ns : List String) (s : Snapshot) (n : String) :
    (ns.foldl retire s).entries.find? n
      = (s.entries.find? n).map fun e => if n ∈ ns then e.retired else e := by
  induction ns generalizing s with
  | nil => simp
  | cons m ns ih =>
    rw [List.foldl_cons, ih, find?_retire, Option.map_map]
    congr 1
    funext e
    by_cases hm : n = m <;> by_cases hn : n ∈ ns <;> simp [hm, hn, Entry.retired]

/-! ## Live names -/

/-- The handle of a name is had exactly if its entry is live. -/
theorem get_eq_ok_iff {s : Snapshot} {n : String} {h : Handle} :
    s.get n = .ok h ↔ s.entries.find? n = some (.live h) := by
  unfold get
  cases hf : s.entries.find? n with
  | none => simp
  | some e =>
    cases hl : e.isLive with
    | true =>
      have : e = .live h ↔ e.handle = h :=
        ⟨fun he => by rw [he, Entry.handle_live], fun he => he ▸ Entry.eq_live_of_isLive hl⟩
      simp [this, hl]
    | false =>
      have : e ≠ .live h := fun he => by simp [he] at hl
      simp [this, hl]

/-- A name is unknown exactly if it has no entry. -/
theorem get_eq_unknown_iff {s : Snapshot} {n : String} :
    s.get n = .error (.unknown n) ↔ s.entries.find? n = none := by
  unfold get
  cases s.entries.find? n with
  | none => simp
  | some e => cases hl : e.isLive <;> simp [hl]

/-- A name is deprecated exactly if it has an entry that is not live. -/
theorem get_eq_deprecated_iff {s : Snapshot} {n : String} :
    s.get n = .error (.deprecated n) ↔ ∃ e, s.entries.find? n = some e ∧ e.isLive = false := by
  unfold get
  cases s.entries.find? n with
  | none => simp
  | some e => cases hl : e.isLive <;> simp [hl]

/-- A name is live exactly if its handle is had. -/
theorem isLive_iff {s : Snapshot} {n : String} : s.isLive n = true ↔ ∃ h, s.get n = .ok h := by
  simp only [get_eq_ok_iff, isLive]
  cases hf : s.entries.find? n with
  | none => simp
  | some e =>
    constructor
    · intro hl
      exact ⟨e.handle, congrArg some (Entry.eq_live_of_isLive hl)⟩
    · rintro ⟨h, he⟩
      cases he
      rfl

/-- A name is deprecated exactly if it has a deprecated entry. -/
theorem isDeprecated_iff {s : Snapshot} {n : String} :
    s.isDeprecated n = true ↔ ∃ h, s.entries.find? n = some ⟨h, .deprecated⟩ := by
  rw [isDeprecated, Option.any_eq_true]
  constructor
  · rintro ⟨⟨h, status⟩, found, dead⟩
    cases status with
    | live => cases dead
    | deprecated => exact ⟨h, found⟩
  · rintro ⟨h, found⟩
    exact ⟨_, found, rfl⟩

/-- The live names are those that are live. -/
theorem mem_liveNames_iff {s : Snapshot} {n : String} : n ∈ s.liveNames ↔ s.isLive n = true := by
  rw [liveNames, List.mem_map, isLive, Option.any_eq_true]
  constructor
  · rintro ⟨⟨m, e⟩, he, rfl⟩
    obtain ⟨he, hl⟩ := List.mem_filter.1 he
    exact ⟨e, s.entries.mem_entries_iff.1 he, hl⟩
  · rintro ⟨e, he, hl⟩
    exact ⟨(n, e), List.mem_filter.2 ⟨s.entries.mem_entries_iff.2 he, hl⟩, rfl⟩

/-- Putting resources in use takes none out of use. -/
theorem isLive_merge_ofHandles {s : Snapshot} {hs : List Handle} {n : String}
    (h : s.isLive n = true) : (s.merge (ofHandles hs)).isLive n = true := by
  rw [isLive, find?_merge, find?_ofHandles]
  cases hs.reverse.find? (·.name = n) with
  | some x => rfl
  | none => exact h

/-- After names are retired, the others are live if they were. -/
theorem isLive_foldl_retire {s : Snapshot} {ns : List String} {n : String} :
    (ns.foldl retire s).isLive n = true ↔ n ∉ ns ∧ s.isLive n = true := by
  rw [isLive, isLive, find?_foldl_retire]
  by_cases h : n ∈ ns
  · cases s.entries.find? n <;> simp [h]
  · cases s.entries.find? n <;> simp [h]

/-- What is had under a name has that name. -/
theorem name_of_get {s : Snapshot} {n : String} {h : Handle} (hg : s.get n = .ok h) : h.name = n :=
  name_of_find? (get_eq_ok_iff.1 hg)

/-- What is live is an entry. -/
theorem contains_of_isLive {s : Snapshot} {n : String} (h : s.isLive n = true) :
    s.contains n = true := by
  obtain ⟨e, he, -⟩ := (Option.any_eq_true _ _).1 h
  simp [contains, Table.contains, he]

/-- What an error of a look-up names is not live. -/
theorem isLive_eq_false_of_get_error {s : Snapshot} {n : String} {e : LookupError}
    (h : s.get n = .error e) : e.name = n ∧ s.isLive n = false := by
  unfold get at h
  split at h
  · next x hx =>
    split at h
    · cases h
    · next hl =>
      cases h
      exact ⟨rfl, by simpa [isLive, hx] using hl⟩
  · next hx =>
    cases h
    exact ⟨rfl, by simp [isLive, hx]⟩

end Snapshot
end Rollout
