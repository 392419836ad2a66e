/-
# Merging, entry by entry

A merge takes the incoming entries one after another, in whatever order they come: each is noted
by what it finds under its name, and then put there (`Takeover.take`).

| the incoming entry finds | noted as |
| --- | --- |
| nothing | inserted |
| the same entry | unchanged |
| another, live | superseded |
| another, deprecated | revived |

No name comes twice, so what an entry finds is what was there before the merge
(`Takeover.noted_takeAll`). Hence the notes, once sorted, and the entries are those of
`Registry.merge` in every order (`Takeover.sorted_start`, `Takeover.entries_start`). Every entry
is noted once (`Takeover.weight_takeAll`), and the registry grows with the names that are inserted
(`Takeover.size_takeAll`).
-/

import Rollout.Proofs.Registry.Entries
import Rollout.Proofs.Table.Overlay

namespace Rollout

namespace MergeSummary

/-- Nothing noted. -/
def blank : MergeSummary := ⟨[], [], [], 0⟩

/-- An incoming entry noted by what was there. -/
def note (m : MergeSummary) (name : String) (before : Option Entry) (e : Entry) : MergeSummary :=
  match before with
  | none => { m with inserted := m.inserted ++ [name] }
  | some p =>
    if p = e then { m with unchanged := m.unchanged + 1 }
    else if p.isLive then { m with superseded := m.superseded ++ [name] }
    else { m with revived := m.revived ++ [name] }

/-- The names of each list in order. -/
def sorted (m : MergeSummary) : MergeSummary where
  inserted := m.inserted.mergeSort
  superseded := m.superseded.mergeSort
  revived := m.revived.mergeSort
  unchanged := m.unchanged

/-- How many entries were noted. -/
def weight (m : MergeSummary) : Nat := m.changed + m.unchanged

/-- The notes of both. -/
def append (m n : MergeSummary) : MergeSummary where
  inserted := m.inserted ++ n.inserted
  superseded := m.superseded ++ n.superseded
  revived := m.revived ++ n.revived
  unchanged := m.unchanged + n.unchanged

/-- Summaries are appended in any grouping. -/
theorem append_assoc (l m n : MergeSummary) : (l.append m).append n = l.append (m.append n) := by
  simp only [append, List.append_assoc, Nat.add_assoc]

/-- Appending the blank summary changes nothing. -/
theorem append_blank (m : MergeSummary) : m.append blank = m := by
  simp only [append, blank, List.append_nil, Nat.add_zero]

/-- Appending to the blank summary gives what is appended. -/
theorem blank_append (m : MergeSummary) : blank.append m = m := by
  simp only [append, blank, List.nil_append, Nat.zero_add]

/-- To note an entry is to append its note. -/
theorem note_eq_append (m : MergeSummary) (name : String) (before : Option Entry) (e : Entry) :
    m.note name before e = m.append (blank.note name before e) := by
  cases before with
  | none => simp [note, append, blank]
  | some p =>
    by_cases same : p = e
    · simp [note, append, blank, same]
    · cases live : p.isLive with
      | true => simp [note, append, blank, same, live]
      | false => simp [note, append, blank, same, live]

/-- Appended summaries have the weight of both. -/
theorem weight_append (m n : MergeSummary) : (m.append n).weight = m.weight + n.weight := by
  simp only [weight, changed, append, List.length_append]
  omega

/-- An entry is noted in one place only. -/
theorem weight_note_blank (name : String) (before : Option Entry) (e : Entry) :
    (blank.note name before e).weight = 1 := by
  cases before with
  | none => rfl
  | some p =>
    by_cases same : p = e
    · simp [note, weight, changed, blank, same]
    · cases live : p.isLive with
      | true => simp [note, weight, changed, blank, same, live]
      | false => simp [note, weight, changed, blank, same, live]

/-- A name is inserted if nothing was there. -/
theorem inserted_note (m : MergeSummary) (name : String) (before : Option Entry) (e : Entry) :
    (m.note name before e).inserted
      = if before.isSome then m.inserted else m.inserted ++ [name] := by
  cases before with
  | none => rfl
  | some p =>
    by_cases same : p = e
    · simp [note, same]
    · cases live : p.isLive with
      | true => simp [note, same, live]
      | false => simp [note, same, live]

end MergeSummary

namespace Registry

variable {a b : Snapshot} {p q : Option Entry → Entry → Bool}

/-- A name is listed exactly if its incoming entry meets the test beside what was there. -/
theorem mem_namesWhere {n : String} :
    n ∈ namesWhere a b p
      ↔ ∃ e, b.entries.find? n = some e ∧ p (a.entries.find? n) e = true := by
  rw [namesWhere, List.mem_map]
  constructor
  · rintro ⟨⟨m, e⟩, he, rfl⟩
    obtain ⟨mem, holds⟩ := List.mem_filter.1 he
    exact ⟨e, b.entries.mem_entries_iff.1 mem, holds⟩
  · rintro ⟨e, found, holds⟩
    exact ⟨(n, e), List.mem_filter.2 ⟨b.entries.mem_entries_iff.2 found, holds⟩, rfl⟩

/-- Names are listed in ascending order. -/
theorem pairwise_lt_namesWhere : (namesWhere a b p).Pairwise (· < ·) := by
  rw [namesWhere, List.pairwise_map]
  exact (b.entries.ascending.filter _).imp compareOfLessAndEq_eq_lt.1

/-- What cannot be said of one entry at once is not said of one name. -/
theorem disjoint_namesWhere (h : ∀ before e, p before e = true → q before e = false) :
    (namesWhere a b p).Disjoint (namesWhere a b q) := by
  intro n hp hq
  obtain ⟨e, he, hp⟩ := mem_namesWhere.1 hp
  obtain ⟨e', he', hq⟩ := mem_namesWhere.1 hq
  obtain rfl : e = e' := Option.some.inj (he.symm.trans he')
  rw [h _ _ hp] at hq
  cases hq

/-- In whatever order the names come, sorting gives the order in which they are read out. -/
theorem mergeSort_eq_namesWhere {ns : List String} (h : ns.Perm (namesWhere a b p)) :
    ns.mergeSort = namesWhere a b p := by
  have sorted : ns.mergeSort.Pairwise (· ≤ ·) :=
    (List.pairwise_mergeSort (fun x y z => by simpa using String.le_trans)
      (fun x y => by simpa using String.le_total x y) ns).imp fun h => by simpa using h
  have inOrder : (namesWhere a b p).Pairwise (· ≤ ·) := pairwise_lt_namesWhere.imp Std.le_of_lt
  exact ((List.mergeSort_perm ns _).trans h).eq_of_pairwise
    (fun x y _ _ => String.le_antisymm) sorted inOrder

end Registry

/-! ## One entry after another -/

/-- A merge under way: what was noted, and the entries as they stand. -/
structure Takeover where
  noted : MergeSummary
  entries : Table String Entry

namespace Takeover

/-- A merge at its start. -/
def start (a : Snapshot) : Takeover := ⟨.blank, a.entries⟩

/-- An entry noted by what is there, and put in its place. -/
def take (t : Takeover) (e : String × Entry) : Takeover where
  noted := t.noted.note e.1 (t.entries.find? e.1) e.2
  entries := t.entries.insert e.1 e.2

/-- Entries taken over one after another. -/
def takeAll (t : Takeover) (es : List (String × Entry)) : Takeover := es.foldl take t

/-- The first entry is taken over before the others. -/
theorem takeAll_cons (t : Takeover) (e : String × Entry) (es : List (String × Entry)) :
    t.takeAll (e :: es) = (t.take e).takeAll es := rfl

/-- Taking entries over puts them into the table. -/
theorem entries_takeAll (t : Takeover) (es : List (String × Entry)) :
    (t.takeAll es).entries = t.entries.putAll es := by
  induction es generalizing t with
  | nil => rfl
  | cons e es ih => exact ih (t.take e)

/-- Every entry is noted once. -/
theorem weight_takeAll (t : Takeover) (es : List (String × Entry)) :
    (t.takeAll es).noted.weight = t.noted.weight + es.length := by
  induction es generalizing t with
  | nil => rfl
  | cons e es ih =>
    have step : (t.take e).noted.weight = t.noted.weight + 1 := by
      rw [take, MergeSummary.note_eq_append, MergeSummary.weight_append,
        MergeSummary.weight_note_blank]
    rw [takeAll_cons, ih, step, List.length_cons]
    omega

/-- The entries grow with the names that are inserted. -/
theorem size_takeAll (t : Takeover) (es : List (String × Entry)) :
    (t.takeAll es).entries.size + t.noted.inserted.length
      = t.entries.size + (t.takeAll es).noted.inserted.length := by
  induction es generalizing t with
  | nil => rfl
  | cons e es ih =>
    have step : (t.take e).entries.size + t.noted.inserted.length
        = t.entries.size + (t.take e).noted.inserted.length := by
      simp only [take, Table.size_insert, MergeSummary.inserted_note]
      split
      · rfl
      · rw [List.length_append, List.length_singleton]
        omega
    have rest := ih (t.take e)
    rw [takeAll_cons]
    omega

/-! ## What is noted -/

/-- The names of the entries that meet `p` beside what a table has under their names. -/
def namesIn (t : Table String Entry) (es : List (String × Entry))
    (p : Option Entry → Entry → Bool) : List String :=
  (es.filter fun e => p (t.find? e.1) e.2).map (·.1)

/-- The notes of all entries, each beside what is in the table. -/
def summaryIn (t : Table String Entry) (es : List (String × Entry)) : MergeSummary where
  inserted := namesIn t es fun before _ => before.isNone
  superseded := namesIn t es fun before e => before.any fun p => p ≠ e && p.isLive
  revived := namesIn t es fun before e => before.any fun p => p ≠ e && !p.isLive
  unchanged := (namesIn t es fun before e => before.any fun p => p = e).length

/-- The first entry is listed if it meets the test, and then the others. -/
theorem namesIn_cons (t : Table String Entry) (e : String × Entry) (es : List (String × Entry))
    (p : Option Entry → Entry → Bool) :
    namesIn t (e :: es) p
      = if p (t.find? e.1) e.2 then e.1 :: namesIn t es p else namesIn t es p := by
  rw [namesIn, List.filter_cons]
  split
  · rfl
  · rfl

/-- The first entry is noted before the others. -/
theorem summaryIn_cons (t : Table String Entry) (e : String × Entry)
    (es : List (String × Entry)) :
    summaryIn t (e :: es)
      = (MergeSummary.blank.note e.1 (t.find? e.1) e.2).append (summaryIn t es) := by
  simp only [summaryIn, namesIn_cons]
  cases t.find? e.1 with
  | none => simp [MergeSummary.note, MergeSummary.append, MergeSummary.blank]
  | some p =>
    by_cases same : p = e.2
    · simp [same, MergeSummary.note, MergeSummary.append, MergeSummary.blank, Nat.add_comm]
    · cases live : p.isLive with
      | true => simp [same, live, MergeSummary.note, MergeSummary.append, MergeSummary.blank]
      | false => simp [same, live, MergeSummary.note, MergeSummary.append, MergeSummary.blank]

/-- An entry put under a name that does not come again changes no note. -/
theorem summaryIn_insert (t : Table String Entry) {n : String} (e : Entry)
    {es : List (String × Entry)} (fresh : n ∉ es.map (·.1)) :
    summaryIn (t.insert n e) es = summaryIn t es := by
  have names : ∀ p, namesIn (t.insert n e) es p = namesIn t es p := by
    intro p
    rw [namesIn, namesIn]
    congr 1
    refine List.filter_congr fun x hx => ?_
    have other : x.1 ≠ n := fun h => fresh (h ▸ List.mem_map_of_mem hx)
    rw [t.find?_insert_of_ne e other]
  simp only [summaryIn, names]

/-- **What is noted.** Where no name comes twice, every entry is noted by what was there before
the first was put in its place. -/
theorem noted_takeAll (t : Takeover) {es : List (String × Entry)} (nodup : (es.map (·.1)).Nodup) :
    (t.takeAll es).noted = t.noted.append (summaryIn t.entries es) := by
  induction es generalizing t with
  | nil => exact t.noted.append_blank.symm
  | cons e es ih =>
    obtain ⟨fresh, nodup⟩ := List.nodup_cons.1 nodup
    calc (t.takeAll (e :: es)).noted
        = (t.take e).noted.append (summaryIn (t.entries.insert e.1 e.2) es) := ih _ nodup
      _ = (t.noted.note e.1 (t.entries.find? e.1) e.2).append (summaryIn t.entries es) := by
          rw [summaryIn_insert t.entries e.2 fresh, take]
      _ = t.noted.append (summaryIn t.entries (e :: es)) := by
          rw [MergeSummary.note_eq_append, MergeSummary.append_assoc, ← summaryIn_cons]

/-! ## In any order -/

variable {a b : Snapshot} {es : List (String × Entry)}

/-- In whatever order entries are taken over, the table is that of the merge. -/
theorem entries_start (h : es.Perm b.entries.entries) :
    ((start a).takeAll es).entries = (a.merge b).entries := by
  refine Table.ext_find? fun n => ?_
  rw [entries_takeAll, Table.find?_putAll_of_perm _ _ h, Snapshot.find?_merge]
  rfl

/-- **In whatever order entries are taken over**, what is noted is, when sorted, the summary of the
merge. -/
theorem sorted_start (h : es.Perm b.entries.entries) :
    ((start a).takeAll es).noted.sorted = Registry.mergeSummary a b := by
  have nodup : (es.map (·.1)).Nodup := (h.map _).nodup_iff.2 b.entries.nodup_keys
  have noted : ((start a).takeAll es).noted = summaryIn a.entries es :=
    (noted_takeAll _ nodup).trans (MergeSummary.blank_append _)
  have perm : ∀ p, (namesIn a.entries es p).Perm (Registry.namesWhere a b p) :=
    fun p => (h.filter _).map _
  have names : ∀ p, (namesIn a.entries es p).mergeSort = Registry.namesWhere a b p :=
    fun p => Registry.mergeSort_eq_namesWhere (perm p)
  rw [noted]
  simp only [MergeSummary.sorted, summaryIn, names, (perm _).length_eq]
  rfl

/-- In ascending order what is noted is the summary as it is. -/
theorem noted_start (a b : Snapshot) :
    ((start a).takeAll b.entries.entries).noted = Registry.mergeSummary a b :=
  (noted_takeAll _ b.entries.nodup_keys).trans (MergeSummary.blank_append _)

end Takeover

/-! ## What a merge does -/

namespace Registry

/-- What becomes of `a` when `b` is merged into it. -/
structure Merged (a b : Registry) : Prop where
  /-- The entry of a name is that of `b`, or else that of `a`. -/
  entry : ∀ n, (a.merge b).2.current.entries.find? n
    = (b.current.entries.find? n).or (a.current.entries.find? n)
  /-- The entries of `b` can be taken in any order. -/
  anyOrder : ∀ es : List (String × Entry), es.Perm b.current.entries.entries →
    ((Takeover.start a.current).takeAll es).noted.sorted = (a.merge b).1
      ∧ ((Takeover.start a.current).takeAll es).entries = (a.merge b).2.current.entries
  log : (a.merge b).2.overwrites = a.overwrites
  size : (a.merge b).2.current.size = a.current.size + (a.merge b).1.inserted.length
  /-- The names are in order, and none comes twice in a list. -/
  sorted : (a.merge b).1.inserted.Pairwise (· < ·) ∧ (a.merge b).1.superseded.Pairwise (· < ·)
    ∧ (a.merge b).1.revived.Pairwise (· < ·)
  disjoint : (a.merge b).1.inserted.Disjoint (a.merge b).1.superseded
    ∧ (a.merge b).1.inserted.Disjoint (a.merge b).1.revived
    ∧ (a.merge b).1.superseded.Disjoint (a.merge b).1.revived
  counted : (a.merge b).1.changed + (a.merge b).1.unchanged = b.current.size
  assoc : ∀ c, ((a.merge b).2.merge c).2 = (a.merge (b.merge c).2).2
  /-- A second time there is nothing to change. -/
  again : ((a.merge b).2.merge b).2 = (a.merge b).2
    ∧ ((a.merge b).2.merge b).1.changed = 0
    ∧ ((a.merge b).2.merge b).1.unchanged = b.current.size

/-- After a merge a name has the incoming entry, or else what it had. -/
theorem entry_merge (a b : Registry) (n : String) :
    (a.merge b).2.current.entries.find? n
      = (b.current.entries.find? n).or (a.current.entries.find? n) :=
  Snapshot.find?_merge a.current b.current n

/-- Every incoming entry is counted once. -/
theorem weight_merge (a b : Registry) : (a.merge b).1.weight = b.current.size := by
  have weight := (Takeover.start a.current).weight_takeAll b.current.entries.entries
  rw [Takeover.noted_start] at weight
  exact weight.trans (Nat.zero_add _)

/-- A merge adds as many entries as it lists as inserted. -/
theorem size_merge (a b : Registry) :
    (a.merge b).2.current.size = a.current.size + (a.merge b).1.inserted.length := by
  have size := (Takeover.start a.current).size_takeAll b.current.entries.entries
  rw [Takeover.noted_start, Takeover.entries_start (List.Perm.refl _)] at size
  exact size

/-- Merges are made in any grouping. -/
theorem assoc_merge (a b c : Registry) :
    ((a.merge b).2.merge c).2 = (a.merge (b.merge c).2).2 := by
  have current : ((a.merge b).2.merge c).2.current = (a.merge (b.merge c).2).2.current := by
    refine Snapshot.ext_find? fun n => ?_
    rw [entry_merge, entry_merge, entry_merge, entry_merge, Option.or_assoc]
  exact congrArg (Registry.mk · a.overwrites) current

/-- Merging the same registry again changes no registry. -/
theorem merge_again (a b : Registry) : ((a.merge b).2.merge b).2 = (a.merge b).2 := by
  have current : ((a.merge b).2.merge b).2.current = (a.merge b).2.current := by
    refine Snapshot.ext_find? fun n => ?_
    rw [entry_merge, entry_merge, ← Option.or_assoc, Option.or_self]
  exact congrArg (Registry.mk · a.overwrites) current

/-- Where every incoming entry is there already, none goes to a list of changes. -/
theorem changed_eq_zero {a b : Registry}
    (h : ∀ n e, b.current.entries.find? n = some e → a.current.entries.find? n = some e) :
    (a.merge b).1.changed = 0 := by
  have nothing : ∀ p : Option Entry → Entry → Bool, (∀ e, p (some e) e = false) →
      namesWhere a.current b.current p = [] := by
    intro p hp
    refine List.eq_nil_iff_forall_not_mem.2 fun n hn => ?_
    obtain ⟨e, found, holds⟩ := mem_namesWhere.1 hn
    rw [h n e found, hp] at holds
    cases holds
  simp only [merge, mergeSummary, MergeSummary.changed]
  rw [nothing _ fun e => rfl, nothing _ fun e => by simp, nothing _ fun e => by simp]
  rfl

/-- Merging the same registry again changes no entry. -/
theorem changed_merge_again (a b : Registry) : ((a.merge b).2.merge b).1.changed = 0 := by
  refine changed_eq_zero fun n e found => ?_
  rw [entry_merge, found]
  rfl

/-- No name is listed twice. -/
theorem disjoint_merge (a b : Registry) :
    (a.merge b).1.inserted.Disjoint (a.merge b).1.superseded
      ∧ (a.merge b).1.inserted.Disjoint (a.merge b).1.revived
      ∧ (a.merge b).1.superseded.Disjoint (a.merge b).1.revived := by
  simp only [merge, mergeSummary]
  refine ⟨disjoint_namesWhere ?_, disjoint_namesWhere ?_, disjoint_namesWhere ?_⟩
  · intro before e h
    rw [Option.isNone_iff_eq_none.1 h]
    rfl
  · intro before e h
    rw [Option.isNone_iff_eq_none.1 h]
    rfl
  · intro before e h
    obtain ⟨p, rfl, h⟩ := (Option.any_eq_true _ _).1 h
    have live : p.isLive = true := (Bool.and_eq_true_iff.1 h).2
    simp [live]

/-- **Merging is the union in which the incoming entry wins.** -/
theorem merged_merge (a b : Registry) : Merged a b where
  entry := entry_merge a b
  anyOrder _ h := ⟨Takeover.sorted_start h, Takeover.entries_start h⟩
  log := rfl
  size := size_merge a b
  sorted := by
    simp only [merge, mergeSummary]
    exact ⟨pairwise_lt_namesWhere, pairwise_lt_namesWhere, pairwise_lt_namesWhere⟩
  disjoint := disjoint_merge a b
  counted := weight_merge a b
  assoc := assoc_merge a b
  again := by
    have weight := weight_merge (a.merge b).2 b
    rw [MergeSummary.weight, changed_merge_again, Nat.zero_add] at weight
    exact ⟨merge_again a b, changed_merge_again a b, weight⟩

end Registry
end Rollout
