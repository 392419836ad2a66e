/-
# What a registry has to do with its history

A registry comes from resources put in use and from changes: puts, deprecations, and merges of
registries that came about in the same way (`Registry.Change`). What it has under a name is told
by the touches of that name alone, the times an entry was brought or was taken out of use
(`Registry.Told`):

| last touch of `n` | under `n` |
| --- | --- |
| none | nothing |
| an entry is brought | that entry, its resource named `n` |
| taken out of use | what was there, deprecated |

One change extends the tale by what it does to the name (`Registry.told_apply`), and so does a
sequence of changes (`Registry.told_applyAll`).
-/

import Rollout.Proofs.Registry.Entries

namespace Rollout

/-- The entry with its resource under another name. -/
def Entry.renamed (e : Entry) (n : String) : Entry := { e with handle := e.handle.renamed n }

namespace Registry

/-- A change to a registry. What is merged into it came about by changes too. -/
inductive Change
  | put (name : String) (h : Handle)
  | merge (start : List Handle) (changes : List Change)
  | markDeprecated (name : String)

mutual

/-- The registry after a change. A deprecation that fails leaves it as it is. -/
def Change.apply (r : Registry) : Change → Registry
  | .put n h => (r.put n h).2
  | .merge start cs => (r.merge (applyAll (.ofHandles start) cs)).2
  | .markDeprecated n =>
    match r.markDeprecated n with
    | .ok (_, r') => r'
    | .error _ => r

/-- Changes made one after another. -/
def applyAll (r : Registry) : List Change → Registry
  | [] => r
  | c :: cs => applyAll (c.apply r) cs

end

/-- The registry that starts from resources in use and goes through changes. -/
def after (start : List Handle) (cs : List Change) : Registry := applyAll (.ofHandles start) cs

/-! ## Touches of a name -/

/-- What a change does to the entry of a name. -/
inductive Touch
  /-- An entry is put there. -/
  | brings (e : Entry)
  /-- The entry is taken out of use. -/
  | retires

/-- The touch of a name by a change to a registry: a put under the name, an entry of the name in
what is merged, a deprecation of the name that succeeds. -/
def Change.touch? (r : Registry) (n : String) : Change → Option Touch
  | .put m h => if m = n then some (.brings (.live h)) else none
  | .merge start cs => ((after start cs).current.entries.find? n).map .brings
  | .markDeprecated m => if m = n ∧ (r.markDeprecated m).isOk then some .retires else none

/-- The touches of a name by changes to a registry. -/
def touches (n : String) : Registry → List Change → List Touch
  | _, [] => []
  | r, c :: cs => (c.touch? r n).toList ++ touches n (c.apply r) cs

/-- The touches of a name from the start. -/
def history (start : List Handle) (cs : List Change) (n : String) : List Touch :=
  (start.filter (·.name = n)).map (fun h => .brings (.live h))
    ++ touches n (.ofHandles start) cs

/-- What touches of the name `n` leave under it. -/
inductive Told (n : String) : List Touch → Option Entry → Prop
  | untouched : Told n [] none
  | brought (ts : List Touch) (e : Entry) : Told n (ts ++ [.brings e]) (some (e.renamed n))
  | retired {ts : List Touch} {e : Entry} : Told n ts (some e) →
      Told n (ts ++ [.retires]) (some e.retired)

namespace Told

variable {n : String} {ts : List Touch} {o : Option Entry} {e : Entry}

/-- Nothing is there only if nothing ever was. -/
theorem none_iff (h : Told n ts o) : o = none ↔ ∀ e, Touch.brings e ∉ ts := by
  induction h with
  | untouched => simp
  | brought ts e =>
    have mem : Touch.brings e ∈ ts ++ [Touch.brings e] := by simp
    exact iff_of_false nofun fun absent => absent e mem
  | @retired ts e _ ih =>
    refine iff_of_false nofun fun absent => ?_
    have absent : ∀ e, Touch.brings e ∉ ts := fun e mem => absent e (List.mem_append_left _ mem)
    cases ih.2 absent

/-- What is out of use was taken out of use last, or came so. -/
theorem retired_iff (h : Told n ts o) :
    (∃ e, o = some e ∧ e.isLive = false)
      ↔ ts.getLast? = some .retires ∨ ∃ b, ts.getLast? = some (.brings b) ∧ b.isLive = false := by
  cases h with
  | untouched => simp
  | brought ts b =>
    rw [List.getLast?_concat]
    constructor
    · rintro ⟨e, he, dead⟩
      cases he
      exact .inr ⟨b, rfl, dead⟩
    · rintro (last | ⟨b', last, dead⟩)
      · cases last
      · cases last
        exact ⟨_, rfl, dead⟩
  | retired _ =>
    rw [List.getLast?_concat]
    exact iff_of_true ⟨_, rfl, rfl⟩ (.inl rfl)

/-- The resource is that of the entry brought last, whether it was taken out of use since or
not. -/
theorem exists_brought (h : Told n ts (some e)) :
    ∃ us b vs, ts = us ++ .brings b :: vs ∧ (∀ t ∈ vs, t = .retires)
      ∧ e.handle = b.handle.renamed n := by
  generalize ho : some e = o at h
  induction h generalizing e with
  | untouched => cases ho
  | brought ts b =>
    cases ho
    exact ⟨ts, b, [], rfl, nofun, rfl⟩
  | @retired ts e' _ ih =>
    cases ho
    obtain ⟨us, b, vs, rfl, only, same⟩ := ih rfl
    refine ⟨us, b, vs ++ [.retires], by simp, fun t ht => ?_, same⟩
    rcases List.mem_append.1 ht with ht | ht
    · exact only t ht
    · exact List.mem_singleton.1 ht

/-- A name that is live was last brought in, and has what was brought. -/
theorem exists_live (h : Told n ts (some e)) (live : e.isLive = true) :
    ∃ b, ts.getLast? = some (.brings b) ∧ e.handle = b.handle.renamed n := by
  cases h with
  | brought ts b => exact ⟨b, List.getLast?_concat .., rfl⟩
  | retired _ => cases live

end Told

/-- An entry that is found under a name has that name already. -/
theorem renamed_of_find? {s : Snapshot} {n : String} {e : Entry}
    (h : s.entries.find? n = some e) : e.renamed n = e := by
  obtain ⟨⟨name, address, kind, artifact⟩, status⟩ := e
  obtain rfl : name = n := Snapshot.name_of_find? h
  rfl

/-- Resources put in use are brought under their own names. -/
theorem told_ofHandles (start : List Handle) (n : String) :
    Told n ((start.filter (·.name = n)).map fun h => .brings (.live h))
      ((ofHandles start).current.entries.find? n) := by
  have last : start.reverse.find? (·.name = n) = (start.filter (·.name = n)).getLast? := by
    rw [← List.head?_filter, List.filter_reverse, List.head?_reverse]
  have found : (ofHandles start).current.entries.find? n
      = (start.filter (·.name = n)).getLast?.map .live := by
    rw [← last]
    exact Snapshot.find?_ofHandles start n
  rw [found]
  rcases List.eq_nil_or_concat' (start.filter (·.name = n)) with nil | ⟨hs, h, concat⟩
  · rw [nil]
    exact .untouched
  · have mem : h ∈ start.filter (·.name = n) := concat ▸ List.mem_concat_self
    obtain rfl : h.name = n := by simpa using (List.mem_filter.1 mem).2
    rw [concat, List.map_append, List.getLast?_concat]
    exact .brought _ (.live h)

/-- What is put is found under its name, and all other names have what they had. -/
theorem find?_apply_put (r : Registry) (m n : String) (h : Handle) :
    ((Change.put m h).apply r).current.entries.find? n
      = if n = m then some (.live (h.renamed m)) else r.current.entries.find? n :=
  Snapshot.find?_set ..

/-- What is merged has what is brought in, or else what was there. -/
theorem find?_apply_merge (r : Registry) (start : List Handle) (cs : List Change) (n : String) :
    ((Change.merge start cs).apply r).current.entries.find? n
      = ((after start cs).current.entries.find? n).or (r.current.entries.find? n) :=
  Snapshot.find?_merge ..

/-- A deprecation takes the entry of its name out of use, if there is one. -/
theorem find?_apply_markDeprecated (r : Registry) (m n : String) :
    ((Change.markDeprecated m).apply r).current.entries.find? n
      = (r.current.entries.find? n).map fun e => if n = m then e.retired else e := by
  rw [← Snapshot.find?_retire, Change.apply, markDeprecated]
  cases found : r.current.entries.find? m with
  | none => rw [Snapshot.retire, found]
  | some e => rfl

/-- A name can be marked as deprecated exactly if it has an entry. -/
theorem isOk_markDeprecated (r : Registry) (m : String) :
    (r.markDeprecated m).isOk = (r.current.entries.find? m).isSome := by
  rw [markDeprecated]
  cases r.current.entries.find? m with
  | none => rfl
  | some e => rfl

/-- **What one change does to the tale of a name.** -/
theorem told_apply {r : Registry} {n : String} {ts : List Touch}
    (h : Told n ts (r.current.entries.find? n)) (c : Change) :
    Told n (ts ++ (c.touch? r n).toList) ((c.apply r).current.entries.find? n) := by
  cases c with
  | put m h' =>
    rw [find?_apply_put, Change.touch?]
    by_cases hm : m = n
    · subst hm
      rw [if_pos rfl, if_pos rfl]
      exact .brought ts (.live h')
    · rw [if_neg hm, if_neg (Ne.symm hm), Option.toList_none, List.append_nil]
      exact h
  | merge start cs =>
    rw [find?_apply_merge, Change.touch?]
    cases found : (after start cs).current.entries.find? n with
    | none =>
      rw [Option.map_none, Option.toList_none, List.append_nil, Option.none_or]
      exact h
    | some e =>
      have brought := Told.brought (n := n) ts e
      rw [renamed_of_find? found] at brought
      exact brought
  | markDeprecated m =>
    rw [find?_apply_markDeprecated, Change.touch?, isOk_markDeprecated]
    by_cases hm : m = n
    · subst hm
      cases found : r.current.entries.find? m with
      | none =>
        rw [found] at h
        simpa using h
      | some e =>
        rw [found] at h
        simpa using h.retired
    · have same : (r.current.entries.find? n).map (fun e => if n = m then e.retired else e)
          = r.current.entries.find? n := by simp [Ne.symm hm]
      rw [same, if_neg fun both => hm both.1, Option.toList_none, List.append_nil]
      exact h

/-- The tale of a name goes on through changes. -/
theorem told_applyAll {r : Registry} {n : String} {ts : List Touch}
    (h : Told n ts (r.current.entries.find? n)) (cs : List Change) :
    Told n (ts ++ touches n r cs) ((applyAll r cs).current.entries.find? n) := by
  induction cs generalizing r ts with
  | nil =>
    rw [touches, List.append_nil]
    exact h
  | cons c cs ih =>
    rw [touches, ← List.append_assoc, applyAll]
    exact ih (told_apply h c)

/-- **The entry of a name is told by its history.** -/
theorem told_after (start : List Handle) (cs : List Change) (n : String) :
    Told n (history start cs n) ((after start cs).current.entries.find? n) :=
  told_applyAll (told_ofHandles start n) cs

/-! ## Names -/

mutual

/-- A change to a bare table, in which an entry could stand under any name. -/
def Change.applyBare (t : Table String Entry) : Change → Table String Entry
  | .put n h => t.insert n (.live (h.renamed n))
  | .merge start cs =>
    t.putAll (applyAllBare (Table.ofList (start.map fun h => (h.name, .live h))) cs).entries
  | .markDeprecated n =>
    match t.find? n with
    | some e => t.insert n e.retired
    | none => t

/-- Changes made to a bare table one after another. -/
def applyAllBare (t : Table String Entry) : List Change → Table String Entry
  | [] => t
  | c :: cs => applyAllBare (c.applyBare t) cs

end

/-- The bare table that starts from resources in use and goes through changes. -/
def afterBare (start : List Handle) (cs : List Change) : Table String Entry :=
  applyAllBare (Table.ofList (start.map fun h => (h.name, .live h))) cs

/-- At first the table has the handles, live, under their names. -/
theorem entries_ofHandles (start : List Handle) :
    (ofHandles start).current.entries = Table.ofList (start.map fun h => (h.name, .live h)) := by
  have put := Snapshot.entries_foldl_set (start.map Entry.live) .empty
  rw [← Snapshot.ofHandles_eq, List.map_map] at put
  exact put

/-- Marking a name as deprecated does to the entries what it does to the bare table. -/
theorem entries_apply_markDeprecated (r : Registry) (n : String) :
    ((Change.markDeprecated n).apply r).current.entries
      = (Change.markDeprecated n).applyBare r.current.entries := by
  rw [Change.apply, markDeprecated, Change.applyBare]
  cases found : r.current.entries.find? n with
  | none => rfl
  | some e =>
    have name : e.handle.name = n := Snapshot.name_of_find? found
    show (r.current.retire n).entries = _
    rw [Snapshot.retire, found]
    exact congrArg (r.current.entries.insert · e.retired) name

mutual

/-- A change to a registry is the change to the bare table. -/
theorem entries_apply (r : Registry) :
    ∀ c : Change, (c.apply r).current.entries = c.applyBare r.current.entries
  | .put n h => rfl
  | .merge start cs => by
    have incoming := entries_applyAll (ofHandles start) cs
    rw [Change.apply, Change.applyBare, ← entries_ofHandles, ← incoming]
    exact Snapshot.entries_merge ..
  | .markDeprecated n => entries_apply_markDeprecated r n

/-- Changes do to the entries what they do to the bare table. -/
theorem entries_applyAll (r : Registry) :
    ∀ cs : List Change, (applyAll r cs).current.entries = applyAllBare r.current.entries cs
  | [] => rfl
  | c :: cs => by
    rw [applyAll, applyAllBare, entries_applyAll (c.apply r) cs, entries_apply r c]

end

/-- The entries after changes are those of the bare table after them. -/
theorem entries_after (start : List Handle) (cs : List Change) :
    (after start cs).current.entries = afterBare start cs := by
  rw [after, entries_applyAll, entries_ofHandles, afterBare]

/-! ## The law -/

/-- What the registry that starts from resources in use and goes through changes has to do with
its history. -/
structure Recounted (start : List Handle) (cs : List Change) : Prop where
  /-- A name is unknown if nothing was ever put under it. -/
  unknown_iff : ∀ n, (after start cs).current.get n = .error (.unknown n)
    ↔ ∀ e, .brings e ∉ history start cs n
  /-- A name is deprecated if it was taken out of use last, or what was brought last came out of
  use. -/
  deprecated_iff : ∀ n, (after start cs).current.get n = .error (.deprecated n)
    ↔ (history start cs n).getLast? = some .retires
      ∨ ∃ e, (history start cs n).getLast? = some (.brings e) ∧ e.isLive = false
  /-- Any other name has the resource that was brought last. -/
  otherwise : ∀ n, (after start cs).current.get n ≠ .error (.unknown n) →
    (after start cs).current.get n ≠ .error (.deprecated n) →
    ∃ e, (history start cs n).getLast? = some (.brings e)
      ∧ (after start cs).current.get n = .ok (e.handle.renamed n)
  /-- In use or not, the resource of an entry is that of the entry brought last. -/
  kept : ∀ n e, (after start cs).current.entries.find? n = some e →
    ∃ us b vs, history start cs n = us ++ .brings b :: vs ∧ (∀ t ∈ vs, t = .retires)
      ∧ e.handle = b.handle.renamed n
  /-- Changes to a bare table come to the same, and leave every resource under its own name. -/
  bare : (after start cs).current.entries = afterBare start cs
    ∧ ∀ n e, (afterBare start cs).find? n = some e → e.handle.name = n
  /-- A deprecation returns the resource of its name and alters none. -/
  deprecation : ∀ n h r, (after start cs).markDeprecated n = .ok (h, r) →
    (∃ e, (after start cs).current.entries.find? n = some e ∧ e.handle = h)
      ∧ ∀ m, (r.current.entries.find? m).map (·.handle)
        = ((after start cs).current.entries.find? m).map (·.handle)

/-- Marking a name as deprecated hands back its handle, and leaves the handle of every name. -/
theorem handle?_markDeprecated {r r' : Registry} {n : String} {h : Handle}
    (ok : r.markDeprecated n = .ok (h, r')) :
    (∃ e, r.current.entries.find? n = some e ∧ e.handle = h)
      ∧ ∀ m, (r'.current.entries.find? m).map (·.handle)
        = (r.current.entries.find? m).map (·.handle) := by
  unfold markDeprecated at ok
  split at ok
  · next e found =>
    cases ok
    refine ⟨⟨e, found, rfl⟩, fun m => ?_⟩
    rw [Snapshot.find?_retire, Option.map_map]
    congr 1
    funext x
    by_cases hm : m = n
    · simp [hm]
    · simp [hm]
  · cases ok

/-- **The law of a registry's history.** -/
theorem recounted_after (start : List Handle) (cs : List Change) : Recounted start cs where
  unknown_iff n := Snapshot.get_eq_unknown_iff.trans (told_after start cs n).none_iff
  deprecated_iff n := Snapshot.get_eq_deprecated_iff.trans (told_after start cs n).retired_iff
  otherwise n known inUse := by
    have told := told_after start cs n
    rw [ne_eq, Snapshot.get_eq_unknown_iff] at known
    rw [ne_eq, Snapshot.get_eq_deprecated_iff] at inUse
    obtain ⟨e, found⟩ := Option.ne_none_iff_exists'.1 known
    have live : e.isLive = true := by
      cases h : e.isLive with
      | true => rfl
      | false => exact absurd ⟨e, found, h⟩ inUse
    rw [found] at told
    obtain ⟨b, last, same⟩ := told.exists_live live
    refine ⟨b, last, ?_⟩
    rw [Snapshot.get_eq_ok_iff, found, ← same, ← Entry.eq_live_of_isLive live]
  kept n e found := (found ▸ told_after start cs n).exists_brought
  bare := by
    refine ⟨entries_after start cs, fun n e found => ?_⟩
    rw [← entries_after] at found
    exact Snapshot.name_of_find? found
  deprecation n h r ok := handle?_markDeprecated ok

/-- A deprecation hides a name until it is put again. -/
example :
    let h : Handle := { name := "pool", address := .ofNat 7 }
    (after [h] [.markDeprecated "pool"]).current.get "pool" = .error (.deprecated "pool") ∧
      (after [h] [.markDeprecated "pool", .put "pool" h]).current.get "pool" = .ok h := by
  decide

end Registry
end Rollout
