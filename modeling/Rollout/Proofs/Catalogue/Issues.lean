/-
# Whose issues these are

Whether a proposal will find a name is decided by the last proposal before it that touches the
name, that is, writes or retires it, and where there is none by the registry at the start:

| the last one | the name | issue |
| --- | --- | --- |
| retires it, whether it writes it or not | is out of use | deprecated by that one |
| only writes it | is found | |
| there is none | is live at the start | |
| there is none | is not | missing |

The check does not look back but carries along what is available and what was retired by whom.
At every place in a catalogue the two agree with the table (`Tracks`), so the issues are the needed
names that are `Unmet`, by proposal and then by name, and there is one list of these
(`Catalogue.issues_eq_iff`).
-/

import Rollout.Proofs.Catalogue.Availability
import Rollout.Proofs.Registry.Entries

namespace Rollout

variable {σ : Type}

/-- A proposal writes or retires a name. -/
def Proposal.Touches (p : Proposal σ) (n : String) : Prop :=
  n ∈ p.affected.toList ∨ n ∈ p.deprecated.toList

/-- Of several proposals, `q` is the last that touches a name. -/
def LastTouch (ps : List (Proposal σ)) (n : String) (q : Proposal σ) : Prop :=
  ∃ before after, ps = before ++ q :: after ∧ q.Touches n ∧ ∀ x ∈ after, ¬ x.Touches n

/-- Why a name is not available after several proposals that start from a registry. -/
inductive Unmet (initial : Snapshot) (ps : List (Proposal σ)) (n : String) : IssueKind → Prop
  | retired {q : Proposal σ} (last : LastTouch ps n q) (retires : n ∈ q.deprecated.toList) :
      Unmet initial ps n (.deprecated q.id)
  | missing (untouched : ∀ q ∈ ps, ¬ q.Touches n) (dead : initial.isLive n = false) :
      Unmet initial ps n .missing

/-! ## One more proposal -/

/-- The last touch of a list with one proposal more is that proposal's, or that of the list if it
does not touch the name. -/
theorem lastTouch_concat {ps : List (Proposal σ)} {p q : Proposal σ} {n : String} :
    LastTouch (ps ++ [p]) n q ↔ p.Touches n ∧ q = p ∨ ¬ p.Touches n ∧ LastTouch ps n q := by
  constructor
  · rintro ⟨before, after, split, touches, rest⟩
    rcases List.eq_nil_or_concat after with rfl | ⟨after, x, rfl⟩
    · obtain ⟨-, e⟩ := List.append_inj' split rfl
      cases e
      exact .inl ⟨touches, rfl⟩
    · rw [List.concat_eq_append] at split rest
      rw [← List.cons_append, ← List.append_assoc] at split
      obtain ⟨own, e⟩ := List.append_inj' split rfl
      cases e
      refine .inr ⟨rest p (by simp), before, after, own, touches, fun x hx => ?_⟩
      exact rest x (List.mem_append_left _ hx)
  · rintro (⟨touches, rfl⟩ | ⟨leaves, before, after, rfl, touches, rest⟩)
    · exact ⟨ps, [], rfl, touches, by simp⟩
    · refine ⟨before, after ++ [p], by simp, touches, fun x hx => ?_⟩
      rcases List.mem_append.1 hx with hx | hx
      · exact rest x hx
      · rwa [List.mem_singleton.1 hx]

/-- The last proposal decides on what it touches, and leaves the rest to those before it. -/
theorem unmet_concat {initial : Snapshot} {ps : List (Proposal σ)} {p : Proposal σ} {n : String}
    {kind : IssueKind} :
    Unmet initial (ps ++ [p]) n kind ↔
      n ∈ p.deprecated.toList ∧ kind = .deprecated p.id ∨
        ¬ p.Touches n ∧ Unmet initial ps n kind := by
  constructor
  · rintro (⟨last, retires⟩ | ⟨untouched, dead⟩)
    · rcases lastTouch_concat.1 last with ⟨-, rfl⟩ | ⟨leaves, last⟩
      · exact .inl ⟨retires, rfl⟩
      · exact .inr ⟨leaves, .retired last retires⟩
    · refine .inr ⟨untouched p (by simp), .missing (fun q hq => ?_) dead⟩
      exact untouched q (List.mem_append_left _ hq)
  · rintro (⟨retires, rfl⟩ | ⟨leaves, ⟨last, retires⟩ | ⟨untouched, dead⟩⟩)
    · exact .retired (lastTouch_concat.2 (.inl ⟨.inr retires, rfl⟩)) retires
    · exact .retired (lastTouch_concat.2 (.inr ⟨leaves, last⟩)) retires
    · refine .missing (fun q hq => ?_) dead
      rcases List.mem_append.1 hq with hq | hq
      · exact untouched q hq
      · rwa [List.mem_singleton.1 hq]

/-! ## What is carried along -/

namespace Availability

/-- What keeps a name from being available. -/
def lack? (a : Availability) (n : String) : Option IssueKind :=
  if a.available.contains n then none
  else
    match a.retiredBy.find? n with
    | some id => some (.deprecated id)
    | none => some .missing

/-- The issue of a name is what keeps it from being available, told of the proposal. -/
theorem issue?_eq (a : Availability) (p : Proposal σ) (n : String) :
    a.issue? p n = (a.lack? n).map fun kind => { proposal := p.id, name := n, kind } := by
  rw [issue?, lack?]
  cases a.available.contains n with
  | true => rfl
  | false => cases a.retiredBy.find? n <;> rfl

/-- An issue of a name is told of the proposal and the name, with what keeps the name from being
available. -/
theorem issue?_eq_some_iff {a : Availability} {p : Proposal σ} {n : String} {x : Issue} :
    a.issue? p n = some x ↔ x.proposal = p.id ∧ x.name = n ∧ a.lack? n = some x.kind := by
  rw [issue?_eq, Option.map_eq_some_iff]
  constructor
  · rintro ⟨kind, lack, rfl⟩
    exact ⟨rfl, rfl, lack⟩
  · rintro ⟨proposal, rfl, lack⟩
    exact ⟨x.kind, lack, by rw [← proposal]⟩

/-- A name that is provided is retired by nobody. -/
theorem find?_retiredBy_foldl_provide (a : Availability) (ns : List String) (n : String) :
    (ns.foldl provide a).retiredBy.find? n = if n ∈ ns then none else a.retiredBy.find? n := by
  induction ns generalizing a with
  | nil => simp
  | cons m ns ih =>
    rw [List.foldl_cons, ih, provide, Table.find?_erase]
    by_cases hm : n = m <;> by_cases hn : n ∈ ns <;> simp [hm, hn]

/-- A name that is retired is retired by the proposal that does it. -/
theorem find?_retiredBy_foldl_retire (a : Availability) (id : String) (ns : List String)
    (n : String) :
    (ns.foldl (retire id) a).retiredBy.find? n
      = if n ∈ ns then some id else a.retiredBy.find? n := by
  induction ns generalizing a with
  | nil => simp
  | cons m ns ih =>
    rw [List.foldl_cons, ih, retire, Table.find?_insert]
    by_cases hm : n = m <;> by_cases hn : n ∈ ns <;> simp [hm, hn]

/-- After a proposal what it retires is lacking because of it, and what it only writes is not
lacking. -/
theorem lack?_after (a : Availability) (p : Proposal σ) (n : String) :
    (a.after p).lack? n =
      if n ∈ p.deprecated.toList then some (.deprecated p.id)
      else if n ∈ p.affected.toList then none
      else a.lack? n := by
  have available_iff : (a.after p).available.contains n = true ↔ n ∉ p.deprecated.toList ∧
      (n ∈ p.affected.toList ∨ a.available.contains n = true) := by
    rw [KeySet.contains_iff_mem, KeySet.contains_iff_mem, mem_available_after_iff]
  have retired : (a.after p).retiredBy.find? n = if n ∈ p.deprecated.toList then some p.id
      else if n ∈ p.affected.toList then none else a.retiredBy.find? n := by
    rw [after, find?_retiredBy_foldl_retire, find?_retiredBy_foldl_provide]
  rw [lack?, retired]
  by_cases hd : n ∈ p.deprecated.toList
  · rw [if_neg fun h => (available_iff.1 h).1 hd]
    simp only [if_pos hd]
  · by_cases ha : n ∈ p.affected.toList
    · rw [if_pos (available_iff.2 ⟨hd, .inl ha⟩), if_neg hd, if_pos ha]
    · have kept : (a.after p).available.contains n = a.available.contains n := by
        rw [Bool.eq_iff_iff, available_iff]
        simp [hd, ha]
      rw [kept, lack?]
      simp only [if_neg hd, if_neg ha]

end Availability

/-- After several proposals that start from a registry it is known which names are unmet, and
why. -/
def Tracks (initial : Snapshot) (ps : List (Proposal σ)) (a : Availability) : Prop :=
  ∀ n kind, a.lack? n = some kind ↔ Unmet initial ps n kind

/-- At first the names are unmet that are not live in the registry. -/
theorem tracks_ofSnapshot (initial : Snapshot) :
    Tracks initial ([] : List (Proposal σ)) (.ofSnapshot initial) := by
  intro n kind
  have available_iff : (Availability.ofSnapshot initial).available.contains n = true ↔
      initial.isLive n = true := by
    rw [KeySet.contains_iff_mem, Availability.ofSnapshot, KeySet.mem_ofList,
      Snapshot.mem_liveNames_iff]
  have unretired : (Availability.ofSnapshot initial).retiredBy.find? n = none := rfl
  rw [Availability.lack?, unretired]
  constructor
  · intro h
    split at h
    · cases h
    · next dead =>
      cases h
      exact .missing (by simp) (Bool.eq_false_iff.2 fun live => dead (available_iff.2 live))
  · rintro (⟨⟨before, after, split, -⟩, -⟩ | ⟨-, dead⟩)
    · simp at split
    · rw [if_neg fun h => by rw [available_iff, dead] at h; cases h]

/-- **A proposal keeps what is known right.** -/
theorem Tracks.after {initial : Snapshot} {ps : List (Proposal σ)} {a : Availability}
    (tracks : Tracks initial ps a) (p : Proposal σ) : Tracks initial (ps ++ [p]) (a.after p) := by
  intro n kind
  rw [Availability.lack?_after, unmet_concat]
  by_cases hd : n ∈ p.deprecated.toList
  · have touched : p.Touches n := .inr hd
    simp [hd, touched, eq_comm]
  · by_cases ha : n ∈ p.affected.toList
    · have touched : p.Touches n := .inl ha
      simp [hd, ha, touched]
    · have untouched : ¬ p.Touches n := fun h => h.elim ha hd
      simp [hd, ha, untouched, tracks n kind]

/-! ## Issues -/

namespace Issue

/-- One issue comes before another: that of an earlier proposal first, and of one proposal that
of the lesser name. The ids are those of the proposals in order. -/
def Precedes (ids : List String) (x y : Issue) : Prop :=
  ids.idxOf x.proposal < ids.idxOf y.proposal ∨ x.proposal = y.proposal ∧ x.name < y.name

/-- Of two issues only one comes before the other. -/
theorem Precedes.asymm {ids : List String} {x y : Issue} (h : Precedes ids x y) :
    ¬ Precedes ids y x := by
  rintro (h' | ⟨e', h'⟩)
  · rcases h with h | ⟨e, -⟩
    · exact Nat.lt_asymm h h'
    · rw [e] at h'
      exact Nat.lt_irrefl _ h'
  · rcases h with h | ⟨-, h⟩
    · rw [e'] at h
      exact Nat.lt_irrefl _ h
    · exact String.lt_asymm h h'

end Issue

namespace Catalogue

variable {c : Catalogue σ}

/-- The issues that a catalogue has when it starts from a registry, said without the check. A
proposal needs what it retires and, where it does not deploy, what it expects or writes. -/
structure Diagnosed (c : Catalogue σ) (initial : Snapshot) (issues : List Issue) : Prop where
  /-- There is an issue for each name that a proposal needs and that is unmet before it. -/
  mem_iff : ∀ x, x ∈ issues ↔ ∃ before p after, c.active = before ++ p :: after ∧
    x.proposal = p.id ∧
    (x.name ∈ p.deprecated.toList ∨
      c.deploys p = false ∧ (x.name ∈ p.expected.toList ∨ x.name ∈ p.affected.toList)) ∧
    Unmet initial before x.name x.kind
  /-- They come by proposal and then by name, none twice. -/
  ordered : issues.Pairwise (Issue.Precedes (c.active.map (·.id)))

/-- **The issues of proposals** are told of the names that each needs and that are unmet when its
turn comes. -/
theorem mem_issuesOf {initial : Snapshot} {before : List (Proposal σ)} {a : Availability}
    (tracks : Tracks initial before a) (ps : List (Proposal σ)) (x : Issue) :
    x ∈ c.issuesOf a ps ↔ ∃ mid p after, ps = mid ++ p :: after ∧ x.proposal = p.id ∧
      x.name ∈ (c.needs p).toList ∧ Unmet initial (before ++ mid) x.name x.kind := by
  induction ps generalizing before a with
  | nil => simp [issuesOf]
  | cons q ps ih =>
    have own_iff : x ∈ (c.needs q).toList.filterMap (a.issue? q) ↔ x.proposal = q.id ∧
        x.name ∈ (c.needs q).toList ∧ Unmet initial before x.name x.kind := by
      rw [List.mem_filterMap]
      constructor
      · rintro ⟨n, hn, h⟩
        obtain ⟨proposal, rfl, lack⟩ := Availability.issue?_eq_some_iff.1 h
        exact ⟨proposal, hn, (tracks _ _).1 lack⟩
      · rintro ⟨proposal, hn, unmet⟩
        have lack := (tracks _ _).2 unmet
        exact ⟨x.name, hn, Availability.issue?_eq_some_iff.2 ⟨proposal, rfl, lack⟩⟩
    rw [issuesOf, List.mem_append, own_iff, ih (tracks.after q)]
    constructor
    · rintro (own | ⟨mid, p, after, rfl, proposal, hn, unmet⟩)
      · exact ⟨[], q, ps, rfl, own.1, own.2.1, by rw [List.append_nil]; exact own.2.2⟩
      · refine ⟨q :: mid, p, after, rfl, proposal, hn, ?_⟩
        rwa [List.append_cons]
    · rintro ⟨mid, p, after, split, proposal, hn, unmet⟩
      cases mid with
      | nil =>
        cases split
        rw [List.append_nil] at unmet
        exact .inl ⟨proposal, hn, unmet⟩
      | cons q' mid =>
        cases split
        rw [List.append_cons] at unmet
        exact .inr ⟨mid, p, after, rfl, proposal, hn, unmet⟩

/-- Issues are told of the proposals that are checked. -/
theorem proposal_of_mem_issuesOf {a : Availability} {ps : List (Proposal σ)} {x : Issue}
    (h : x ∈ c.issuesOf a ps) : x.proposal ∈ ps.map (·.id) := by
  induction ps generalizing a with
  | nil => cases h
  | cons p ps ih =>
    rw [issuesOf, List.mem_append, List.mem_filterMap] at h
    rcases h with ⟨n, -, h⟩ | h
    · rw [(Availability.issue?_eq_some_iff.1 h).1]
      exact List.mem_cons_self
    · exact List.mem_cons_of_mem _ (ih h)

/-- Issues come in the order of proposals, and of one proposal in the order of names. -/
theorem ordered_issuesOf (a : Availability) (before : List String) {ps : List (Proposal σ)}
    (distinct : (before ++ ps.map (·.id)).Nodup) :
    (c.issuesOf a ps).Pairwise (Issue.Precedes (before ++ ps.map (·.id))) := by
  induction ps generalizing a before with
  | nil => exact .nil
  | cons p ps ih =>
    rw [List.map_cons, List.append_cons] at distinct ⊢
    have place : (before ++ [p.id] ++ ps.map (·.id)).idxOf p.id = before.length := by
      have fresh : p.id ∉ before := fun h =>
        (List.nodup_append.1 (List.nodup_append.1 distinct).1).2.2 _ h _ (by simp) rfl
      simp [List.idxOf_append_of_notMem fresh]
    have later : ∀ id ∈ ps.map (·.id),
        before.length < (before ++ [p.id] ++ ps.map (·.id)).idxOf id := by
      intro id hid
      have fresh : id ∉ before ++ [p.id] := fun h =>
        (List.nodup_append.1 distinct).2.2 id h id hid rfl
      rw [List.idxOf_append_of_notMem fresh, List.length_append, List.length_singleton]
      omega
    have own : ∀ x ∈ (c.needs p).toList.filterMap (a.issue? p), x.proposal = p.id := by
      intro x hx
      obtain ⟨n, -, h⟩ := List.mem_filterMap.1 hx
      exact (Availability.issue?_eq_some_iff.1 h).1
    rw [issuesOf, List.pairwise_append]
    refine ⟨?_, ih _ _ distinct, fun x hx y hy => .inl ?_⟩
    · rw [List.pairwise_filterMap]
      refine (c.needs p).pairwise_lt_toList.imp fun {m n} lt x hx y hy => .inr ?_
      obtain ⟨px, rfl, -⟩ := Availability.issue?_eq_some_iff.1 hx
      obtain ⟨py, rfl, -⟩ := Availability.issue?_eq_some_iff.1 hy
      exact ⟨px.trans py.symm, lt⟩
    · rw [own x hx, place]
      exact later _ (proposal_of_mem_issuesOf hy)

/-- **The check finds the issues that there are.** -/
theorem diagnosed_issues (c : Catalogue σ) (initial : Snapshot) :
    Diagnosed c initial (c.issues initial) where
  mem_iff x := by
    simp only [issues, mem_issuesOf (tracks_ofSnapshot initial), mem_needs_iff, List.nil_append]
  ordered := ordered_issuesOf (.ofSnapshot initial) [] c.nodup_ids_active

/-- There is one list of issues in order. -/
theorem Diagnosed.unique {initial : Snapshot} {xs ys : List Issue}
    (hx : Diagnosed c initial xs) (hy : Diagnosed c initial ys) : xs = ys := by
  have nodup : ∀ {zs}, Diagnosed c initial zs → zs.Nodup := fun hz =>
    hz.ordered.imp fun precedes e => (e ▸ precedes).asymm (e ▸ precedes)
  have perm : xs.Perm ys := (List.perm_ext_iff_of_nodup (nodup hx) (nodup hy)).2 fun x => by
    rw [hx.mem_iff, hy.mem_iff]
  exact perm.eq_of_pairwise (fun x y _ _ h h' => absurd h' h.asymm) hx.ordered hy.ordered

/-- The catalogue without its placeholders. -/
def withoutPlaceholders (c : Catalogue σ) : Catalogue σ where
  mode := c.mode
  slots := c.slots.filter (·.proposal?.isSome)
  distinct := (List.filter_sublist.map _).nodup c.distinct

/-- Leaving placeholders out leaves the active proposals. -/
theorem active_withoutPlaceholders (c : Catalogue σ) :
    c.withoutPlaceholders.active = c.active := by
  rw [active, active, withoutPlaceholders, List.filterMap_filter]
  refine List.filterMap_congr fun s _ => ?_
  cases s <;> rfl

/-- **The check lists what is unmet and nothing else.** Its issues are the one list, by proposal
and then by name, of the needed names that the last proposal to touch them retired, or that none
touched and that are not live at the start. Placeholders make no difference. -/
theorem issues_eq_iff (c : Catalogue σ) (initial : Snapshot) :
    (∀ issues, c.issues initial = issues ↔ Diagnosed c initial issues) ∧
      c.withoutPlaceholders.issues initial = c.issues initial := by
  refine ⟨fun issues => ⟨fun h => h ▸ diagnosed_issues c initial, fun h => ?_⟩, ?_⟩
  · exact (diagnosed_issues c initial).unique h
  · have alike : ∀ (ps : List (Proposal σ)) (a : Availability),
        c.withoutPlaceholders.issuesOf a ps = c.issuesOf a ps := by
      intro ps
      induction ps with
      | nil => exact fun a => rfl
      | cons p ps ih => exact fun a => congrArg _ (ih _)
    rw [issues, active_withoutPlaceholders, alike, issues]

/-- A proposal cannot retire what it is itself the first to write, and whoever needs the name
after it finds it retired. -/
example :
    ({ slots := [
        .active { id := "one", affected := .ofList ["pool"], deprecated := .ofList ["pool"] },
        .placeholder "later" .dao,
        .active { id := "two", deploys := false, expected := .ofList ["core", "pool"] }]
       distinct := by decide } : Catalogue Unit).issues .empty =
      [{ proposal := "one", name := "pool", kind := .missing },
        { proposal := "two", name := "core", kind := .missing },
        { proposal := "two", name := "pool", kind := .deprecated "one" }] := by
  decide

end Catalogue
end Rollout
