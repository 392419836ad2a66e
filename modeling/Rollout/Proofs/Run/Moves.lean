/-
# No address changes in silence

A name that is in use at the start and that no proposal retires stays in use, and whenever it is
moved to another address, the result of the proposal that moves it says so:

| staging | the name | told of it |
| --- | --- | --- |
| fails | stays | nothing |
| brings no resource of the name | stays | nothing |
| brings one with the same address | stays | nothing |
| brings one with another address | moves, if it is an affected one | from where to where |

It makes no difference what comes after staging. Taken together, the overwrites of the name lead
from its first address to its last (`Overwrite.Leads`, `Runner.followed_of_run`).
-/

import Rollout.Proofs.Run.FinalRegistry
import Rollout.Proofs.Table.Members

namespace Rollout

variable {σ : Type}

/-- Overwrites lead from one address to another, each from where the one before it led, and
elsewhere. -/
def Overwrite.Leads : Address → List Overwrite → Address → Prop
  | a, [], b => a = b
  | a, o :: os, b => o.previous = a ∧ o.replacement ≠ a ∧ Leads o.replacement os b

/-- Paths of overwrites are put one behind the other. -/
theorem Overwrite.Leads.append {a b d : Address} {os os' : List Overwrite} (h : Leads a os b)
    (h' : Leads b os' d) : Leads a (os ++ os') d := by
  induction os generalizing a with
  | nil =>
    cases h
    exact h'
  | cons o os ih =>
    obtain ⟨previous, elsewhere, rest⟩ := h
    exact ⟨previous, elsewhere, ih rest⟩

/-- The overwrites of a name. -/
def ProposalResult.moves (x : ProposalResult) (n : String) : List Overwrite :=
  x.superseded.filter (·.name = n)

/-- What is told of a name that is in use before and after: nothing if it stays where it is, else
from where to where it is moved. -/
def Moves (s s' : Snapshot) (n : String) (os : List Overwrite) : Prop :=
  ∃ a b, s.address n = .ok a ∧ s'.address n = .ok b ∧
    os = if a = b then [] else [{ name := n, previous := a, replacement := b }]

/-- What is told of a name that is in use before and after leads from its one address to the
other. -/
theorem Moves.leads {s s' : Snapshot} {n : String} {os : List Overwrite} (h : Moves s s' n os) :
    ∃ a b, s.address n = .ok a ∧ s'.address n = .ok b ∧ Overwrite.Leads a os b := by
  obtain ⟨a, b, ha, hb, rfl⟩ := h
  refine ⟨a, b, ha, hb, ?_⟩
  by_cases e : a = b
  · rw [if_pos e]
    exact e
  · rw [if_neg e]
    exact ⟨rfl, Ne.symm e, rfl⟩

/-! ## One proposal -/

namespace Snapshot

/-- A live name has the address of its resource. -/
theorem address_of_get {s : Snapshot} {n : String} {h : Handle} (hg : s.get n = .ok h) :
    s.address n = .ok h.address := by
  rw [address, hg]
  rfl

/-- A live name has an address. -/
theorem exists_address_eq_ok {s : Snapshot} {n : String} (h : s.isLive n = true) :
    ∃ a, s.address n = .ok a := by
  obtain ⟨k, hk⟩ := isLive_iff.1 h
  exact ⟨_, address_of_get hk⟩

/-- A name with an address is live. -/
theorem exists_get_of_address {s : Snapshot} {n : String} {a : Address}
    (h : s.address n = .ok a) : ∃ k, s.get n = .ok k := by
  cases hg : s.get n with
  | ok k => exact ⟨k, rfl⟩
  | error e => rw [address, hg] at h; cases h

/-- A live name that resources are merged into has the last resource of that name, or what it
had. -/
theorem get_merge_ofHandles {s : Snapshot} {n : String} {h : Handle} (hg : s.get n = .ok h)
    (hs : List Handle) :
    (s.merge (ofHandles hs)).get n = .ok ((hs.reverse.find? (·.name = n)).getD h) := by
  rw [get_eq_ok_iff] at hg ⊢
  rw [find?_merge, find?_ofHandles, hg]
  cases hs.reverse.find? (·.name = n) with
  | some k => rfl
  | none => rfl

/-- Retiring other names leaves the resource of a name. -/
theorem get_foldl_retire {s : Snapshot} {ns : List String} {n : String} (hn : n ∉ ns) :
    (ns.foldl retire s).get n = s.get n := by
  rw [get, get, find?_foldl_retire]
  simp [hn]

/-- A name in use that is not retired has the last resource of that name. -/
theorem get_settle {s : Snapshot} {p : Proposal σ} {x : ProposalResult} {n : String} {h : Handle}
    (tidy : x.Tidy) (kept : n ∉ p.deprecated.toList) (hg : s.get n = .ok h) :
    (s.settle p x).get n = .ok ((x.resources.reverse.find? (·.name = n)).getD h) := by
  rw [settle]
  split
  · next failed =>
    rw [tidy.resources_eq_nil failed]
    exact hg
  · split
    · exact get_merge_ofHandles hg _
    · rw [get_foldl_retire kept]
      exact get_merge_ofHandles hg _

end Snapshot

namespace Staged

/-- What putting a resource does to a name in use. -/
theorem overwrite?_of_get {s : Snapshot} {n : String} {h k : Handle} (hg : s.get n = .ok h)
    (hk : k.name = n) : overwrite? s k = if h.address = k.address then none else
      some { name := n, previous := h.address, replacement := k.address } := by
  subst hk
  rw [overwrite?, hg]

/-- An overwrite is of the name of the resource that makes it. -/
theorem name_of_overwrite? {s : Snapshot} {k : Handle} {o : Overwrite}
    (h : overwrite? s k = some o) : o.name = k.name := by
  rw [overwrite?] at h
  split at h
  · split at h
    · cases h
    · cases h
      rfl
  · cases h

/-- Of the resources of some names, the overwrites are those of these names. -/
theorem filter_filterMap_overwrite? (s : Snapshot) (hs : List Handle) (q : String → Bool) :
    (hs.filterMap (overwrite? s)).filter (fun o => q o.name)
      = (hs.filter fun h => q h.name).filterMap (overwrite? s) := by
  rw [List.filter_filterMap, List.filterMap_filter]
  refine List.filterMap_congr fun k _ => ?_
  cases ho : overwrite? s k with
  | none => simp
  | some o => simp [Option.filter, name_of_overwrite? ho]

end Staged

/-- Of resources with different names, those of one name are the last of that name. -/
theorem filter_name_eq {hs : List Handle} (distinct : (hs.map (·.name)).Nodup) (n : String) :
    hs.filter (·.name = n) = (hs.reverse.find? (·.name = n)).toList := by
  cases hf : hs.reverse.find? (·.name = n) with
  | none =>
    rw [Option.toList_none, List.filter_eq_nil_iff]
    exact fun k hk => List.find?_eq_none.1 hf k (List.mem_reverse.2 hk)
  | some k =>
    have hk : k ∈ hs := List.mem_reverse.1 (List.mem_of_find?_eq_some hf)
    have name : k.name = n := by simpa using List.find?_some hf
    obtain ⟨before, after, rfl⟩ := List.append_of_mem hk
    rw [List.map_append, List.map_cons, List.nodup_append, List.nodup_cons] at distinct
    obtain ⟨-, ⟨fresh, -⟩, apart⟩ := distinct
    have before_nil : before.filter (·.name = n) = [] := by
      rw [List.filter_eq_nil_iff]
      intro y hy
      have := apart _ (List.mem_map_of_mem hy) _ List.mem_cons_self
      simpa [← name] using this
    have after_nil : after.filter (·.name = n) = [] := by
      rw [List.filter_eq_nil_iff]
      intro y hy e
      rw [decide_eq_true_iff, ← name] at e
      exact fresh (e ▸ List.mem_map_of_mem hy)
    rw [List.filter_append, List.filter_cons, before_nil, after_nil]
    simp [name]

/-- **A result tells of the move it makes,** if its overwrites are those of its resources. -/
theorem moves_settle {s : Snapshot} {p : Proposal σ} {x : ProposalResult} {n : String}
    (tidy : x.Tidy) (superseded : x.superseded = x.resources.filterMap (Staged.overwrite? s))
    (kept : n ∉ p.deprecated.toList) (live : s.isLive n = true) :
    Moves s (s.settle p x) n (x.moves n) := by
  obtain ⟨h, hg⟩ := Snapshot.isLive_iff.1 live
  refine ⟨_, _, Snapshot.address_of_get hg,
    Snapshot.address_of_get (Snapshot.get_settle tidy kept hg), ?_⟩
  rw [ProposalResult.moves, superseded, Staged.filter_filterMap_overwrite? _ _ (· = n),
    filter_name_eq tidy.distinct]
  cases hf : x.resources.reverse.find? (·.name = n) with
  | none => simp
  | some k =>
    have name : k.name = n := by simpa using List.find?_some hf
    rw [Option.toList_some, List.filterMap_cons, Staged.overwrite?_of_get hg name,
      Option.getD_some]
    by_cases e : h.address = k.address
    · simp [e]
    · simp [e]

namespace Runner

variable {r : Runner σ} {p : Proposal σ} {deploys : Bool} {registry : Registry} {w : World σ}

/-- The overwrites of a course are those of its resources, and all are declared. -/
theorem Course.superseded {calls : List Invocation} {g : Progress σ}
    (h : Course r p deploys registry w calls g) :
    g.result.superseded = g.result.resources.filterMap (Staged.overwrite? registry.current) ∧
      ∀ o ∈ g.result.superseded, o.name ∈ p.affected.toList := by
  rcases staging : r.staged p deploys registry.current w with ⟨e | s, w₁⟩
  · rw [(h.of_unstaged staging).2]
    exact ⟨rfl, nofun⟩
  · obtain ⟨-, resources, superseded⟩ := h.of_staged staging
    obtain ⟨-, declared, records⟩ := Staged.supersede_eq_ok_iff.1 (staged_eq_ok_iff.1 staging).2
    rw [resources, superseded]
    exact ⟨records, fun o ho => KeySet.contains_iff_mem.1 (declared o (records ▸ ho))⟩

/-- The overwrites of a proposal are those of its resources against the registry that it is applied
to. -/
theorem superseded_applyProposal (r : Runner σ) (p : Proposal σ) (deploys : Bool)
    (registry : Registry) (w : World σ) :
    let x := (r.applyProposal p deploys registry w).result
    x.superseded = x.resources.filterMap (Staged.overwrite? registry.current) ∧
      ∀ o ∈ x.superseded, o.name ∈ p.affected.toList := by
  obtain ⟨calls, g, o, w', course, applied, -⟩ := applyProposal_cases r p deploys registry w
  rw [applied]
  simp only [ProposalResult.superseded_concluded, ProposalResult.resources_concluded]
  exact course.superseded

/-- Whatever becomes of a proposal that does not retire a name, its result tells of the name. -/
theorem moves_applyProposal {n : String} (kept : n ∉ p.deprecated.toList)
    (live : registry.current.isLive n = true) :
    Moves registry.current (r.applyProposal p deploys registry w).registry.current n
      ((r.applyProposal p deploys registry w).result.moves n) := by
  rw [current_applyProposal]
  exact moves_settle (tidy_applyProposal ..) (superseded_applyProposal ..).1 kept live

/-! ## All proposals -/

/-- A name that is in use and that several proposals do not retire stays in use, and their results
tell all its moves. -/
theorem leads_applyAll {c : Catalogue σ} {n : String} {a : Address} (ps : List (Proposal σ))
    (registry : Registry) (w : World σ) (kept : ∀ p ∈ ps, n ∉ p.deprecated.toList)
    (ha : registry.current.address n = .ok a) :
    ∃ b, (r.applyAll c ps registry w).2.1.current.address n = .ok b ∧
      Overwrite.Leads a ((r.applyAll c ps registry w).1.flatMap (·.moves n)) b := by
  induction ps generalizing a registry w with
  | nil => exact ⟨a, ha, rfl⟩
  | cons p ps ih =>
    have live : registry.current.isLive n = true :=
      Snapshot.isLive_iff.2 (Snapshot.exists_get_of_address ha)
    have moved : Moves registry.current (r.applyProposal p (c.deploys p) registry w).registry.current
        n ((r.applyProposal p (c.deploys p) registry w).result.moves n) :=
      moves_applyProposal (kept p List.mem_cons_self) live
    obtain ⟨a', b, ha', hb, head⟩ := moved.leads
    rw [ha] at ha'
    cases ha'
    obtain ⟨d, hd, tail⟩ := ih _ _ (fun q hq => kept q (List.mem_cons_of_mem _ hq)) hb
    exact ⟨d, hd, head.append tail⟩

variable {c : Catalogue σ} {initial : Registry} {w' : World σ} {report : Report} {n : String}

/-- What the results of a run tell of a name. -/
structure Followed (r : Runner σ) (c : Catalogue σ) (initial : Registry) (w : World σ)
    (report : Report) (n : String) : Prop where
  /-- The name stays in use. -/
  live : report.registry.current.isLive n = true
  /-- All overwrites of the name together lead from its first address to its last. -/
  path : ∃ a b, initial.current.address n = .ok a ∧ report.registry.current.address n = .ok b ∧
    Overwrite.Leads a (report.results.flatMap (·.moves n)) b
  /-- A result tells what its proposal does to the name. -/
  step : ∀ i x, report.results[i]? = some x →
    Moves (r.left c initial w i).1.current (r.left c initial w (i + 1)).1.current n (x.moves n)
  /-- If the address never changes, nothing is told. -/
  still : (∀ i, (r.left c initial w i).1.current.address n = initial.current.address n) →
    report.results.flatMap (·.moves n) = []
  /-- Only a proposal that is to write the name moves it. -/
  declared : ∀ (i : Nat) (p : Proposal σ) (x : ProposalResult), c.active[i]? = some p →
    report.results[i]? = some x → ∀ o ∈ x.moves n, o.name = n ∧ n ∈ p.affected.toList

/-- **No address changes in silence.** A name that is in use at the start and that no active
proposal retires stays in use, and its overwrites in the results of a run lead from its first
address to its last, each made by a proposal that is to write the name. -/
theorem followed_of_run (h : r.run c initial w = (.ok report, w'))
    (live : initial.current.isLive n = true) (kept : ∀ p ∈ c.active, n ∉ p.deprecated.toList) :
    Followed r c initial w report n := by
  obtain ⟨a, ha⟩ := Snapshot.exists_address_eq_ok live
  obtain ⟨b, hb, leads⟩ := leads_applyAll (r := r) (c := c) c.active initial w kept ha
  rw [(run_eq_ok h).2.1] at hb leads
  have step : ∀ i x, report.results[i]? = some x → Moves (r.left c initial w i).1.current
      (r.left c initial w (i + 1)).1.current n (x.moves n) := by
    intro i x hx
    obtain ⟨p, hp, rfl⟩ := Option.map_eq_some_iff.1 ((result_of_run h i).symm.trans hx)
    obtain ⟨a', ha', -⟩ := leads_applyAll (r := r) (c := c) (c.active.take i) initial w
      (fun q hq => kept q (List.mem_of_mem_take hq)) ha
    have live' : (r.left c initial w i).1.current.isLive n = true :=
      Snapshot.isLive_iff.2 (Snapshot.exists_get_of_address ha')
    rw [current_left_succ h hp hx, ← current_applyProposal]
    exact moves_applyProposal (kept p (List.mem_of_getElem? hp)) live'
  constructor
  case live => exact Snapshot.isLive_iff.2 (Snapshot.exists_get_of_address hb)
  case path => exact ⟨a, b, ha, hb, leads⟩
  case step => exact step
  case still =>
    intro same
    rw [List.flatMap_eq_nil_iff]
    intro x hx
    obtain ⟨i, hi⟩ := List.mem_iff_getElem?.1 hx
    obtain ⟨a₁, a₂, h₁, h₂, told⟩ := step i x hi
    rw [same] at h₁ h₂
    rw [h₁] at h₂
    cases h₂
    rw [told, if_pos rfl]
  case declared =>
    intro i p x hp hx o ho
    obtain ⟨ho, name⟩ := List.mem_filter.1 ho
    rw [decide_eq_true_iff] at name
    have result := result_of_run h i
    rw [hx, hp, Option.map_some, Option.some.injEq] at result
    rw [result] at ho
    exact ⟨name, name ▸ (superseded_applyProposal ..).2 o ho⟩

end Runner

/-- A catalogue that moves the pool away and back: between these two a proposal fails that would
move it without saying so, and the last one panics after the move. -/
def Drill.relocation : Catalogue Unit where
  slots := [
    .active {
      id := "away"
      affected := .ofList ["pool"]
      lifecycle := deploying [{ pool with address := .ofNat 3 }] },
    .active { id := "astray", lifecycle := deploying [{ pool with address := .ofNat 5 }] },
    .active {
      id := "back"
      affected := .ofList ["pool"]
      lifecycle := { deploying [pool] with setup := fun _ w => (.panic none, w) } }]
  distinct := by decide

/-- The pool is followed away and back. -/
theorem Runner.followed_of_run_relocation : ∃ report w',
    Drill.runner.run Drill.relocation (.ofHandles [Drill.pool]) Drill.world = (.ok report, w') ∧
      report.results.flatMap (·.moves "pool") =
        [{ name := "pool", previous := .ofNat 2, replacement := .ofNat 3 },
          { name := "pool", previous := .ofNat 3, replacement := .ofNat 2 }] ∧
      Followed Drill.runner Drill.relocation (.ofHandles [Drill.pool]) Drill.world report "pool" :=
  ⟨_, _, rfl, rfl, followed_of_run (w := Drill.world) rfl rfl (by decide)⟩

end Rollout
