/-
# The final registry told by the results

What a proposal does to the entries of the registry can be read off its result
(`Snapshot.settle`):

| failure of | resources | names to be retired |
| --- | --- | --- |
| resolve, deploy | none | stay |
| setup, governance | merged | stay |
| none of these | merged | retired |

Whether it is validated and torn down makes no difference. The registry after a run is then the
initial one with the results settled in order, and a name has the handle of the last result that
lists it (`Runner.reconciled_of_run`).
-/

import Rollout.Proofs.Run.Sequence
import Rollout.Proofs.Run.Steps

namespace Rollout

variable {σ : Type}

namespace ProposalResult

/-- Whether there is a failure of a phase. -/
def failedIn (x : ProposalResult) (phase : Phase) : Bool := (x.failureIn? phase).isSome

/-- To have failed in a phase is to have a failure of it. -/
theorem failedIn_eq (x : ProposalResult) (phase : Phase) :
    x.failedIn phase = x.failures.any fun f => f.phase = phase := by
  rw [failedIn, failureIn?, List.isSome_find?]

/-- The end of a proposal adds failures of the teardown alone. -/
theorem failedIn_concluded (x : ProposalResult) (o : Outcome HookError Unit) {phase : Phase}
    (h : phase ≠ .teardown) : (x.concluded o).failedIn phase = x.failedIn phase := by
  rw [failedIn_eq, failedIn_eq, concluded]
  cases o.inPhase .teardown with
  | ok u => rfl
  | error e => simp [record, Ne.symm h]

/-- The resources of a result have different names, and there are none if they could not be had. -/
structure Tidy (x : ProposalResult) : Prop where
  distinct : (x.resources.map (·.name)).Nodup
  resources_eq_nil : (x.failedIn .resolve || x.failedIn .deploy) = true → x.resources = []

end ProposalResult

namespace Snapshot

/-- The entries after a proposal, told by its result. -/
def settle (s : Snapshot) (p : Proposal σ) (x : ProposalResult) : Snapshot :=
  if x.failedIn .resolve || x.failedIn .deploy then s
  else
    let s := s.merge (.ofHandles x.resources)
    if x.failedIn .setup || x.failedIn .governance then s
    else p.deprecated.toList.foldl retire s

/-- The entries after several proposals. -/
def settleAll (s : Snapshot) (xs : List (Proposal σ × ProposalResult)) : Snapshot :=
  xs.foldl (fun s e => s.settle e.1 e.2) s

/-- Results are settled one after another. -/
theorem settleAll_append (s : Snapshot) (xs ys : List (Proposal σ × ProposalResult)) :
    s.settleAll (xs ++ ys) = (s.settleAll xs).settleAll ys :=
  List.foldl_append

/-- The handle of a name, in use or not. -/
def handle? (s : Snapshot) (n : String) : Option Handle := (s.entries.find? n).map (·.handle)

/-- A name that is brought in has what the last resource of that name is, and any other name what it
had. -/
theorem handle?_merge_ofHandles (s : Snapshot) (hs : List Handle) (n : String) :
    (s.merge (ofHandles hs)).handle? n = (hs.reverse.find? (·.name = n)).or (s.handle? n) := by
  rw [handle?, find?_merge, find?_ofHandles]
  cases hs.reverse.find? (·.name = n) with
  | some h => rfl
  | none => rfl

/-- A retired resource stays where it is. -/
theorem handle?_foldl_retire (s : Snapshot) (ns : List String) (n : String) :
    (ns.foldl retire s).handle? n = s.handle? n := by
  rw [handle?, find?_foldl_retire, Option.map_map, handle?]
  congr 1
  funext e
  by_cases h : n ∈ ns
  · simp [h]
  · simp [h]

/-- Without failures before the validation, what a proposal brings in is merged and what it retires
is retired. -/
theorem settle_of_not_failed {s : Snapshot} {p : Proposal σ} {x : ProposalResult}
    (h : ∀ phase, phase ≠ .validate → x.failedIn phase = false) :
    s.settle p x = p.deprecated.toList.foldl retire (s.merge (.ofHandles x.resources)) := by
  rw [settle, h .resolve (by decide), h .deploy (by decide), h .setup (by decide),
    h .governance (by decide)]
  rfl

/-- How a teardown ends does not matter to the registry. -/
theorem settle_concluded (s : Snapshot) (p : Proposal σ) (x : ProposalResult)
    (o : Outcome HookError Unit) : s.settle p (x.concluded o) = s.settle p x := by
  rw [settle, settle, x.failedIn_concluded o (by decide), x.failedIn_concluded o (by decide),
    x.failedIn_concluded o (by decide), x.failedIn_concluded o (by decide),
    ProposalResult.resources_concluded]

/-- Settling a proposal, a name has what the last of its resources of that name is, or what it
had. -/
theorem handle?_settle (s : Snapshot) (p : Proposal σ) {x : ProposalResult} (hx : x.Tidy)
    (n : String) :
    (s.settle p x).handle? n = (x.resources.reverse.find? (·.name = n)).or (s.handle? n) := by
  rw [settle]
  split
  · next h => rw [hx.resources_eq_nil h]; rfl
  · split
    · exact handle?_merge_ofHandles ..
    · rw [handle?_foldl_retire, handle?_merge_ofHandles]

/-- **The last resource of a name is found**, and where there is none what was there before. -/
theorem handle?_settleAll (s : Snapshot) (xs : List (Proposal σ × ProposalResult))
    (hx : ∀ e ∈ xs, e.2.Tidy) (n : String) :
    (s.settleAll xs).handle? n
      = ((xs.flatMap (·.2.resources)).reverse.find? (·.name = n)).or (s.handle? n) := by
  induction xs generalizing s with
  | nil => rfl
  | cons e xs ih =>
    have head := handle?_settle s e.1 (hx e List.mem_cons_self) n
    have tail := ih (s.settle e.1 e.2) fun e' he' => hx e' (List.mem_cons_of_mem _ he')
    rw [settleAll, List.foldl_cons, ← settleAll, tail, head, List.flatMap_cons,
      List.reverse_append, List.find?_append, Option.or_assoc]

/-- Merging and nothing else retires no name. -/
theorem isDeprecated_of_merge_ofHandles {s : Snapshot} {hs : List Handle} {n : String}
    (h : (s.merge (ofHandles hs)).isDeprecated n = true) : s.isDeprecated n = true := by
  rw [isDeprecated, find?_merge, find?_ofHandles] at h
  cases hf : hs.reverse.find? (·.name = n) with
  | some x => simp [hf] at h
  | none => simpa [hf, isDeprecated] using h

/-- Where governance fails, no name is retired. -/
theorem isDeprecated_of_settle {s : Snapshot} {p : Proposal σ} {x : ProposalResult} {n : String}
    (failed : x.failedIn .governance = true) (h : (s.settle p x).isDeprecated n = true) :
    s.isDeprecated n = true := by
  rw [settle] at h
  split at h
  · exact h
  · rw [failed, Bool.or_true, if_pos rfl] at h
    exact isDeprecated_of_merge_ofHandles h

end Snapshot

namespace Runner

variable {r : Runner σ} {p : Proposal σ} {deploys : Bool} {registry : Registry} {w : World σ}

/-! ## One proposal -/

/-- A proposal that came to its validation failed in no phase before it. -/
theorem failedIn_validated {s : Staged} {receipt : Option Receipt} {registry' : Registry}
    {v : Validation} {phase : Phase} (h : phase ≠ .validate) :
    (validated p deploys registry s receipt registry' w v).result.failedIn phase = false := by
  rw [ProposalResult.failedIn_eq, List.any_eq_false]
  intro f hf
  obtain ⟨e, -, rfl⟩ := List.mem_map.1 hf
  simp [Ne.symm h]

/-- Each course does to the registry what its result tells. -/
theorem Course.settle {calls : List Invocation} {g : Progress σ}
    (h : Course r p deploys registry w calls g) :
    g.registry.current = registry.current.settle p g.result := by
  cases h with
  | unstaged staging =>
    cases deploys with
    | true => rfl
    | false => rfl
  | unconfigured staging setup fails => rfl
  | ungoverned setUp fails => rfl
  | unretired executed fails => rfl
  | checked executed retiring context hook =>
    rw [Snapshot.settle_of_not_failed fun phase hp => failedIn_validated hp]
    show Registry.current _ = _
    rw [(Registry.retireAll_eq_ok_iff.1 retiring).2]
    rfl

/-- Whatever course a proposal takes, its result is tidy. -/
theorem Course.tidy {calls : List Invocation} {g : Progress σ}
    (h : Course r p deploys registry w calls g) : g.result.Tidy := by
  have distinct : ∀ {s : Staged} {w₁ : World σ},
      r.staged p deploys registry.current w = (.ok s, w₁) →
        (s.resources.map (·.name)).Nodup := by
    intro s w₁ staging
    exact (Staged.supersede_eq_ok_iff.1 (staged_eq_ok_iff.1 staging).2).1
  cases h with
  | unstaged staging => exact ⟨List.nodup_nil, fun _ => rfl⟩
  | unconfigured staging setup fails => exact ⟨distinct staging, nofun⟩
  | ungoverned setUp fails => exact ⟨distinct setUp.staging, nofun⟩
  | unretired executed fails => exact ⟨distinct executed.staging, nofun⟩
  | checked executed retiring context hook =>
    refine ⟨distinct executed.staging, fun failed => ?_⟩
    rw [Bool.or_eq_true] at failed
    rcases failed with failed | failed
    · rw [failedIn_validated (by decide)] at failed
      cases failed
    · rw [failedIn_validated (by decide)] at failed
      cases failed

/-- **What a proposal does to the registry can be read off its result.** -/
theorem current_applyProposal (r : Runner σ) (p : Proposal σ) (deploys : Bool)
    (registry : Registry) (w : World σ) :
    (r.applyProposal p deploys registry w).registry.current
      = registry.current.settle p (r.applyProposal p deploys registry w).result := by
  obtain ⟨calls, g, o, w', course, applied, -⟩ := applyProposal_cases r p deploys registry w
  rw [applied, Snapshot.settle_concluded]
  exact course.settle

/-- The result of a proposal is tidy, however its teardown ends. -/
theorem tidy_applyProposal (r : Runner σ) (p : Proposal σ) (deploys : Bool)
    (registry : Registry) (w : World σ) : (r.applyProposal p deploys registry w).result.Tidy := by
  obtain ⟨calls, g, o, w', course, applied, -⟩ := applyProposal_cases r p deploys registry w
  rw [applied]
  refine ⟨?_, ?_⟩
  · rw [ProposalResult.resources_concluded]
    exact course.tidy.distinct
  · rw [ProposalResult.failedIn_concluded _ _ (by decide),
      ProposalResult.failedIn_concluded _ _ (by decide), ProposalResult.resources_concluded]
    exact course.tidy.resources_eq_nil

/-! ## All proposals -/

/-- What several proposals leave is what their results settle to. -/
theorem current_applyAll (r : Runner σ) (c : Catalogue σ) (ps : List (Proposal σ))
    (registry : Registry) (w : World σ) :
    (r.applyAll c ps registry w).2.1.current
      = registry.current.settleAll (ps.zip (r.applyAll c ps registry w).1) := by
  induction ps generalizing registry w with
  | nil => rfl
  | cons p ps ih =>
    rw [applyAll, List.zip_cons_cons, Snapshot.settleAll, List.foldl_cons,
      ← current_applyProposal, ← Snapshot.settleAll]
    exact ih ..

variable {c : Catalogue σ} {initial : Registry} {w' : World σ} {report : Report}

/-- What the results of a run tell of the registry. -/
structure Reconciled (r : Runner σ) (c : Catalogue σ) (initial : Registry) (w : World σ)
    (report : Report) : Prop where
  /-- Each result belongs to the proposal of its place. -/
  ids : report.results.map (·.id) = c.active.map (·.id)
  /-- The first results, settled in order, give the registry that their proposals leave. -/
  left : ∀ i, (r.left c initial w i).1.current
    = initial.current.settleAll ((c.active.zip report.results).take i)
  /-- All results, settled in order, give the final registry. -/
  final : report.registry.current = initial.current.settleAll (c.active.zip report.results)
  /-- A name has the handle of the last result that lists it. -/
  listed : ∀ before x after, report.results = before ++ x :: after → ∀ h ∈ x.resources,
    (∀ y ∈ after, h.name ∉ y.resources.map (·.name)) →
      report.registry.current.handle? h.name = some h
  /-- A name that no result lists keeps its handle. -/
  unlisted : ∀ n, (∀ x ∈ report.results, n ∉ x.resources.map (·.name)) →
    report.registry.current.handle? n = initial.current.handle? n
  /-- Where governance fails, no name is retired. -/
  governance : ∀ i x, report.results[i]? = some x → x.failedIn .governance = true → ∀ n,
    (r.left c initial w (i + 1)).1.current.isDeprecated n = true →
      (r.left c initial w i).1.current.isDeprecated n = true

/-- What the first proposals of a run leave is what their results settle to. -/
theorem current_left_of_run (h : r.run c initial w = (.ok report, w')) (i : Nat) :
    (r.left c initial w i).1.current
      = initial.current.settleAll ((c.active.zip report.results).take i) := by
  have applied := (run_eq_ok h).2.1
  have results : report.results.take i = (r.applyAll c (c.active.take i) initial w).1 := by
    rw [← take_applyAll, applied]
  have zip : (c.active.take i).zip (report.results.take i)
      = (c.active.zip report.results).take i := List.take_zipWith.symm
  rw [left, current_applyAll, ← results, zip]

/-- What a proposal leaves is what the ones before it left, its result settled. -/
theorem current_left_succ (h : r.run c initial w = (.ok report, w')) {i : Nat} {p : Proposal σ}
    {x : ProposalResult} (hp : c.active[i]? = some p) (hx : report.results[i]? = some x) :
    (r.left c initial w (i + 1)).1.current = (r.left c initial w i).1.current.settle p x := by
  have pair : (c.active.zip report.results)[i]? = some (p, x) :=
    List.getElem?_zip_eq_some.2 ⟨hp, hx⟩
  rw [current_left_of_run h, List.take_add_one, pair, Snapshot.settleAll_append,
    ← current_left_of_run h]
  rfl

/-- **The final registry** is the initial one with all results settled in order. -/
theorem final_of_run (h : r.run c initial w = (.ok report, w')) :
    report.registry.current = initial.current.settleAll (c.active.zip report.results) := by
  have := current_applyAll r c c.active initial w
  rwa [(run_eq_ok h).2.1] at this

/-- The results of a run are tidy. -/
theorem tidy_of_run (h : r.run c initial w = (.ok report, w')) {x : ProposalResult}
    (hx : x ∈ report.results) : x.Tidy := by
  obtain ⟨p, deploys, registry, w₀, rfl⟩ := exists_of_mem_results h hx
  exact tidy_applyProposal ..

/-- The handle of a name after a run. -/
theorem handle?_of_run (h : r.run c initial w = (.ok report, w')) (n : String) :
    report.registry.current.handle? n
      = ((report.results.flatMap (·.resources)).reverse.find? (·.name = n)).or
        (initial.current.handle? n) := by
  have lengths : report.results.length = c.active.length := by
    simpa using congrArg List.length (ids_of_run h)
  have tidy : ∀ e ∈ c.active.zip report.results, e.2.Tidy :=
    fun e he => tidy_of_run h (List.of_mem_zip he).2
  have listed : (c.active.zip report.results).flatMap (·.2.resources)
      = report.results.flatMap (·.resources) := by
    rw [← List.flatMap_map, List.map_snd_zip (Nat.le_of_eq lengths)]
  rw [final_of_run h, Snapshot.handle?_settleAll _ _ tidy, listed]

/-- **The final registry is told by the results.** It is the initial one with the results settled
in order; so a name has the handle of the last result that lists it or else that of the start,
and a result whose governance fails retires nothing. -/
theorem reconciled_of_run (h : r.run c initial w = (.ok report, w')) :
    Reconciled r c initial w report where
  ids := ids_of_run h
  left := current_left_of_run h
  final := final_of_run h
  listed := by
    intro before x after split k hk last
    have hx : x.Tidy := tidy_of_run h (by rw [split]; simp)
    have later : (after.flatMap (·.resources)).reverse.find? (·.name = k.name) = none := by
      rw [List.find?_eq_none]
      intro y hy
      obtain ⟨z, hz, hy⟩ := List.mem_flatMap.1 (List.mem_reverse.1 hy)
      have : y.name ≠ k.name := fun e => last z hz (e ▸ List.mem_map_of_mem hy)
      simp [this]
    rw [handle?_of_run h, split, List.flatMap_append, List.flatMap_cons, List.reverse_append,
      List.reverse_append, List.find?_append, List.find?_append, later,
      Snapshot.find?_reverse_of_mem hx.distinct hk]
    rfl
  unlisted := by
    intro n hn
    have never : (report.results.flatMap (·.resources)).reverse.find? (·.name = n) = none := by
      rw [List.find?_eq_none]
      intro y hy
      obtain ⟨x, hx, hy⟩ := List.mem_flatMap.1 (List.mem_reverse.1 hy)
      have : y.name ≠ n := fun e => hn x hx (e ▸ List.mem_map_of_mem hy)
      simp [this]
    rw [handle?_of_run h, never, Option.none_or]
  governance := by
    intro i x hx failed n hd
    have hp := result_of_run h i
    rw [hx, eq_comm, Option.map_eq_some_iff] at hp
    obtain ⟨p, hp, -⟩ := hp
    rw [current_left_succ h hp hx] at hd
    exact Snapshot.isDeprecated_of_settle failed hd

/-- Of the small catalogue's pool the last address counts, though its setup panics, and it stays
in use, as the governance that would retire it fails; the core is retired where it was. -/
theorem reconciled_of_run_drill : ∃ report w',
    Drill.runner.run Drill.catalogue Drill.initial Drill.world = (.ok report, w') ∧
    report.registry.current.entries.entries =
      [("core", { handle := Drill.core, status := .deprecated }),
        ("pool", { handle := { Drill.pool with address := .ofNat 3 }, status := .live })] ∧
    Reconciled Drill.runner Drill.catalogue Drill.initial Drill.world report :=
  ⟨_, _, rfl, rfl, reconciled_of_run (w := Drill.world) rfl⟩

end Runner
end Rollout
