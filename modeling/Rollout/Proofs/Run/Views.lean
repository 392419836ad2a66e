/-
# What the hooks of a run see

Between two proposals the registry is what the first of them left, and each hook is handed its own
view of what happens to it from there (`Calls.Briefed`):

| hook | registry it sees | the registry before |
| --- | --- | --- |
| deploy | the one before | |
| setup | that with the resources of the proposal | the one before |
| validate | that with the names of the proposal retired | the one before |
| teardown | the one that the next proposal starts from | the one before |

The last three are handed the same resources and outputs, those that the deploy hook returned or
that were found in its place. Where staging fails, there is no call of setup and validate, and
teardown sees no resources, no outputs, and the registry before.

So what a hook does shows in the registry that later hooks see in two ways and no others: by the
resources that its deployment returns, and by whether its proposal comes to the point at which names
are retired. If the hooks of two runs agree in these for some proposals, they see the same registry
after them (`Start.told`); if they agree in the resources alone, they need not
(`Start.not_told_by_resources`).
-/

import Rollout.Proofs.Run.FinalRegistry
import Rollout.Proofs.Run.Gating
import Rollout.Proofs.Run.Trace

namespace Rollout

variable {σ : Type}

/-! ## One proposal -/

namespace Calls

/-- Where the resources and outputs of a proposal come from: the deploy hook, which is called first,
or else the registry, in the order of the names. -/
inductive Brings (p : Proposal σ) (deploys : Bool) (previous : Snapshot) (calls : List Invocation) :
    Deployment → Prop
  | deployed {ctx : DeployContext} {d : Deployment} (flagged : deploys = true)
      (first : calls.head? = some (.deploy ctx (.ok d))) : Brings p deploys previous calls d
  | found {hs : List Handle} (skipped : deploys = false)
      (names : hs.map (·.name) = p.expected.toList)
      (live : ∀ x ∈ hs, previous.get x.name = .ok x) :
      Brings p deploys previous calls { resources := hs, outputs := .empty }

/-- What the hooks after a staging that brings a deployment see, if it starts from a registry and
the proposal leaves another. -/
structure Handed (p : Proposal σ) (previous next : Snapshot) (d : Deployment)
    (calls : List Invocation) : Prop where
  setup : ∀ ctx o, .setup ctx o ∈ calls →
    ctx.previous = previous ∧ ctx.registry = previous.merge (.ofHandles d.resources) ∧
      ctx.resources = d.resources ∧ ctx.outputs = d.outputs
  validate : ∀ ctx o set, .validate ctx o set ∈ calls →
    ctx.previous = previous ∧
      ctx.registry
        = p.deprecated.toList.foldl Snapshot.retire (previous.merge (.ofHandles d.resources)) ∧
      ctx.resources = d.resources ∧ ctx.outputs = d.outputs
  teardown : ∀ ctx o, .teardown ctx o ∈ calls →
    ctx.previous = previous ∧ ctx.registry = next ∧
      ctx.resources = d.resources ∧ ctx.outputs = d.outputs
  /-- The names are retired if the proposal comes to its validate hook. -/
  left : next = if has calls .validate
    then p.deprecated.toList.foldl Snapshot.retire (previous.merge (.ofHandles d.resources))
    else previous.merge (.ofHandles d.resources)

/-- What the hooks after a staging that fails see. -/
structure Stranded (previous next : Snapshot) (calls : List Invocation) : Prop where
  setup : has calls .setup = false
  validate : has calls .validate = false
  teardown : ∀ ctx o, .teardown ctx o ∈ calls →
    ctx.previous = previous ∧ ctx.registry = previous ∧ ctx.resources = [] ∧ ctx.outputs = .empty
  left : next = previous

/-- What the hooks of a proposal see, if it starts from a registry and leaves another. -/
structure Briefed (p : Proposal σ) (deploys : Bool) (previous next : Snapshot)
    (calls : List Invocation) : Prop where
  deploy : ∀ ctx o, .deploy ctx o ∈ calls → deploys = true ∧ ctx.registry = previous
  /-- Setup, validate and teardown are handed the same resources and outputs. -/
  staged : stages calls p deploys previous = true →
    ∃ d, Brings p deploys previous calls d ∧ Handed p previous next d calls
  unstaged : stages calls p deploys previous = false → Stranded previous next calls

/-- A call whose body is not called is not made. -/
theorem not_mem_of_not_has {calls : List Invocation} {c : Invocation}
    (h : has calls c.body = false) : c ∉ calls := by
  intro mem
  exact List.any_eq_false.1 h c mem (decide_eq_true rfl)

end Calls

namespace Runner

open Calls

variable {r : Runner σ} {p : Proposal σ} {deploys : Bool} {registry : Registry} {w w₁ : World σ}
variable {calls : List Invocation} {g : Progress σ} {s : Staged}

/-- Resources and outputs are those of the deploy hook, or of the names that are found. -/
theorem brings_of_staged (staging : r.staged p deploys registry.current w = (.ok s, w₁))
    (rest : List Invocation) :
    Brings p deploys registry.current (r.callsToStaging p deploys registry w ++ rest)
      { resources := s.resources, outputs := s.outputs } := by
  obtain ⟨had, -⟩ := staged_eq_ok_iff.1 staging
  cases deploys with
  | true =>
    have returned : (p.lifecycle.deploy (r.deployContext registry.current) w).1
        = .ok { resources := s.resources, outputs := s.outputs } :=
      Outcome.eq_ok_of_inPhase (congrArg Prod.fst had)
    have first : (r.callsToStaging p true registry w ++ rest).head? = some (.deploy
        (r.deployContext registry.current)
        (p.lifecycle.deploy (r.deployContext registry.current) w).1) := rfl
    exact .deployed rfl (returned ▸ first)
  | false =>
    cases found : Staged.find registry.current p.expected.toList with
    | error e =>
      rw [staged_of_find_error found] at staging
      cases staging
    | ok hs =>
      rw [staged_of_find found] at staging
      cases staging
      obtain ⟨names, live⟩ := Staged.find_eq_ok found
      exact .found rfl names live

namespace Course

attribute [local simp] callsToExecution callsToSetup Invocation.body not_mem_of_not_has
  setupContext phaseContext Progress.validateContext started merged configured retired validated
  ProposalResult.record

/-- What the hooks of a course see, whether it is staged or not. -/
theorem handed_or_stranded (h : Course r p deploys registry w calls g)
    (o : Outcome HookError Unit) :
    (∃ s w₁, r.staged p deploys registry.current w = (.ok s, w₁) ∧
      Handed p registry.current g.registry.current
        { resources := s.resources, outputs := s.outputs }
        (calls ++ [.teardown (r.phaseContext registry.current g) o])) ∨
    ∃ e w₁, r.staged p deploys registry.current w = (.error e, w₁) ∧
      Stranded registry.current g.registry.current
        (calls ++ [.teardown (r.phaseContext registry.current g) o]) := by
  cases h with
  | unstaged staging => exact .inr ⟨_, _, staging, by constructor <;> simp⟩
  | unconfigured staging setup fails => exact .inl ⟨_, _, staging, by constructor <;> simp⟩
  | ungoverned setUp fails => exact .inl ⟨_, _, setUp.staging, by constructor <;> simp⟩
  | unretired executed fails => exact .inl ⟨_, _, executed.staging, by constructor <;> simp⟩
  | checked executed retiring context hook =>
    rename_i s w₁ w₂ w₃ receipt registry' ctx o' set rest
    have retired : registry'.current = p.deprecated.toList.foldl Snapshot.retire
        (registry.current.merge (.ofHandles s.resources)) := by
      rw [(Registry.retireAll_eq_ok_iff.1 retiring).2, Registry.current_adding]
    refine .inl ⟨_, _, executed.staging, ?_⟩
    constructor
    case validate =>
      intro ctx' o'' set' mem
      obtain ⟨rfl, -, -⟩ : ctx' = ctx ∧ o'' = o' ∧ set' = set := by simpa using mem
      simp [context, retired]
    all_goals simp [retired]

/-- The deploy hook is called where the proposal deploys, and sees the registry before it. -/
theorem deploy_mem {ctx : DeployContext} {outcome : Outcome HookError Deployment}
    (h : Course r p deploys registry w calls g) (o : Outcome HookError Unit)
    (mem : .deploy ctx outcome ∈ calls ++ [.teardown (r.phaseContext registry.current g) o]) :
    deploys = true ∧ ctx.registry = registry.current := by
  obtain ⟨rest, rfl, none⟩ := h.exists_eq_callsToStaging_append
  have first : .deploy ctx outcome ∈ r.callsToStaging p deploys registry w := by
    simpa [none] using mem
  cases deploys with
  | true =>
    cases List.mem_singleton.1 first
    exact ⟨rfl, rfl⟩
  | false => cases first

/-- **Every course with its teardown behind it is briefed.** -/
theorem briefed (h : Course r p deploys registry w calls g) (o : Outcome HookError Unit) :
    Briefed p deploys registry.current g.registry.current
      (calls ++ [.teardown (r.phaseContext registry.current g) o]) where
  deploy _ _ := h.deploy_mem o
  staged stages := by
    rw [h.stages_append] at stages
    rcases h.handed_or_stranded o with ⟨s, w₁, staging, handed⟩ | ⟨e, w₁, staging, -⟩
    · refine ⟨_, ?_, handed⟩
      obtain ⟨rest, rfl, -⟩ := h.exists_eq_callsToStaging_append
      rw [List.append_assoc]
      exact brings_of_staged staging _
    · rw [staging] at stages
      cases stages
  unstaged stages := by
    rw [h.stages_append] at stages
    rcases h.handed_or_stranded o with ⟨s, w₁, staging, -⟩ | ⟨e, w₁, staging, stranded⟩
    · rw [staging] at stages
      cases stages
    · exact stranded

end Course

/-- **What the hooks of a proposal see.** -/
theorem applyProposal_briefed (r : Runner σ) (p : Proposal σ) (deploys : Bool)
    (registry : Registry) (w : World σ) :
    Briefed p deploys registry.current (r.applyProposal p deploys registry w).registry.current
      (r.calls p deploys registry w) := by
  obtain ⟨calls, g, o, w', course, applied, called⟩ := applyProposal_cases r p deploys registry w
  rw [applied, called]
  exact course.briefed o

end Runner

/-! ## Two proposals alike -/

/-- The proposal without its hooks. -/
def Proposal.bare (p : Proposal σ) : Proposal Unit where
  id := p.id
  category := p.category
  deploys := p.deploys
  totalValue := p.totalValue
  existingId := p.existingId
  affected := p.affected
  deprecated := p.deprecated
  expected := p.expected
  invariants := p.invariants
  payload := p.payload

/-- The registry that a hook sees, and the one before its proposal. -/
def Invocation.view? : Invocation → Option (Snapshot × Snapshot)
  | deploy ctx _ => some (ctx.registry, ctx.registry)
  | setup ctx _ => some (ctx.registry, ctx.previous)
  | executor _ _ => none
  | validate ctx _ _ => some (ctx.registry, ctx.previous)
  | teardown ctx _ => some (ctx.registry, ctx.previous)

namespace Calls

variable {σ' : Type} {p : Proposal σ} {p' : Proposal σ'} {deploys : Bool}
variable {previous next next' : Snapshot} {calls calls' : List Invocation} {d d' : Deployment}

/-- Whether staging succeeds depends on hooks by the resources that deployment returns alone. -/
theorem stages_congr (bare : p.bare = p'.bare)
    (returned : calls.findSome? Invocation.resources? = calls'.findSome? Invocation.resources?) :
    stages calls p deploys previous = stages calls' p' deploys previous := by
  have expected : p.expected = p'.expected := congrArg (·.expected) bare
  have affected : p.affected = p'.affected := congrArg (·.affected) bare
  rw [stages, stages, returned, expected, affected]

/-- Handles that are found are told by their names. -/
theorem eq_of_names_eq {hs hs' : List Handle} (names : hs.map (·.name) = hs'.map (·.name))
    (live : ∀ x ∈ hs, previous.get x.name = .ok x)
    (live' : ∀ x ∈ hs', previous.get x.name = .ok x) : hs = hs' := by
  have names_get {hs : List Handle} (live : ∀ x ∈ hs, previous.get x.name = .ok x) :
      hs.map Except.ok = (hs.map (·.name)).map previous.get := by
    rw [List.map_map]
    exact List.map_congr_left fun x hx => (live x hx).symm
  have same := congrArg (List.map previous.get) names
  rw [← names_get live, ← names_get live'] at same
  exact List.map_injective_iff.2 (fun a b e => Except.ok.inj e) same

/-- Proposals that are alike but for their hooks have the same resources where their deploy hooks
returned the same. -/
theorem Brings.resources_eq (bare : p.bare = p'.bare)
    (returned : calls.findSome? Invocation.resources? = calls'.findSome? Invocation.resources?)
    (h : Brings p deploys previous calls d) (h' : Brings p' deploys previous calls' d') :
    d.resources = d'.resources := by
  have first {calls : List Invocation} {ctx : DeployContext} {d : Deployment}
      (h : calls.head? = some (.deploy ctx (.ok d))) :
      calls.findSome? Invocation.resources? = some d.resources := by
    obtain ⟨rest, rfl⟩ := List.head?_eq_some_iff.1 h
    rfl
  have expected : p.expected = p'.expected := congrArg (·.expected) bare
  cases h with
  | deployed flagged head =>
    cases h' with
    | deployed flagged' head' =>
      rw [first head, first head'] at returned
      exact Option.some.inj returned
    | found skipped' =>
      rw [flagged] at skipped'
      cases skipped'
  | found skipped names live =>
    cases h' with
    | deployed flagged' =>
      rw [skipped] at flagged'
      cases flagged'
    | found skipped' names' live' =>
      rw [← expected, ← names] at names'
      exact eq_of_names_eq names'.symm live live'

/-- What a proposal leaves depends on hooks by the resources that deployment returns, and by whether
its names are retired. -/
theorem Briefed.next_eq (bare : p.bare = p'.bare)
    (returned : calls.findSome? Invocation.resources? = calls'.findSome? Invocation.resources?)
    (retires : has calls .validate = has calls' .validate)
    (h : Briefed p deploys previous next calls) (h' : Briefed p' deploys previous next' calls') :
    next = next' := by
  have deprecated : p.deprecated = p'.deprecated := congrArg (·.deprecated) bare
  have same : stages calls p deploys previous = stages calls' p' deploys previous :=
    stages_congr bare returned
  cases staged : stages calls p deploys previous with
  | true =>
    obtain ⟨d, brings, handed⟩ := h.staged staged
    obtain ⟨d', brings', handed'⟩ := h'.staged (same ▸ staged)
    rw [handed.left, handed'.left, brings.resources_eq bare returned brings', retires, deprecated]
  | false => rw [(h.unstaged staged).left, (h'.unstaged (same ▸ staged)).left]

/-- What a hook sees, by what it is. -/
def viewOf (p : Proposal σ) (previous next : Snapshot) (resources : List Handle) :
    Body → Option (Snapshot × Snapshot)
  | .deploy => some (previous, previous)
  | .setup => some (previous.merge (.ofHandles resources), previous)
  | .executor => none
  | .validate => some
      (p.deprecated.toList.foldl Snapshot.retire (previous.merge (.ofHandles resources)), previous)
  | .teardown => some (next, previous)

/-- Where the resources are handed on, what a call sees is told by them and by the registries around
the proposal. -/
theorem Briefed.view?_of_handed (h : Briefed p deploys previous next calls)
    (handed : Handed p previous next d calls) {c : Invocation} (mem : c ∈ calls) :
    c.view? = viewOf p previous next d.resources c.body := by
  cases c with
  | deploy ctx o =>
    obtain ⟨-, same⟩ := h.deploy ctx o mem
    rw [Invocation.view?, same]
    rfl
  | setup ctx o =>
    obtain ⟨before, now, -⟩ := handed.setup ctx o mem
    rw [Invocation.view?, before, now]
    rfl
  | executor action o => rfl
  | validate ctx o set =>
    obtain ⟨before, now, -⟩ := handed.validate ctx o set mem
    rw [Invocation.view?, before, now]
    rfl
  | teardown ctx o =>
    obtain ⟨before, now, -⟩ := handed.teardown ctx o mem
    rw [Invocation.view?, before, now]
    rfl

/-- Where no resources are handed on, what a call sees is told by the registries around the
proposal. -/
theorem Briefed.view?_of_stranded (h : Briefed p deploys previous next calls)
    (stranded : Stranded previous next calls) {c : Invocation} (mem : c ∈ calls) :
    c.view? = viewOf p previous next [] c.body := by
  cases c with
  | deploy ctx o =>
    obtain ⟨-, same⟩ := h.deploy ctx o mem
    rw [Invocation.view?, same]
    rfl
  | setup ctx o => exact absurd mem (not_mem_of_not_has stranded.setup)
  | executor action o => rfl
  | validate ctx o set => exact absurd mem (not_mem_of_not_has stranded.validate)
  | teardown ctx o =>
    obtain ⟨before, now, -⟩ := stranded.teardown ctx o mem
    rw [Invocation.view?, before, now, stranded.left]
    rfl

/-- Hooks of two proposals see the same if these start from the same registry, leave the same, and
their deployments return the same resources. -/
theorem Briefed.view_eq (bare : p.bare = p'.bare)
    (returned : calls.findSome? Invocation.resources? = calls'.findSome? Invocation.resources?)
    (h : Briefed p deploys previous next calls) (h' : Briefed p' deploys previous next calls')
    {c c' : Invocation} (mem : c ∈ calls) (mem' : c' ∈ calls') (body : c.body = c'.body) :
    c.view? = c'.view? := by
  have deprecated : p.deprecated = p'.deprecated := congrArg (·.deprecated) bare
  have by_body (resources : List Handle) : viewOf p previous next resources c.body
      = viewOf p' previous next resources c'.body := by
    rw [body]
    unfold viewOf
    rw [deprecated]
  have same : stages calls p deploys previous = stages calls' p' deploys previous :=
    stages_congr bare returned
  cases staged : stages calls p deploys previous with
  | true =>
    obtain ⟨d, brings, handed⟩ := h.staged staged
    obtain ⟨d', brings', handed'⟩ := h'.staged (same ▸ staged)
    rw [h.view?_of_handed handed mem, h'.view?_of_handed handed' mem', by_body,
      brings.resources_eq bare returned brings']
  | false =>
    rw [h.view?_of_stranded (h.unstaged staged) mem,
      h'.view?_of_stranded (h'.unstaged (same ▸ staged)) mem', by_body]

end Calls

/-! ## Whole runs -/

/-- A catalogue that is about to be run. -/
structure Start (σ : Type) where
  runner : Runner σ
  catalogue : Catalogue σ
  initial : Registry
  world : World σ

namespace Start

/-- The registry that the first proposals leave. -/
def seen (s : Start σ) (i : Nat) : Snapshot :=
  (s.runner.left s.catalogue s.initial s.world i).1.current

/-- The calls of the proposal at a place. -/
def calls (s : Start σ) (i : Nat) : List Invocation :=
  match s.catalogue.active[i]? with
  | some p =>
    let (registry, w) := s.runner.left s.catalogue s.initial s.world i
    s.runner.calls p (s.catalogue.deploys p) registry w
  | none => []

/-- The resources that the deploy hook of a proposal returns, if it is called and returns any. -/
def returned (s : Start σ) (i : Nat) : Option (List Handle) :=
  (s.calls i).findSome? Invocation.resources?

/-- Whether a proposal comes to the point at which its names are retired. -/
def retires (s : Start σ) (i : Nat) : Bool := Calls.has (s.calls i) .validate

/-- Hooks aside, the same proposals are applied to the same registry. -/
structure Alike {σ' : Type} (s : Start σ) (s' : Start σ') : Prop where
  mode : s.catalogue.mode = s'.catalogue.mode
  proposals : s.catalogue.active.map Proposal.bare = s'.catalogue.active.map Proposal.bare
  initial : s.initial.current = s'.initial.current

/-- What the hooks of a run see. -/
structure Told (s : Start σ) : Prop where
  /-- The calls of a run are those of its proposals, or none if it is refused. -/
  calls : s.runner.trace s.catalogue s.initial s.world =
    if (s.runner.refusal? s.catalogue s.initial.current).isSome then []
    else (List.range s.catalogue.active.length).flatMap s.calls
  first : s.seen 0 = s.initial.current
  last : ∀ report w, s.runner.run s.catalogue s.initial s.world = (.ok report, w) →
    report.registry.current = s.seen s.catalogue.active.length
  briefed : ∀ i p, s.catalogue.active[i]? = some p →
    Calls.Briefed p (s.catalogue.deploys p) (s.seen i) (s.seen (i + 1)) (s.calls i)
  /-- Hooks have a part in what proposals leave by the resources that deployments return and by
  whether names are retired, and no other. -/
  seen_eq : ∀ {σ' : Type} (s' : Start σ'), s.Alike s' → ∀ k,
    (∀ i < k, s.returned i = s'.returned i) → (∀ i < k, s.retires i = s'.retires i) →
      s.seen k = s'.seen k
  /-- The same goes for what later hooks see, in their own proposal as in others. -/
  view_eq : ∀ {σ' : Type} (s' : Start σ'), s.Alike s' → ∀ k,
    (∀ i ≤ k, s.returned i = s'.returned i) → (∀ i ≤ k, s.retires i = s'.retires i) →
      ∀ c ∈ s.calls k, ∀ c' ∈ s'.calls k, c.body = c'.body → c.view? = c'.view?

variable {σ' : Type} {s : Start σ} {s' : Start σ'} {i : Nat} {p : Proposal σ}

/-! ### The calls of each proposal -/

/-- The calls at a place are those of the active proposal at that place. -/
theorem calls_of_active (h : s.catalogue.active[i]? = some p) :
    s.calls i = s.runner.calls p (s.catalogue.deploys p)
      (s.runner.left s.catalogue s.initial s.world i).1
      (s.runner.left s.catalogue s.initial s.world i).2 := by
  rw [calls, h]

/-- Behind the last active proposal no calls are made. -/
theorem calls_of_not_active (h : s.catalogue.active[i]? = none) : s.calls i = [] := by
  rw [calls, h]

/-- Every active proposal is briefed by the registries before and behind it. -/
theorem briefed (h : s.catalogue.active[i]? = some p) :
    Calls.Briefed p (s.catalogue.deploys p) (s.seen i) (s.seen (i + 1)) (s.calls i) := by
  rw [calls_of_active h, seen, seen, Runner.left_succ _ _ _ h]
  exact Runner.applyProposal_briefed ..

/-- Behind the last active proposal the registry stays as it is. -/
theorem seen_succ_of_not_active (h : s.catalogue.active[i]? = none) :
    s.seen (i + 1) = s.seen i := by
  have past := List.getElem?_eq_none_iff.1 h
  rw [seen, seen, Runner.left_of_length_le _ _ _ past,
    Runner.left_of_length_le _ _ _ (Nat.le_succ_of_le past)]

end Start

/-- The calls of several proposals are those at each place. -/
theorem Runner.callsAll_eq_flatMap (r : Runner σ) (c : Catalogue σ) (ps : List (Proposal σ))
    (registry : Registry) (w : World σ) :
    r.callsAll c ps registry w = (List.range ps.length).flatMap fun i =>
      match ps[i]? with
      | some p =>
        let (registry, w) := (r.applyAll c (ps.take i) registry w).2
        r.calls p (c.deploys p) registry w
      | none => [] := by
  induction ps generalizing registry w with
  | nil => rfl
  | cons p ps ih =>
    rw [callsAll, ih, List.length_cons, List.range_succ_eq_map, List.flatMap_cons, List.flatMap_map]
    rfl

namespace Start

variable {σ' : Type} {s : Start σ} {s' : Start σ'} {i : Nat} {p : Proposal σ}

/-! ### Two runs -/

/-- At each place of two catalogues are two proposals alike, both deployed or neither, or none. -/
theorem Alike.cases (h : s.Alike s') (i : Nat) :
    (∃ p p', s.catalogue.active[i]? = some p ∧ s'.catalogue.active[i]? = some p' ∧
      p.bare = p'.bare ∧ s.catalogue.deploys p = s'.catalogue.deploys p') ∨
    s.catalogue.active[i]? = none ∧ s'.catalogue.active[i]? = none := by
  have same : (s.catalogue.active.map Proposal.bare)[i]?
      = (s'.catalogue.active.map Proposal.bare)[i]? := by rw [h.proposals]
  rw [List.getElem?_map, List.getElem?_map] at same
  cases here : s.catalogue.active[i]? with
  | none =>
    rw [here] at same
    exact .inr ⟨rfl, Option.map_eq_none_iff.1 same.symm⟩
  | some p =>
    rw [here, Option.map_some, eq_comm, Option.map_eq_some_iff] at same
    obtain ⟨p', there, bare⟩ := same
    have flag : p'.deploys = p.deploys := congrArg (·.deploys) bare
    refine .inl ⟨p, p', rfl, there, bare.symm, ?_⟩
    rw [Catalogue.deploys, Catalogue.deploys, h.mode, flag]

/-- Starts that are alike are seen alike as long as the same resources are returned and the same
names retired. -/
theorem seen_eq_of_alike (alike : s.Alike s') {k : Nat}
    (returned : ∀ i < k, s.returned i = s'.returned i)
    (retires : ∀ i < k, s.retires i = s'.retires i) : s.seen k = s'.seen k := by
  induction k with
  | zero => exact alike.initial
  | succ k ih =>
    have before := ih (fun i hi => returned i (Nat.lt_succ_of_lt hi))
      fun i hi => retires i (Nat.lt_succ_of_lt hi)
    rcases alike.cases k with ⟨p, p', here, there, bare, deploys⟩ | ⟨here, there⟩
    · have h := briefed here
      have h' := briefed there
      rw [← deploys, ← before] at h'
      exact h.next_eq bare (returned k (Nat.lt_succ_self k)) (retires k (Nat.lt_succ_self k)) h'
    · rw [seen_succ_of_not_active here, seen_succ_of_not_active there, before]

/-- **What the hooks of a run see.** -/
theorem told (s : Start σ) : Told s where
  calls := by
    rw [Runner.trace_eq, Runner.callsAll_eq_flatMap]
    rfl
  first := rfl
  last := by
    intro report w ran
    rw [seen, Runner.left_of_length_le _ _ _ (Nat.le_refl _), (Runner.run_eq_ok ran).2.1]
  briefed i p h := briefed h
  seen_eq s' alike k returned retires := seen_eq_of_alike alike returned retires
  view_eq := by
    intro σ' s' alike k returned retires c mem c' mem' body
    rcases alike.cases k with ⟨p, p', here, there, bare, deploys⟩ | ⟨here, there⟩
    · have before : s.seen k = s'.seen k := seen_eq_of_alike alike
        (fun i hi => returned i (Nat.le_of_lt hi)) fun i hi => retires i (Nat.le_of_lt hi)
      have after : s.seen (k + 1) = s'.seen (k + 1) := seen_eq_of_alike alike
        (fun i hi => returned i (Nat.le_of_lt_succ hi))
        fun i hi => retires i (Nat.le_of_lt_succ hi)
      have h' := briefed there
      rw [← deploys, ← before, ← after] at h'
      exact (briefed here).view_eq bare (returned k (Nat.le_refl k)) h' mem mem' body
    · rw [calls_of_not_active here] at mem
      cases mem

end Start

/-! ## Resources are not all -/

/-- A run of two proposals. One retires the core, if its setup comes to an end, and the other does
nothing; neither has resources. -/
def Detour.start (setup : Outcome HookError Unit) : Start Unit where
  runner := Drill.runner
  catalogue := {
    slots := [
      .active {
        id := "retire"
        deploys := false
        deprecated := .ofList ["core"]
        lifecycle := { Lifecycle.idle with setup := fun _ w => (setup, w) } },
      .active { id := "look" }]
    distinct := by simp [Slot.id] }
  initial := Drill.initial
  world := Drill.world

/-- It is not told by the resources of deployments alone what later hooks see. The hooks of the
small run return none, whatever its setup hook comes to; but if that hook panics, the other proposal
finds the core in use. -/
theorem Start.not_told_by_resources :
    ¬ ∀ (s s' : Start Unit), s.Alike s' →
      s.runner.refusal? s.catalogue s.initial.current = none →
      s'.runner.refusal? s'.catalogue s'.initial.current = none → ∀ k,
        (∀ i ≤ k, s.returned i = s'.returned i) →
          ∀ c ∈ s.calls k, ∀ c' ∈ s'.calls k, c.body = c'.body → c.view? = c'.view? := by
  intro h
  have alike : (Detour.start (.ok ())).Alike (Detour.start (.panic none)) := ⟨rfl, rfl, rfl⟩
  have returned : ∀ i ≤ 1,
      (Detour.start (.ok ())).returned i = (Detour.start (.panic none)).returned i := by
    decide
  have same := h _ _ alike rfl rfl 1 returned _ List.mem_cons_self _ List.mem_cons_self rfl
  have live := congrArg (·.map fun view => view.1.isLive "core") same
  cases (live : some false = some true)

end Rollout
