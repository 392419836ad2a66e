/-
# The courses a proposal can take

A proposal goes step by step up to its teardown, which comes in any case. Up to there it can
take one of five courses, and `Course` lists them with what each leaves and whom it calls:

| course | ends because | state |
| --- | --- | --- |
| `unstaged` | there are no resources | pending |
| `unconfigured` | the setup hook fails | deployed |
| `ungoverned` | the payload is not executed | configured |
| `unretired` | a name to be retired is unknown | configured |
| `checked` | it came to the end | configured or validated |

Every proposal takes one of them (`Runner.exists_course`), and the course that it takes says
where it stands (`Course.eq`). What is true of all runs is then shown course by course.
-/

import Rollout.Proofs.Run.Recorded

namespace Rollout

variable {σ : Type}

/-! ## Results -/

namespace ProposalResult

/-- A phase whose state may come next appends the state to the trail and records nothing. -/
theorem advance_of_mem_next {x : ProposalResult} {target : ProposalState} (phase : Phase)
    (h : target ∈ x.state.next) : x.advance phase target = { x with trail := x.trail ++ [target] } := by
  simp [advance, enter, ProposalState.step, h, bind, Except.bind, pure, Except.pure]

/-- Recording errors one by one appends their failures in order. -/
theorem foldl_record (x : ProposalResult) (phase : Phase) (es : List RunError) :
    es.foldl (·.record phase ·) x
      = { x with failures := x.failures ++ es.map fun error => { phase, error } } := by
  induction es generalizing x with
  | nil => simp
  | cons e es ih => rw [List.foldl_cons, ih]; simp [record]

/-- The result once the teardown hook has come to an outcome. -/
def concluded (x : ProposalResult) (outcome : Outcome HookError Unit) : ProposalResult :=
  match outcome.inPhase .teardown with
  | .ok () => { x with trail := x.trail ++ [.tornDown] }
  | .error e => x.record .teardown e

/-- The end of a proposal leaves its resources. -/
@[simp] theorem resources_concluded (x : ProposalResult) (o : Outcome HookError Unit) :
    (x.concluded o).resources = x.resources := by
  cases o <;> rfl

/-- The end of a proposal leaves its failed assertions. -/
@[simp] theorem assertionFailures_concluded (x : ProposalResult) (o : Outcome HookError Unit) :
    (x.concluded o).assertionFailures = x.assertionFailures := by
  cases o <;> rfl

/-- The end of a proposal leaves its overwrites. -/
@[simp] theorem superseded_concluded (x : ProposalResult) (o : Outcome HookError Unit) :
    (x.concluded o).superseded = x.superseded := by
  cases o <;> rfl

/-- The end of a proposal leaves the note on whether its deploy hook was called. -/
@[simp] theorem deployInvoked_concluded (x : ProposalResult) (o : Outcome HookError Unit) :
    (x.concluded o).deployInvoked = x.deployInvoked := by
  cases o <;> rfl

/-- The end of a proposal leaves what its governance came to. -/
@[simp] theorem governance_concluded (x : ProposalResult) (o : Outcome HookError Unit) :
    (x.concluded o).governance = x.governance := by
  cases o <;> rfl

/-- The teardown takes no failure back. -/
theorem failures_prefix_concluded (x : ProposalResult) (o : Outcome HookError Unit) :
    x.failures <+: (x.concluded o).failures := by
  rw [concluded]
  cases o.inPhase .teardown with
  | ok u => exact List.prefix_refl _
  | error e => exact List.prefix_append _ _

/-- The teardown adds no failure but its own. -/
theorem mem_failures_concluded {x : ProposalResult} {o : Outcome HookError Unit}
    {f : ProposalFailure} (h : f ∈ (x.concluded o).failures) :
    f ∈ x.failures ∨ f.phase = .teardown ∧ o.inPhase .teardown = .error f.error := by
  rw [concluded] at h
  cases ho : o.inPhase .teardown with
  | ok u =>
    rw [ho] at h
    exact .inl h
  | error e =>
    rw [ho] at h
    exact (List.mem_append.1 h).imp_right fun hf => by rw [List.mem_singleton.1 hf]; exact ⟨rfl, rfl⟩

/-- The failures, but for that of the teardown. -/
def beforeTeardown (x : ProposalResult) : List ProposalFailure :=
  x.failures.filter (·.phase ≠ .teardown)

/-- The end of a proposal has no part in what it came to before its teardown. -/
@[simp] theorem beforeTeardown_concluded (x : ProposalResult) (o : Outcome HookError Unit) :
    (x.concluded o).beforeTeardown = x.beforeTeardown := by
  rw [beforeTeardown, concluded]
  cases o.inPhase .teardown with
  | ok u => rfl
  | error e => simp [record, beforeTeardown]

/-- The end of a proposal adds the last state to the trail if the teardown hook succeeds, and
nothing otherwise. -/
theorem trail_concluded (x : ProposalResult) (o : Outcome HookError Unit) :
    (x.concluded o).trail = x.trail ++ if o.isOk then [.tornDown] else [] := by
  cases o <;> simp [concluded, Outcome.inPhase, Outcome.isOk, record]

end ProposalResult

namespace Outcome

/-- What succeeds in a phase has returned. -/
theorem eq_ok_of_inPhase {α : Type} {o : Outcome HookError α} {phase : Phase} {a : α}
    (h : o.inPhase phase = .ok a) : o = .ok a := by
  cases o with
  | ok b => cases h; rfl
  | error e => cases h
  | panic message => cases h

@[simp] theorem isOk_ok {α : Type} (a : α) : (ok a : Outcome HookError α).isOk = true := rfl

/-- What fails in a phase has not returned. -/
theorem isOk_of_inPhase_eq_error {α : Type} {o : Outcome HookError α} {phase : Phase} {e : RunError}
    (h : o.inPhase phase = .error e) : o.isOk = false := by
  cases o with
  | ok b => cases h
  | error e => rfl
  | panic message => rfl

end Outcome

/-! ## Contexts -/

/-- What the validate hook sees. -/
def Progress.validateContext (previous : Snapshot) (g : Progress σ) : ValidateContext where
  registry := g.registry.current
  previous := previous
  resources := g.result.resources
  outputs := g.outputs
  chain := g.world.chain

namespace Validation

/-- The part of a validation that the hook has no part in: what keeps invariants from being
evaluated, and the assertions on names and of invariants. -/
def declared (p : Proposal σ) (registry : Snapshot) (chain : Chain) :
    List RunError × AssertionSet :=
  checkAll registry chain p.invariants ((signoff p registry).foldl AssertionSet.record .empty)

/-- The validation that the hook's outcome and the set it leaves complete. -/
def completed (p : Proposal σ) (registry : Snapshot) (chain : Chain)
    (outcome : Outcome HookError Unit) (set : AssertionSet) : Validation where
  failures := set.failures
  errors := (declared p registry chain).1 ++
    match outcome.inPhase .validate with
    | .ok () => []
    | .error e => [e]
  evaluated := set.evaluated
  skipped := set.skipped

/-- A validation is completed by what its hook comes to in the set of names and invariants. -/
theorem ofProposal_eq {p : Proposal σ} {ctx : ValidateContext} {rest rest' : σ}
    {outcome : Outcome HookError Unit} {set : AssertionSet}
    (h : p.lifecycle.validate ctx (declared p ctx.registry ctx.chain).2 rest
      = (outcome, set, rest')) :
    ofProposal p ctx rest = (completed p ctx.registry ctx.chain outcome set, rest') := by
  simp only [declared] at h
  simp only [ofProposal, h]
  rfl

end Validation

/-- The registry with resources put in use. -/
def Registry.adding (registry : Registry) (hs : List Handle) : Registry :=
  (registry.merge (.ofHandles hs)).2

namespace Runner

variable (r : Runner σ) (p : Proposal σ) (deploys : Bool) (registry : Registry) (w : World σ)

/-- What the deploy hook sees. -/
def deployContext (previous : Snapshot) : DeployContext :=
  { deployer := r.config.deployer, registry := previous, logging := r.config.logging }

/-- Where a proposal stands before its first step. -/
def started : Progress σ := { result := { id := p.id, category := p.category }, registry, world := w }

/-- Where a proposal stands before its governance. -/
def prepared : Progress σ :=
  inState .deployed (r.configure p registry.current) (r.stage p deploys (started p registry w))

/-- Where a proposal stands before its teardown. -/
def worked : Progress σ :=
  inState .configured (r.govern p registry.current) (r.prepared p deploys registry w)

/-- A proposal is worked up to its teardown, and then torn down. -/
theorem applyProposal_eq : r.applyProposal p deploys registry w
    = r.tearDown p registry.current (r.worked p deploys registry w) := rfl

/-! ## Where a proposal stands -/

/-- Once its resources are merged. -/
def merged (s : Staged) (w : World σ) : Progress σ where
  result :=
    { id := p.id
      category := p.category
      trail := [.pending, .deployed]
      deployInvoked := deploys
      resources := s.resources
      superseded := s.superseded }
  registry := registry.adding s.resources
  world := w
  outputs := s.outputs

/-- Once it is set up. -/
def configured (s : Staged) (w : World σ) : Progress σ :=
  let g := merged p deploys registry s w
  { g with result := { g.result with trail := [.pending, .deployed, .configured] } }

/-- Once its payload is executed and its names are retired. -/
def retired (s : Staged) (receipt : Option Receipt) (registry' : Registry) (w : World σ) :
    Progress σ :=
  let g := configured p deploys registry s w
  { g with result := { g.result with governance := receipt }, registry := registry' }

/-- Once it is validated. -/
def validated (s : Staged) (receipt : Option Receipt) (registry' : Registry) (w : World σ)
    (v : Validation) : Progress σ :=
  let g := retired p deploys registry s receipt registry' w
  { g with
    result :=
      { g.result with
        trail := [.pending, .deployed, .configured] ++ if v.passed then [.validated] else []
        failures := v.errors.map fun error => { phase := .validate, error }
        assertionFailures := v.failures } }

/-! ## Whom a proposal calls -/

/-- What the setup hook sees. -/
def setupContext (s : Staged) : PhaseContext :=
  r.phaseContext registry.current (merged p deploys registry s w)

/-- The calls up to staging. -/
def callsToStaging : List Invocation :=
  if deploys then
    let ctx := r.deployContext registry.current
    [.deploy ctx (p.lifecycle.deploy ctx w).1]
  else []

/-- The calls up to the setup hook, which comes to an outcome. -/
def callsToSetup (s : Staged) (outcome : Outcome HookError Unit) : List Invocation :=
  r.callsToStaging p deploys registry w ++ [.setup (r.setupContext p deploys registry w s) outcome]

/-- The call that executing the payload makes. -/
def executionCalls (registry : Snapshot) (w : World σ) : List Invocation :=
  match p.payload with
  | none => []
  | some payload =>
    if r.config.executeGovernance && p.hasGovernance then
      match payload.calls registry with
      | .error _ => []
      | .ok calls => [.executor (action p calls) (r.executor (action p calls) w).1]
    else []

/-- The calls up to the execution of the payload, which starts from a world. -/
def callsToExecution (s : Staged) (w₂ : World σ) : List Invocation :=
  r.callsToSetup p deploys registry w s (.ok ())
    ++ r.executionCalls p (registry.adding s.resources).current w₂

/-! ## Courses -/

/-- Staging and the setup hook succeed. -/
structure SetUp (s : Staged) (w₁ w₂ : World σ) : Prop where
  staging : r.staged p deploys registry.current w = (.ok s, w₁)
  setup : p.lifecycle.setup (r.setupContext p deploys registry w s) w₁ = (.ok (), w₂)

/-- Staging, the setup hook and the execution of the payload, if it is asked for, succeed. -/
structure Executed (s : Staged) (w₁ w₂ : World σ) (receipt : Option Receipt) (w₃ : World σ) :
    Prop extends SetUp r p deploys registry w s w₁ w₂ where
  execution : r.execute p (registry.adding s.resources).current w₂ = (.ok receipt, w₃)

/-- The ways of a proposal to its teardown: whom it has called, and where it stands. -/
inductive Course : List Invocation → Progress σ → Prop
  | unstaged {e : RunError} {w₁ : World σ}
      (staging : r.staged p deploys registry.current w = (.error e, w₁)) :
      Course (r.callsToStaging p deploys registry w)
        { started p registry w₁ with
          result :=
            { (started p registry w₁).result with
              deployInvoked := deploys
              failures := [{ phase := stagingPhase deploys, error := e }] } }
  | unconfigured {s : Staged} {w₁ w₂ : World σ} {o : Outcome HookError Unit} {e : RunError}
      (staging : r.staged p deploys registry.current w = (.ok s, w₁))
      (setup : p.lifecycle.setup (r.setupContext p deploys registry w s) w₁ = (o, w₂))
      (fails : o.inPhase .setup = .error e) :
      Course (r.callsToSetup p deploys registry w s o)
        { merged p deploys registry s w₂ with
          result := (merged p deploys registry s w₂).result.record .setup e }
  | ungoverned {s : Staged} {w₁ w₂ w₃ : World σ} {e : RunError}
      (setUp : SetUp r p deploys registry w s w₁ w₂)
      (fails : r.execute p (registry.adding s.resources).current w₂ = (.error e, w₃)) :
      Course (r.callsToExecution p deploys registry w s w₂)
        { configured p deploys registry s w₃ with
          result := (configured p deploys registry s w₃).result.record .governance e }
  | unretired {s : Staged} {w₁ w₂ w₃ : World σ} {receipt : Option Receipt} {e : LookupError}
      (executed : Executed r p deploys registry w s w₁ w₂ receipt w₃)
      (fails : (registry.adding s.resources).retireAll p.deprecated.toList = .error e) :
      Course (r.callsToExecution p deploys registry w s w₂)
        { configured p deploys registry s w₃ with
          result :=
            ({ (configured p deploys registry s w₃).result with
              governance := receipt } : ProposalResult).record .governance (.lookup e) }
  | checked {s : Staged} {w₁ w₂ w₃ : World σ} {receipt : Option Receipt} {registry' : Registry}
      {ctx : ValidateContext} {o : Outcome HookError Unit} {set : AssertionSet} {rest : σ}
      (executed : Executed r p deploys registry w s w₁ w₂ receipt w₃)
      (retiring : (registry.adding s.resources).retireAll p.deprecated.toList = .ok registry')
      (context : ctx = (retired p deploys registry s receipt registry' w₃).validateContext
        registry.current)
      (hook : p.lifecycle.validate ctx (Validation.declared p registry'.current w₃.chain).2 w₃.rest
        = (o, set, rest)) :
      Course (r.callsToExecution p deploys registry w s w₂ ++ [.validate ctx o set])
        (validated p deploys registry s receipt registry' { w₃ with rest }
          (.completed p registry'.current w₃.chain o set))

variable {r : Runner σ} {p : Proposal σ} {deploys : Bool} {registry : Registry} {w : World σ}

/-! ## The steps -/

/-- Staging that succeeds puts the resources in use and enters the first state. -/
theorem stage_of_ok {s : Staged} {w₁ : World σ}
    (h : r.staged p deploys registry.current w = (.ok s, w₁)) :
    r.stage p deploys (started p registry w) = merged p deploys registry s w₁ := by
  simp only [stage, started, h]
  rw [ProposalResult.advance_of_mem_next]
  · rfl
  · exact List.mem_cons_self

/-- A setup hook that succeeds lets the proposal be configured. -/
theorem configure_of_ok {s : Staged} {w₁ w₂ : World σ}
    (h : p.lifecycle.setup (r.setupContext p deploys registry w s) w₁ = (.ok (), w₂)) :
    r.configure p registry.current (merged p deploys registry s w₁)
      = configured p deploys registry s w₂ := by
  have h' : p.lifecycle.setup
      (r.phaseContext registry.current (merged p deploys registry s w₁)) w₁ = (.ok (), w₂) := h
  unfold configure
  rw [show (merged p deploys registry s w₁).world = w₁ from rfl, h']
  simp only [Outcome.inPhase]
  rw [ProposalResult.advance_of_mem_next]
  · rfl
  · exact List.mem_cons_self

/-- A proposal whose staging fails has that failure and nothing else. -/
theorem prepared_of_unstaged {e : RunError} {w₁ : World σ}
    (staging : r.staged p deploys registry.current w = (.error e, w₁)) :
    r.prepared p deploys registry w = { started p registry w₁ with
      result :=
        { (started p registry w₁).result with
          deployInvoked := deploys
          failures := [{ phase := stagingPhase deploys, error := e }] } } := by
  simp only [prepared, stage, started, staging]
  rfl

/-- A proposal whose setup hook fails keeps its resources and is not prepared any further. -/
theorem prepared_of_unconfigured {s : Staged} {w₁ w₂ : World σ} {o : Outcome HookError Unit}
    {e : RunError} (staging : r.staged p deploys registry.current w = (.ok s, w₁))
    (setup : p.lifecycle.setup (r.setupContext p deploys registry w s) w₁ = (o, w₂))
    (fails : o.inPhase .setup = .error e) :
    r.prepared p deploys registry w = { merged p deploys registry s w₂ with
      result := (merged p deploys registry s w₂).result.record .setup e } := by
  have setup' : p.lifecycle.setup
    (r.phaseContext registry.current (merged p deploys registry s w₁)) w₁ = (o, w₂) := setup
  rw [prepared, stage_of_ok staging]
  show r.configure p registry.current _ = _
  unfold configure
  rw [show (merged p deploys registry s w₁).world = w₁ from rfl, setup']
  simp only [fails]
  rfl

/-- A proposal whose staging and setup hook succeed is configured. -/
theorem prepared_of_setUp {s : Staged} {w₁ w₂ : World σ}
    (h : SetUp r p deploys registry w s w₁ w₂) :
    r.prepared p deploys registry w = configured p deploys registry s w₂ := by
  rw [prepared, stage_of_ok h.staging]
  exact configure_of_ok h.setup

/-- What a validation finds is written into the result, and the state is entered if it passed. -/
theorem validate_of_eq {s : Staged} {w₃ : World σ} {receipt : Option Receipt}
    {registry' : Registry} {v : Validation} {rest : σ}
    (h : Validation.ofProposal p
      ((retired p deploys registry s receipt registry' w₃).validateContext registry.current) w₃.rest
        = (v, rest)) :
    validate p registry.current (retired p deploys registry s receipt registry' w₃)
      = validated p deploys registry s receipt registry' { w₃ with rest } v := by
  have h' : Validation.ofProposal p _ (retired p deploys registry s receipt registry' w₃).world.rest
      = (v, rest) := h
  rw [Progress.validateContext] at h'
  rw [validate, h', validated]
  simp only [ProposalResult.foldl_record]
  cases v.passed with
  | true =>
    rw [if_pos rfl, ProposalResult.advance_of_mem_next]
    · rfl
    · exact List.mem_cons_self
  | false => rfl

/-- **A course says where the proposal that takes it stands.** -/
theorem Course.eq {calls : List Invocation} {g : Progress σ}
    (h : Course r p deploys registry w calls g) : r.worked p deploys registry w = g := by
  cases h with
  | unstaged staging =>
    rw [worked, prepared_of_unstaged staging]
    rfl
  | unconfigured staging setup fails =>
    rw [worked, prepared_of_unconfigured staging setup fails]
    rfl
  | ungoverned setUp fails =>
    rename_i s w₁ w₂ w₃ e
    rw [worked, prepared_of_setUp setUp]
    show r.govern p registry.current _ = _
    unfold govern
    rw [show (configured p deploys registry s w₂).registry = registry.adding s.resources from rfl,
      show (configured p deploys registry s w₂).world = w₂ from rfl, fails]
    rfl
  | unretired executed fails =>
    rename_i s w₁ w₂ w₃ receipt e
    rw [worked, prepared_of_setUp executed.toSetUp]
    show r.govern p registry.current _ = _
    unfold govern
    rw [show (configured p deploys registry s w₂).registry = registry.adding s.resources from rfl,
      show (configured p deploys registry s w₂).world = w₂ from rfl, executed.execution]
    simp only [fails]
    rfl
  | checked executed retiring context hook =>
    rename_i s w₁ w₂ w₃ receipt registry' ctx o set rest
    subst context
    rw [worked, prepared_of_setUp executed.toSetUp]
    show r.govern p registry.current _ = _
    unfold govern
    rw [show (configured p deploys registry s w₂).registry = registry.adding s.resources from rfl,
      show (configured p deploys registry s w₂).world = w₂ from rfl, executed.execution]
    simp only [retiring]
    exact validate_of_eq (Validation.ofProposal_eq hook)

/-- **Every proposal takes one of the courses.** -/
theorem exists_course (r : Runner σ) (p : Proposal σ) (deploys : Bool) (registry : Registry)
    (w : World σ) : ∃ calls g, Course r p deploys registry w calls g := by
  rcases staging : r.staged p deploys registry.current w with ⟨e | s, w₁⟩
  · exact ⟨_, _, .unstaged staging⟩
  rcases setup : p.lifecycle.setup (r.setupContext p deploys registry w s) w₁ with ⟨o, w₂⟩
  rcases ho : o.inPhase .setup with e | u
  · exact ⟨_, _, .unconfigured staging setup ho⟩
  obtain rfl : o = .ok () := Outcome.eq_ok_of_inPhase ho
  have setUp : SetUp r p deploys registry w s w₁ w₂ := ⟨staging, setup⟩
  rcases execution : r.execute p (registry.adding s.resources).current w₂ with ⟨e | receipt, w₃⟩
  · exact ⟨_, _, .ungoverned setUp execution⟩
  have executed : Executed r p deploys registry w s w₁ w₂ receipt w₃ := ⟨setUp, execution⟩
  rcases retiring : (registry.adding s.resources).retireAll p.deprecated.toList with e | registry'
  · exact ⟨_, _, .unretired executed retiring⟩
  rcases hook : p.lifecycle.validate
    ((retired p deploys registry s receipt registry' w₃).validateContext registry.current)
    (Validation.declared p registry'.current w₃.chain).2 w₃.rest with ⟨o, set, rest⟩
  exact ⟨_, _, .checked executed retiring rfl hook⟩

/-! ## Courses of recorded runs -/

/-- Staging in a recorded run comes to the same and writes down the call of the deploy hook. -/
theorem staged_recorded {x : Except RunError Staged} {w₁ : World σ}
    (h : r.staged p deploys registry.current w = (x, w₁)) (cs : List Invocation) :
    r.recorded.staged p.recorded deploys registry.current (w.recorded cs)
      = (x, w₁.recorded (cs ++ r.callsToStaging p deploys registry w)) := by
  cases deploys with
  | true =>
    cases h
    rfl
  | false =>
    cases h
    rw [show r.callsToStaging p false registry w = [] from rfl, List.append_nil]
    rfl

/-- The setup hook in a recorded run comes to the same and writes down its call. -/
theorem setup_recorded {ctx : PhaseContext} {w w' : World σ} {o : Outcome HookError Unit}
    (h : p.lifecycle.setup ctx w = (o, w')) (cs : List Invocation) :
    p.recorded.lifecycle.setup ctx (w.recorded cs) = (o, w'.recorded (cs ++ [.setup ctx o])) :=
  recording_recorded h cs

/-- Executing in a recorded run comes to the same and writes down the call of the executor. -/
theorem execute_recorded {registry : Snapshot} {w w' : World σ}
    {x : Except RunError (Option Receipt)} (h : r.execute p registry w = (x, w'))
    (cs : List Invocation) :
    r.recorded.execute p.recorded registry (w.recorded cs)
      = (x, w'.recorded (cs ++ r.executionCalls p registry w)) := by
  have payload_eq : p.recorded.payload = p.payload := rfl
  have asks_eq : (r.recorded.config.executeGovernance && p.recorded.hasGovernance)
      = (r.config.executeGovernance && p.hasGovernance) := rfl
  unfold execute at h ⊢
  unfold executionCalls
  rw [payload_eq, asks_eq]
  cases hp : p.payload with
  | none => simp_all
  | some payload =>
    cases ha : r.config.executeGovernance && p.hasGovernance with
    | false => simp_all
    | true =>
      cases hc : payload.calls registry with
      | error e => simp_all
      | ok calls =>
        simp only [hp, ha, hc, if_true] at h ⊢
        cases h
        rfl

/-- Set up in a run, set up in the recorded one. -/
theorem SetUp.recorded {s : Staged} {w₁ w₂ : World σ} (h : SetUp r p deploys registry w s w₁ w₂)
    (cs : List Invocation) :
    SetUp r.recorded p.recorded deploys registry (w.recorded cs) s
      (w₁.recorded (cs ++ r.callsToStaging p deploys registry w))
      (w₂.recorded (cs ++ r.callsToSetup p deploys registry w s (.ok ()))) where
  staging := staged_recorded h.staging cs
  setup := by
    rw [callsToSetup, ← List.append_assoc]
    exact setup_recorded h.setup _

/-- Executed in a run, executed in the recorded one. -/
theorem Executed.recorded {s : Staged} {w₁ w₂ w₃ : World σ} {receipt : Option Receipt}
    (h : Executed r p deploys registry w s w₁ w₂ receipt w₃) (cs : List Invocation) :
    Executed r.recorded p.recorded deploys registry (w.recorded cs) s
      (w₁.recorded (cs ++ r.callsToStaging p deploys registry w))
      (w₂.recorded (cs ++ r.callsToSetup p deploys registry w s (.ok ()))) receipt
      (w₃.recorded (cs ++ r.callsToExecution p deploys registry w s w₂)) where
  toSetUp := h.toSetUp.recorded cs
  execution := by
    rw [callsToExecution, ← List.append_assoc]
    exact execute_recorded h.execution _

/-- The validate hook in a recorded run comes to the same and writes down its call. -/
theorem validate_recorded {ctx : ValidateContext} {set set' : AssertionSet} {own own' : σ}
    {o : Outcome HookError Unit} (h : p.lifecycle.validate ctx set own = (o, set', own'))
    (cs : List Invocation) :
    p.recorded.lifecycle.validate ctx set { own, calls := cs }
      = (o, set', { own := own', calls := cs ++ [.validate ctx o set'] }) := by
  simp [Proposal.recorded, Lifecycle.recorded, h]

/-- A course that is recorded leaves its calls. -/
theorem Course.worked_recorded {calls : List Invocation} {g : Progress σ}
    (h : Course r p deploys registry w calls g) (cs : List Invocation) :
    r.recorded.worked p.recorded deploys registry (w.recorded cs) = g.recorded (cs ++ calls) := by
  cases h with
  | unstaged staging => exact (Course.unstaged (staged_recorded staging cs)).eq
  | unconfigured staging setup fails =>
    rw [callsToSetup, ← List.append_assoc]
    exact (Course.unconfigured (staged_recorded staging cs) (setup_recorded setup _) fails).eq
  | ungoverned setUp fails =>
    rw [callsToExecution, ← List.append_assoc]
    exact (Course.ungoverned (setUp.recorded cs) (execute_recorded fails _)).eq
  | unretired executed fails =>
    exact (Course.unretired (executed.recorded cs) fails).eq
  | checked executed retiring context hook =>
    subst context
    rw [← List.append_assoc]
    exact (Course.checked (executed.recorded cs) retiring rfl (validate_recorded hook _)).eq

/-! ## The teardown -/

/-- From wherever a course ends, the last state may come next. -/
theorem Course.tornDown_mem_next {calls : List Invocation} {g : Progress σ}
    (h : Course r p deploys registry w calls g) : .tornDown ∈ g.result.state.next := by
  cases h with
  | checked executed retiring context hook =>
    rename_i s w₁ w₂ w₃ receipt registry' ctx o set rest
    cases hp : (Validation.completed p registry'.current w₃.chain o set).passed <;>
      simp [validated, hp, ProposalResult.state, ProposalState.next]
  | _ => simp [started, merged, configured, ProposalResult.record, ProposalResult.state,
      ProposalState.next]

/-- Tearing down calls the hook and concludes with what it comes to. -/
theorem tearDown_eq {previous : Snapshot} {g : Progress σ} {o : Outcome HookError Unit}
    {w' : World σ} (hs : .tornDown ∈ g.result.state.next)
    (h : p.lifecycle.teardown (r.phaseContext previous g) g.world = (o, w')) :
    r.tearDown p previous g = { g with result := g.result.concluded o, world := w' } := by
  rw [tearDown, h, ProposalResult.concluded]
  cases ho : o.inPhase .teardown with
  | ok u =>
    simp only [ho]
    rw [ProposalResult.advance_of_mem_next _ hs]
  | error e => simp only [ho]

/-- A proposal that has taken a course is torn down. -/
theorem Course.applyProposal_eq {calls : List Invocation} {g : Progress σ}
    {o : Outcome HookError Unit} {w' : World σ} (h : Course r p deploys registry w calls g)
    (teardown : p.lifecycle.teardown (r.phaseContext registry.current g) g.world = (o, w')) :
    r.applyProposal p deploys registry w
      = { g with result := g.result.concluded o, world := w' } := by
  rw [Runner.applyProposal_eq, h.eq, tearDown_eq h.tornDown_mem_next teardown]

/-- A proposal takes a course and is torn down, and the run that writes down its calls does the
same and leaves those of the course and of the teardown. -/
theorem exists_course_recorded (r : Runner σ) (p : Proposal σ) (deploys : Bool)
    (registry : Registry) (w : World σ) :
    ∃ calls g o w', Course r p deploys registry w calls g ∧
      r.applyProposal p deploys registry w
        = { g with result := g.result.concluded o, world := w' } ∧
      ∀ cs, r.recorded.applyProposal p.recorded deploys registry (w.recorded cs)
        = (r.applyProposal p deploys registry w).recorded
          (cs ++ (calls ++ [.teardown (r.phaseContext registry.current g) o])) := by
  obtain ⟨calls, g, course⟩ := exists_course r p deploys registry w
  rcases teardown : p.lifecycle.teardown (r.phaseContext registry.current g) g.world with ⟨o, w'⟩
  have applied := course.applyProposal_eq teardown
  refine ⟨calls, g, o, w', course, applied, fun cs => ?_⟩
  have teardown' : p.recorded.lifecycle.teardown (r.phaseContext registry.current g)
      (g.world.recorded (cs ++ calls)) = (o, w'.recorded (cs ++ calls ++ [.teardown _ o])) :=
    recording_recorded teardown _
  rw [applyProposal_eq, course.worked_recorded, applied, ← List.append_assoc]
  exact tearDown_eq course.tornDown_mem_next teardown'

/-- **What applying a proposal comes to, and whom it calls.** It takes a course, and whatever
that is, the teardown hook comes last. -/
theorem applyProposal_cases (r : Runner σ) (p : Proposal σ) (deploys : Bool)
    (registry : Registry) (w : World σ) :
    ∃ calls g o w', Course r p deploys registry w calls g ∧
      r.applyProposal p deploys registry w
        = { g with result := g.result.concluded o, world := w' } ∧
      r.calls p deploys registry w
        = calls ++ [.teardown (r.phaseContext registry.current g) o] := by
  obtain ⟨calls, g, o, w', course, applied, recorded⟩ :=
    exists_course_recorded r p deploys registry w
  refine ⟨calls, g, o, w', course, applied, ?_⟩
  rw [Runner.calls, recorded []]
  rfl

/-- The run that writes down its calls is the run without that and the list of calls. -/
theorem applyProposal_recorded (r : Runner σ) (p : Proposal σ) (deploys : Bool)
    (registry : Registry) (w : World σ) (cs : List Invocation) :
    r.recorded.applyProposal p.recorded deploys registry (w.recorded cs)
      = (r.applyProposal p deploys registry w).recorded (cs ++ r.calls p deploys registry w) := by
  obtain ⟨calls, g, o, w', -, -, recorded⟩ := exists_course_recorded r p deploys registry w
  rw [Runner.calls, recorded cs, recorded []]
  rfl

end Runner
end Rollout
