/-
# Live contracts have code

A registry says where contracts stand, and the chain whether something stands there. They agree
(`Backed`) when an environment is loaded that verifies code, and they go on agreeing: a proposal
brings in only resources that its deploy hook has created or that were live before, and nothing
takes code away again.

| course ends | chain | registry |
| --- | --- | --- |
| while deploying | has what was created so far | as before |
| in setup or governance | has all that was created | with all that was created |
| later | as governance leaves it | the same, names retired |

This is shown for any hooks that create what they say they create (`Lifecycle.Truthful`), of which
declared deployments are one kind, and for any executor that takes no code away.
-/

import Rollout.Proofs.Chain.Code
import Rollout.Proofs.Environment.Loading
import Rollout.Proofs.Lifecycle.Deploying
import Rollout.Proofs.Run.Sequence
import Rollout.Proofs.Run.Steps

namespace Rollout

/-! ## Resources -/

/-- A chain has code for a resource that is a contract. -/
def Chain.Hosts (c : Chain) (h : Handle) : Prop :=
  h.kind.isContract = true → c.hasCode h.address = true

/-- Where code stays, what hosts a resource still does. -/
theorem Chain.CodeKept.hosts {c c' : Chain} (kept : c.CodeKept c') {h : Handle} (hosts : c.Hosts h) :
    c'.Hosts h := fun contract => kept.hasCode _ (hosts contract)

/-- Every live entry that is a contract has code on the chain at its address. -/
def Backed (s : Snapshot) (c : Chain) : Prop :=
  ∀ n h, s.get n = .ok h → h.kind.isContract = true → c.hasCode h.address = true

namespace Backed

variable {s : Snapshot} {c c' : Chain}

/-- Behind a live name of a backed registry there is what hosts its resource. -/
theorem hosts (backed : Backed s c) {n : String} {h : Handle} (hg : s.get n = .ok h) :
    c.Hosts h := backed n h hg

/-- Where code stays, a backed registry stays backed. -/
theorem mono (backed : Backed s c) (kept : c.CodeKept c') : Backed s c' :=
  fun _ _ hg => kept.hosts (backed.hosts hg)

/-- A registry of resources that are hosted is backed. -/
theorem ofHandles {hs : List Handle} (hosts : ∀ h ∈ hs, c.Hosts h) :
    Backed (.ofHandles hs) c := by
  intro n h hg
  rw [Snapshot.get_eq_ok_iff, Snapshot.find?_ofHandles, Option.map_eq_some_iff] at hg
  obtain ⟨k, found, live⟩ := hg
  cases live
  exact hosts h (List.mem_reverse.1 (List.mem_of_find?_eq_some found))

/-- Backed registries are merged to a backed one. -/
theorem merge {s' : Snapshot} (backed : Backed s c) (backed' : Backed s' c) :
    Backed (s.merge s') c := by
  intro n h hg
  rw [Snapshot.get_eq_ok_iff, Snapshot.find?_merge, Option.or_eq_some_iff] at hg
  rcases hg with second | ⟨-, first⟩
  · exact backed'.hosts (Snapshot.get_eq_ok_iff.2 second)
  · exact backed.hosts (Snapshot.get_eq_ok_iff.2 first)

/-- A name that is not retired has the resource that it had. -/
theorem foldl_retire (backed : Backed s c) (ns : List String) :
    Backed (ns.foldl Snapshot.retire s) c := by
  intro n h hg
  have kept : n ∉ ns := (Snapshot.isLive_foldl_retire.1 (Snapshot.isLive_iff.2 ⟨h, hg⟩)).1
  rw [Snapshot.get_eq_ok_iff, Snapshot.find?_foldl_retire] at hg
  simp only [if_neg kept, Option.map_id_fun', id_eq] at hg
  exact backed.hosts (Snapshot.get_eq_ok_iff.2 hg)

end Backed

/-! ## Environments -/

namespace Environment

/-- **An environment that verifies code starts from a registry that has code.** -/
theorem backed_initial {config : EnvironmentConfig} {book : AddressBook} {c : Chain}
    {env : Environment} (loaded : load config book c = .ok env)
    (verifies : config.verifyCode = true) : Backed env.initial.current c := by
  obtain ⟨admissible, rfl⟩ := load_eq_ok_iff.1 loaded
  refine .ofHandles fun h hh contract => ?_
  obtain ⟨e, he, rfl⟩ := List.mem_map.1 hh
  exact admissible.standing verifies e he contract

end Environment

/-! ## Hooks -/

variable {σ : Type}

/-- Hooks that take no code away, and deploy no contract that then has no code. -/
structure Lifecycle.Truthful (l : Lifecycle σ) : Prop where
  deploy : ∀ (ctx : DeployContext) (w : World σ), w.chain.CodeKept (l.deploy ctx w).2.chain
  resources : ∀ (ctx : DeployContext) (w : World σ) (d : Deployment),
    (l.deploy ctx w).1 = .ok d → ∀ h ∈ d.resources, (l.deploy ctx w).2.chain.Hosts h
  setup : ∀ (ctx : PhaseContext) (w : World σ), w.chain.CodeKept (l.setup ctx w).2.chain
  teardown : ∀ (ctx : PhaseContext) (w : World σ), w.chain.CodeKept (l.teardown ctx w).2.chain

namespace DeploymentSpec

variable {deployer : Address} {specs : List DeploymentSpec} {scope : Snapshot} {c : Chain}

/-- Creating contracts takes no code away, also if it ends with an error. -/
theorem codeKept_deployAll (deployer : Address) (specs : List DeploymentSpec) (scope : Snapshot)
    (c : Chain) : c.CodeKept (deployAll deployer specs scope c).2 := by
  obtain ⟨m, built⟩ := (ending_deployAll deployer scope specs c).exists_built
  exact ⟨fun a coded => (built.code a).2 (.inl coded)⟩

/-- If a list is created to its end, there is code at each address handed out. -/
theorem hasCode_deployAll {hs : List Handle} (h : (deployAll deployer specs scope c).1 = .ok hs) :
    ∀ x ∈ hs, (deployAll deployer specs scope c).2.hasCode x.address = true := by
  have ending := ending_deployAll deployer scope specs c
  rw [h] at ending
  cases ending with
  | completed resolves built =>
    intro x hx
    rw [List.drop_zero, handles, List.mem_mapIdx] at hx
    obtain ⟨i, within, rfl⟩ := hx
    exact (built.code _).2 (.inr ⟨i, within, rfl⟩)

end DeploymentSpec

namespace Lifecycle

/-- Hooks that do nothing are truthful. -/
theorem truthful_idle : (idle : Lifecycle σ).Truthful where
  deploy _ w := .refl w.chain
  resources := by
    rintro ctx w d ⟨⟩ h hh
    cases hh
  setup _ w := .refl w.chain
  teardown _ w := .refl w.chain

/-- **A declared deployment is where it says it is.** If it ends halfway, what it has created is on
the chain and nothing is handed out. -/
theorem truthful_declared (specs : List DeploymentSpec) :
    (declared specs : Lifecycle σ).Truthful where
  deploy ctx w := DeploymentSpec.codeKept_deployAll ..
  resources := by
    intro ctx w d h x hx _
    cases created : (DeploymentSpec.deployAll ctx.deployer specs ctx.registry w.chain).1 with
    | error e =>
      simp only [declared, created] at h
      cases h
    | ok hs =>
      simp only [declared, created] at h
      cases h
      exact DeploymentSpec.hasCode_deployAll created x hx
  setup _ w := .refl w.chain
  teardown _ w := .refl w.chain

end Lifecycle

namespace Runner

variable {r : Runner σ} {p : Proposal σ} {deploys : Bool} {registry : Registry} {w : World σ}

/-! ## One proposal -/

/-- Staging takes no code away. -/
theorem codeKept_staged (truthful : p.lifecycle.Truthful) {previous : Snapshot} {w₁ : World σ}
    {x : Except RunError Staged} (h : r.staged p deploys previous w = (x, w₁)) :
    w.chain.CodeKept w₁.chain := by
  cases deploys with
  | true =>
    cases h
    exact truthful.deploy ..
  | false =>
    cases h
    exact .refl _

/-- What is brought in has code: it has just been created, or it was live before. -/
theorem hosts_of_staged (truthful : p.lifecycle.Truthful) {previous : Snapshot} {s : Staged}
    {w₁ : World σ} (backed : Backed previous w.chain)
    (h : r.staged p deploys previous w = (.ok s, w₁)) : ∀ x ∈ s.resources, w₁.chain.Hosts x := by
  obtain ⟨had, -⟩ := staged_eq_ok_iff.1 h
  rw [deployment] at had
  cases deploys with
  | true =>
    obtain ⟨deployed, rfl⟩ := Prod.mk.inj had
    exact truthful.resources _ _ _ (Outcome.eq_ok_of_inPhase deployed)
  | false =>
    obtain ⟨found, rfl⟩ := Prod.mk.inj had
    cases hf : Staged.find previous p.expected.toList with
    | error e =>
      rw [hf] at found
      cases found
    | ok hs =>
      rw [hf] at found
      have resources : hs = s.resources := congrArg Deployment.resources (Except.ok.inj found)
      exact fun x hx => backed.hosts ((Staged.find_eq_ok hf).2 x (resources ▸ hx))

/-- Executing takes no code away. -/
theorem codeKept_execute (sparing : r.executor.Sparing) {s : Snapshot} {w' : World σ}
    {x : Except RunError (Option Receipt)} (h : r.execute p s w = (x, w')) :
    w.chain.CodeKept w'.chain := by
  have step := execution_of_eq h
  generalize r.executionCalls p s w = calls at step
  cases step with
  | unasked => exact .refl _
  | unresolved asked calls => exact .refl _
  | called asked resolved execution outcome =>
    rename_i payload calls o
    have kept := sparing (action p calls) w
    rwa [execution] at kept

/-- From one registry and world to another no code is lost, and if the first two agree, so do the
others. -/
structure Sound (registry : Registry) (w : World σ) (registry' : Registry) (w' : World σ) :
    Prop where
  code : w.chain.CodeKept w'.chain
  backed : Backed registry.current w.chain → Backed registry'.current w'.chain

namespace Sound

variable {registry₁ registry₂ : Registry} {w₁ w₂ : World σ}

/-- A registry that stays as it is stays backed where code stays. -/
theorem of_codeKept (registry : Registry) (kept : w.chain.CodeKept w₁.chain) :
    Sound registry w registry w₁ :=
  ⟨kept, fun backed => backed.mono kept⟩

/-- Doing nothing is sound. -/
theorem refl (registry : Registry) (w : World σ) : Sound registry w registry w :=
  .of_codeKept registry (.refl _)

/-- What is sound is sound one after the other. -/
theorem trans (h : Sound registry w registry₁ w₁) (h' : Sound registry₁ w₁ registry₂ w₂) :
    Sound registry w registry₂ w₂ :=
  ⟨h.code.trans h'.code, fun backed => h'.backed (h.backed backed)⟩

/-- Putting the resources of a truthful hook in use is sound. -/
theorem of_staged (truthful : p.lifecycle.Truthful) {s : Staged}
    (h : r.staged p deploys registry.current w = (.ok s, w₁)) :
    Sound registry w (registry.adding s.resources) w₁ where
  code := codeKept_staged truthful h
  backed := fun backed => (backed.mono (codeKept_staged truthful h)).merge
    (.ofHandles (hosts_of_staged truthful backed h))

/-- A truthful setup hook is sound. -/
theorem of_setup (truthful : p.lifecycle.Truthful) (registry : Registry) {ctx : PhaseContext}
    {o : Outcome HookError Unit} (h : p.lifecycle.setup ctx w = (o, w₁)) :
    Sound registry w registry w₁ := by
  have kept := truthful.setup ctx w
  rw [h] at kept
  exact .of_codeKept registry kept

/-- A truthful teardown hook is sound. -/
theorem of_teardown (truthful : p.lifecycle.Truthful) (registry : Registry) {ctx : PhaseContext}
    {o : Outcome HookError Unit} (h : p.lifecycle.teardown ctx w = (o, w₁)) :
    Sound registry w registry w₁ := by
  have kept := truthful.teardown ctx w
  rw [h] at kept
  exact .of_codeKept registry kept

/-- Executing is sound. -/
theorem of_execute (sparing : r.executor.Sparing) (registry : Registry) {s : Snapshot}
    {x : Except RunError (Option Receipt)} (h : r.execute p s w = (x, w₁)) :
    Sound registry w registry w₁ :=
  .of_codeKept registry (codeKept_execute sparing h)

/-- A name that is out of use need not have code. -/
theorem of_retireAll {ns : List String} (h : registry.retireAll ns = .ok registry₁)
    (w : World σ) : Sound registry w registry₁ w := by
  refine ⟨.refl _, fun backed => ?_⟩
  rw [(Registry.retireAll_eq_ok_iff.1 h).2]
  exact backed.foldl_retire ns

end Sound

/-- A proposal is set up soundly. -/
theorem SetUp.sound (truthful : p.lifecycle.Truthful) {s : Staged} {w₁ w₂ : World σ}
    (h : SetUp r p deploys registry w s w₁ w₂) :
    Sound registry w (registry.adding s.resources) w₂ :=
  (Sound.of_staged truthful h.staging).trans (.of_setup truthful _ h.setup)

/-- A proposal comes to its validation soundly. -/
theorem Executed.sound (truthful : p.lifecycle.Truthful) (sparing : r.executor.Sparing)
    {s : Staged} {w₁ w₂ w₃ : World σ} {receipt : Option Receipt}
    (h : Executed r p deploys registry w s w₁ w₂ receipt w₃) :
    Sound registry w (registry.adding s.resources) w₃ :=
  (h.toSetUp.sound truthful).trans (.of_execute sparing _ h.execution)

/-- **Whatever course a proposal takes, registry and chain agree after it.** -/
theorem Course.sound (truthful : p.lifecycle.Truthful) (sparing : r.executor.Sparing)
    {calls : List Invocation} {g : Progress σ} (h : Course r p deploys registry w calls g) :
    Sound registry w g.registry g.world := by
  cases h with
  | unstaged staging => exact .of_codeKept registry (codeKept_staged truthful staging)
  | unconfigured staging setup fails =>
    exact (Sound.of_staged truthful staging).trans (.of_setup truthful _ setup)
  | ungoverned setUp fails => exact (setUp.sound truthful).trans (.of_execute sparing _ fails)
  | unretired executed fails => exact executed.sound truthful sparing
  | checked executed retiring context hook =>
    -- Validation leaves the chain alone, so it ends where the names are retired.
    have retired := (executed.sound truthful sparing).trans (.of_retireAll retiring _)
    exact ⟨retired.code, retired.backed⟩

/-- **A proposal with truthful hooks is sound**, whatever becomes of it. -/
theorem sound_applyProposal (truthful : p.lifecycle.Truthful) (sparing : r.executor.Sparing)
    (deploys : Bool) (registry : Registry) (w : World σ) :
    Sound registry w (r.applyProposal p deploys registry w).registry
      (r.applyProposal p deploys registry w).world := by
  obtain ⟨calls, g, course⟩ := exists_course r p deploys registry w
  rcases teardown : p.lifecycle.teardown (r.phaseContext registry.current g) g.world with ⟨o, w'⟩
  rw [course.applyProposal_eq teardown]
  exact (course.sound truthful sparing).trans (.of_teardown truthful _ teardown)

/-! ## All proposals -/

variable {c : Catalogue σ}

/-- Several proposals with truthful hooks are sound. -/
theorem sound_applyAll {ps : List (Proposal σ)} (truthful : ∀ p ∈ ps, p.lifecycle.Truthful)
    (sparing : r.executor.Sparing) (registry : Registry) (w : World σ) :
    Sound registry w (r.applyAll c ps registry w).2.1 (r.applyAll c ps registry w).2.2 :=
  applyAll_induction (P := Sound registry w) (.refl registry w) fun p hp registry' w' sound =>
    sound.trans (sound_applyProposal (truthful p hp) sparing _ registry' w')

/-- A run takes no code away, also if it is refused. -/
theorem codeKept_run (truthful : ∀ p ∈ c.active, p.lifecycle.Truthful)
    (sparing : r.executor.Sparing) (initial : Registry) (w : World σ) :
    w.chain.CodeKept (r.run c initial w).2.chain := by
  rw [run]
  cases r.refusal? c initial.current with
  | some e => exact .refl _
  | none => exact (sound_applyAll truthful sparing initial w).code

/-- Registry and chain agree all along a run. -/
structure Consistent (r : Runner σ) (c : Catalogue σ) (initial : Registry) (w : World σ) :
    Prop where
  /-- They do before the first proposal and after each, whatever became of it. -/
  left : ∀ i, Backed (r.left c initial w i).1.current (r.left c initial w i).2.chain
  /-- They do at the end. -/
  final : ∀ report w', r.run c initial w = (.ok report, w') →
    Backed report.registry.current w'.chain
  /-- No proposal takes code away. -/
  code : ∀ i, w.chain.CodeKept (r.left c initial w i).2.chain

/-- A run that starts with a backed registry is consistent. -/
theorem consistent_of_backed {initial : Registry}
    (truthful : ∀ p ∈ c.active, p.lifecycle.Truthful) (sparing : r.executor.Sparing)
    (backed : Backed initial.current w.chain) : Consistent r c initial w := by
  have sound : ∀ i, Sound initial w (r.left c initial w i).1 (r.left c initial w i).2 := fun i =>
    sound_applyAll (fun p hp => truthful p (List.mem_of_mem_take hp)) sparing initial w
  refine ⟨fun i => (sound i).backed backed, fun report w' h => ?_, fun i => (sound i).code⟩
  have whole := sound_applyAll (c := c) truthful sparing initial w
  rw [(run_eq_ok h).2.1] at whole
  exact whole.backed backed

end Runner

/-! ## Simulated runs -/

/-- All proposals of a catalogue have declared deployments or hooks that do nothing. -/
def Catalogue.Declared (c : Catalogue σ) : Prop :=
  ∀ p ∈ c.active, p.lifecycle = .idle ∨ ∃ specs, p.lifecycle = .declared specs

/-- The hooks of a declared catalogue are truthful. -/
theorem Catalogue.Declared.truthful {c : Catalogue σ} (h : c.Declared) :
    ∀ p ∈ c.active, p.lifecycle.Truthful := by
  intro p hp
  rcases h p hp with idle | ⟨specs, declared⟩
  · rw [idle]
    exact Lifecycle.truthful_idle
  · rw [declared]
    exact Lifecycle.truthful_declared specs

/-- A simulated chain has come from one state to another, by operations and by runs. -/
inductive Chain.History (c : Chain) : Chain → Prop
  | refl : History c c
  | operation {s s' : Operation.System} {o : Operation} {answer : Operation.Answer}
      (before : History c s.chain) (performed : o.perform s = .ok (answer, s')) :
      History c s'.chain
  | run {τ : Type} {r : Runner (Simulation τ)} {catalogue : Catalogue (Simulation τ)}
      {initial : Registry} {w w' : World (Simulation τ)} {x : Except RunError Report}
      (before : History c w.chain) (simulated : r.executor = .simulated)
      (declared : catalogue.Declared) (ran : r.run catalogue initial w = (x, w')) :
      History c w'.chain

/-- A chain with a history keeps its code. -/
theorem Chain.History.codeKept {c c' : Chain} (h : c.History c') : c.CodeKept c' := by
  induction h with
  | refl => exact .refl c
  | operation before performed ih => exact ih.trans (Operation.codeKept_perform performed)
  | run before simulated declared ran ih =>
    rename_i r catalogue initial w w' x
    have kept : w.chain.CodeKept (r.run catalogue initial w).2.chain :=
      Runner.codeKept_run declared.truthful (simulated ▸ Executor.sparing_simulated) initial w
    rw [ran] at kept
    exact ih.trans kept

namespace Runner

/-- **Live contracts have code.** If an environment is loaded that verifies code, then at any time
after that a run from its registry, of a catalogue whose deployments are declared, keeps registry
and chain in agreement: after each proposal, passed or failed in whatever phase, every live entry
that is a contract has code at its address. -/
theorem consistent_of_load {τ : Type} {config : EnvironmentConfig} {book : AddressBook}
    {chain : Chain} {env : Environment} {r : Runner (Simulation τ)}
    {c : Catalogue (Simulation τ)} {w : World (Simulation τ)}
    (loaded : Environment.load config book chain = .ok env) (verifies : config.verifyCode = true)
    (history : chain.History w.chain) (simulated : r.executor = .simulated)
    (declared : c.Declared) : Consistent r c env.initial w :=
  consistent_of_backed declared.truthful (simulated ▸ Executor.sparing_simulated)
    ((Environment.backed_initial loaded verifies).mono history.codeKept)

end Runner

namespace Drill

/-- A book with the core in it and nothing else. -/
def book : AddressBook := AddressBook.withEntry .empty "core" core.address .core

/-- A configuration that asks for code behind the entries of the book. -/
def verifying : EnvironmentConfig := { deployer := .ofNat 9, verifyCode := true }

/-- A chain on which the core has code. -/
def ground : World (Simulation Unit) :=
  { chain := Chain.empty.install core.address "Core", rest := { own := () } }

/-- A vault on the core. -/
def vault : List DeploymentSpec :=
  [{ name := "vault", artifact := "Vault", arguments := [.text "\x7bcore\x7d"] }]

/-- An oracle, and a peg on what nobody provides. -/
def peg : List DeploymentSpec :=
  [{ name := "oracle", artifact := "Oracle" },
    { name := "peg", artifact := "Peg", arguments := [.text "\x7bnobody\x7d"] }]

/-- A catalogue that builds a vault on the core, begins to build a peg, and retires the core. -/
def building : Catalogue (Simulation Unit) where
  slots := [
    .active { id := "vault", lifecycle := .declared vault },
    .active { id := "peg", lifecycle := .declared peg },
    .active { id := "retire", deploys := false, deprecated := .ofList ["core"] }]
  distinct := by decide

/-- The hooks of the catalogue are declared. -/
theorem declared_building : building.Declared := by
  intro p hp
  simp only [Catalogue.active, building, List.filterMap_cons, Slot.proposal?, List.filterMap_nil,
    List.mem_cons, List.not_mem_nil, or_false] at hp
  rcases hp with rfl | rfl | rfl
  · exact .inr ⟨vault, rfl⟩
  · exact .inr ⟨peg, rfl⟩
  · exact .inl rfl

/-- The simulated runner. -/
def builder : Runner (Simulation Unit) where
  config := { deployer := .ofNat 9 }
  executor := .simulated

end Drill

/-- Of what is built only the vault is live. The oracle stands on the chain, although its proposal
fails. -/
theorem Runner.consistent_of_load_building : ∃ env report w',
    Environment.load Drill.verifying Drill.book Drill.ground.chain = .ok env ∧
    Drill.builder.run Drill.building env.initial Drill.ground = (.ok report, w') ∧
    report.results.map (·.failures.map (·.phase)) = [[], [.deploy], []] ∧
    report.registry.current.liveNames = ["vault"] ∧
    w'.chain.hasCode (Chain.deploymentAddress (.ofNat 9) 1) = true ∧
    Consistent Drill.builder Drill.building env.initial Drill.ground := by
  have loaded : Environment.load Drill.verifying Drill.book Drill.ground.chain
      = .ok { config := Drill.verifying, baseline := Drill.book.registry.current } := rfl
  exact ⟨_, _, _, loaded, rfl, rfl, by decide +kernel, by decide +kernel,
    consistent_of_load loaded rfl .refl rfl Drill.declared_building⟩

end Rollout
