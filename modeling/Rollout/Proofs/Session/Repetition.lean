/-
# A session that is run again and again

A session is asked for its issues and run any number of times, each run in the world that the one
before it left (`Session.runs`). The two questions look at different things: issues are asked of the
registry of the address book, and a run asks them of the registry that it starts from. They agree
because every run starts from that registry, whatever earlier runs did to the chain:

| in each run | is |
| --- | --- |
| the registry at the start | that of the address book |
| the chain and the rest of the world | what earlier runs left |
| the deployer | set, as the environment is not loaded without one |
| the reason for a refusal, if there is one | the issues of the session |

So what a session says of its issues tells for each of its runs whether it is refused, and how
(`Session.agreeing_of_load`).
-/

import Rollout.Session
import Rollout.Proofs.Environment.Loading
import Rollout.Proofs.Run.Admission
import Rollout.Proofs.Run.FinalRegistry

namespace Rollout
namespace Session

variable {τ : Type}

/-- What several runs in a row come to, and the world after them. -/
def runs (s : Session τ) : Nat → World (Simulation τ) →
    List (Except RunError Report) × World (Simulation τ)
  | 0, w => ([], w)
  | n + 1, w =>
    let (x, w') := s.run w
    let (xs, w'') := runs s n w'
    (x :: xs, w'')

/-- What runs the catalogue of a session. -/
def runner (s : Session τ) : Runner (Simulation τ) where
  config := s.config
  executor := .simulated

/-- A run is refused on account of the issues of the session. -/
def Unmet (settings : Settings) (s : Session τ) : Prop :=
  settings.strictDependencies = true ∧ s.issues ≠ []

/-- What the issues of a session have to do with its runs. -/
structure Agreeing (files : Files) (settings : Settings) (s : Session τ) : Prop where
  /-- Issues are those of the registry of the address book. -/
  checked : ∃ book, addressBook files settings = .ok book ∧
    s.environment.baseline = book.registry.current ∧
    s.issues = s.catalogue.issues book.registry.current
  /-- Each of any number of runs comes to an error exactly if dependencies are strict and there are
  issues, and the error is these. -/
  refused_iff : ∀ w n i e, (s.runs n w).1[i]? = some (.error e) ↔
    i < n ∧ Unmet settings s ∧ e = .dependencies s.issues
  /-- None of them lacks a deployer. -/
  deployer : ∀ w n, .error (.configuration .zeroDeployer) ∉ (s.runs n w).1
  /-- One run more starts from the same registry, and in the world that the others left. -/
  started : ∀ w n, s.runs (n + 1) w =
    let (xs, w') := s.runs n w
    let (x, w'') := s.runner.run s.catalogue (.ofSnapshot s.environment.baseline) w'
    (xs ++ [x], w'')
  /-- A run that is refused leaves the world as it is. -/
  unchanged : ∀ w n, Unmet settings s → (s.runs n w).2 = w
  /-- The registry of a report is the one at the start with the results of this run settled, and
  with those of no other. -/
  registry : ∀ w n report, .ok report ∈ (s.runs n w).1 →
    report.registry.current
      = s.environment.baseline.settleAll (s.catalogue.active.zip report.results)

variable {files : Files} {settings : Settings} {hooks : HookBook (Simulation τ)} {s : Session τ}
  {w : World (Simulation τ)}

/-! ## Loading -/

/-- What a session is made of. -/
theorem of_load (h : load files settings hooks = .ok s) :
    ∃ book, addressBook files settings = .ok book ∧
      s.environment.baseline = book.registry.current ∧
      s.config = settings.runConfig ∧ settings.environment.deployer ≠ .zero := by
  simp only [load, bind_eq_ok_iff, mapError_eq_ok_iff] at h
  obtain ⟨book, addresses, genesis, -, catalogue, -, environment, loaded, made⟩ := h
  cases made
  obtain ⟨admissible, rfl⟩ := Environment.load_eq_ok_iff.1 loaded
  exact ⟨book, addresses, rfl, rfl, admissible.deployer⟩

/-! ## One run -/

/-- A session is run by its runner on its catalogue and its baseline. -/
theorem run_eq (s : Session τ) (w : World (Simulation τ)) :
    s.run w = s.runner.run s.catalogue (.ofSnapshot s.environment.baseline) w := rfl

/-- Issues of a session are those that its run asks for. -/
theorem issues_eq (s : Session τ) :
    s.issues = s.catalogue.issues (Registry.ofSnapshot s.environment.baseline).current := rfl

/-- A session whose issues are unmet is refused for them and changes nothing. -/
theorem run_of_unmet (h : load files settings hooks = .ok s) (unmet : Unmet settings s)
    (w : World (Simulation τ)) : s.run w = (.error (.dependencies s.issues), w) := by
  obtain ⟨book, -, -, config, deployer⟩ := of_load h
  have set : s.runner.config.deployer ≠ .zero := by rwa [runner, config]
  have strict : s.runner.config.strictDependencies = true := by
    rw [runner, config]
    exact unmet.1
  rw [run_eq, issues_eq]
  exact Runner.run_of_refused (Runner.refusal?_of_issues set strict unmet.2)

/-- A session whose issues are not unmet comes to a report. -/
theorem exists_run_of_not_unmet (h : load files settings hooks = .ok s)
    (met : ¬ Unmet settings s) (w : World (Simulation τ)) :
    ∃ report w', s.run w = (.ok report, w') := by
  obtain ⟨book, -, -, config, deployer⟩ := of_load h
  have free : ¬ s.runner.Barred s.catalogue s.environment.baseline := by
    rw [Runner.Barred, runner, config]
    rintro (zero | unmet)
    · exact deployer zero
    · exact met unmet
  exact ⟨_, _, Runner.run_of_accepted (Runner.refusal?_eq_none_iff.2 free)⟩

/-- A run of a session fails exactly for its unmet issues. -/
theorem run_eq_error_iff (h : load files settings hooks = .ok s) {e : RunError} :
    (s.run w).1 = .error e ↔ Unmet settings s ∧ e = .dependencies s.issues := by
  by_cases unmet : Unmet settings s
  · rw [run_of_unmet h unmet]
    simp [unmet, eq_comm]
  · obtain ⟨report, w', accepted⟩ := exists_run_of_not_unmet h unmet w
    rw [accepted]
    simp [unmet]

/-! ## Several runs -/

/-- One run more comes last. -/
theorem runs_succ (s : Session τ) (n : Nat) (w : World (Simulation τ)) :
    s.runs (n + 1) w
      = ((s.runs n w).1 ++ [(s.run (s.runs n w).2).1], (s.run (s.runs n w).2).2) := by
  induction n generalizing w with
  | zero => rfl
  | succ n ih =>
    show ((s.run w).1 :: (s.runs (n + 1) (s.run w).2).1, (s.runs (n + 1) (s.run w).2).2) = _
    rw [ih]
    rfl

/-- Each of several runs is one run, in the world that those before it left. -/
theorem getElem?_runs (s : Session τ) (n : Nat) (w : World (Simulation τ)) (i : Nat) :
    (s.runs n w).1[i]? = if i < n then some (s.run (s.runs i w).2).1 else none := by
  induction n generalizing w i with
  | zero => rfl
  | succ n ih =>
    cases i with
    | zero => rfl
    | succ i =>
      rw [runs, List.getElem?_cons_succ, ih]
      simp only [Nat.add_lt_add_iff_right]
      rfl

/-- Each of several runs is one run from some world. -/
theorem exists_of_mem_runs {n : Nat} {x : Except RunError Report} (h : x ∈ (s.runs n w).1) :
    ∃ w', x = (s.run w').1 := by
  obtain ⟨i, hi⟩ := List.mem_iff_getElem?.1 h
  rw [getElem?_runs] at hi
  split at hi
  · exact ⟨_, (Option.some.inj hi).symm⟩
  · cases hi

/-- **What a session says of its issues, each of its runs says.** It is refused exactly if
dependencies are strict and there are issues, for these and for no other reason, as often as it is
run; and each run starts from the registry of the address book, in the world that earlier runs
left. -/
theorem agreeing_of_load (h : load files settings hooks = .ok s) : Agreeing files settings s := by
  constructor
  case checked =>
    obtain ⟨book, addresses, baseline, -, -⟩ := of_load h
    exact ⟨book, addresses, baseline, congrArg s.catalogue.issues baseline⟩
  case refused_iff =>
    intro w n i e
    rw [getElem?_runs]
    by_cases earlier : i < n
    · rw [if_pos earlier, Option.some.injEq, run_eq_error_iff h]
      simp only [earlier, true_and]
    · rw [if_neg earlier]
      simp only [earlier, false_and, reduceCtorEq]
  case deployer =>
    intro w n mem
    obtain ⟨w', same⟩ := exists_of_mem_runs mem
    cases ((run_eq_error_iff h).1 same.symm).2
  case started =>
    intro w n
    rw [runs_succ, run_eq]
  case unchanged =>
    intro w n unmet
    induction n with
    | zero => rfl
    | succ n ih => rw [runs_succ, ih, run_of_unmet h unmet]
  case registry =>
    intro w n report mem
    obtain ⟨w', same⟩ := exists_of_mem_runs mem
    have ran : s.run w' = (.ok report, (s.run w').2) := Prod.ext same.symm rfl
    rw [run_eq] at ran
    exact Runner.final_of_run ran

end Session

/-! ## A small system

A core, a proposal that deploys a pool, and one that retires what nobody has. -/

namespace Outpost

/-- The book and the catalogue of the system. -/
def files : Files
  | "addresses.json" =>
    some "\x7b\"core\": \"0x0000000000000000000000000000000000000001\"\x7d"
  | "catalogue.json" =>
    some "\x7b\"add\":
      [true, 0, [\"add\"], null, [\"pool\"], [], \"DAO\", null, [], [[\"pool\", \"Pool\"]]],
      \"drop\": [false, 0, [\"drop\"], null, [], [\"ghost\"]]\x7d"
  | _ => none

/-- Settings by which runs are strict. -/
def settings : Settings where
  environment := { deployer := .ofNat 9 }

/-- Settings by which they are not. -/
def lax : Settings := { settings with strictDependencies := false }

/-- The issue that the second proposal has. -/
def unmet : Issue := { proposal := "drop", name := "ghost", kind := .missing }

end Outpost

namespace Session

/-- Nobody has what the second proposal of the small system would retire. So each of its runs is
refused for that. -/
theorem agreeing_of_load_outpost : ∃ s : Session Unit,
    load Outpost.files Outpost.settings .empty = .ok s ∧
      s.issues = [Outpost.unmet] ∧ Agreeing Outpost.files Outpost.settings s := by
  have loaded : (load Outpost.files Outpost.settings .empty).map (issues : Session Unit → _)
      = .ok [Outpost.unmet] := by decide +kernel
  obtain ⟨s, load, issues⟩ := map_eq_ok_iff.1 loaded
  exact ⟨s, load, issues, agreeing_of_load load⟩

/-- Where dependencies are not strict, two runs deploy two pools. The chain keeps the first, and the
second run starts from a registry that has none. -/
example :
    let pool? (x : Except RunError Report) : Option Address := do
      ((← x.toOption).registry.current.address "pool").toOption
    let pools (s : Session Unit) : List Address := (s.runs 2 (s.world ())).1.filterMap pool?
    (load Outpost.files Outpost.lax .empty).map
        (fun s => let ps := pools s; (ps.length, decide ps.Nodup))
      = .ok (2, true) := by
  decide +kernel

end Session
end Rollout
