/-
# Code is never taken away

Where a chain has code, it has code ever after. A write to an account leaves its artifact or puts
another in its place, and the other writes do not touch accounts:

| write | artifacts |
| --- | --- |
| `install`, `deploy` | one is put |
| other writes to accounts | as before |
| writes to roles, tokens and nonces | as before |

So no accepted call takes code away (`Chain.CodeKept.of_apply`), and with it no action of
governance (`Executor.sparing_simulated`) and no history of operations
(`Operation.codeKept_performAll`).
-/

import Rollout.Lifecycle
import Rollout.Proofs.Chain.Reads
import Rollout.Proofs.Chain.Submission

namespace Rollout

namespace Chain

/-- Wherever one chain has code, so has the other. -/
structure CodeKept (c c' : Chain) : Prop where
  hasCode : ∀ a, c.hasCode a = true → c'.hasCode a = true

namespace CodeKept

variable {c c' d : Chain}

/-- Doing nothing takes no code away. -/
theorem refl (c : Chain) : CodeKept c c := ⟨fun _ h => h⟩

/-- Steps that take no code away take none away together. -/
theorem trans (h : CodeKept c c') (h' : CodeKept c' d) : CodeKept c d :=
  ⟨fun a ha => h'.hasCode a (h.hasCode a ha)⟩

/-- A change to an account that leaves an artifact where one is. -/
theorem updateAccount (c : Chain) (a : Address) {f : Account → Account}
    (hf : ∀ x, x.artifact.isSome = true → (f x).artifact.isSome = true) :
    CodeKept c (c.updateAccount a f) := by
  refine ⟨fun b hb => ?_⟩
  rw [Chain.hasCode, account_updateAccount]
  by_cases h : b = a
  · rw [if_pos h]
    exact hf _ (h ▸ hb)
  · rw [if_neg h]
    exact hb

/-- A change to anything but accounts. -/
theorem of_accounts (h : c'.accounts = c.accounts) : CodeKept c c' := by
  refine ⟨fun a ha => ?_⟩
  rwa [Chain.hasCode, account, h]

/-! ## Writes -/

/-- Funding an account takes no code away. -/
theorem fund (c : Chain) (a : Address) (amount : Amount) : CodeKept c (c.fund a amount) :=
  .updateAccount _ _ fun _ h => h

/-- Setting a native balance takes no code away. -/
theorem setNative (c : Chain) (a : Address) (amount : Amount) :
    CodeKept c (c.setNative a amount) :=
  .updateAccount _ _ fun _ h => h

/-- Installing a contract takes no code away, its own address included. -/
theorem install (c : Chain) (a : Address) (artifact : String) :
    CodeKept c (c.install a artifact) :=
  .updateAccount _ _ fun _ _ => rfl

/-- Setting a reading takes no code away. -/
theorem setOracle (c : Chain) (a : Address) (r : Reading) : CodeKept c (c.setOracle a r) :=
  .updateAccount _ _ fun _ h => h

/-- Pausing a contract takes no code away. -/
theorem setPaused (c : Chain) (a : Address) (paused : Bool) : CodeKept c (c.setPaused a paused) :=
  .updateAccount _ _ fun _ h => h

/-- Setting a slot takes no code away. -/
theorem setStorage (c : Chain) (a : Address) (key : String) (v : Value) :
    CodeKept c (c.setStorage a key v) :=
  .updateAccount _ _ fun _ h => h

/-- Changing a role takes no code away. -/
theorem changeRole (c : Chain) (role : String) (a : Address) (grant : Bool) :
    CodeKept c (c.changeRole role a grant).2 := by
  refine ⟨fun b hb => ?_⟩
  rwa [Chain.hasCode, account_changeRole]

/-- Moving tokens takes no code away. -/
theorem moveTokens {token source target : Address} {amount : Amount}
    (h : c.moveTokens token source target amount = .ok c') : CodeKept c c' := by
  obtain ⟨rest, -, rfl⟩ := moveTokens_eq_ok_iff.1 h
  exact .of_accounts rfl

/-- Creating a contract takes no code away. -/
theorem deploy (c : Chain) (deployer : Address) (artifact : String) (args : List Value) :
    CodeKept c (c.deploy deployer artifact args).2 := by
  have counted : CodeKept c
      { c with nonces := c.nonces.insert deployer (c.nonce deployer + 1) } := .of_accounts rfl
  exact counted.trans (.updateAccount _ _ fun _ _ => rfl)

/-! ## Calls -/

variable {sender : Address} {call : Call} {e : Event}

/-- Attaching currency to a call takes no code away. -/
theorem of_attach (h : c.attach sender call = .ok c') : CodeKept c c' := by
  rcases attach_eq_ok_iff.1 h with ⟨-, rfl⟩ | ⟨-, rest, -, rfl⟩
  · exact .refl _
  · exact (setNative c sender rest).trans (.fund ..)

/-- Whatever a call performs, it takes no code away. -/
theorem of_performed (h : Performed c sender call e c') : CodeKept c c' := by
  cases h with
  | changeFixedRole method account asked => exact .changeRole ..
  | changeRole method named account asked => exact .changeRole ..
  | setPaused method asked => exact .setPaused ..
  | mint method account quantity asked unpaused => exact .of_accounts rfl
  | transfer method account quantity unpaused moved => exact .moveTokens moved
  | burn method quantity unpaused moved => exact (CodeKept.moveTokens moved).trans (.of_accounts rfl)
  | setStorage method named given asked => exact .setStorage ..
  | setOracle method quantity flag asked => exact .setOracle ..

/-- **No accepted call takes code away.** -/
theorem of_apply (h : c.apply sender call = .ok (e, c')) : CodeKept c c' := by
  obtain ⟨-, c₁, attached, performed⟩ := exists_performed h
  exact (of_attach attached).trans (of_performed performed)

end CodeKept

end Chain

/-! ## Actions -/

namespace Governance

/-- An action that is executed takes no code away. -/
theorem codeKept_execute {g g' : Governance} {a : Action} {c c' : Chain} {receipt : Receipt}
    (h : g.execute a c = .ok (receipt, c', g')) : c.CodeKept c' :=
  execute_induction h (fun _ => .fund ..) fun _ _ _ _ _ kept applied =>
    kept.trans (.of_apply applied)

end Governance

/-- An executor that takes no code away. -/
def Executor.Sparing {σ : Type} (e : Executor σ) : Prop :=
  ∀ (a : Action) (w : World σ), w.chain.CodeKept (e a w).2.chain

/-- **No action of governance takes code away**, executed or refused. -/
theorem Executor.sparing_simulated {τ : Type} : (simulated : Executor (Simulation τ)).Sparing := by
  intro a w
  rw [simulated]
  cases executed : w.rest.governance.execute a w.chain with
  | error e => exact .refl _
  | ok x =>
    obtain ⟨receipt, c', g'⟩ := x
    exact Governance.codeKept_execute executed

/-! ## Histories -/

namespace Operation

/-- An operation takes no code away. -/
theorem codeKept_perform {s s' : System} {o : Operation} {answer : Answer}
    (h : o.perform s = .ok (answer, s')) : s.chain.CodeKept s'.chain := by
  cases o with
  | install a artifact => cases h; exact .install ..
  | grantRole role a => cases h; exact .of_accounts rfl
  | setNative a amount => cases h; exact .setNative ..
  | setToken token holder amount => cases h; exact .of_accounts rfl
  | setOracle a reading => cases h; exact .setOracle ..
  | setPaused a flag => cases h; exact .setPaused ..
  | setStorage a key v => cases h; exact .setStorage ..
  | fund a amount => cases h; exact .fund ..
  | deploy deployer artifact arguments => cases h; exact .deploy ..
  | call sender c =>
    rw [perform, bind_eq_ok_iff] at h
    obtain ⟨⟨receipt, c'⟩, called, ⟨⟩⟩ := h
    rw [Chain.call, bind_eq_ok_iff] at called
    obtain ⟨⟨e, c₁⟩, applied, ⟨⟩⟩ := called
    exact .of_apply applied
  | execute action =>
    rw [perform, bind_eq_ok_iff] at h
    obtain ⟨⟨receipt, c', g'⟩, executed, ⟨⟩⟩ := h
    exact Governance.codeKept_execute executed

/-- **No operations take code away.** -/
theorem codeKept_performAll (s : System) (ops : List Operation) :
    s.chain.CodeKept (performAll s ops).chain := by
  induction ops generalizing s with
  | nil => exact .refl _
  | cons o ops ih =>
    rw [performAll]
    cases performed : o.perform s with
    | error e => exact ih s
    | ok x =>
      obtain ⟨answer, s'⟩ := x
      exact (codeKept_perform performed).trans (ih s')

end Operation
end Rollout
