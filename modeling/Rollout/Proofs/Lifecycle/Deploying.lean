/-
# What a declared deployment does

The contracts of a list are created one after another. The arguments of each are resolved in the
registry with the contracts before it put on top (`DeploymentSpec.scope`), so what a placeholder in
them stands for depends on where it is:

| before it in the list | registry | the placeholder is |
| --- | --- | --- |
| one of the name | any | the address of the latest of them |
| none of the name | live | the address of the resource |
| none of the name | not live | an error, and the list ends here |

What is true of the chain after the first contracts (`DeploymentSpec.Built`) stays true with one
contract more (`Built.succ`), so it holds wherever the list ends (`ending_deployAll`). Put together
this is `Lifecycle.constructs_declared`.
-/

import Rollout.Lifecycle.Declared
import Rollout.Proofs.Chain.Deployment
import Rollout.Proofs.Template.Resolution

namespace Rollout
namespace DeploymentSpec

variable {deployer : Address} {place : Nat → Address} {s : Snapshot} {specs : List DeploymentSpec}
  {x : DeploymentSpec} {c c' : Chain} {i j m : Nat} {n : String}

/-! ## Names in the list -/

/-- The contract with the number has the name. -/
def Named (specs : List DeploymentSpec) (n : String) (i : Nat) : Prop :=
  ∃ x, specs[i]? = some x ∧ x.name = n

/-- No contract before the number has the name. -/
def Unnamed (specs : List DeploymentSpec) (n : String) (i : Nat) : Prop :=
  ∀ j < i, ¬ Named specs n j

/-- The latest contract of the name, of those before the number: none after it has the name. -/
structure Latest (specs : List DeploymentSpec) (n : String) (i j : Nat) : Prop where
  earlier : j < i
  named : Named specs n j
  last : ∀ k, j < k → k < i → ¬ Named specs n k

/-- A number more leaves the latest the latest, if it has another name. -/
theorem latest_succ_iff (other : ¬ Named specs n i) :
    Latest specs n (i + 1) j ↔ Latest specs n i j := by
  constructor
  · rintro ⟨earlier, named, last⟩
    have differ : j ≠ i := fun same => other (same ▸ named)
    exact ⟨by omega, named, fun k later before => last k later (by omega)⟩
  · rintro ⟨earlier, named, last⟩
    refine ⟨by omega, named, fun k later before => ?_⟩
    rcases Nat.lt_succ_iff_lt_or_eq.1 before with before | rfl
    · exact last k later before
    · exact other

/-- A contract is the latest of its name right behind it, and no other is. -/
theorem latest_self (named : Named specs n i) : Latest specs n (i + 1) j ↔ j = i := by
  constructor
  · rintro ⟨earlier, -, last⟩
    by_contra differ
    exact last i (by omega) (Nat.lt_succ_self i) named
  · rintro rfl
    exact ⟨Nat.lt_succ_self j, named, fun k later before => by omega⟩

/-- A name is not in one contract more exactly if it was not before and that one has another. -/
theorem unnamed_succ_iff : Unnamed specs n (i + 1) ↔ Unnamed specs n i ∧ ¬ Named specs n i :=
  Nat.forall_lt_succ_right

/-- A name has a latest contract or none. -/
theorem exists_latest_or_unnamed (specs : List DeploymentSpec) (n : String) (i : Nat) :
    (∃ j, Latest specs n i j) ∨ Unnamed specs n i := by
  induction i with
  | zero => exact .inr fun j hj => absurd hj (Nat.not_lt_zero j)
  | succ i ih =>
    by_cases named : Named specs n i
    · exact .inl ⟨i, (latest_self named).2 rfl⟩
    · rw [unnamed_succ_iff]
      exact ih.imp (fun ⟨j, latest⟩ => ⟨j, (latest_succ_iff named).2 latest⟩) (⟨·, named⟩)

/-- A placeholder for the name stands for something in the arguments of the contract with the
number. -/
def Known (s : Snapshot) (specs : List DeploymentSpec) (i : Nat) (n : String) : Prop :=
  (∃ j < i, Named specs n j) ∨ s.isLive n = true

/-! ## What arguments are resolved in -/

/-- The resources that the contracts of a list are, at the places of their numbers. -/
def handles (place : Nat → Address) (specs : List DeploymentSpec) : List Handle :=
  specs.mapIdx fun i x => x.handleAt (place i)

/-- What the arguments of the contract with the number are resolved in. -/
def scope (place : Nat → Address) (s : Snapshot) (specs : List DeploymentSpec) (i : Nat) :
    Snapshot :=
  ((handles place specs).take i).foldl .insertLive s

/-- The handle at a place is that of the contract, at the address for the place. -/
theorem getElem?_handles (place : Nat → Address) (specs : List DeploymentSpec) (i : Nat) :
    (handles place specs)[i]? = specs[i]?.map fun x => x.handleAt (place i) :=
  List.getElem?_mapIdx

/-- The next contract is resolved in a scope that has the one before it. -/
theorem scope_succ (found : specs[i]? = some x) :
    scope place s specs (i + 1) = (scope place s specs i).insertLive (x.handleAt (place i)) := by
  rw [scope, List.take_add_one, getElem?_handles, found, List.foldl_append]
  rfl

/-- A contract is in the scope of the next one under its name. -/
theorem find?_scope_of_named (found : specs[i]? = some x) (named : x.name = n) :
    (scope place s specs (i + 1)).entries.find? n = some (.live (x.handleAt (place i))) := by
  rw [scope_succ found, Snapshot.insertLive, Snapshot.find?_set]
  exact if_pos named.symm

/-- A contract of another name leaves a name in the scope as it is. -/
theorem find?_scope_of_not_named (other : ¬ Named specs n i) :
    (scope place s specs (i + 1)).entries.find? n = (scope place s specs i).entries.find? n := by
  cases found : specs[i]? with
  | none =>
    rw [scope, List.take_add_one, getElem?_handles, found]
    simp [scope]
  | some x =>
    rw [scope_succ found, Snapshot.insertLive, Snapshot.find?_set]
    exact if_neg fun named => other ⟨x, found, named.symm⟩

/-- The latest contract of a name hides what else has it. -/
theorem get_scope_of_latest (latest : Latest specs n i j) (found : specs[j]? = some x) :
    (scope place s specs i).get n = .ok (x.handleAt (place j)) := by
  rw [Snapshot.get_eq_ok_iff]
  induction i with
  | zero => exact absurd latest.earlier (Nat.not_lt_zero j)
  | succ i ih =>
    by_cases named : Named specs n i
    · obtain rfl := (latest_self named).1 latest
      obtain ⟨y, found', named⟩ := named
      cases found.symm.trans found'
      exact find?_scope_of_named found named
    · rw [find?_scope_of_not_named named]
      exact ih ((latest_succ_iff named).1 latest)

/-- A name of no contract before is what the registry has of it. -/
theorem get_scope_of_unnamed (unnamed : Unnamed specs n i) :
    (scope place s specs i).get n = s.get n := by
  have same : (scope place s specs i).entries.find? n = s.entries.find? n := by
    induction i with
    | zero => rfl
    | succ i ih =>
      obtain ⟨unnamed, other⟩ := unnamed_succ_iff.1 unnamed
      rw [find?_scope_of_not_named other, ih unnamed]
  rw [Snapshot.get, Snapshot.get, same]

/-- **A name is live in the scope of a contract exactly if it is known to it.** -/
theorem isLive_scope_iff : (scope place s specs i).isLive n = true ↔ Known s specs i n := by
  rw [Snapshot.isLive_iff, Known, Snapshot.isLive_iff]
  rcases exists_latest_or_unnamed specs n i with ⟨j, latest⟩ | unnamed
  · obtain ⟨x, found, -⟩ := latest.named
    exact iff_of_true ⟨_, get_scope_of_latest latest found⟩
      (.inl ⟨j, latest.earlier, latest.named⟩)
  · rw [get_scope_of_unnamed unnamed]
    exact ⟨.inr, fun known => known.resolve_left fun ⟨j, earlier, named⟩ => unnamed j earlier named⟩

/-- A name cannot be had in the scope of a contract exactly if no contract before has it and the
registry does not. -/
theorem get_scope_eq_error_iff {e : LookupError} :
    (scope place s specs i).get n = .error e ↔ Unnamed specs n i ∧ s.get n = .error e := by
  rcases exists_latest_or_unnamed specs n i with ⟨j, latest⟩ | unnamed
  · obtain ⟨x, found, -⟩ := latest.named
    rw [get_scope_of_latest latest found]
    exact iff_of_false nofun fun ⟨unnamed, _⟩ => unnamed j latest.earlier latest.named
  · rw [get_scope_of_unnamed unnamed]
    exact ⟨fun fails => ⟨unnamed, fails⟩, And.right⟩

/-! ## Arguments -/

/-- A change of texts that puts addresses in place of the placeholders in the arguments of the
contract with the number, and keeps all texts that are no placeholders. -/
structure FillsIn (place : Nat → Address) (s : Snapshot) (specs : List DeploymentSpec) (i : Nat)
    (f : String → String) : Prop where
  earlier : ∀ t n j, Template.Placeholder t n → Latest specs n i j → f t = (place j).text
  registered : ∀ t n h, Template.Placeholder t n → Unnamed specs n i → s.get n = .ok h →
    f t = h.address.text
  other : ∀ t, (∀ n, ¬ Template.Placeholder t n) → f t = t

/-- What is put into the arguments of a contract is what the latest contracts and the registry
have. -/
theorem fillsIn_filled (place : Nat → Address) (s : Snapshot) (specs : List DeploymentSpec)
    (i : Nat) : FillsIn place s specs i (Template.filled (scope place s specs i)) := by
  have fills := Template.fills_filled (scope place s specs i)
  constructor
  · intro t n j ph latest
    obtain ⟨x, found, -⟩ := latest.named
    exact fills.placeholder t n (x.handleAt (place j)) ph (get_scope_of_latest latest found)
  · intro t n h ph unnamed live
    exact fills.placeholder t n h ph ((get_scope_of_unnamed unnamed).trans live)
  · exact fills.other

/-- Every placeholder in the arguments of the contract with the number stands for something. -/
def Resolvable (s : Snapshot) (specs : List DeploymentSpec) (i : Nat) : Prop :=
  ∀ x p n, specs[i]? = some x → Template.StandsAt (.list x.arguments) p n → Known s specs i n

/-- The error of the first placeholder in the arguments of the contract with the number that stands
for nothing. -/
def Fails (s : Snapshot) (specs : List DeploymentSpec) (i : Nat) (e : LookupError) : Prop :=
  ∃ x p n, specs[i]? = some x ∧ Template.StandsAt (.list x.arguments) p n ∧
    Unnamed specs n i ∧ s.get n = .error e ∧
    ∀ q k, Value.Precedes q p → Template.StandsAt (.list x.arguments) q k → Known s specs i k

/-- The arguments of the contract with the number are resolved in its scope. -/
def Resolves (place : Nat → Address) (s : Snapshot) (specs : List DeploymentSpec) (i : Nat) :
    Prop :=
  ∀ x, specs[i]? = some x →
    ∃ args, Template.resolveList (scope place s specs i) x.arguments = .ok args

section Ordered

variable (ordered : ∀ x ∈ specs, ∀ v ∈ x.arguments, v.Ordered)

include ordered

/-- **The arguments of a contract are resolved exactly if all their placeholders are known.** -/
theorem resolves_iff : Resolves place s specs i ↔ Resolvable s specs i := by
  have here (x : DeploymentSpec) (found : specs[i]? = some x) :
      (∃ args, Template.resolveList (scope place s specs i) x.arguments = .ok args) ↔
        ∀ p n, Template.StandsAt (.list x.arguments) p n → Known s specs i n := by
    have whole := Value.ordered_list_iff.2 (ordered x (List.mem_of_getElem? found))
    rw [Template.exists_resolveList_eq_ok_iff, Template.exists_resolve_eq_ok_iff,
      Template.forall_texts_iff whole]
    simp only [isLive_scope_iff]
  constructor
  · exact fun resolves x p n found => (here x found).1 (resolves x found) p n
  · exact fun resolvable x found => (here x found).2 fun p n => resolvable x p n found

/-- Arguments that are not resolved fail with the error of their first placeholder that is not
known. -/
theorem fails_of_resolveList {e : LookupError} (found : specs[i]? = some x)
    (fails : Template.resolveList (scope place s specs i) x.arguments = .error e) :
    Fails s specs i e := by
  have whole := Value.ordered_list_iff.2 (ordered x (List.mem_of_getElem? found))
  obtain ⟨p, n, stands, dead, first⟩ := (Template.resolve_eq_error_iff_first whole e).1
    (Template.resolveList_eq_error_iff.1 fails)
  obtain ⟨unnamed, unknown⟩ := get_scope_eq_error_iff.1 dead
  exact ⟨x, p, n, found, stands, unnamed, unknown,
    fun q k before stands => isLive_scope_iff.1 (first q k before stands)⟩

end Ordered

/-! ## The chain -/

/-- From one chain to another the first contracts of a list are created, so many of them, and
nothing else is done. Where they are at addresses of their own, each is there with its artifact and
with what its arguments stand for. -/
structure Built (deployer : Address) (s : Snapshot) (specs : List DeploymentSpec) (c : Chain)
    (m : Nat) (c' : Chain) : Prop where
  code : ∀ a, c'.hasCode a = true ↔ c.hasCode a = true ∨ ∃ i < m, a = c.upcoming deployer i
  others : ∀ a, (∀ i < m, a ≠ c.upcoming deployer i) → c'.account a = c.account a
  tokens : c'.tokens = c.tokens
  roles : c'.roles = c.roles
  nonce : ∀ a, c'.nonce a = c.nonce a + if a = deployer then m else 0
  contract : c.Free deployer m → ∀ i < m, ∀ x, specs[i]? = some x →
    ∃ f, FillsIn (c.upcoming deployer) s specs i f ∧
      c'.account (c.upcoming deployer i) =
        { c.account (c.upcoming deployer i) with
          artifact := some x.artifact
          storage := Chain.initialStorage (x.arguments.map (Value.mapText f)) }
  count : c.Free deployer m → c'.contracts = c.contracts + m

namespace Built

/-- At first nothing is created. -/
theorem zero (deployer : Address) (s : Snapshot) (specs : List DeploymentSpec) (c : Chain) :
    Built deployer s specs c 0 c where
  code a := by simp
  others _ _ := rfl
  tokens := rfl
  roles := rfl
  nonce a := by simp
  contract _ i hi := absurd hi (Nat.not_lt_zero i)
  count _ := rfl

/-- The addresses to come go on behind the contracts that were created. -/
theorem upcoming_zero (built : Built deployer s specs c m c') :
    c'.upcoming deployer 0 = c.upcoming deployer m := by
  rw [Chain.upcoming, built.nonce, if_pos rfl]
  rfl

/-- **One contract more.** -/
theorem succ (built : Built deployer s specs c m c') (found : specs[m]? = some x)
    {args : List Value} (resolved :
      Template.resolveList (scope (c.upcoming deployer) s specs m) x.arguments = .ok args) :
    Built deployer s specs c (m + 1) (c'.deploy deployer x.artifact args).2 := by
  have next := built.upcoming_zero
  have apart (free : c.Free deployer (m + 1)) :
      ∀ i < m, c.upcoming deployer m ≠ c.upcoming deployer i :=
    fun i earlier => (free.distinct i m earlier (Nat.lt_succ_self m)).symm
  constructor
  · intro a
    rw [Chain.hasCode_deploy_iff, built.code, next, or_assoc, Nat.exists_lt_succ_right]
  · intro a away
    obtain ⟨away, here⟩ := Nat.forall_lt_succ_right.1 away
    rw [Chain.account_deploy, next, if_neg here, built.others a away]
  · exact built.tokens
  · exact built.roles
  · intro a
    rw [Chain.nonce_deploy, built.nonce]
    split <;> omega
  · intro free i hi y found'
    rcases Nat.lt_succ_iff_lt_or_eq.1 hi with earlier | rfl
    · obtain ⟨f, fills, stands⟩ := built.contract free.pred i earlier y found'
      refine ⟨f, fills, ?_⟩
      rw [Chain.account_deploy, next, if_neg (apart free i earlier).symm, stands]
    · -- The contract itself: what its arguments see is the scope that they were resolved in.
      cases found.symm.trans found'
      refine ⟨_, fillsIn_filled _ _ _ _, ?_⟩
      rw [Chain.account_deploy, next, if_pos rfl, built.others _ (apart free),
        Template.eq_of_resolveList resolved]
  · intro free
    have vacant : c'.hasCode (c.upcoming deployer m) = false := by
      rw [Bool.eq_false_iff, ne_eq, built.code, not_or]
      exact ⟨Bool.eq_false_iff.1 (free.vacant m (Nat.lt_succ_self m)),
        fun ⟨i, earlier, same⟩ => apart free i earlier same⟩
    have counted := Chain.contracts_deploy c' deployer x.artifact args
    rw [next, vacant, built.count free.pred] at counted
    exact counted

end Built

/-! ## To the end of the list -/

/-- How a list ends of which the contracts from a number on remain: all are created, or one has
arguments that cannot be resolved. -/
inductive Ending (deployer : Address) (s : Snapshot) (specs : List DeploymentSpec) (c : Chain)
    (m : Nat) : Except LookupError (List Handle) → Chain → Prop
  | completed {c' : Chain} (resolves : ∀ i, Resolves (c.upcoming deployer) s specs i)
      (built : Built deployer s specs c specs.length c') :
      Ending deployer s specs c m (.ok ((handles (c.upcoming deployer) specs).drop m)) c'
  | stopped {c' : Chain} {i : Nat} {x : DeploymentSpec} {e : LookupError}
      (resolves : ∀ j < i, Resolves (c.upcoming deployer) s specs j) (found : specs[i]? = some x)
      (fails : Template.resolveList (scope (c.upcoming deployer) s specs i) x.arguments = .error e)
      (built : Built deployer s specs c i c') :
      Ending deployer s specs c m (.error e) c'

/-- However a list ends, contracts are created up to there. -/
theorem Ending.exists_built {o : Except LookupError (List Handle)}
    (ending : Ending deployer s specs c m o c') : ∃ k, Built deployer s specs c k c' := by
  cases ending with
  | completed resolves built => exact ⟨_, built⟩
  | stopped resolves found fails built => exact ⟨_, built⟩

/-- The resource of one contract more in front. -/
theorem Ending.pred (found : specs[m]? = some x) {o : Except LookupError (List Handle)}
    (ending : Ending deployer s specs c (m + 1) o c') :
    Ending deployer s specs c m (o.map (x.handleAt (c.upcoming deployer m) :: ·)) c' := by
  cases ending with
  | completed resolves built =>
    have all : (handles (c.upcoming deployer) specs).drop m = x.handleAt (c.upcoming deployer m)
        :: (handles (c.upcoming deployer) specs).drop (m + 1) := by
      have here := getElem?_handles (c.upcoming deployer) specs m
      rw [found, Option.map_some, List.getElem?_eq_some_iff] at here
      obtain ⟨within, here⟩ := here
      rw [List.drop_eq_getElem_cons within, here]
    show Ending deployer s specs c m (.ok (_ :: _)) c'
    rw [← all]
    exact .completed resolves built
  | stopped resolves found fails built => exact .stopped resolves found fails built

/-- A contract whose arguments resolve is created, and the others after it. -/
theorem deployAll_cons {scope : Snapshot} {arguments : List Value}
    (resolved : Template.resolveList scope x.arguments = .ok arguments) :
    deployAll deployer (x :: specs) scope c =
      let h := x.handleAt (c.upcoming deployer 0)
      let rest := deployAll deployer specs (scope.insertLive h)
        (c.deploy deployer x.artifact arguments).2
      (rest.1.map (h :: ·), rest.2) := by
  rw [deployAll, resolved]
  rfl

/-- The remaining contracts are created from what the first have left. -/
theorem ending_deployAll_drop (built : Built deployer s specs c m c') (within : m ≤ specs.length)
    (resolves : ∀ j < m, Resolves (c.upcoming deployer) s specs j) {rest : List DeploymentSpec}
    (remain : specs.drop m = rest) :
    let run := deployAll deployer rest (scope (c.upcoming deployer) s specs m) c'
    Ending deployer s specs c m run.1 run.2 := by
  -- The induction is on what remains. What is before it has been created, and could be resolved.
  induction rest generalizing m c' with
  | nil =>
    have whole : specs.length ≤ m := List.drop_eq_nil_iff.1 remain
    obtain rfl : m = specs.length := Nat.le_antisymm within whole
    have resolves (i : Nat) : Resolves (c.upcoming deployer) s specs i := by
      intro y found
      exact resolves i (List.getElem?_eq_some_iff.1 found).1 y found
    have none : (handles (c.upcoming deployer) specs).drop specs.length = [] := by
      rw [List.drop_eq_nil_iff, handles, List.length_mapIdx]
    have ending : Ending deployer s specs c specs.length _ c' := .completed resolves built
    rwa [none] at ending
  | cons x rest ih =>
    have found : specs[m]? = some x := by
      rw [← List.head?_drop, remain, List.head?_cons]
    have remain : specs.drop (m + 1) = rest := by
      rw [← List.tail_drop, remain, List.tail_cons]
    cases resolved : Template.resolveList (scope (c.upcoming deployer) s specs m) x.arguments with
    | error e =>
      rw [deployAll, resolved]
      exact .stopped resolves found resolved built
    | ok args =>
      have resolves : ∀ j < m + 1, Resolves (c.upcoming deployer) s specs j := by
        rw [Nat.forall_lt_succ_right]
        refine ⟨resolves, fun y found' => ?_⟩
        cases found.symm.trans found'
        exact ⟨args, resolved⟩
      have ending := ih (built.succ found resolved) (List.getElem?_eq_some_iff.1 found).1 resolves
        remain
      rw [scope_succ found] at ending
      rw [deployAll_cons resolved, built.upcoming_zero]
      exact ending.pred found

/-- **A list is created up to the first contract whose arguments cannot be resolved.** -/
theorem ending_deployAll (deployer : Address) (s : Snapshot) (specs : List DeploymentSpec)
    (c : Chain) :
    Ending deployer s specs c 0 (deployAll deployer specs s c).1 (deployAll deployer specs s c).2 :=
  ending_deployAll_drop (.zero deployer s specs c) (Nat.zero_le _)
    (fun j earlier => absurd earlier (Nat.not_lt_zero j)) rfl

end DeploymentSpec

/-! ## The hook -/

namespace Lifecycle

variable {σ : Type}

/-- What the deploy hook of a declared deployment does. The registry of its context it only reads. -/
structure Constructs (specs : List DeploymentSpec) (ctx : DeployContext) (w : World σ) : Prop where
  /-- It succeeds exactly if every placeholder names an earlier contract of the list or a live
  resource. -/
  succeeds : (∃ d, ((declared specs).deploy ctx w).1 = .ok d) ↔
    ∀ i, DeploymentSpec.Resolvable ctx.registry specs i
  /-- Then all contracts are created and handed out in order. -/
  completed : ∀ d, ((declared specs).deploy ctx w).1 = .ok d →
    d = { resources := DeploymentSpec.handles (w.chain.upcoming ctx.deployer) specs } ∧
    DeploymentSpec.Built ctx.deployer ctx.registry specs w.chain specs.length
      ((declared specs).deploy ctx w).2.chain
  /-- Otherwise it is the error of the first placeholder, of the first contract, that names neither,
  and the contracts before that one are created. -/
  stopped : ∀ e, ((declared specs).deploy ctx w).1 = .error e →
    ∃ i unresolved, e = .lookup unresolved ∧
      DeploymentSpec.Fails ctx.registry specs i unresolved ∧
      (∀ j < i, DeploymentSpec.Resolvable ctx.registry specs j) ∧
      DeploymentSpec.Built ctx.deployer ctx.registry specs w.chain i
        ((declared specs).deploy ctx w).2.chain
  orderly : ∀ message, ((declared specs).deploy ctx w).1 ≠ .panic message
  rest : ((declared specs).deploy ctx w).2.rest = w.rest

/-- **What a declared deployment does with any list**, on any chain and for any registry. -/
theorem constructs_declared {specs : List DeploymentSpec}
    (ordered : ∀ x ∈ specs, ∀ v ∈ x.arguments, v.Ordered) (ctx : DeployContext) (w : World σ) :
    Constructs specs ctx w := by
  have ending := DeploymentSpec.ending_deployAll ctx.deployer ctx.registry specs w.chain
  rcases run : DeploymentSpec.deployAll ctx.deployer specs ctx.registry w.chain with ⟨o, c'⟩
  rw [run] at ending
  have hook : (declared specs).deploy ctx w
      = (.ofExcept ((o.map fun resources => { resources }).mapError .lookup),
        { w with chain := c' }) := by
    simp only [declared, run]
  cases ending with
  | completed resolves built =>
    constructor
    · rw [hook]
      exact iff_of_true ⟨_, rfl⟩ fun i => (DeploymentSpec.resolves_iff ordered).1 (resolves i)
    · rw [hook]
      rintro d ⟨⟩
      exact ⟨rfl, built⟩
    · rw [hook]
      exact nofun
    · rw [hook]
      exact nofun
    · rw [hook]
  | stopped resolves found fails built =>
    rename_i i x e
    have failing := DeploymentSpec.fails_of_resolveList ordered found fails
    constructor
    · rw [hook]
      refine iff_of_false nofun fun resolvable => ?_
      obtain ⟨args, resolved⟩ := (DeploymentSpec.resolves_iff ordered).2 (resolvable i) x found
      rw [fails] at resolved
      cases resolved
    · rw [hook]
      exact nofun
    · rw [hook]
      rintro _ ⟨⟩
      exact ⟨i, e, rfl, failing,
        fun j earlier => (DeploymentSpec.resolves_iff ordered).1 (resolves j earlier), built⟩
    · rw [hook]
      exact nofun
    · rw [hook]

end Lifecycle

namespace Drill

/-- A core that hides the one of the registry, and a peg on it. -/
def estate : List DeploymentSpec := [
  { name := "core", artifact := "Core", arguments := [.text "\x7bcore\x7d"] },
  { name := "peg"
    artifact := "Peg"
    kind := .peg
    arguments := [.object [("core", .text "\x7bcore\x7d")]] }]

/-- One contract more, on what nobody provides. -/
def overbuilt : List DeploymentSpec :=
  estate ++ [{ name := "annex", artifact := "Annex", arguments := [.text "\x7bnobody\x7d"] }]

/-- Where the list is created: beside the registry with the old core. -/
def site : DeployContext := { deployer := .ofNat 9, registry := house, logging := false }

/-- A world with nothing on the chain. -/
def meadow : World Unit := { chain := .empty, rest := () }

end Drill

/-- The peg is built on the new core and not on the one of the registry. With the annex nothing is
handed out. -/
theorem Lifecycle.constructs_declared_estate :
    let built := (declared Drill.estate).deploy Drill.site Drill.meadow
    let place := Drill.meadow.chain.upcoming Drill.site.deployer
    Drill.meadow.chain.Free Drill.site.deployer 2 ∧
    Constructs Drill.estate Drill.site Drill.meadow ∧
    (∃ d, built.1 = .ok d) ∧
    (built.2.chain.account (place 1)).storage.find? "core" = some (place 0).toValue ∧
    Constructs Drill.overbuilt Drill.site Drill.meadow ∧
    ((declared Drill.overbuilt).deploy Drill.site Drill.meadow).1
      = .error (.lookup (.unknown "nobody")) := by
  have apart : ∀ j < 2, ∀ i < j, Drill.meadow.chain.upcoming Drill.site.deployer i
      ≠ Drill.meadow.chain.upcoming Drill.site.deployer j := by decide +kernel
  have free : Drill.meadow.chain.Free Drill.site.deployer 2 :=
    ⟨fun i j hij hj => apart j hj i hij, fun i _ => rfl⟩
  have record : (Value.object [("core", .text "\x7bcore\x7d")]).Ordered :=
    ⟨List.pairwise_singleton .., trivial, trivial⟩
  have ordered : ∀ x ∈ Drill.overbuilt, ∀ v ∈ x.arguments, v.Ordered :=
    List.forall_mem_cons.2 ⟨List.forall_mem_singleton.2 trivial,
      List.forall_mem_cons.2 ⟨List.forall_mem_singleton.2 record,
        List.forall_mem_singleton.2 (List.forall_mem_singleton.2 trivial)⟩⟩
  have constructs := constructs_declared (fun x hx => ordered x (List.mem_append_left _ hx))
    Drill.site Drill.meadow
  have made : ∃ d, ((declared Drill.estate).deploy Drill.site Drill.meadow).1 = .ok d := ⟨_, rfl⟩
  refine ⟨free, constructs, made, ?_, constructs_declared ordered Drill.site Drill.meadow,
    by decide +kernel⟩
  obtain ⟨d, made⟩ := made
  obtain ⟨f, fills, stands⟩ := (constructs.completed d made).2.contract free 1 (by decide) _ rfl
  have core : f "\x7bcore\x7d" = (Drill.meadow.chain.upcoming Drill.site.deployer 0).text :=
    fills.earlier _ "core" 0 (Template.placeholder?_eq_some_iff.1 (by decide))
      ⟨by decide, ⟨_, rfl, rfl⟩, fun k later earlier => by omega⟩
  have slot : (Chain.initialStorage [.object [("core", .text (f "\x7bcore\x7d"))]]).find? "core"
      = some (.text (f "\x7bcore\x7d")) :=
    Chain.find?_initialStorage_object (List.pairwise_singleton ..) "core"
  rw [stands]
  exact slot.trans (congrArg (fun t => some (Value.text t)) core)

end Rollout
