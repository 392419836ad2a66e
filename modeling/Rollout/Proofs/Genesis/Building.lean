/-
# What a genesis builds

The chain of a genesis is built by writes that ask nothing, one pass for each list. A later entry
takes the place of an earlier one, and a native balance may be that of a contract or make an account
of its own. Each pass changes one thing and leaves the rest:

| pass | changes | so that it is |
| --- | --- | --- |
| `placeAll` | accounts | that of the contract listed there |
| `grantAll` | holders of roles | also those listed under them |
| `setTokens` | balances in tokens | the last one listed for the token and the holder |
| `setNatives` | native balances | the last one listed for the account |

So if no two contracts have one address, what is read off the chain is what is listed, and nothing
else is there (`Genesis.built_build`).
-/

import Rollout.Genesis
import Rollout.Proofs.Chain.Reads
import Rollout.Proofs.Document.Values
import Mathlib.Data.List.Nodup

namespace Rollout

/-- The account of the contract, as long as it has no native currency. -/
def GenesisContract.account (g : GenesisContract) : Account where
  artifact := some g.artifact
  paused := g.paused
  storage := g.storage
  oracle := g.oracle

namespace Chain

/-! ## Contracts -/

/-- Setting slots one by one puts them into the storage of one account. -/
theorem foldl_setStorage (es : List (String × Value)) (c : Chain) (a : Address)
    (f : Account → Account) :
    es.foldl (fun c e => c.setStorage a e.1 e.2) (c.updateAccount a f)
      = c.updateAccount a fun x => { f x with storage := (f x).storage.putAll es } := by
  induction es generalizing f with
  | nil => rfl
  | cons e es ih =>
    rw [List.foldl_cons, setStorage, updateAccount_updateAccount, ih]
    rfl

/-- To place a contract is one change to the account at its address. -/
theorem place_eq (g : GenesisContract) (c : Chain) :
    g.place c = c.updateAccount g.address fun x =>
      { x with
        artifact := some g.artifact
        paused := g.paused
        storage := x.storage.putAll g.storage.entries
        oracle := g.oracle.or x.oracle } := by
  rw [GenesisContract.place, install, setPaused, updateAccount_updateAccount, foldl_setStorage]
  cases g.oracle with
  | none => rfl
  | some r => exact updateAccount_updateAccount ..

/-- A contract that is placed where nothing was has the account that is listed. -/
theorem account_place (g : GenesisContract) {c : Chain} (blank : c.account g.address = {})
    (a : Address) :
    (g.place c).account a = if a = g.address then g.account else c.account a := by
  have slots : Table.empty.putAll g.storage.entries = g.storage := Table.ofList_entries g.storage
  rw [place_eq, account_updateAccount, blank, slots, Option.or_none]
  rfl

/-- Contracts placed one after another. -/
def placeAll (c : Chain) (xs : List GenesisContract) : Chain := xs.foldl (fun c x => x.place c) c

/-- Contracts at different addresses are placed as they are listed, and leave all other accounts. -/
theorem account_placeAll {xs : List GenesisContract} (distinct : (xs.map (·.address)).Nodup)
    {c : Chain} (blank : ∀ x ∈ xs, c.account x.address = {}) (a : Address) :
    (c.placeAll xs).account a
      = ((xs.find? (·.address = a)).map GenesisContract.account).getD (c.account a) := by
  -- The places of the contracts to come stay blank, for none of them is placed twice.
  induction xs generalizing c with
  | nil => rfl
  | cons x xs ih =>
    rw [List.map_cons, List.nodup_cons] at distinct
    have placed := account_place x (blank x List.mem_cons_self)
    have blank' : ∀ y ∈ xs, (x.place c).account y.address = {} := by
      intro y hy
      have other : y.address ≠ x.address := fun same =>
        distinct.1 (same ▸ List.mem_map_of_mem hy)
      rw [placed, if_neg other]
      exact blank y (List.mem_cons_of_mem x hy)
    have rest : (c.placeAll (x :: xs)).account a = ((x.place c).placeAll xs).account a := rfl
    rw [rest, ih distinct.2 blank', placed]
    by_cases h : x.address = a
    · have absent : xs.find? (·.address = a) = none := by
        rw [List.find?_eq_none]
        intro y hy same
        exact distinct.1 (h.trans (of_decide_eq_true same).symm ▸ List.mem_map_of_mem hy)
      simp [h, absent]
    · simp [h, Ne.symm h]

/-- Placing contracts changes accounts alone. -/
theorem exists_placeAll (c : Chain) (xs : List GenesisContract) :
    ∃ accounts, c.placeAll xs = { c with accounts } := by
  induction xs generalizing c with
  | nil => exact ⟨c.accounts, rfl⟩
  | cons x xs ih =>
    obtain ⟨accounts, rest⟩ := ih (x.place c)
    have placed : c.placeAll (x :: xs) = (x.place c).placeAll xs := rfl
    rw [placed, rest, place_eq]
    exact ⟨accounts, rfl⟩

/-! ## Roles -/

/-- Roles granted one after another, each to its accounts. -/
def grantAll (c : Chain) (es : List (String × List Address)) : Chain :=
  es.foldl (fun c e => e.2.foldl (fun c a => c.grantRole e.1 a) c) c

/-- Granting a role gives it to the one account. -/
theorem hasRole_grantRole (c : Chain) (role : String) (a : Address) (role' : String)
    (b : Address) :
    (c.grantRole role a).hasRole role' b = true ↔
      role' = role ∧ b = a ∨ c.hasRole role' b = true := by
  have changed := hasRole_changeRole c role a true role' b
  have given : (c.grantRole role a).hasRole role' b
      = if role' = role ∧ b = a then true else c.hasRole role' b := changed
  rw [given]
  by_cases h : role' = role ∧ b = a
  · simp [h]
  · simp [h]

/-- Granting a role to accounts gives it to them. -/
theorem hasRole_foldl_grantRole (as : List Address) (c : Chain) (role role' : String)
    (b : Address) :
    (as.foldl (fun c a => c.grantRole role a) c).hasRole role' b = true ↔
      role' = role ∧ b ∈ as ∨ c.hasRole role' b = true := by
  induction as generalizing c with
  | nil => simp
  | cons a as ih =>
    rw [List.foldl_cons, ih, hasRole_grantRole, List.mem_cons]
    tauto

/-- After the pass an account has the roles under which it is listed, and those it had. -/
theorem hasRole_grantAll (es : List (String × List Address)) (c : Chain) (role : String)
    (a : Address) :
    (c.grantAll es).hasRole role a = true ↔
      (∃ e ∈ es, role = e.1 ∧ a ∈ e.2) ∨ c.hasRole role a = true := by
  induction es generalizing c with
  | nil => simp [grantAll]
  | cons e es ih =>
    have rest : c.grantAll (e :: es)
        = (e.2.foldl (fun c a => c.grantRole e.1 a) c).grantAll es := rfl
    rw [rest, ih, hasRole_foldl_grantRole, List.exists_mem_cons_iff, or_left_comm,
      or_assoc]

/-- Giving roles changes roles alone. -/
theorem exists_grantAll (c : Chain) (es : List (String × List Address)) :
    ∃ roles, c.grantAll es = { c with roles } := by
  refine List.foldlRecOn (motive := fun d : Chain => ∃ roles, d = { c with roles }) es _
    ⟨c.roles, rfl⟩ fun d hd e _ => ?_
  refine List.foldlRecOn (motive := fun d : Chain => ∃ roles, d = { c with roles }) e.2 _ hd
    fun d hd a _ => ?_
  obtain ⟨roles, rfl⟩ := hd
  exact ⟨_, rfl⟩

/-! ## Balances -/

/-- Token balances set one after another. -/
def setTokens (c : Chain) (bs : List GenesisBalance) : Chain :=
  bs.foldl (fun c b => c.setToken b.token b.holder b.amount) c

/-- Where a balance is set several times, the last one counts. -/
theorem tokenBalance_setTokens (bs : List GenesisBalance) (c : Chain) (token holder : Address) :
    (c.setTokens bs).tokenBalance token holder
      = ((bs.reverse.find? fun b => b.token = token ∧ b.holder = holder).map (·.amount)).getD
        (c.tokenBalance token holder) := by
  induction bs generalizing c with
  | nil => rfl
  | cons b bs ih =>
    have rest : c.setTokens (b :: bs)
        = (c.setToken b.token b.holder b.amount).setTokens bs := rfl
    rw [rest, ih, tokenBalance_setToken, List.reverse_cons, List.find?_append]
    cases bs.reverse.find? fun b => b.token = token ∧ b.holder = holder with
    | some x => rfl
    | none =>
      by_cases h : b.token = token ∧ b.holder = holder
      · simp [h]
      · have h' : ¬ (token = b.token ∧ holder = b.holder) := fun e => h ⟨e.1.symm, e.2.symm⟩
        simp [h, h']

/-- Setting balances in tokens changes those alone. -/
theorem exists_setTokens (c : Chain) (bs : List GenesisBalance) :
    ∃ tokens, c.setTokens bs = { c with tokens } := by
  refine List.foldlRecOn (motive := fun d : Chain => ∃ tokens, d = { c with tokens }) bs _
    ⟨c.tokens, rfl⟩ fun d hd b _ => ?_
  obtain ⟨tokens, rfl⟩ := hd
  exact ⟨_, rfl⟩

/-- Native balances set one after another. -/
def setNatives (c : Chain) (ns : List GenesisNative) : Chain :=
  ns.foldl (fun c n => c.setNative n.account n.amount) c

/-- Where native currency is set several times, the last one counts. -/
theorem account_setNatives (ns : List GenesisNative) (c : Chain) (a : Address) :
    (c.setNatives ns).account a = { c.account a with
      native := ((ns.reverse.find? (·.account = a)).map (·.amount)).getD
        (c.account a).native } := by
  induction ns generalizing c with
  | nil => rfl
  | cons n ns ih =>
    have rest : c.setNatives (n :: ns) = (c.setNative n.account n.amount).setNatives ns := rfl
    rw [rest, ih, setNative, account_updateAccount, List.reverse_cons, List.find?_append]
    cases ns.reverse.find? (·.account = a) with
    | some x => by_cases h : a = n.account <;> simp [h]
    | none => by_cases h : a = n.account <;> simp [h, eq_comm]

/-- Setting native balances changes accounts alone. -/
theorem exists_setNatives (c : Chain) (ns : List GenesisNative) :
    ∃ accounts, c.setNatives ns = { c with accounts } := by
  refine List.foldlRecOn (motive := fun d : Chain => ∃ accounts, d = { c with accounts }) ns _
    ⟨c.accounts, rfl⟩ fun d hd n _ => ?_
  obtain ⟨accounts, rfl⟩ := hd
  exact ⟨_, rfl⟩

end Chain

namespace Genesis

/-! ## What is listed -/

variable (g : Genesis)

/-- The contract at an address. -/
def contract? (a : Address) : Option GenesisContract := g.contracts.find? (·.address = a)

/-- Whether an account is among the holders of a role. -/
def Names (role : String) (a : Address) : Prop :=
  ∃ holders, g.roles.find? role = some holders ∧ a ∈ holders

/-- The balance in a token that is listed last for a holder. -/
def tokenBalance? (token holder : Address) : Option Amount :=
  (g.balances.reverse.find? fun b => b.token = token ∧ b.holder = holder).map (·.amount)

/-- The native balance that is listed last for an account. -/
def nativeBalance? (a : Address) : Option Amount :=
  (g.native.reverse.find? (·.account = a)).map (·.amount)

/-! ## What is built -/

/-- What is read off a chain and a governance is what a genesis lists. -/
structure Built (c : Chain) (governance : Governance) : Prop where
  hasCode_iff : ∀ a, c.hasCode a = true ↔ ∃ x ∈ g.contracts, x.address = a
  artifact : ∀ x ∈ g.contracts, c.artifactOf? x.address = some x.artifact
  paused : ∀ x ∈ g.contracts, c.isPaused x.address = .ok x.paused
  storage : ∀ x ∈ g.contracts, ∀ key, c.storage x.address key = .ok (x.storage.find? key)
  /-- Where no reading is listed, asking for one is an error. -/
  reading : ∀ x ∈ g.contracts,
    c.readOracle x.address = x.oracle.elim (.error (.notAnOracle x.address)) .ok
  hasRole_iff : ∀ role a, c.hasRole role a = true ↔ g.Names role a
  /-- The holders of a role are those listed, in ascending order and each once. -/
  roleHolders : ∀ role, (c.roleHolders role).Pairwise (fun a b => a.val < b.val) ∧
    ∀ a, a ∈ c.roleHolders role ↔ g.Names role a
  balanceOf : ∀ x ∈ g.contracts, ∀ holder,
    c.balanceOf x.address holder = .ok ((g.tokenBalance? x.address holder).getD .zero)
  nativeBalance : ∀ a, c.nativeBalance a = (g.nativeBalance? a).getD .zero
  timelock : ∀ category, governance.timelock? category = g.timelocks.find? category
  /-- An account that is no listed contract has nothing but native currency. -/
  others : ∀ a, (∀ x ∈ g.contracts, x.address ≠ a) →
    c.account a = { native := (g.nativeBalance? a).getD .zero }
  /-- Nothing has been deployed or executed. -/
  untouched : c.nonces = .empty ∧ governance.executed = []

/-- Each pass makes a part of the chain, and the last one changes what the first made. -/
theorem exists_build : ∃ accounts roles tokens accounts',
    Chain.empty.placeAll g.contracts = { accounts } ∧
    Chain.grantAll { accounts } g.roles.entries = { accounts, roles } ∧
    Chain.setTokens { accounts, roles } g.balances = { accounts, roles, tokens } ∧
    Chain.setNatives { accounts, roles, tokens } g.native
      = { accounts := accounts', roles, tokens } ∧
    g.build.1 = { accounts := accounts', roles, tokens } := by
  obtain ⟨accounts, placed⟩ := Chain.empty.exists_placeAll g.contracts
  obtain ⟨roles, granted⟩ := Chain.exists_grantAll { accounts } g.roles.entries
  obtain ⟨tokens, set⟩ := Chain.exists_setTokens { accounts, roles } g.balances
  obtain ⟨accounts', paid⟩ := Chain.exists_setNatives { accounts, roles, tokens } g.native
  refine ⟨accounts, roles, tokens, accounts', placed, granted, set, paid, ?_⟩
  have passes : g.build.1 = (((Chain.empty.placeAll g.contracts).grantAll
    g.roles.entries).setTokens g.balances).setNatives g.native := rfl
  have empty : ({ Chain.empty with accounts } : Chain) = { accounts } := rfl
  rw [passes, placed, empty, granted, set, paid]

/-- A genesis builds a governance with its timelocks and nothing executed. -/
theorem governance_build : g.build.2 = { timelocks := g.timelocks } := by
  have step : ∀ (es : List (Category × Address)) (gov : Governance),
      es.foldl (fun gov e => gov.withTimelock e.1 e.2) gov
        = { gov with timelocks := gov.timelocks.putAll es } := by
    intro es
    induction es with
    | nil => exact fun gov => rfl
    | cons e es ih => exact fun gov => ih (gov.withTimelock e.1 e.2)
  have laid : Table.empty.putAll g.timelocks.entries = g.timelocks := Table.ofList_entries _
  exact (step g.timelocks.entries Governance.empty).trans (congrArg (Governance.mk · []) laid)

variable {g}

/-- A contract is found by its address. -/
theorem contract?_address (distinct : (g.contracts.map (·.address)).Nodup) {x : GenesisContract}
    (hx : x ∈ g.contracts) : g.contract? x.address = some x := by
  cases found : g.contract? x.address with
  | none =>
    have other := List.find?_eq_none.1 found x hx
    simp at other
  | some y =>
    have same : y.address = x.address := by simpa using List.find?_some found
    rw [List.inj_on_of_nodup_map distinct (List.mem_of_find?_eq_some found) hx same]

/-- The account at an address is that of the contract listed there, if there is one, with the native
currency that is listed last. -/
theorem account_build (distinct : (g.contracts.map (·.address)).Nodup) (a : Address) :
    g.build.1.account a = { ((g.contract? a).map GenesisContract.account).getD {} with
      native := (g.nativeBalance? a).getD .zero } := by
  obtain ⟨accounts, roles, tokens, accounts', placed, -, -, paid, built⟩ := g.exists_build
  have first : ({ accounts } : Chain).account a
      = ((g.contract? a).map GenesisContract.account).getD {} :=
    placed ▸ Chain.account_placeAll distinct (fun _ _ => rfl) a
  have last := Chain.account_setNatives g.native { accounts, roles, tokens } a
  have same : ({ accounts, roles, tokens } : Chain).account a = ({ accounts } : Chain).account a :=
    rfl
  rw [paid, same, first] at last
  rw [built, last]
  cases g.contract? a with
  | none => rfl
  | some x => rfl

/-- The account of a contract has what is listed of it. -/
theorem account_build_of_mem (distinct : (g.contracts.map (·.address)).Nodup) {x : GenesisContract}
    (hx : x ∈ g.contracts) : g.build.1.account x.address
      = { x.account with native := (g.nativeBalance? x.address).getD .zero } := by
  rw [account_build distinct, contract?_address distinct hx]
  rfl

/-- The account of no contract has nothing but native currency. -/
theorem account_build_of_forall_ne (distinct : (g.contracts.map (·.address)).Nodup) {a : Address}
    (other : ∀ x ∈ g.contracts, x.address ≠ a) :
    g.build.1.account a = { native := (g.nativeBalance? a).getD .zero } := by
  have absent : g.contract? a = none := by
    rw [contract?, List.find?_eq_none]
    intro x hx same
    exact other x hx (of_decide_eq_true same)
  rw [account_build distinct, absent]
  rfl

/-- There is code where a contract is listed. -/
theorem hasCode_build_iff (distinct : (g.contracts.map (·.address)).Nodup) (a : Address) :
    g.build.1.hasCode a = true ↔ ∃ x ∈ g.contracts, x.address = a := by
  constructor
  · intro code
    by_contra absent
    have blank := account_build_of_forall_ne distinct fun x hx same => absent ⟨x, hx, same⟩
    rw [Chain.hasCode, blank] at code
    cases code
  · rintro ⟨x, hx, rfl⟩
    rw [Chain.hasCode, account_build_of_mem distinct hx]
    rfl

/-- An account has the roles under which it is listed. -/
theorem hasRole_build (role : String) (a : Address) :
    g.build.1.hasRole role a = true ↔ g.Names role a := by
  obtain ⟨accounts, roles, tokens, accounts', -, granted, -, -, built⟩ := g.exists_build
  have given := Chain.hasRole_grantAll g.roles.entries { accounts } role a
  have listed : (∃ e ∈ g.roles.entries, role = e.1 ∧ a ∈ e.2) ↔ g.Names role a := by
    constructor
    · rintro ⟨⟨role, holders⟩, he, rfl, ha⟩
      exact ⟨holders, g.roles.mem_entries_iff.1 he, ha⟩
    · rintro ⟨holders, found, ha⟩
      exact ⟨_, g.roles.mem_entries_iff.2 found, rfl, ha⟩
  rw [granted, listed] at given
  rw [built]
  exact given.trans (or_iff_left Bool.false_ne_true)

/-- A balance is the last that is listed, or nothing. -/
theorem tokenBalance_build (token holder : Address) :
    g.build.1.tokenBalance token holder = (g.tokenBalance? token holder).getD .zero := by
  obtain ⟨accounts, roles, tokens, accounts', -, -, set, -, built⟩ := g.exists_build
  have balance := Chain.tokenBalance_setTokens g.balances { accounts, roles } token holder
  rw [set] at balance
  rw [built]
  exact balance

/-- **A genesis builds what it lists.** If no two contracts have one address, the chain has the
code, the flags, the storage and the readings of the listed contracts, the listed holders of roles,
and the balances that are listed last, and nothing else. -/
theorem built_build (distinct : (g.contracts.map (·.address)).Nodup) :
    g.Built g.build.1 g.build.2 where
  hasCode_iff := hasCode_build_iff distinct
  artifact x hx := by
    rw [Chain.artifactOf?, account_build_of_mem distinct hx]
    rfl
  paused x hx := by
    rw [Chain.isPaused_eq_ok_iff, account_build_of_mem distinct hx]
    exact ⟨(hasCode_build_iff distinct _).2 ⟨x, hx, rfl⟩, rfl⟩
  storage x hx key := by
    rw [Chain.storage_eq_ok_iff, account_build_of_mem distinct hx]
    exact ⟨(hasCode_build_iff distinct _).2 ⟨x, hx, rfl⟩, rfl⟩
  reading x hx := by
    rw [Chain.readOracle_of_hasCode ((hasCode_build_iff distinct _).2 ⟨x, hx, rfl⟩),
      account_build_of_mem distinct hx]
    rfl
  hasRole_iff := hasRole_build
  roleHolders role :=
    ⟨Chain.pairwise_roleHolders _ role, fun a =>
      Chain.mem_roleHolders_iff.trans (hasRole_build role a)⟩
  balanceOf x hx holder := by
    rw [Chain.balanceOf_eq_ok_iff, tokenBalance_build]
    exact ⟨(hasCode_build_iff distinct _).2 ⟨x, hx, rfl⟩, rfl⟩
  nativeBalance a := by rw [Chain.nativeBalance, account_build distinct]
  timelock category := by rw [Governance.timelock?, governance_build]
  others a other := account_build_of_forall_ne distinct other
  untouched := by
    obtain ⟨accounts, roles, tokens, accounts', -, -, -, -, built⟩ := g.exists_build
    rw [built, governance_build]
    exact ⟨rfl, rfl⟩

end Genesis

namespace Drill

/-- A genesis in which a contract holds native currency and tokens, an account is listed twice under
a role, and two balances are listed twice. -/
def outset : Genesis where
  contracts := [
    { address := .ofNat 1
      artifact := "Coin"
      storage := .ofList [("cap", .nat 5), ("name", .text "coin")]
      paused := true },
    { address := .ofNat 2, artifact := "Feed", oracle := some { value := .greatest } }]
  roles := .ofList [("GOVERN_ROLE", [.ofNat 7, .ofNat 3, .ofNat 7]), ("KEEPER", [])]
  balances := [
    { token := .ofNat 1, holder := .ofNat 7, amount := .greatest },
    { token := .ofNat 1, holder := .ofNat 2, amount := ⟨13, by decide⟩ },
    { token := .ofNat 1, holder := .ofNat 7, amount := ⟨16, by decide⟩ }]
  native := [
    { account := .ofNat 1, amount := ⟨17, by decide⟩ },
    { account := .ofNat 9, amount := ⟨18, by decide⟩ },
    { account := .ofNat 1, amount := ⟨19, by decide⟩ }]
  timelocks := .ofList [(.dao, .ofNat 9)]

end Drill

namespace Genesis

/-- The genesis is built, and where it lists something twice, the last entry counts. -/
theorem built_build_outset :
    (Drill.outset.contracts.map (·.address)).Nodup ∧
      Drill.outset.Built Drill.outset.build.1 Drill.outset.build.2 ∧
      Drill.outset.build.1.balanceOf (.ofNat 1) (.ofNat 7) = .ok ⟨16, by decide⟩ ∧
      Drill.outset.build.1.nativeBalance (.ofNat 1) = ⟨19, by decide⟩ ∧
      Drill.outset.build.1.roleHolders "GOVERN_ROLE" = [.ofNat 3, .ofNat 7] := by
  have distinct : (Drill.outset.contracts.map (·.address)).Nodup := by decide +kernel
  have built := built_build distinct
  have coin := built.balanceOf _ List.mem_cons_self (.ofNat 7)
  exact ⟨distinct, built, coin.trans (by decide +kernel),
    (built.nativeBalance (.ofNat 1)).trans (by decide +kernel), by decide +kernel⟩

end Genesis
end Rollout
