/-
# Where contracts come to stand

The contracts that an account creates are numbered from zero, and the account and the number alone
tell the address. Of all that can be done to a chain only creating a contract counts, and only for
the account that creates it:

| operation | count of `d` |
| --- | --- |
| `deploy d …` | one more |
| `deploy` by another account | as before |
| any other, accepted or refused | as before |

So whatever is done in between, the contracts of an account stand at its addresses of the numbers
0, 1, 2, … (`Operation.addresses_creations`). Account and number are written in twenty and eight
bytes, which tell both (`Chain.creationMessage_inj`). So where digests tell these messages apart, no
two contracts are created at one address (`Operation.numbered_creations`).
-/

import Rollout.Proofs.Address.Bytes
import Rollout.Proofs.Chain.Deployment
import Rollout.Proofs.Chain.Footprint
import Mathlib.Data.List.Dedup

namespace Rollout

-- Powers are those of core, whatever is imported beside this module.
attribute [local instance (high)] instPowNat

/-! ## A short history -/

namespace Drill

/-- A governance whose timelock is an account that may not pause. -/
def junta : Governance := Governance.empty.withTimelock .dao (.ofNat 9)

/-- One account creates two contracts and another one. Meanwhile a call is refused, and an action is
undone that has got as far as its second call. -/
def industry : List Operation :=
  let core := Address.ofNat 1
  let pay : Call := { target := core, method := "burn", arguments := [.text "0"] }
  [ .install core "Core",
    .execute
      { proposalId := "halt", category := .dao
        calls := [pay, { target := core, method := "pause" }] },
    .deploy (.ofNat 7) "Coin" [],
    .call (.ofNat 7) { target := core, method := "pause" },
    .deploy (.ofNat 8) "Vault" [.bool true],
    .deploy (.ofNat 7) "Coin" []]

end Drill

/-! ## Addresses -/

namespace Blake3

/-- Thirty-two bytes. -/
theorem length_digest (message : List Nat) : (digest message).length = 32 := by
  simp only [digest, wordBytes, List.length_flatMap, List.length_map, List.length_range]
  rfl

/-- A digest is made of bytes. -/
theorem lt_of_mem_digest {message : List Nat} {b : Nat} (h : b ∈ digest message) : b < 256 := by
  simp only [digest, wordBytes, List.mem_flatMap, List.mem_map] at h
  obtain ⟨-, -, i, -, rfl⟩ := h
  exact Nat.mod_lt _ (by decide)

end Blake3

namespace Chain

/-- What the address of an account's contract of a number is the digest of. -/
def creationMessage (deployer : Address) (number : Nat) : List Nat :=
  deployer.bytes ++ Digits.fixed 256 8 number

/-- Account and number are told by their bytes, as long as eight are enough for the number. -/
theorem creationMessage_inj {d d' : Address} {k k' : Nat} (hk : k < 2 ^ (64 : Nat))
    (hk' : k' < 2 ^ (64 : Nat)) :
    creationMessage d k = creationMessage d' k' ↔ d = d' ∧ k = k' := by
  have enough : (2 : Nat) ^ (64 : Nat) = 256 ^ (8 : Nat) := rfl
  rw [enough] at hk hk'
  constructor
  · intro same
    have lengths : d.bytes.length = d'.bytes.length := by
      rw [Address.length_bytes, Address.length_bytes]
    obtain ⟨account, number⟩ := List.append_inj same lengths
    exact ⟨Address.bytes_inj.1 account, (Digits.fixed_inj hk hk').1 number⟩
  · rintro ⟨rfl, rfl⟩
    rfl

/-- The bytes of the address are the first twenty of the digest. -/
theorem bytes_deploymentAddress (d : Address) (k : Nat) :
    (deploymentAddress d k).bytes = (Blake3.digest (creationMessage d k)).take 20 := by
  refine Address.bytes_ofBytes ?_ fun b hb => Blake3.lt_of_mem_digest (List.mem_of_mem_take hb)
  rw [List.length_take, Blake3.length_digest]
  rfl

end Chain

namespace Operation

/-! ## Histories -/

/-- The account that creates a contract. -/
def deployer? : Operation → Option Address
  | deploy d _ _ => some d
  | _ => none

/-- The accounts that create contracts, each as often as it does. -/
def deployers (ops : List Operation) : List Address := ops.filterMap deployer?

/-- Does operations one after another and tells of each what it returned. -/
def answers (s : System) : List Operation → List (Operation × Except ChainError Answer)
  | [] => []
  | o :: ops =>
    match o.perform s with
    | .ok (answer, s') => (o, .ok answer) :: answers s' ops
    | .error e => (o, .error e) :: answers s ops

/-- The account that has created a contract, and the address that it was told. -/
def creation? : Operation × Except ChainError Answer → Option (Address × Address)
  | (deploy d _ _, .ok (.created a)) => some (d, a)
  | _ => none

/-- All contracts created in a history, in order. -/
def creations (s : System) (ops : List Operation) : List (Address × Address) :=
  (answers s ops).filterMap creation?

/-- What the addresses in a history are the digests of. -/
def creationMessages (ops : List Operation) : List (List Nat) :=
  (deployers ops).dedup.flatMap fun d =>
    (List.range ((deployers ops).count d)).map (Chain.creationMessage d)

/-! ## One operation -/

/-- An action that is executed changes no nonce. -/
theorem nonces_execute {g g' : Governance} {a : Action} {c c' : Chain} {receipt : Receipt}
    (h : g.execute a c = .ok (receipt, c', g')) : c'.nonces = c.nonces :=
  Governance.execute_induction (P := fun d => d.nonces = c.nonces) h (fun _ => rfl)
    fun _ _ _ _ _ same applied => (Chain.Confined.of_apply applied).nonces.trans same

/-- **Only an account's own contracts count.** -/
theorem nonce_perform {s s' : System} {o : Operation} {answer : Answer}
    (h : o.perform s = .ok (answer, s')) (d : Address) :
    s'.chain.nonce d = s.chain.nonce d + if o.deployer? = some d then 1 else 0 := by
  cases o with
  | deploy deployer artifact arguments =>
    cases h
    refine (Chain.nonce_deploy s.chain deployer artifact arguments d).trans ?_
    simp only [deployer?, Option.some.injEq, eq_comm (a := d)]
  | call sender c =>
    rw [perform, bind_eq_ok_iff] at h
    obtain ⟨⟨receipt, c'⟩, called, ⟨⟩⟩ := h
    rw [Chain.call, bind_eq_ok_iff] at called
    obtain ⟨⟨e, c₁⟩, applied, ⟨⟩⟩ := called
    exact congrArg (fun t : Table Address Nat => (t.find? d).getD 0)
      (Chain.Confined.of_apply applied).nonces
  | execute action =>
    rw [perform, bind_eq_ok_iff] at h
    obtain ⟨⟨receipt, c', g'⟩, executed, ⟨⟩⟩ := h
    exact congrArg (fun t : Table Address Nat => (t.find? d).getD 0) (nonces_execute executed)
  | _ =>
    cases h
    rfl

/-- A contract is created always. -/
theorem deployer?_of_error {s : System} {o : Operation} {e : ChainError}
    (h : o.perform s = .error e) : o.deployer? = none := by
  cases o with
  | deploy deployer artifact arguments => cases h
  | _ => rfl

/-- A contract is created at the next address of its account, and by nothing else. -/
theorem exists_creations_cons (s : System) (o : Operation) (ops : List Operation) :
    ∃ s' : System,
      (∀ d, s'.chain.nonce d = s.chain.nonce d + if o.deployer? = some d then 1 else 0) ∧
      creations s (o :: ops) = (o.deployer?.map fun d =>
        (d, Chain.deploymentAddress d (s.chain.nonce d))).toList ++ creations s' ops := by
  cases performed : o.perform s with
  | ok x =>
    obtain ⟨answer, s'⟩ := x
    refine ⟨s', nonce_perform performed, ?_⟩
    rw [creations, answers, performed]
    cases o with
    | deploy deployer artifact arguments =>
      cases performed
      rfl
    | _ => rfl
  | error e =>
    have none := deployer?_of_error performed
    refine ⟨s, fun d => by simp [none], ?_⟩
    rw [creations, answers, performed, none]
    cases o with
    | deploy deployer artifact arguments => cases none
    | _ => rfl

/-! ## All operations -/

/-- The deployers of operations are that of the first and those of the others. -/
theorem deployers_cons (o : Operation) (ops : List Operation) :
    deployers (o :: ops) = o.deployer?.toList ++ deployers ops := by
  rw [deployers, List.filterMap_cons]
  cases o.deployer? <;> rfl

/-- **The contracts of an account stand at its next addresses**, one after another. -/
theorem addresses_creations (s : System) (ops : List Operation) (d : Address) :
    ((creations s ops).filter (·.1 = d)).map (·.2) = (List.range ((deployers ops).count d)).map
      fun k => Chain.deploymentAddress d (s.chain.nonce d + k) := by
  induction ops generalizing s with
  | nil => rfl
  | cons o ops ih =>
    obtain ⟨s', counted, created⟩ := exists_creations_cons s o ops
    rw [created, deployers_cons]
    have rest := ih s'
    rw [counted] at rest
    cases made : o.deployer? with
    | none =>
      rw [made] at rest
      exact rest
    | some d' =>
      rw [made] at rest
      by_cases own : d' = d
      · subst own
        rw [if_pos rfl] at rest
        have shifted : (fun k => Chain.deploymentAddress d' (s.chain.nonce d' + 1 + k))
            = (fun k => Chain.deploymentAddress d' (s.chain.nonce d' + k)) ∘ Nat.succ :=
          funext fun k => by rw [Function.comp, Nat.add_right_comm, Nat.add_assoc]
        rw [Option.map_some, Option.toList_some, Option.toList_some, List.singleton_append,
          List.singleton_append, List.filter_cons_of_pos (by simp), List.map_cons, rest, shifted,
          List.count_cons_self, List.range_succ_eq_map, List.map_cons, List.map_map]
        rfl
      · rw [if_neg fun same => own (Option.some.inj same)] at rest
        rw [Option.map_some, Option.toList_some, Option.toList_some, List.singleton_append,
          List.singleton_append, List.filter_cons_of_neg (by simpa using own),
          List.count_cons_of_ne own]
        exact rest

/-- The number is one that an account comes to in a history. -/
def Numbers (s : System) (ops : List Operation) (d : Address) (k : Nat) : Prop :=
  s.chain.nonce d ≤ k ∧ k < s.chain.nonce d + (deployers ops).count d

/-- What is created is at the address for a number that was reached. -/
theorem exists_of_mem_creations {s : System} {ops : List Operation} {x : Address × Address}
    (h : x ∈ creations s ops) : ∃ k, Numbers s ops x.1 k ∧ x.2 = Chain.deploymentAddress x.1 k := by
  have own : x.2 ∈ ((creations s ops).filter (·.1 = x.1)).map (·.2) :=
    List.mem_map_of_mem (List.mem_filter.2 ⟨h, decide_eq_true rfl⟩)
  rw [addresses_creations] at own
  obtain ⟨k, hk, same⟩ := List.mem_map.1 own
  exact ⟨_, ⟨Nat.le_add_right .., Nat.add_lt_add_left (List.mem_range.1 hk) _⟩, same.symm⟩

/-- The numbers of later operations are among those of all, and the first is passed if it is given. -/
theorem Numbers.of_tail {s s' : System} {o : Operation} {ops : List Operation} {d : Address} {k : Nat}
    (counted : s'.chain.nonce d = s.chain.nonce d + if o.deployer? = some d then 1 else 0)
    (h : Numbers s' ops d k) :
    Numbers s (o :: ops) d k ∧ (o.deployer? = some d → s.chain.nonce d < k) := by
  obtain ⟨lower, upper⟩ := h
  rw [counted] at lower upper
  have total : (deployers (o :: ops)).count d
      = (if o.deployer? = some d then 1 else 0) + (deployers ops).count d := by
    rw [deployers_cons, List.count_append]
    cases o.deployer? with
    | none => rfl
    | some d' => simp [List.count_singleton]
  rw [Numbers, total]
  refine ⟨by omega, fun own => ?_⟩
  rw [if_pos own] at lower
  omega

/-- Where the addresses tell account and number, none is given twice. -/
theorem nodup_creations {s : System} {ops : List Operation}
    (apart : ∀ d d' k k', Numbers s ops d k → Numbers s ops d' k' →
      Chain.deploymentAddress d k = Chain.deploymentAddress d' k' → d = d' ∧ k = k') :
    ((creations s ops).map (·.2)).Nodup := by
  induction ops generalizing s with
  | nil => exact List.nodup_nil
  | cons o ops ih =>
    obtain ⟨s', counted, created⟩ := exists_creations_cons s o ops
    have distinct := ih fun d d' k k' hk hk' =>
      apart d d' k k' (hk.of_tail (counted d)).1 (hk'.of_tail (counted d')).1
    rw [created]
    cases made : o.deployer? with
    | none => exact distinct
    | some d =>
      refine List.nodup_cons.2 ⟨fun again => ?_, distinct⟩
      -- A contract created later has a later number, or another account.
      obtain ⟨x, hx, same⟩ := List.mem_map.1 again
      obtain ⟨k, hk, address⟩ := exists_of_mem_creations hx
      obtain ⟨used, later⟩ := hk.of_tail (counted x.1)
      have first : Numbers s (o :: ops) d (s.chain.nonce d) := by
        rw [Numbers, deployers_cons, made]
        refine ⟨Nat.le_refl _, ?_⟩
        rw [Option.toList_some, List.singleton_append, List.count_cons_self]
        omega
      obtain ⟨rfl, number⟩ := apart _ _ _ _ first used (same.symm.trans address)
      exact absurd number (Nat.ne_of_lt (later made))

/-- **The address of a contract depends on its account and its number alone.** In every history of a
chain that was empty, in which no account creates so many contracts that their count takes more than
eight bytes, the addresses at which an account's contracts are created are, in order, the first
twenty bytes of the digests of the account and 0, 1, 2, …, whatever else is done, refused or undone
in between. So if these digests do not collide, no two contracts are created at one address. -/
theorem numbered_creations (g : Governance) (ops : List Operation)
    (few : ∀ d, (deployers ops).count d < 2 ^ (64 : Nat)) :
    (∀ d, ((creations ⟨.empty, g⟩ ops).filter (·.1 = d)).map (·.2.bytes) =
      (List.range ((deployers ops).count d)).map fun k =>
        (Blake3.digest (d.bytes ++ Digits.fixed 256 8 k)).take 20) ∧
    ((∀ m ∈ creationMessages ops, ∀ m' ∈ creationMessages ops,
        (Blake3.digest m).take 20 = (Blake3.digest m').take 20 → m = m') →
      ((creations ⟨.empty, g⟩ ops).map (·.2)).Nodup) := by
  have unused (d : Address) : (System.mk .empty g).chain.nonce d = 0 := rfl
  constructor
  · intro d
    have addresses := congrArg (List.map Address.bytes) (addresses_creations ⟨.empty, g⟩ ops d)
    rw [List.map_map, List.map_map] at addresses
    refine addresses.trans (List.map_congr_left fun k _ => ?_)
    rw [Function.comp, unused, Nat.zero_add, Chain.bytes_deploymentAddress]
    rfl
  · intro collisionless
    refine nodup_creations fun d d' k k' hk hk' same => ?_
    have message {d : Address} {k : Nat} (h : Numbers ⟨.empty, g⟩ ops d k) :
        k < 2 ^ (64 : Nat) ∧ Chain.creationMessage d k ∈ creationMessages ops := by
      obtain ⟨-, bounded⟩ := h
      rw [unused, Nat.zero_add] at bounded
      have deploys : d ∈ deployers ops := List.count_pos_iff.1 (by omega)
      exact ⟨Nat.lt_trans bounded (few d), List.mem_flatMap.2
        ⟨d, List.mem_dedup.2 deploys, List.mem_map_of_mem (List.mem_range.2 bounded)⟩⟩
    obtain ⟨small, used⟩ := message hk
    obtain ⟨small', used'⟩ := message hk'
    have digests := congrArg Address.bytes same
    rw [Chain.bytes_deploymentAddress, Chain.bytes_deploymentAddress] at digests
    exact (Chain.creationMessage_inj small small').1 (collisionless _ used _ used' digests)

/-- Three contracts by two accounts, at three addresses. -/
theorem numbered_creations_industry :
    (answers ⟨.empty, Drill.junta⟩ (Drill.industry.take 4)).map (·.2.isOk)
      = [true, false, true, false] ∧
    deployers Drill.industry = [.ofNat 7, .ofNat 8, .ofNat 7] ∧
    (∀ d, ((creations ⟨.empty, Drill.junta⟩ Drill.industry).filter (·.1 = d)).map (·.2.bytes) =
      (List.range ((deployers Drill.industry).count d)).map fun k =>
        (Blake3.digest (d.bytes ++ Digits.fixed 256 8 k)).take 20) ∧
    ((creations ⟨.empty, Drill.junta⟩ Drill.industry).map (·.2)).Nodup := by
  have few (d : Address) : (deployers Drill.industry).count d < 2 ^ (64 : Nat) :=
    Nat.lt_of_le_of_lt List.count_le_length (by decide)
  obtain ⟨numbered, distinct⟩ := numbered_creations Drill.junta Drill.industry few
  have digests : ((creationMessages Drill.industry).map
      fun m => (Blake3.digest m).take 20).Nodup := by decide +kernel
  exact ⟨by decide +kernel, rfl, numbered, distinct (List.inj_on_of_nodup_map digests)⟩

end Operation
end Rollout
