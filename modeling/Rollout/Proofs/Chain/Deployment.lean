/-
# Contracts that an account creates

An account creates its contracts at addresses that follow from how many it has created before
(`Chain.upcoming`). One more contract changes these things and nothing else:

| read | is |
| --- | --- |
| `account a`, at the next address | with artifact and storage of the contract |
| `account a`, elsewhere | as before |
| `nonce b` | one more for the account that creates it |
| `contracts` | one more, unless code stood at the address already |

Where the next addresses differ and nothing stands there (`Chain.Free`), each contract is the only one
at its address.
-/

import Rollout.Proofs.Chain.Reads
import Rollout.Proofs.Table.Overlay

namespace Rollout
namespace Chain

variable {c : Chain} {deployer : Address} {m : Nat}

/-- The address of an account's next deployment, of the one after it for one, and so on. -/
def upcoming (c : Chain) (deployer : Address) (i : Nat) : Address :=
  deploymentAddress deployer (c.nonce deployer + i)

/-- An account's next deployments, so many of them, are all at addresses of their own, and without
code so far. -/
structure Free (c : Chain) (deployer : Address) (m : Nat) : Prop where
  distinct : ∀ i j, i < j → j < m → c.upcoming deployer i ≠ c.upcoming deployer j
  vacant : ∀ i < m, c.hasCode (c.upcoming deployer i) = false

/-- Room for one contract less is there where there is room for all. -/
theorem Free.pred (free : c.Free deployer (m + 1)) : c.Free deployer m where
  distinct i j hij hj := free.distinct i j hij (Nat.lt_succ_of_lt hj)
  vacant i hi := free.vacant i (Nat.lt_succ_of_lt hi)

/-- How many contracts there are. -/
def contracts (c : Chain) : Nat := c.accounts.total fun x => x.artifact.isSome.toNat

/-! ## What a contract starts with -/

/-- The only argument, if it is an object, gives each slot its field. -/
theorem find?_initialStorage_object {fields : List (String × Value)} (ascending : Ascending fields)
    (key : String) :
    (initialStorage [.object fields]).find? key = (Value.object fields).field? key := by
  rw [initialStorage, Table.find?_ofList]
  exact Table.find?_reverse_of_perm ⟨fields, ascending⟩ (.refl _) key

/-- Different places have different slots. -/
theorem place_inj {i j : Nat} : "arg" ++ toString j = "arg" ++ toString i ↔ j = i := by
  constructor
  · intro same
    have digits : String.ofList (Nat.toDigits 10 j) = String.ofList (Nat.toDigits 10 i) := by
      rw [← Nat.toString_eq_ofList_toDigits, ← Nat.toString_eq_ofList_toDigits]
      exact (String.append_right_inj _).1 same
    have numbers := congrArg (fun s : String => Nat.ofDigitChars 10 s.toList 0) digits
    simpa only [String.toList_ofList, Nat.ofDigitChars_ten_toDigits] using numbers
  · rintro rfl
    rfl

/-- Other arguments are found by their places. -/
theorem find?_initialStorage_place {args : List Value}
    (several : ∀ fields, args ≠ [.object fields]) (i : Nat) :
    (initialStorage args).find? ("arg" ++ toString i) = args[i]? := by
  have placed : ((fun e : String × Value => decide (e.1 = "arg" ++ toString i)) ∘
      fun a : Value × Nat => ("arg" ++ toString a.2, a.1)) = fun a => decide (a.2 = i) := by
    funext a
    exact decide_eq_decide.2 place_inj
  rw [initialStorage, Table.find?_ofList, ← List.map_reverse, List.find?_map, placed,
    Option.map_map]
  · cases found : args.zipIdx.reverse.find? fun a => decide (a.2 = i) with
    | none =>
      cases there : args[i]? with
      | none => rfl
      | some v =>
        have listed := List.mem_reverse.2 (List.mk_mem_zipIdx_iff_getElem?.2 there)
        exact absurd (decide_eq_true rfl) (List.find?_eq_none.1 found _ listed)
    | some a =>
      obtain ⟨v, j⟩ := a
      obtain rfl : j = i := by simpa using List.find?_some found
      have listed := List.mem_reverse.1 (List.mem_of_find?_eq_some found)
      exact (List.mk_mem_zipIdx_iff_getElem?.1 listed).symm
  · exact several

/-! ## One contract more -/

section Deploy

variable (c deployer) (artifact : String) (args : List Value)

/-- A contract that is created is at the next address with its artifact and storage, and no other
account changes. -/
theorem account_deploy (a : Address) :
    (c.deploy deployer artifact args).2.account a =
      if a = c.upcoming deployer 0 then
        { c.account a with artifact := some artifact, storage := initialStorage args }
      else c.account a := by
  rw [deploy, account_updateAccount]
  by_cases here : a = c.upcoming deployer 0
  · rw [if_pos here, here]
    exact if_pos rfl
  · rw [if_neg here]
    exact if_neg here

/-- There is code where there was, and at the next address. -/
theorem hasCode_deploy_iff (a : Address) :
    (c.deploy deployer artifact args).2.hasCode a = true ↔
      c.hasCode a = true ∨ a = c.upcoming deployer 0 := by
  rw [hasCode, account_deploy, hasCode]
  by_cases here : a = c.upcoming deployer 0
  · rw [if_pos here]
    exact iff_of_true rfl (.inr here)
  · rw [if_neg here]
    exact ⟨.inl, fun h => h.resolve_right here⟩

/-- Creating a contract raises the nonce of its deployer by one. -/
theorem nonce_deploy (a : Address) :
    (c.deploy deployer artifact args).2.nonce a
      = c.nonce a + if a = deployer then 1 else 0 := by
  show ((c.nonces.insert deployer (c.nonce deployer + 1)).find? a).getD 0 = _
  rw [Table.find?_insert]
  by_cases own : a = deployer
  · rw [if_pos own, if_pos own, own]
    rfl
  · rw [if_neg own, if_neg own]
    rfl

/-- Where code stands already, it is put over. -/
theorem contracts_deploy :
    (c.deploy deployer artifact args).2.contracts + (c.hasCode (c.upcoming deployer 0)).toNat
      = c.contracts + 1 := by
  have total := Table.total_insert (fun x : Account => x.artifact.isSome.toNat) c.accounts
    (c.upcoming deployer 0)
    { c.account (c.upcoming deployer 0) with
      artifact := some artifact, storage := initialStorage args }
  have coded : (c.accounts.find? (c.upcoming deployer 0)).elim 0 (·.artifact.isSome.toNat)
      = (c.hasCode (c.upcoming deployer 0)).toNat := by
    rw [hasCode, account]
    cases c.accounts.find? (c.upcoming deployer 0) with
    | none => rfl
    | some x => rfl
  rw [coded] at total
  exact total

end Deploy

end Chain
end Rollout
