/-
# Why a call is refused

A call is refused where there is no code at its target, where its sender cannot pay for it, or by
its method. A method fails by its arguments, by what it asks of the sender and of its target, and
where there are too few tokens to move:

| cause | refused by |
| --- | --- |
| an argument is missing or of the wrong kind | methods with arguments |
| the sender holds none of the roles | methods that ask for a role |
| the target is paused | `mint`, `transfer`, `burn` |
| there are too few tokens | `transfer`, `burn` |
| there is no such method | all other names |

These are all (`Chain.errs_perform`).
-/

import Rollout.Chain.Method
import Rollout.Proofs.Errors

namespace Rollout

namespace Chain

variable {sender : Address} {call : Call}

/-- What a method may be refused for. -/
inductive Refusal (sender : Address) (call : Call) : ChainError → Prop
  | invalidArgument (cause : ArgumentError) :
      Refusal sender call (.invalidArgument call.method cause)
  | lacksRole (roles : List String) : Refusal sender call (.lacksRole sender roles)
  | tokenPaused : Refusal sender call .tokenPaused
  | insufficientTokens : Refusal sender call .insufficientTokens
  | unknownMethod : Refusal sender call (.unknownMethod call.method)

/-! ## Arguments -/

section Arguments

variable (sender : Address) (call : Call) (index : Nat)

/-- An argument that is not there is refused as invalid. -/
theorem errs_argument : Errs (Refusal sender call) (call.argument index) := by
  rw [Call.argument]
  split
  · exact .ok _
  · exact .error (.invalidArgument _)

/-- An argument that is not text is refused as invalid. -/
theorem errs_textArgument : Errs (Refusal sender call) (call.textArgument index) := by
  refine (errs_argument sender call index).bind fun v => ?_
  split
  · exact .ok _
  · exact .error (.invalidArgument _)

/-- An argument that is no address is refused as invalid. -/
theorem errs_addressArgument : Errs (Refusal sender call) (call.addressArgument index) := by
  refine (errs_textArgument sender call index).bind fun s => ?_
  split
  · exact .ok _
  · exact .error (.invalidArgument _)

/-- An argument that is no amount is refused as invalid. -/
theorem errs_amountArgument : Errs (Refusal sender call) (call.amountArgument index) := by
  refine (errs_argument sender call index).bind fun v => ?_
  split
  · exact .ok _
  · exact .error (.invalidArgument _)

/-- An argument that is no flag is refused as invalid. -/
theorem errs_flagArgument : Errs (Refusal sender call) (call.flagArgument index) := by
  rw [Call.flagArgument]
  split
  · exact .ok _
  · exact .ok _
  · exact .error (.invalidArgument _)

end Arguments

/-! ## Methods -/

/-- A sender may be refused for a role that it lacks. -/
theorem errs_requireRole (c : Chain) (roles : List String) :
    Errs (Refusal sender call) (c.requireRole roles sender) := by
  rw [requireRole]
  split
  · exact .ok _
  · exact .error (.lacksRole _)

/-- A call may be refused for a token that is paused. -/
theorem errs_requireUnpaused (c : Chain) (a : Address) :
    Errs (Refusal sender call) (c.requireUnpaused a) := by
  rw [requireUnpaused]
  split
  · exact .error .tokenPaused
  · exact .ok _

/-- A call may be refused for tokens that the source lacks. -/
theorem errs_moveTokens (c : Chain) (token source target : Address) (amount : Amount) :
    Errs (Refusal sender call) (c.moveTokens token source target amount) := by
  rw [moveTokens]
  split
  · exact .error .insufficientTokens
  · exact .ok _

/-- **Why a method is refused.** -/
theorem errs_perform (c : Chain) (sender : Address) (call : Call) :
    Errs (Refusal sender call) (c.perform sender call) := by
  unfold perform
  have roles (asked : List String) : Errs (Refusal sender call) (c.requireRole asked sender) :=
    errs_requireRole c asked
  have unpaused : Errs (Refusal sender call) (c.requireUnpaused call.target) :=
    errs_requireUnpaused c call.target
  have address := errs_addressArgument sender call
  have amount := errs_amountArgument sender call
  have text := errs_textArgument sender call
  cases Method.ofName call.method with
  | changeFixedRole role grant => exact (address 0).bind fun _ => (roles _).bind fun _ => .ok _
  | changeRole grant =>
    exact (text 0).bind fun _ => (address 1).bind fun _ => (roles _).bind fun _ => .ok _
  | setPaused paused => exact (roles _).bind fun _ => .ok _
  | mint =>
    exact (address 0).bind fun _ => (amount 1).bind fun _ => (roles _).bind fun _ =>
      unpaused.bind fun _ => .ok _
  | transfer =>
    exact (address 0).bind fun _ => (amount 1).bind fun _ => unpaused.bind fun _ =>
      (errs_moveTokens c _ _ _ _).bind fun _ => .ok _
  | burn =>
    exact (amount 0).bind fun _ => unpaused.bind fun _ =>
      (errs_moveTokens c _ _ _ _).bind fun _ => .ok _
  | setStorage =>
    exact (text 0).bind fun _ => (errs_argument sender call 1).bind fun _ =>
      (roles _).bind fun _ => .ok _
  | setOracle =>
    exact (amount 0).bind fun _ => (errs_flagArgument sender call 1).bind fun _ =>
      (roles _).bind fun _ => .ok _
  | unknown => exact .error .unknownMethod

end Chain
end Rollout
