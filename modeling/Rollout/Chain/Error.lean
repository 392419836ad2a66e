/-
# Why a chain refuses

A call, a read or an executed action fails for one of the causes of `ChainError`. A failing
command of an action carries the cause of its failure.
-/

import Rollout.Address
import Rollout.Chain.Category

namespace Rollout

/-- What is wrong with an argument of a call, by its place from zero. -/
inductive ArgumentError
  | missing (index : Nat)
  | notText (index : Nat)
  | notAddress (index : Nat) (cause : Address.ParseError)
  | notAmount (index : Nat)
  | notBool (index : Nat)
  | other (reason : String)
deriving DecidableEq, Repr

namespace ArgumentError

def message : ArgumentError → String
  | missing i => "missing argument " ++ toString i
  | notText i => "argument " ++ toString i ++ " is not a string"
  | notAddress i cause => "argument " ++ toString i ++ ": " ++ cause.message
  | notAmount i => "argument " ++ toString i ++ " is not an amount"
  | notBool i => "argument " ++ toString i ++ " is not a bool"
  | other reason => reason

end ArgumentError

/-- Why a chain refuses. -/
inductive ChainError
  /-- The sender holds none of the roles that the method asks for. -/
  | lacksRole (sender : Address) (roles : List String)
  | insufficientNative
  | insufficientTokens
  | tokenPaused
  | unknownMethod (method : String)
  | notAnOracle (address : Address)
  | noTimelock (category : Category)
  /-- A command of an action failed. -/
  | command (index : Nat) (method : String) (cause : ChainError)
  /-- A revert for a reason given as text. -/
  | reverted (reason : String)
  | noCode (address : Address)
  | invalidArgument (method : String) (cause : ArgumentError)
  | rpc (message : String)
deriving DecidableEq

namespace ChainError

/-- The class of an error as it is reported. -/
inductive Class
  | reverted
  | noCode
  | invalidArgument
  | rpc
deriving DecidableEq, Repr

def Class.text : Class → String
  | reverted => "Reverted"
  | noCode => "NoCode"
  | invalidArgument => "InvalidArgument"
  | rpc => "Rpc"

def kind : ChainError → Class
  | noCode _ => .noCode
  | invalidArgument _ _ => .invalidArgument
  | rpc _ => .rpc
  | _ => .reverted

/-- Whether the error is a revert. -/
def isRevert (e : ChainError) : Bool := e.kind = .reverted

def message : ChainError → String
  | lacksRole sender roles =>
    "reverted: " ++ sender.text ++ " lacks " ++ String.intercalate " or " roles
  | insufficientNative => "reverted: insufficient native balance"
  | insufficientTokens => "reverted: ERC20: transfer amount exceeds balance"
  | tokenPaused => "reverted: Pausable: paused"
  | unknownMethod method => "reverted: unknown method " ++ method
  | notAnOracle address => "reverted: " ++ address.text ++ " is not an oracle"
  | noTimelock category => "reverted: no timelock for category " ++ category.text
  | command index method cause =>
    "reverted: command " ++ toString index ++ " (" ++ method ++ "): " ++ cause.message
  | reverted reason => "reverted: " ++ reason
  | noCode address => "no code at " ++ address.text
  | invalidArgument method cause =>
    "invalid argument for " ++ method ++ ": " ++ cause.message
  | rpc message => "rpc failure: " ++ message

end ChainError
end Rollout
