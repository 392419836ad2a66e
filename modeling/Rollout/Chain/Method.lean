/-
# Calling contracts

What the methods of contracts do. A call first needs code at its target, then moves the
attached currency, and then does what its method says:

| method | asks for | does |
| --- | --- | --- |
| `grantRole r a`, `revokeRole r a` | governor | gives or takes a role |
| `grantGovernor a`, `revokeMinter a`, … | governor | the same for a fixed role |
| `pause`, `unpause` | governor or guardian | sets the pause flag |
| `mint a n` | minter | adds tokens, unless paused |
| `transfer a n`, `burn n` | | moves or destroys the sender's tokens, unless paused |
| `setStorage k v`, `setOracle n b` | governor | writes a slot or the reading |

A refused call changes nothing: the result of `Chain.apply` holds the new chain only if the
call succeeds.
-/

import Rollout.Chain.Basic

namespace Rollout

/-- What a method's name stands for. -/
inductive Method
  /-- Gives (`true`) or takes a role that the name itself fixes. -/
  | changeFixedRole (role : String) (grant : Bool)
  | changeRole (grant : Bool)
  | setPaused (paused : Bool)
  | mint
  | transfer
  | burn
  | setStorage
  | setOracle
  | unknown
deriving DecidableEq, Repr

namespace Method

/-- The roles that have methods of their own, by the ends of those methods' names. -/
def fixedRoles : List (String × String) :=
  [("Governor", Role.govern), ("Guardian", Role.guardian), ("Minter", Role.minter),
    ("Burner", Role.burner), ("PCVController", Role.pcvController)]

/-- The method of a name. -/
def ofName (name : String) : Method :=
  match fixedRoles.find? (fun r => "grant" ++ r.1 == name) with
  | some (_, role) => .changeFixedRole role true
  | none =>
    match fixedRoles.find? (fun r => "revoke" ++ r.1 == name) with
    | some (_, role) => .changeFixedRole role false
    | none =>
      match name with
      | "grantRole" => .changeRole true
      | "revokeRole" => .changeRole false
      | "pause" => .setPaused true
      | "unpause" => .setPaused false
      | "mint" => .mint
      | "transfer" => .transfer
      | "burn" => .burn
      | "setStorage" => .setStorage
      | "setOracle" => .setOracle
      | _ => .unknown

end Method

namespace Call

/-- The argument at a place. -/
def argument (call : Call) (index : Nat) : Except ChainError Value :=
  match call.arguments[index]? with
  | some v => .ok v
  | none => .error (.invalidArgument call.method (.missing index))

def textArgument (call : Call) (index : Nat) : Except ChainError String := do
  match ← call.argument index with
  | .text s => return s
  | _ => throw (.invalidArgument call.method (.notText index))

def addressArgument (call : Call) (index : Nat) : Except ChainError Address := do
  match Address.ofText (← call.textArgument index) with
  | .ok a => return a
  | .error e => throw (.invalidArgument call.method (.notAddress index e))

def amountArgument (call : Call) (index : Nat) : Except ChainError Amount := do
  match Amount.ofValue? (← call.argument index) with
  | some a => return a
  | none => throw (.invalidArgument call.method (.notAmount index))

/-- The truth value at a place, true if there is no such argument. -/
def flagArgument (call : Call) (index : Nat) : Except ChainError Bool :=
  match call.arguments[index]? with
  | none => .ok true
  | some (.bool b) => .ok b
  | some _ => .error (.invalidArgument call.method (.notBool index))

end Call

namespace Chain

/-- Refuses a sender that holds none of the roles. -/
def requireRole (c : Chain) (roles : List String) (sender : Address) :
    Except ChainError Unit :=
  if roles.any fun r => c.hasRole r sender then .ok () else .error (.lacksRole sender roles)

def requireUnpaused (c : Chain) (a : Address) : Except ChainError Unit :=
  if (c.account a).paused then .error .tokenPaused else .ok ()

/-- Gives or takes a role and says so. -/
def changeRole (c : Chain) (role : String) (a : Address) (grant : Bool) : Event × Chain :=
  ({ emitter := .zero
     name := if grant then "RoleGranted" else "RoleRevoked"
     data := .ofFields [("role", .text role), ("account", a.toValue)] },
    if grant then c.grantRole role a else c.revokeRole role a)

/-- Moves tokens from one holder to another, who may be the same. -/
def moveTokens (c : Chain) (token source target : Address) (amount : Amount) :
    Except ChainError Chain :=
  match (c.tokenBalance token source).sub? amount with
  | none => .error .insufficientTokens
  | some rest =>
    let c := c.setToken token source rest
    .ok (c.setToken token target ((c.tokenBalance token target).add amount))

/-- The event of a movement of tokens. -/
def transferEvent (token source target : Address) (amount : Amount) : Event where
  emitter := token
  name := "Transfer"
  data := .ofFields
    [("from", source.toValue), ("to", target.toValue), ("value", amount.toValue)]

/-- Moves the currency attached to a call from its sender to its target. -/
def attach (c : Chain) (sender : Address) (call : Call) : Except ChainError Chain :=
  if 0 < call.value.units then do
    let c ← c.debit sender call.value
    return c.fund call.target call.value
  else .ok c

/-- What a method does at the target of a call. -/
def perform (c : Chain) (sender : Address) (call : Call) : Except ChainError (Event × Chain) :=
  let target := call.target
  match Method.ofName call.method with
  | .changeFixedRole role grant => do
    let a ← call.addressArgument 0
    c.requireRole [Role.govern] sender
    return c.changeRole role a grant
  | .changeRole grant => do
    let role ← call.textArgument 0
    let a ← call.addressArgument 1
    c.requireRole [Role.govern] sender
    return c.changeRole role a grant
  | .setPaused paused => do
    c.requireRole [Role.govern, Role.guardian] sender
    return (
      { emitter := target
        name := if paused then "Paused" else "Unpaused"
        data := .ofFields [("account", sender.toValue)] },
      c.setPaused target paused)
  | .mint => do
    let a ← call.addressArgument 0
    let amount ← call.amountArgument 1
    c.requireRole [Role.minter] sender
    c.requireUnpaused target
    return (transferEvent target .zero a amount,
      c.setToken target a ((c.tokenBalance target a).add amount))
  | .transfer => do
    let a ← call.addressArgument 0
    let amount ← call.amountArgument 1
    c.requireUnpaused target
    let c ← c.moveTokens target sender a amount
    return (transferEvent target sender a amount, c)
  | .burn => do
    let amount ← call.amountArgument 0
    c.requireUnpaused target
    let c ← c.moveTokens target sender .zero amount
    return (transferEvent target sender .zero amount, c.eraseToken target .zero)
  | .setStorage => do
    let key ← call.textArgument 0
    let v ← call.argument 1
    c.requireRole [Role.govern] sender
    return (
      { emitter := target
        name := "StorageSet"
        data := .ofFields [("key", .text key), ("value", v)] },
      c.setStorage target key v)
  | .setOracle => do
    let value ← call.amountArgument 0
    let valid ← call.flagArgument 1
    c.requireRole [Role.govern] sender
    return (
      { emitter := target
        name := "OracleUpdate"
        data := .ofFields [("value", value.toValue), ("valid", .bool valid)] },
      c.setOracle target { value, valid })
  | .unknown => .error (.unknownMethod call.method)

/-- The event and the chain that a call leads to. -/
def apply (c : Chain) (sender : Address) (call : Call) : Except ChainError (Event × Chain) := do
  let _ ← c.contract call.target
  let c ← c.attach sender call
  c.perform sender call

/-- Submits a call: its receipt, and the chain after it. -/
def call (c : Chain) (sender : Address) (call : Call) : Except ChainError (Receipt × Chain) := do
  let (e, c) ← c.apply sender call
  return (⟨[e]⟩, c)

end Chain
end Rollout
