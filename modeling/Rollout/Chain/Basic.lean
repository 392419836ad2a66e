/-
# The chain

A simulated chain: accounts, the balances of tokens, the holders of roles, and how often each
account has deployed. A contract is an account with an artifact; a read that is about a
contract is refused where there is none.

Setting up a chain (`install`, `grantRole`, `setToken`, …) writes without asking; calls, in
`Rollout.Chain.Method`, ask first.
-/

import Rollout.Blake3
import Rollout.Chain.Call
import Rollout.Chain.Error

namespace Rollout

/-- What a chain knows of an account. -/
structure Account where
  artifact : Option String := none
  native : Amount := .zero
  paused : Bool := false
  storage : Table String Value := .empty
  oracle : Option Reading := none
deriving DecidableEq

/-- The state of a chain. -/
structure Chain where
  accounts : Table Address Account := .empty
  /-- By token, then by holder. -/
  tokens : Table Address (Table Address Amount) := .empty
  roles : Table String (KeySet Address) := .empty
  /-- How many contracts each account has deployed. -/
  nonces : Table Address Nat := .empty
deriving DecidableEq

namespace Chain

def empty : Chain := {}

instance : Inhabited Chain := ⟨empty⟩

/-- What is known of an address, nothing if it was never touched. -/
def account (c : Chain) (a : Address) : Account := (c.accounts.find? a).getD {}

/-- The chain with a change to one account. -/
def updateAccount (c : Chain) (a : Address) (f : Account → Account) : Chain :=
  { c with accounts := c.accounts.alter a {} f }

/-! ## Reading -/

def hasCode (c : Chain) (a : Address) : Bool := (c.account a).artifact.isSome

/-- The account of a contract. -/
def contract (c : Chain) (a : Address) : Except ChainError Account :=
  if c.hasCode a then .ok (c.account a) else .error (.noCode a)

def artifactOf? (c : Chain) (a : Address) : Option String := (c.account a).artifact

def nativeBalance (c : Chain) (a : Address) : Amount := (c.account a).native

/-- The balance that the table of a token holds for a holder. -/
def tokenBalance (c : Chain) (token holder : Address) : Amount :=
  (((c.tokens.find? token).getD .empty).find? holder).getD .zero

/-- The balance of a holder in a token that has code. -/
def balanceOf (c : Chain) (token holder : Address) : Except ChainError Amount := do
  let _ ← c.contract token
  return c.tokenBalance token holder

/-- The holders of a role, ascending. -/
def roleHolders (c : Chain) (role : String) : List Address :=
  ((c.roles.find? role).getD .empty).keys

def hasRole (c : Chain) (role : String) (a : Address) : Bool :=
  ((c.roles.find? role).getD .empty).contains a

def isPaused (c : Chain) (a : Address) : Except ChainError Bool := do
  return (← c.contract a).paused

def readOracle (c : Chain) (a : Address) : Except ChainError Reading := do
  match (← c.contract a).oracle with
  | some r => return r
  | none => throw (.notAnOracle a)

/-- The value in a storage slot of a contract, if the slot is set. -/
def storage (c : Chain) (a : Address) (key : String) : Except ChainError (Option Value) := do
  return (← c.contract a).storage.find? key

/-! ## Writing without asking -/

/-- Puts a contract at an address. -/
def install (c : Chain) (a : Address) (artifact : String) : Chain :=
  c.updateAccount a fun x => { x with artifact := some artifact }

def grantRole (c : Chain) (role : String) (a : Address) : Chain :=
  { c with roles := c.roles.alter role .empty (KeySet.add · a) }

def revokeRole (c : Chain) (role : String) (a : Address) : Chain :=
  { c with roles := c.roles.alter role .empty (Table.erase · a) }

def setNative (c : Chain) (a : Address) (amount : Amount) : Chain :=
  c.updateAccount a fun x => { x with native := amount }

def setToken (c : Chain) (token holder : Address) (amount : Amount) : Chain :=
  { c with tokens := c.tokens.alter token .empty (·.insert holder amount) }

/-- Drops the balance of a holder in a token. -/
def eraseToken (c : Chain) (token holder : Address) : Chain :=
  { c with tokens := c.tokens.alter token .empty (·.erase holder) }

def setOracle (c : Chain) (a : Address) (r : Reading) : Chain :=
  c.updateAccount a fun x => { x with oracle := some r }

def setPaused (c : Chain) (a : Address) (paused : Bool) : Chain :=
  c.updateAccount a fun x => { x with paused }

def setStorage (c : Chain) (a : Address) (key : String) (v : Value) : Chain :=
  c.updateAccount a fun x => { x with storage := x.storage.insert key v }

/-! ## Funding and deploying -/

/-- Adds native currency to an account, up to the greatest amount. -/
def fund (c : Chain) (a : Address) (amount : Amount) : Chain :=
  c.updateAccount a fun x => { x with native := x.native.add amount }

/-- Takes native currency from an account. -/
def debit (c : Chain) (a : Address) (amount : Amount) : Except ChainError Chain :=
  match (c.account a).native.sub? amount with
  | some rest => .ok (c.setNative a rest)
  | none => .error .insufficientNative

/-- How many contracts an account has deployed. -/
def nonce (c : Chain) (a : Address) : Nat := (c.nonces.find? a).getD 0

/-- The address of an account's deployment of a given number, from zero: the first twenty
bytes of the digest of the account's bytes and the number in eight bytes. -/
def deploymentAddress (deployer : Address) (nonce : Nat) : Address :=
  .ofBytes ((Blake3.digest (deployer.bytes ++ Digits.fixed 256 8 nonce)).take 20)

/-- The storage that a contract starts with: the fields of its only argument if that is an
object, else the arguments by their places. -/
def initialStorage : List Value → Table String Value
  | [.object fields] => .ofList fields
  | args => .ofList (args.zipIdx.map fun a => ("arg" ++ toString a.2, a.1))

/-- Creates a contract at the deployer's next address. -/
def deploy (c : Chain) (deployer : Address) (artifact : String) (args : List Value) :
    Address × Chain :=
  let n := c.nonce deployer
  let a := deploymentAddress deployer n
  let c := { c with nonces := c.nonces.insert deployer (n + 1) }
  (a, c.updateAccount a fun x =>
    { x with artifact := some artifact, storage := initialStorage args })

end Chain
end Rollout
