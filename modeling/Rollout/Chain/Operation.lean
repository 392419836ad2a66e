/-
# Operations on a chain

All that can be done to a simulated chain and its governance, as data, so that a history is a
list of operations.
-/

import Rollout.Governance

namespace Rollout

/-- Something done to a chain. -/
inductive Operation
  | install (address : Address) (artifact : String)
  | grantRole (role : String) (account : Address)
  | setNative (account : Address) (amount : Amount)
  | setToken (token holder : Address) (amount : Amount)
  | setOracle (address : Address) (reading : Reading)
  | setPaused (address : Address) (flag : Bool)
  | setStorage (address : Address) (key : String) (value : Value)
  | fund (account : Address) (amount : Amount)
  | deploy (deployer : Address) (artifact : String) (arguments : List Value)
  | call (sender : Address) (call : Call)
  | execute (action : Action)
deriving DecidableEq

namespace Operation

/-- What an operation returns. -/
inductive Answer
  | done
  | created (address : Address)
  | receipt (r : Receipt)
deriving DecidableEq

/-- A chain and its governance. -/
structure System where
  chain : Chain
  governance : Governance
deriving DecidableEq

/-- The system with another chain. -/
def System.withChain (s : System) (chain : Chain) : System := { s with chain }

/-- Does an operation. A refused one changes nothing. -/
def perform (s : System) : Operation → Except ChainError (Answer × System)
  | install a artifact => .ok (.created a, s.withChain (s.chain.install a artifact))
  | grantRole role a => .ok (.done, s.withChain (s.chain.grantRole role a))
  | setNative a amount => .ok (.done, s.withChain (s.chain.setNative a amount))
  | setToken token holder amount =>
    .ok (.done, s.withChain (s.chain.setToken token holder amount))
  | setOracle a reading => .ok (.done, s.withChain (s.chain.setOracle a reading))
  | setPaused a flag => .ok (.done, s.withChain (s.chain.setPaused a flag))
  | setStorage a key v => .ok (.done, s.withChain (s.chain.setStorage a key v))
  | fund a amount => .ok (.done, s.withChain (s.chain.fund a amount))
  | deploy deployer artifact arguments =>
    let (a, c) := s.chain.deploy deployer artifact arguments
    .ok (.created a, s.withChain c)
  | call sender c => do
    let (r, chain) ← s.chain.call sender c
    return (.receipt r, s.withChain chain)
  | execute action => do
    let (r, chain, governance) ← s.governance.execute action s.chain
    return (.receipt r, { chain, governance })

/-- The system after operations in a row. -/
def performAll (s : System) : List Operation → System
  | [] => s
  | o :: r =>
    match o.perform s with
    | .ok (_, s) => performAll s r
    | .error _ => performAll s r

end Operation
end Rollout
