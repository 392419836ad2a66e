/-
# The standard environment

A small simulated system: a core contract, a token, and a timelock for each category that has
governance, each timelock a governor.
-/

import Rollout.Environment
import Rollout.Genesis

namespace Rollout
namespace Standard

def deployer : Address := .ofNat 0xde

def core : Address := .ofNat 1

def token : Address := .ofNat 2

/-- The categories with their timelocks and what those were built from. -/
def timelocks : List (Category × Address × String) :=
  [(.dao, .ofNat 7, "FeiDAOTimelock"),
    (.tribalCouncil, .ofNat 8, "TribalCouncilTimelock"),
    (.optimisticApproval, .ofNat 9, "OptimisticTimelock")]

/-- The names of the system with their addresses and kinds. -/
def names : List (String × Nat × Kind) :=
  [("core", 1, .core),
    ("fei", 2, .token),
    ("feiDAOTimelock", 7, .governance),
    ("tribalCouncilTimelock", 8, .governance),
    ("optimisticTimelock", 9, .governance)]

def book : AddressBook :=
  names.foldl (fun b e => AddressBook.withEntry b e.1 (.ofNat e.2.1) e.2.2) .empty

def genesis : Genesis :=
  let g := (Genesis.empty.withContract token "Fei").withRole Role.minter (.ofNat 7)
  let g :=
    { g with
      contracts := g.contracts ++
        [{ address := core, artifact := "Core", storage := .ofList [("version", .nat 1)] }] }
  timelocks.foldl
    (fun g t =>
      ((g.withContract t.2.1 t.2.2).withRole Role.govern t.2.1).withTimelock t.1 t.2.1) g

def config (logging : Bool) : EnvironmentConfig :=
  { logging, deployer, verifyCode := true }

/-- The environment, with its chain and governance. -/
def environment (logging : Bool) :
    Except EnvironmentError Environment × Chain × Governance :=
  let (chain, governance) := genesis.build
  (Environment.load (config logging) book chain, chain, governance)

end Standard
end Rollout
