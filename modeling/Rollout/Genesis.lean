/-
# Genesis

The start of a chain as a list of what is on it: contracts, the holders of roles, token
balances, native balances and timelocks. Building writes the lists in that order, so that of
two entries for one thing the later counts.
-/

import Rollout.Governance

namespace Rollout

/-- A contract that is there from the start. -/
structure GenesisContract where
  address : Address
  artifact : String
  storage : Table String Value := .empty
  paused : Bool := false
  oracle : Option Reading := none
deriving DecidableEq

/-- A token balance that is there from the start. -/
structure GenesisBalance where
  token : Address
  holder : Address
  amount : Amount
deriving DecidableEq

/-- A native balance that is there from the start. -/
structure GenesisNative where
  account : Address
  amount : Amount
deriving DecidableEq

/-- What a chain starts with. -/
structure Genesis where
  contracts : List GenesisContract := []
  roles : Table String (List Address) := .empty
  balances : List GenesisBalance := []
  native : List GenesisNative := []
  timelocks : Table Category Address := .empty
deriving DecidableEq

namespace GenesisContract

def decode : Decoder GenesisContract := fun dialect n => do
  let keys := ["address", "artifact", "storage", "paused", "oracle"]
  match ← Decoder.record keys dialect n with
  | [address, artifact, storage, paused, oracle] =>
    let slots ← Decoder.orElse [] (Decoder.entries Decoder.value) dialect storage
    return {
      address := ← Decoder.required Address.decode dialect address
      artifact := ← Decoder.required Decoder.text dialect artifact
      storage := .ofList slots
      paused := ← Decoder.orElse false Decoder.bool dialect paused
      oracle := ← Decoder.orElse none (Decoder.option Reading.decode) dialect oracle }
  | _ => none

def document (g : GenesisContract) : Document :=
  .ofFields [
    ("address", some g.address.document),
    ("artifact", some (.text g.artifact)),
    ("storage", some (.map (g.storage.entries.map fun e => (e.1, e.2.document)))),
    ("paused", some (.bool g.paused)),
    ("oracle", g.oracle.map Reading.document)]

/-- Puts the contract on a chain. -/
def place (g : GenesisContract) (c : Chain) : Chain :=
  let c := (c.install g.address g.artifact).setPaused g.address g.paused
  let c := g.storage.entries.foldl (fun c e => c.setStorage g.address e.1 e.2) c
  match g.oracle with
  | some r => c.setOracle g.address r
  | none => c

end GenesisContract

namespace GenesisBalance

def decode : Decoder GenesisBalance := fun dialect n => do
  match ← Decoder.record ["token", "holder", "amount"] dialect n with
  | [token, holder, amount] =>
    return {
      token := ← Decoder.required Address.decode dialect token
      holder := ← Decoder.required Address.decode dialect holder
      amount := ← Decoder.required Amount.decode dialect amount }
  | _ => none

def document (b : GenesisBalance) : Document :=
  .map [
    ("token", b.token.document),
    ("holder", b.holder.document),
    ("amount", b.amount.document)]

end GenesisBalance

namespace GenesisNative

def decode : Decoder GenesisNative := fun dialect n => do
  match ← Decoder.record ["account", "amount"] dialect n with
  | [account, amount] =>
    return {
      account := ← Decoder.required Address.decode dialect account
      amount := ← Decoder.required Amount.decode dialect amount }
  | _ => none

def document (n : GenesisNative) : Document :=
  .map [("account", n.account.document), ("amount", n.amount.document)]

end GenesisNative

namespace Genesis

def empty : Genesis := {}

instance : Inhabited Genesis := ⟨empty⟩

/-- Reads the timelocks, whose keys are the names of categories. -/
def decodeTimelocks : Decoder (Table Category Address) := fun dialect n => do
  return .ofList (← Decoder.entriesBy Category.decode Address.decode dialect n)

def decode : Decoder Genesis := fun dialect n => do
  let keys := ["contracts", "roles", "balances", "native", "timelocks"]
  match ← Decoder.record keys dialect n with
  | [contracts, roles, balances, native, timelocks] =>
    let holders ← Decoder.orElse [] (Decoder.entries (Decoder.list Address.decode)) dialect roles
    return {
      contracts := ← Decoder.orElse [] (Decoder.list GenesisContract.decode) dialect contracts
      roles := .ofList holders
      balances := ← Decoder.orElse [] (Decoder.list GenesisBalance.decode) dialect balances
      native := ← Decoder.orElse [] (Decoder.list GenesisNative.decode) dialect native
      timelocks := ← Decoder.orElse .empty decodeTimelocks dialect timelocks }
  | _ => none

def document (g : Genesis) : Document :=
  .map [
    ("contracts", .list (g.contracts.map GenesisContract.document)),
    ("roles",
      .map (g.roles.entries.map fun e => (e.1, .list (e.2.map Address.document)))),
    ("balances", .list (g.balances.map GenesisBalance.document)),
    ("native", .list (g.native.map GenesisNative.document)),
    ("timelocks", .map (g.timelocks.entries.map fun e => (e.1.text, e.2.document)))]

/-- One more contract, with nothing but code. -/
def withContract (g : Genesis) (address : Address) (artifact : String) : Genesis :=
  { g with contracts := g.contracts ++ [{ address, artifact }] }

/-- One more holder of a role. -/
def withRole (g : Genesis) (role : String) (holder : Address) : Genesis :=
  { g with roles := g.roles.alter role [] (· ++ [holder]) }

def withTimelock (g : Genesis) (category : Category) (timelock : Address) : Genesis :=
  { g with timelocks := g.timelocks.insert category timelock }

/-- The chain and the governance that start from a genesis. -/
def build (g : Genesis) : Chain × Governance :=
  let c := g.contracts.foldl (fun c x => x.place c) Chain.empty
  let c := g.roles.entries.foldl
    (fun c e => e.2.foldl (fun c a => c.grantRole e.1 a) c) c
  let c := g.balances.foldl (fun c b => c.setToken b.token b.holder b.amount) c
  let c := g.native.foldl (fun c n => c.setNative n.account n.amount) c
  (c, g.timelocks.entries.foldl (fun gov e => gov.withTimelock e.1 e.2) Governance.empty)

end Genesis
end Rollout
