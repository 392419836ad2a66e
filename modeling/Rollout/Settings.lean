/-
# Settings

What a settings file says of a run: its environment, the files it starts from, and how its
catalogue is applied. Relative paths in it are seen from the folder it lies in. Unlike other
records it may have no unknown fields.
-/

import Rollout.Document.Toml
import Rollout.Folder
import Rollout.Run

namespace Rollout

/-- What a settings file says. -/
structure Settings where
  environment : EnvironmentConfig := {}
  addressBook : String := "addresses.json"
  catalogue : String := "catalogue.json"
  /-- The state of the chain; empty if it is missing. -/
  genesis : Option String := none
  mode : Mode := .fresh
  strictDependencies : Bool := true
  executeGovernance : Bool := true
deriving DecidableEq

namespace Settings

def default : Settings := {}

instance : Inhabited Settings := ⟨default⟩

def keys : List String :=
  ["address_book", "catalogue", "genesis", "mode", "strict_dependencies", "execute_governance"]

/-- Whether a node is a map with known keys only. -/
def isClosed : Node → Bool
  | .map es => es.all fun e => e.1.name?.any (EnvironmentConfig.keys ++ keys).contains
  | _ => false

def decode : Decoder Settings := fun dialect n => do
  if !isClosed n then none
  else match ← Decoder.record keys dialect n with
  | [addressBook, catalogue, genesis, mode, strictDependencies, executeGovernance] =>
    return {
      environment := ← EnvironmentConfig.decode dialect n
      addressBook := ← Decoder.orElse "addresses.json" Decoder.text dialect addressBook
      catalogue := ← Decoder.orElse "catalogue.json" Decoder.text dialect catalogue
      genesis := ← Decoder.orElse none (Decoder.option Decoder.text) dialect genesis
      mode := ← Decoder.orElse .fresh Mode.decode dialect mode
      strictDependencies := ← Decoder.orElse true Decoder.bool dialect strictDependencies
      executeGovernance := ← Decoder.orElse true Decoder.bool dialect executeGovernance }
  | _ => none

def document (s : Settings) : Document :=
  .map [
    ("logging", .bool s.environment.logging),
    ("deployer", s.environment.deployer.document),
    ("state_version", .nat s.environment.stateVersion),
    ("required_addresses", .list (s.environment.required.map .text)),
    ("verify_code", .bool s.environment.verifyCode),
    ("address_book", .text s.addressBook),
    ("catalogue", .text s.catalogue),
    ("genesis", (s.genesis.map .text).getD .null),
    ("mode", s.mode.document),
    ("strict_dependencies", .bool s.strictDependencies),
    ("execute_governance", .bool s.executeGovernance)]

/-- How the proposals of the catalogue are applied. -/
def runConfig (s : Settings) : RunConfig where
  logging := s.environment.logging
  deployer := s.environment.deployer
  executeGovernance := s.executeGovernance
  strictDependencies := s.strictDependencies

/-- The settings with all paths as seen from a folder. -/
def rebase (base : String) (s : Settings) : Settings :=
  { s with
    addressBook := Path.join base s.addressBook
    catalogue := Path.join base s.catalogue
    genesis := s.genesis.map (Path.join base) }

/-- The settings that a text in TOML holds. -/
def read? (text : String) : Option Settings := do decode .toml (← Toml.read text).node

/-- The settings in a file. -/
def load (files : Files) (path : String) : Except FileError Settings :=
  match files path with
  | none => .error (.unreadable path)
  | some text =>
    match read? text with
    | none => .error (.malformed path)
    | some s =>
      .ok <| match Path.parent? path with
        | some base => s.rebase base
        | none => s

/-- The least severe log lines that are let through. -/
def logLevel (s : Settings) : String := if s.environment.logging then "info" else "warn"

/-- The files that the settings name. -/
def paths (s : Settings) : List String := [s.addressBook, s.catalogue] ++ s.genesis.toList

end Settings
end Rollout
