/-
# Environments

The environment of a run: its configuration and the registry it starts from. A `Loader` makes
it from an address book once the checks below pass, in this order, and keeps the first that it
made.

| check | error |
| --- | --- |
| the deployer is not the zero address | `zeroDeployer` |
| the state version is supported | `unsupportedVersion` |
| the required names are set in the book | `missingAddresses` |
| if asked for, contracts of the book have code | `noCode` for the first without |
-/

import Rollout.Environment.Book
import Rollout.Chain.Basic

namespace Rollout

-- Powers are those of core, whatever is imported beside this module.
attribute [local instance (high)] instPowNat

/-- What an environment is loaded with. -/
structure EnvironmentConfig where
  logging : Bool := false
  deployer : Address := .zero
  stateVersion : Nat := 1
  required : List String := ["core"]
  verifyCode : Bool := false
deriving DecidableEq

namespace EnvironmentConfig

def default : EnvironmentConfig := {}

instance : Inhabited EnvironmentConfig := ⟨default⟩

/-- The versions of the state's layout that are understood. -/
def supportedVersions : List Nat := [1]

def keys : List String :=
  ["logging", "deployer", "state_version", "required_addresses", "verify_code"]

def decode : Decoder EnvironmentConfig := fun dialect n => do
  match ← Decoder.record keys dialect n with
  | [logging, deployer, stateVersion, required, verifyCode] =>
    return {
      logging := ← Decoder.orElse false Decoder.bool dialect logging
      deployer := ← Decoder.orElse .zero Address.decode dialect deployer
      stateVersion := ← Decoder.orElse 1 (Decoder.natBelow (2 ^ (32 : Nat))) dialect stateVersion
      required := ← Decoder.orElse ["core"] (Decoder.list Decoder.text) dialect required
      verifyCode := ← Decoder.orElse false Decoder.bool dialect verifyCode }
  | _ => none

def document (c : EnvironmentConfig) : Document :=
  .map [
    ("logging", .bool c.logging),
    ("deployer", c.deployer.document),
    ("state_version", .nat c.stateVersion),
    ("required_addresses", .list (c.required.map .text)),
    ("verify_code", .bool c.verifyCode)]

def spelled (c : EnvironmentConfig) : String :=
  "EnvironmentConfig \x7b logging: " ++ toString c.logging
    ++ ", deployer: " ++ c.deployer.spelled
    ++ ", state_version: " ++ toString c.stateVersion
    ++ ", required_addresses: [" ++ String.intercalate ", " (c.required.map Text.quoted)
    ++ "], verify_code: " ++ toString c.verifyCode ++ " \x7d"

end EnvironmentConfig

/-- Why an environment cannot be loaded. -/
inductive EnvironmentError
  | zeroDeployer
  | unsupportedVersion (version : Nat)
  | missingAddresses (names : List String)
  | noCode (name : String) (address : Address)
  /-- The address book cannot be read. -/
  | unreadableBook
  | chain (cause : ChainError)
deriving DecidableEq

namespace EnvironmentError

def message : EnvironmentError → String
  | zeroDeployer => "deployer address is not set"
  | unsupportedVersion version =>
    "unsupported state version " ++ toString version ++ " (supported: ["
      ++ String.intercalate ", " (EnvironmentConfig.supportedVersions.map toString) ++ "])"
  | missingAddresses names =>
    "contract address is not set: " ++ String.intercalate ", " names
  | noCode name address => name ++ " at " ++ address.text ++ " has no code"
  | unreadableBook => "address book"
  | chain cause => "chain: " ++ cause.message

/-- The name of the kind of error. -/
def code : EnvironmentError → String
  | zeroDeployer => "ZeroDeployer"
  | unsupportedVersion _ => "UnsupportedStateVersion"
  | missingAddresses _ => "MissingAddresses"
  | noCode _ _ => "NoCode"
  | unreadableBook => "AddressBook"
  | chain _ => "Chain"

end EnvironmentError

/-- What a run starts from. -/
structure Environment where
  config : EnvironmentConfig
  baseline : Snapshot
deriving DecidableEq

namespace Environment

/-- The first entry of a book that is a contract and has no code. -/
def withoutCode? (chain : Chain) (book : AddressBook) : Option (String × BookEntry) :=
  book.toList.find? fun e => e.2.kind.isContract && !chain.hasCode e.2.address

/-- Makes an environment if all checks pass. -/
def load (config : EnvironmentConfig) (book : AddressBook) (chain : Chain) :
    Except EnvironmentError Environment :=
  if config.deployer.isZero then .error .zeroDeployer
  else if !EnvironmentConfig.supportedVersions.contains config.stateVersion then
    .error (.unsupportedVersion config.stateVersion)
  else
    match book.missing config.required with
    | n :: r => .error (.missingAddresses (n :: r))
    | [] =>
      match if config.verifyCode then withoutCode? chain book else none with
      | some e => .error (.noCode e.1 e.2.address)
      | none => .ok { config, baseline := book.registry.current }

/-- The registry that a run starts from. -/
def initial (e : Environment) : Registry := .ofSnapshot e.baseline

def spelled (e : Environment) : String :=
  "Environment \x7b config: " ++ e.config.spelled ++ ", baseline: " ++ toString e.baseline.size
    ++ ", .. \x7d"

end Environment

/-- An environment to be loaded, and kept once it is. -/
structure Loader where
  config : EnvironmentConfig
  book : AddressBook
  loaded : Option Environment := none
deriving DecidableEq

namespace Loader

/-- The environment: the one kept, or else one made from the chain as it is now. -/
def load (l : Loader) (chain : Chain) : Except EnvironmentError Environment × Loader :=
  match l.loaded with
  | some e => (.ok e, l)
  | none =>
    match Environment.load l.config l.book chain with
    | .ok e => (.ok e, { l with loaded := some e })
    | .error e => (.error e, l)

def spelled (l : Loader) : String :=
  "EnvironmentLoader \x7b config: " ++ l.config.spelled ++ ", book: " ++ toString l.book.size
    ++ ", loaded: " ++ toString l.loaded.isSome ++ ", .. \x7d"

end Loader
end Rollout
