/-
# Sessions

Settings and the files they name, loaded: the environment, the catalogue bound to its hooks, and
the simulated chain that runs start from. The files are loaded in this order, and the first that
cannot be had decides the error:

| file | error |
| --- | --- |
| address book | `RunError.environment` |
| genesis, if one is named | `RunError.configuration` |
| catalogue | `RunError.configuration`, also where it cannot be bound |

The checks of the environment come last. `Session.issues` and `Session.run` can be asked for any
number of times; every run starts from the registry of the address book.
-/

import Rollout.Catalogue.File
import Rollout.Document.Json
import Rollout.Document.Yaml
import Rollout.Genesis
import Rollout.Settings

namespace Rollout

/-- Settings, loaded. -/
structure Session (τ : Type) where
  environment : Environment
  catalogue : Catalogue (Simulation τ)
  config : RunConfig
  chain : Chain
  governance : Governance

namespace Session

/-- The value in a file, which is YAML if its name has the ending and JSON otherwise. -/
def decodeFile (files : Files) (dec : Decoder α) (path : String) : Except FileError α :=
  match files path with
  | none => .error (.unreadable path)
  | some text =>
    let value :=
      if Path.isYaml path then (Yaml.read text).bind (dec .yaml)
      else (Json.read text).bind (dec .json)
    match value with
    | some a => .ok a
    | none => .error (.malformed path)

/-- The address book that settings name. -/
def addressBook (files : Files) (s : Settings) : Except RunError AddressBook :=
  (decodeFile files AddressBook.decode s.addressBook).mapError
    fun _ => .environment .unreadableBook

/-- The genesis that settings name, or the empty one. -/
def genesis (files : Files) (s : Settings) : Except RunError Genesis :=
  match s.genesis with
  | none => .ok .empty
  | some path =>
    (decodeFile files Genesis.decode path).mapError fun e => .configuration (.file e)

variable {τ : Type}

/-- The catalogue that settings name, bound to hooks. -/
def boundCatalogue (files : Files) (s : Settings) (hooks : HookBook (Simulation τ)) :
    Except RunError (Catalogue (Simulation τ)) := do
  let file ← (decodeFile files CatalogueFile.decode s.catalogue).mapError
    fun e => .configuration (.file e)
  (CatalogueFile.catalogue file hooks s.mode).mapError fun e => .configuration (.catalogue e)

/-- Loads what settings name. -/
def load (files : Files) (s : Settings) (hooks : HookBook (Simulation τ)) :
    Except RunError (Session τ) := do
  let book ← addressBook files s
  let genesis ← genesis files s
  let catalogue ← boundCatalogue files s hooks
  let (chain, governance) := genesis.build
  let environment ← (Environment.load s.environment book chain).mapError .environment
  return { environment, catalogue, config := s.runConfig, chain, governance }

/-- The world that a first run starts in, with what the hooks keep. -/
def world (s : Session τ) (own : τ) : World (Simulation τ) where
  chain := s.chain
  rest := { governance := s.governance, own }

/-- What proposals of the catalogue need and do not find. -/
def issues (s : Session τ) : List Issue := s.catalogue.issues s.environment.baseline

/-- Runs the catalogue in a world. -/
def run (s : Session τ) (w : World (Simulation τ)) :
    Except RunError Report × World (Simulation τ) :=
  let runner : Runner (Simulation τ) := { config := s.config, executor := .simulated }
  runner.run s.catalogue s.environment.initial w

end Session
end Rollout
