/-
# Declared deployments

A deployment can be written down as a list of contracts to create. Placeholders in the
arguments of one stand for resources of the registry or for contracts earlier in the list, a
later one of a name hiding the earlier. `Lifecycle.declared` is the lifecycle that deploys such
a list and does nothing else.
-/

import Rollout.Lifecycle
import Rollout.Template

namespace Rollout

/-- A contract to create. -/
structure DeploymentSpec where
  name : String
  artifact : String
  kind : Kind := .external
  arguments : List Value := []
deriving DecidableEq

namespace DeploymentSpec

def decode : Decoder DeploymentSpec := fun dialect n => do
  match ← Decoder.record ["name", "artifact", "kind", "args"] dialect n with
  | [name, artifact, kind, arguments] =>
    return {
      name := ← Decoder.required Decoder.text dialect name
      artifact := ← Decoder.required Decoder.text dialect artifact
      kind := ← Decoder.orElse .external Kind.decode dialect kind
      arguments := ← Decoder.orElse [] (Decoder.list Decoder.value) dialect arguments }
  | _ => none

def document (s : DeploymentSpec) : Document :=
  .map [
    ("name", .text s.name),
    ("artifact", .text s.artifact),
    ("kind", s.kind.document),
    ("args", .list (s.arguments.map Value.document))]

/-- The resource that the contract is when it stands at an address. -/
def handleAt (s : DeploymentSpec) (a : Address) : Handle where
  name := s.name
  address := a
  kind := s.kind
  artifact := some s.artifact

/-- Creates the contracts of a list one after another, up to the first whose arguments cannot
be resolved: their resources, or the error, and the chain with the contracts created. -/
def deployAll (deployer : Address) :
    List DeploymentSpec → Snapshot → Chain → Except LookupError (List Handle) × Chain
  | [], _, c => (.ok [], c)
  | s :: r, scope, c =>
    match Template.resolveList scope s.arguments with
    | .error e => (.error e, c)
    | .ok arguments =>
      let (a, c) := c.deploy deployer s.artifact arguments
      let h := s.handleAt a
      let (handles, c) := deployAll deployer r (scope.insertLive h) c
      (handles.map (h :: ·), c)

end DeploymentSpec

namespace Lifecycle

variable {σ : Type}

/-- The lifecycle that creates the contracts of a list. -/
def declared (specs : List DeploymentSpec) : Lifecycle σ :=
  { idle with
    deploy := fun ctx w =>
      let (handles, chain) := DeploymentSpec.deployAll ctx.deployer specs ctx.registry w.chain
      (.ofExcept ((handles.map fun resources => { resources }).mapError .lookup),
        { w with chain }) }

end Lifecycle
end Rollout
