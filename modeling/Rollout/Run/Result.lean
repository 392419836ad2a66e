/-
# Results

What became of a proposal in a run: the states it went through, the errors of its phases, the
assertions that failed, its resources and the receipt of its payload.
-/

import Rollout.Run.Error

namespace Rollout

/-- An error, and the phase it belongs to. -/
structure ProposalFailure where
  phase : Phase
  error : RunError
deriving DecidableEq

namespace ProposalFailure

def text (f : ProposalFailure) : String := f.phase.text ++ ": " ++ f.error.message

end ProposalFailure

/-- What became of a proposal in a run. -/
structure ProposalResult where
  id : String
  category : Category
  /-- The states it entered, in order. -/
  trail : List ProposalState := [.pending]
  /-- Whether its deploy hook was called. -/
  deployInvoked : Bool := false
  failures : List ProposalFailure := []
  assertionFailures : List AssertionFailure := []
  /-- What it deployed, or found where it does not deploy. -/
  resources : List Handle := []
  /-- The live names that it moved to other addresses. -/
  superseded : List Overwrite := []
  /-- The receipt of its payload, if that was executed. -/
  governance : Option Receipt := none
deriving DecidableEq

namespace ProposalResult

/-- The state it is in. -/
def state (r : ProposalResult) : ProposalState := r.trail.getLast?.getD .pending

/-- Moves on to a state. -/
def enter (r : ProposalResult) (target : ProposalState) :
    Except IllegalTransition ProposalResult := do
  r.state.step target
  return { r with trail := r.trail ++ [target] }

/-- Keeps an error of a phase. -/
def record (r : ProposalResult) (phase : Phase) (error : RunError) : ProposalResult :=
  { r with failures := r.failures ++ [{ phase, error }] }

/-- Moves on to a state at the end of a phase. -/
def advance (r : ProposalResult) (phase : Phase) (target : ProposalState) : ProposalResult :=
  match r.enter target with
  | .ok r => r
  | .error e => r.record phase (.transition e)

/-- The furthest state, teardown aside. -/
def terminal (r : ProposalResult) : ProposalState :=
  (r.trail.reverse.find? (· ≠ .tornDown)).getD .pending

def tornDown (r : ProposalResult) : Bool := r.state = .tornDown

/-- Whether it was validated and nothing went wrong. -/
def passed (r : ProposalResult) : Bool :=
  r.failures.isEmpty && r.assertionFailures.isEmpty && r.terminal = .validated

/-- The first error of a phase. -/
def failureIn? (r : ProposalResult) (phase : Phase) : Option ProposalFailure :=
  r.failures.find? (·.phase = phase)

end ProposalResult
end Rollout
