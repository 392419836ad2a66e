/-
# What a failed look-up blames

Addresses are put in place of names in values, references and payloads. Where that fails, the
error names something that is not live in the registry that was asked (`Payload.blames_calls`).
So a payload cannot fail on a name that is known to be live.
-/

import Rollout.Payload
import Rollout.Proofs.Errors
import Rollout.Proofs.Registry.Entries

namespace Rollout

/-- If there is an error, what it names is not live. -/
def Blames {α : Type} (s : Snapshot) (x : Except LookupError α) : Prop :=
  ∀ e, x = .error e → s.isLive e.name = false

namespace Blames

variable {α β : Type} {s : Snapshot} {x : Except LookupError α}

/-- What succeeds blames nothing. -/
theorem ok (a : α) : Blames s (.ok a) := Errs.ok a

/-- What follows blames what it does beside what comes first. -/
theorem bind {f : α → Except LookupError β} (hx : Blames s x) (hf : ∀ a, Blames s (f a)) :
    Blames s (x >>= f) :=
  Errs.bind hx hf

/-- Mapping the value blames nothing else. -/
theorem map (f : α → β) (hx : Blames s x) : Blames s (x.map f) := Errs.map f hx

end Blames

/-- A lookup blames a name that is not live. -/
theorem Snapshot.blames_get (s : Snapshot) (n : String) : Blames s (s.get n) := by
  intro e he
  obtain ⟨hn, hl⟩ := isLive_eq_false_of_get_error he
  rwa [hn]

/-- Looking up an address blames a name that is not live. -/
theorem Snapshot.blames_address (s : Snapshot) (n : String) : Blames s (s.address n) :=
  (s.blames_get n).map _

namespace Template

mutual

/-- Resolving a value blames names that are not live. -/
theorem blames_resolve (s : Snapshot) (v : Value) : Blames s (resolve s v) := by
  cases v with
  | text t =>
    rw [resolve]
    split
    · exact (s.blames_address _).map _
    · exact .ok _
  | list items =>
    rw [resolve]
    exact (blames_resolveList s items).map _
  | object fields =>
    rw [resolve]
    exact (blames_resolveFields s fields).map _
  | _ => exact .ok _

/-- Resolving a list blames names that are not live. -/
theorem blames_resolveList (s : Snapshot) (vs : List Value) : Blames s (resolveList s vs) := by
  cases vs with
  | nil => exact .ok _
  | cons v vs =>
    rw [resolveList]
    exact (blames_resolve s v).bind fun _ => (blames_resolveList s vs).bind fun _ => .ok _

/-- Resolving fields blames names that are not live. -/
theorem blames_resolveFields (s : Snapshot) (fs : List (String × Value)) :
    Blames s (resolveFields s fs) := by
  cases fs with
  | nil => exact .ok _
  | cons f fs =>
    obtain ⟨k, v⟩ := f
    rw [resolveFields]
    exact (blames_resolve s v).bind fun _ => (blames_resolveFields s fs).bind fun _ => .ok _

end

/-- Resolving a party blames a name that is not live. -/
theorem blames_party (s : Snapshot) (reference : String) : Blames s (party s reference) := by
  rw [party]
  split
  · exact .ok _
  · exact s.blames_address _

end Template

/-- A command blames names that are not live. -/
theorem Command.blames_call (s : Snapshot) (c : Command) : Blames s (c.call s) :=
  (Template.blames_party s c.target).bind fun _ =>
    (Template.blames_resolveList s c.arguments).bind fun _ => .ok _

/-- **A payload fails on no live name.** -/
theorem Payload.blames_calls (s : Snapshot) (p : Payload) : Blames s (p.calls s) := by
  rw [calls]
  induction p.commands with
  | nil => exact .ok _
  | cons c cs ih => exact (Command.blames_call s c).bind fun _ => ih.bind fun _ => .ok _

end Rollout
