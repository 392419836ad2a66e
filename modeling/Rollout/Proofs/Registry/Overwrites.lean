/-
# What a registry logs

A registry is accessed in a sequence: names are put, registries merged into it, names deprecated and
names looked up. Only a put can add to the log, and it tells its caller what it found:

| under the name | the put is told | the log gets |
| --- | --- | --- |
| nothing | `inserted` | nothing |
| the same resource, live | `unchanged` | nothing |
| another resource, live | `replaced` by that one | a record of both addresses |
| a deprecated resource | `revived` with that one | nothing |

What is found is the entry at that time, however it came there: the record of a put after a merge
has the address that was merged. So the log of a sequence is the log before it and the records of
its stages in their order (`Registry.logged_course`).
-/

import Rollout.Proofs.Registry.Entries
import Rollout.Proofs.Errors

namespace Rollout
namespace Registry

/-- An access to a registry. -/
inductive Access
  | put (name : String) (h : Handle)
  | merge (other : Registry)
  | markDeprecated (name : String)
  | get (name : String)
  | getAny (name : String)
  | isLive (name : String)
  | size
  | snapshot

/-- What an access is told. -/
inductive Answer
  | outcome (o : PutOutcome)
  | summary (m : MergeSummary)
  | handle (x : Except LookupError Handle)
  | entry (x : Except LookupError Entry)
  | flag (b : Bool)
  | count (n : Nat)
  | entries (s : Snapshot)

/-- What an access is told, and the registry after it. -/
def Access.perform (r : Registry) : Access → Answer × Registry
  | put n h => (.outcome (r.put n h).1, (r.put n h).2)
  | merge b => (.summary (r.merge b).1, (r.merge b).2)
  | markDeprecated n =>
    match r.markDeprecated n with
    | .ok (h, r') => (.handle (.ok h), r')
    | .error e => (.handle (.error e), r)
  | get n => (.handle (r.current.get n), r)
  | getAny n => (.entry (r.current.getAny n), r)
  | isLive n => (.flag (r.current.isLive n), r)
  | size => (.count r.current.size, r)
  | snapshot => (.entries r.current, r)

/-- The registry after a sequence of accesses. -/
def performAll (r : Registry) : List Access → Registry
  | [] => r
  | x :: xs => performAll (x.perform r).2 xs

/-- An access in a sequence, with the registry just before and just after it. -/
structure Stage where
  before : Registry
  access : Access
  answer : Answer
  after : Registry

/-- The stage of an access to a registry. -/
def Access.stage (r : Registry) (x : Access) : Stage := ⟨r, x, (x.perform r).1, (x.perform r).2⟩

/-- The stages of a sequence, each starting from the registry that the one before it left. -/
def course : Registry → List Access → List Stage
  | _, [] => []
  | r, x :: xs => x.stage r :: course (x.stage r).after xs

/-- What is to be recorded of a stage: that a put has left another resource under a name than the
one that was in use before. -/
def Stage.record? (s : Stage) : Option Overwrite :=
  match s.access with
  | .put n _ =>
    match s.before.current.get n, s.after.current.get n with
    | .ok p, .ok q => if p = q then none else some ⟨n, p.address, q.address⟩
    | _, _ => none
  | _ => none

/-- What a put of a resource is told by what it finds under the name. -/
inductive Tells (h : Handle) : Except LookupError Entry → PutOutcome → Prop
  | inserted : Tells h (.error (.unknown h.name)) .inserted
  | unchanged : Tells h (.ok (.live h)) .unchanged
  | replaced {p : Handle} (other : p ≠ h) : Tells h (.ok (.live p)) (.replaced p)
  | revived (p : Handle) : Tells h (.ok ⟨p, .deprecated⟩) (.revived p)

/-! ## One access -/

variable {r : Registry} {n : String} {h : Handle}

/-- A resource that was put is found under its new name. -/
theorem get_put (r : Registry) (n : String) (h : Handle) :
    (r.put n h).2.current.get n = .ok (h.renamed n) :=
  Snapshot.get_eq_ok_iff.2 ((Snapshot.find?_set ..).trans (if_pos rfl))

/-- Putting a handle tells of the entry that was there. -/
theorem tells_put (r : Registry) (n : String) (h : Handle) :
    Tells (h.renamed n) (r.current.getAny n) (r.put n h).1 := by
  have told : (r.put n h).1 = outcome (h.renamed n) (r.current.entries.find? n) := rfl
  rw [told, Snapshot.getAny]
  cases r.current.entries.find? n with
  | none => exact .inserted
  | some e =>
    obtain ⟨p, status⟩ := e
    cases status with
    | live =>
      by_cases same : p = h.renamed n
      · subst same
        have told : outcome (h.renamed n) (some ⟨h.renamed n, .live⟩) = .unchanged := if_pos rfl
        rw [told]
        exact .unchanged
      · have told : outcome (h.renamed n) (some ⟨p, .live⟩) = .replaced p := if_neg same
        rw [told]
        exact .replaced same
    | deprecated => exact .revived p

/-- A name is had by its entry, if that is live. -/
theorem get_eq (s : Snapshot) (n : String) : s.get n =
    match s.getAny n with
    | .ok e => if e.isLive then .ok e.handle else .error (.deprecated n)
    | .error e => .error e := by
  rw [Snapshot.get, Snapshot.getAny]
  cases s.entries.find? n with
  | none => rfl
  | some e => rfl

/-- Of a put there is a record exactly if it is told that it has replaced a resource. -/
theorem record?_put (r : Registry) (n : String) (h : Handle) :
    ((Access.put n h).stage r).record?
      = match (r.put n h).1 with
        | .replaced p => some ⟨n, p.address, h.address⟩
        | _ => none := by
  have told := tells_put r n h
  have before := get_eq r.current n
  have record : ((Access.put n h).stage r).record?
      = match r.current.get n, (r.put n h).2.current.get n with
        | .ok p, .ok q => if p = q then none else some ⟨n, p.address, q.address⟩
        | _, _ => none := rfl
  rw [record, get_put, before]
  generalize r.current.getAny n = found, (r.put n h).1 = o at told
  cases told with
  | inserted => rfl
  | unchanged => exact if_pos rfl
  | replaced other => exact if_neg other
  | revived p => rfl

/-- There is a record of a put exactly if it finds another live resource. -/
theorem record?_put_eq_some_iff {w : Overwrite} :
    ((Access.put n h).stage r).record? = some w ↔ ∃ p,
      r.current.getAny n = .ok (.live p) ∧ p ≠ h.renamed n ∧ w = ⟨n, p.address, h.address⟩ := by
  have told := tells_put r n h
  rw [record?_put]
  generalize r.current.getAny n = found, (r.put n h).1 = o at told
  cases told with
  | inserted => simp
  | unchanged =>
    refine iff_of_false nofun ?_
    rintro ⟨p, same, other, -⟩
    exact other (congrArg Entry.handle (Except.ok.inj same)).symm
  | @replaced p other =>
    constructor
    · rintro ⟨⟩
      exact ⟨p, rfl, other, rfl⟩
    · rintro ⟨p', same, -, rfl⟩
      obtain rfl : p = p' := congrArg Entry.handle (Except.ok.inj same)
      rfl
  | revived p => simp [Entry.live]

/-- **What one access adds to the log.** -/
theorem overwrites_stage (r : Registry) (x : Access) :
    (x.stage r).after.overwrites = r.overwrites ++ (x.stage r).record?.toList := by
  cases x with
  | put n h =>
    have log : ((Access.put n h).stage r).after.overwrites = r.overwrites ++
        match (r.put n h).1 with
        | .replaced p => [⟨n, p.address, h.address⟩]
        | _ => [] := rfl
    rw [log, record?_put]
    cases (r.put n h).1 <;> rfl
  | markDeprecated n =>
    have none : ((Access.markDeprecated n).stage r).record? = none := rfl
    rw [none, Option.toList_none, List.append_nil, Access.stage, Access.perform,
      Registry.markDeprecated]
    cases r.current.entries.find? n with
    | none => rfl
    | some e => rfl
  | _ => exact (List.append_nil _).symm

/-! ## A sequence -/

/-- What a sequence of accesses to a registry has to do with its log. -/
structure Logged (r : Registry) (xs : List Access) : Prop where
  /-- Each access has its stage, which starts from what those before it left. -/
  stage : ∀ i, (course r xs)[i]? = xs[i]?.map (Access.stage (performAll r (xs.take i)))
  /-- The log is what it was and the records of the stages, in their order. -/
  log : (performAll r xs).overwrites = r.overwrites ++ (course r xs).filterMap Stage.record?
  /-- There is a record of the puts that found another live resource, with the address of that one
  and of the one that was put, and of no other accesses. -/
  record_iff : ∀ s ∈ course r xs, ∀ w, s.record? = some w ↔ ∃ n h p,
    s.access = .put n h ∧ s.before.current.getAny n = .ok (.live p) ∧ p ≠ h.renamed n ∧
      w = ⟨n, p.address, h.address⟩
  /-- A put is told what it found, and leaves its resource under the new name. -/
  put : ∀ s ∈ course r xs, ∀ n h, s.access = .put n h →
    (∃ o, s.answer = .outcome o ∧ Tells (h.renamed n) (s.before.current.getAny n) o) ∧
      s.after.current.get n = .ok (h.renamed n)

/-- The stage at a place is that of the access at that place, made to what the ones before it
left. -/
theorem getElem?_course (r : Registry) (xs : List Access) (i : Nat) :
    (course r xs)[i]? = xs[i]?.map (Access.stage (performAll r (xs.take i))) := by
  induction xs generalizing r i with
  | nil => rfl
  | cons x xs ih =>
    cases i with
    | zero => rfl
    | succ i => exact ih (x.stage r).after i

/-- Every stage of a course is an access made to some registry. -/
theorem exists_stage {s : Stage} {xs : List Access} (h : s ∈ course r xs) :
    ∃ r', s = s.access.stage r' := by
  obtain ⟨i, hi⟩ := List.mem_iff_getElem?.1 h
  rw [getElem?_course] at hi
  obtain ⟨x, -, rfl⟩ := Option.map_eq_some_iff.1 hi
  exact ⟨_, rfl⟩

/-- What each stage adds to the log, all of them add in their order. -/
theorem overwrites_performAll (r : Registry) (xs : List Access) :
    (performAll r xs).overwrites = r.overwrites ++ (course r xs).filterMap Stage.record? := by
  induction xs generalizing r with
  | nil => exact (List.append_nil _).symm
  | cons x xs ih =>
    have rest : performAll r (x :: xs) = performAll (x.stage r).after xs := rfl
    have records : (course r (x :: xs)).filterMap Stage.record?
        = (x.stage r).record?.toList ++ (course (x.stage r).after xs).filterMap Stage.record? := by
      rw [course, List.filterMap_cons]
      cases (x.stage r).record? <;> rfl
    rw [rest, ih, overwrites_stage, records, List.append_assoc]

/-- **The log of a sequence.** From whatever registry, and whatever is merged into it, the log grows
by one record for each put that found another live resource, and by nothing else; and every put is
told what it found. -/
theorem logged_course (r : Registry) (xs : List Access) : Logged r xs where
  stage := getElem?_course r xs
  log := overwrites_performAll r xs
  record_iff s hs w := by
    obtain ⟨r', stage⟩ := exists_stage hs
    cases access : s.access with
    | put n h =>
      rw [access] at stage
      rw [stage, record?_put_eq_some_iff]
      constructor
      · rintro ⟨p, found, other, record⟩
        exact ⟨n, h, p, rfl, found, other, record⟩
      · rintro ⟨n, h, p, ⟨⟩, found, other, record⟩
        exact ⟨p, found, other, record⟩
    | _ => simp [Stage.record?, access]
  put s hs n h put := by
    obtain ⟨r', stage⟩ := exists_stage hs
    rw [put] at stage
    subst stage
    exact ⟨⟨_, rfl, tells_put r' n h⟩, get_put r' n h⟩

/-- A merge replaces without a record, and a put after it replaces what was merged. -/
example :
    let pool (k : Nat) : Handle := { name := "pool", address := .ofNat k }
    (performAll (.ofHandles [pool 1]) [.merge (.ofHandles [pool 2]), .put "pool" (pool 3),
      .markDeprecated "pool", .put "pool" (pool 4)]).overwrites
        = [⟨"pool", .ofNat 2, .ofNat 3⟩] := by
  decide +kernel

end Registry
end Rollout
