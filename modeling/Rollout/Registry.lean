/-
# The registry of resources

A registry maps names to resources that are live or deprecated. What a reader sees of it is a
`Snapshot`; the `Registry` also keeps a log of the live entries that were put over.

| operation | on the entry of `n` | the log |
| --- | --- | --- |
| `put n h` | `h`, renamed to `n`, live | one record if a live entry had another handle |
| `merge b` | that of `b` if it has one | as before |
| `markDeprecated n` | the same handle, deprecated | as before |
-/

import Rollout.Resource

namespace Rollout

/-- Why a name does not stand for a live resource. -/
inductive LookupError
  | unknown (name : String)
  | deprecated (name : String)
deriving DecidableEq, Repr

namespace LookupError

def name : LookupError → String
  | unknown n => n
  | deprecated n => n

def message : LookupError → String
  | unknown n => "unknown resource: " ++ n
  | deprecated n => "resource " ++ n ++ " is deprecated"

/-- The name of the kind of error. -/
def code : LookupError → String
  | unknown _ => "UnknownResource"
  | deprecated _ => "Deprecated"

end LookupError

/-- Whether a resource is in use. -/
inductive Status
  | live
  | deprecated
deriving DecidableEq, Repr

def Status.text : Status → String
  | live => "live"
  | deprecated => "deprecated"

/-- A resource and its status. -/
structure Entry where
  handle : Handle
  status : Status
deriving DecidableEq

namespace Entry

def isLive (e : Entry) : Bool := e.status = .live

/-- A resource in use. -/
def live (h : Handle) : Entry := ⟨h, .live⟩

def document (e : Entry) : Document :=
  .map [("handle", e.handle.document), ("status", .text e.status.text)]

end Entry

/-- The entries of a registry at one time, each under the name of its resource. -/
structure Snapshot where
  entries : Table String Entry
  named : ∀ e ∈ entries.entries, e.2.handle.name = e.1
deriving DecidableEq

namespace Snapshot

def empty : Snapshot := ⟨.empty, by simp [Table.empty]⟩

instance : Inhabited Snapshot := ⟨empty⟩

/-- The entry of a name, live or deprecated. -/
def getAny (s : Snapshot) (name : String) : Except LookupError Entry :=
  match s.entries.find? name with
  | some e => .ok e
  | none => .error (.unknown name)

/-- The live resource of a name. -/
def get (s : Snapshot) (name : String) : Except LookupError Handle :=
  match s.entries.find? name with
  | some e => if e.isLive then .ok e.handle else .error (.deprecated name)
  | none => .error (.unknown name)

/-- The address of the live resource of a name. -/
def address (s : Snapshot) (name : String) : Except LookupError Address :=
  (s.get name).map (·.address)

def isLive (s : Snapshot) (name : String) : Bool := (s.entries.find? name).any (·.isLive)

def isDeprecated (s : Snapshot) (name : String) : Bool :=
  (s.entries.find? name).any fun e => !e.isLive

def contains (s : Snapshot) (name : String) : Bool := s.entries.contains name

def size (s : Snapshot) : Nat := s.entries.size

def isEmpty (s : Snapshot) : Bool := s.entries.isEmpty

/-- The names of the live resources, ascending. -/
def liveNames (s : Snapshot) : List String :=
  (s.entries.entries.filter (·.2.isLive)).map (·.1)

def document (s : Snapshot) : Document :=
  .map (s.entries.entries.map fun e => (e.1, e.2.document))

/-- The first live name of an address. -/
def nameOf? (s : Snapshot) (a : Address) : Option String :=
  (s.entries.entries.find? fun e => e.2.isLive && e.2.handle.address = a).map (·.1)

/-- Setting an entry keeps every entry under the name of its handle. -/
theorem named_insert (s : Snapshot) (e : Entry) :
    ∀ x ∈ (s.entries.insert e.handle.name e).entries, x.2.handle.name = x.1 := by
  intro x hx
  rcases Table.mem_insertIn hx with rfl | hx
  · rfl
  · exact s.named x hx

/-- An entry put under the name of its resource. -/
def set (s : Snapshot) (e : Entry) : Snapshot :=
  ⟨s.entries.insert e.handle.name e, s.named_insert e⟩

/-- A resource put in use under its own name. -/
def insertLive (s : Snapshot) (h : Handle) : Snapshot := s.set (.live h)

/-- The resources in use under their own names, a later one in place of an earlier. -/
def ofHandles (hs : List Handle) : Snapshot := hs.foldl insertLive empty

/-- The entries of both, those of the second where both have one. -/
def merge (a b : Snapshot) : Snapshot := b.entries.values.foldl set a

/-- The entry of a name marked as deprecated, if there is one. -/
def retire (s : Snapshot) (name : String) : Snapshot :=
  match s.entries.find? name with
  | some e => s.set { e with status := .deprecated }
  | none => s

end Snapshot

/-- A live entry that was put over. -/
structure Overwrite where
  name : String
  previous : Address
  replacement : Address
deriving DecidableEq

def Overwrite.document (o : Overwrite) : Document :=
  .map [
    ("name", .text o.name),
    ("previous", o.previous.document),
    ("replacement", o.replacement.document)]

/-- What putting a resource did to the entry of its name. -/
inductive PutOutcome
  | inserted
  | unchanged
  | replaced (previous : Handle)
  | revived (previous : Handle)
deriving DecidableEq

/-- What merging did: the names that were new, those whose live entry changed, those whose
deprecated entry changed, and how many entries stayed as they were. -/
structure MergeSummary where
  inserted : List String
  superseded : List String
  revived : List String
  unchanged : Nat
deriving DecidableEq

/-- How many entries merging changed. -/
def MergeSummary.changed (m : MergeSummary) : Nat :=
  m.inserted.length + m.superseded.length + m.revived.length

/-- The entries and the log of what was put over. -/
structure Registry where
  current : Snapshot
  overwrites : List Overwrite := []
deriving DecidableEq

namespace Registry

def empty : Registry := ⟨.empty, []⟩

instance : Inhabited Registry := ⟨empty⟩

def ofHandles (hs : List Handle) : Registry := ⟨.ofHandles hs, []⟩

/-- A registry that starts from a snapshot, with an empty log. -/
def ofSnapshot (s : Snapshot) : Registry := ⟨s, []⟩

/-- What putting a live handle makes of the entry that was there. -/
def outcome (h : Handle) : Option Entry → PutOutcome
  | none => .inserted
  | some e =>
    if e.isLive then
      if e.handle = h then .unchanged else .replaced e.handle
    else .revived e.handle

/-- Puts a resource in use under a name. -/
def put (r : Registry) (name : String) (h : Handle) : PutOutcome × Registry :=
  let h := h.renamed name
  let o := outcome h (r.current.entries.find? name)
  let log := match o with
    | .replaced previous => [⟨name, previous.address, h.address⟩]
    | _ => []
  (o, ⟨r.current.insertLive h, r.overwrites ++ log⟩)

/-- The names of the entries of `b` that meet `p` beside what `a` has under the name. -/
def namesWhere (a b : Snapshot) (p : Option Entry → Entry → Bool) : List String :=
  (b.entries.entries.filter fun e => p (a.entries.find? e.1) e.2).map (·.1)

/-- What merging `b` into `a` does. -/
def mergeSummary (a b : Snapshot) : MergeSummary where
  inserted := namesWhere a b fun before _ => before.isNone
  superseded := namesWhere a b fun before e => before.any fun p => p ≠ e && p.isLive
  revived := namesWhere a b fun before e => before.any fun p => p ≠ e && !p.isLive
  unchanged := (namesWhere a b fun before e => before.any fun p => p = e).length

/-- Takes over all entries of another registry. -/
def merge (a b : Registry) : MergeSummary × Registry :=
  (mergeSummary a.current b.current, { a with current := a.current.merge b.current })

/-- Marks the entry of a name as deprecated and returns its resource. -/
def markDeprecated (r : Registry) (name : String) : Except LookupError (Handle × Registry) :=
  match r.current.entries.find? name with
  | some e => .ok (e.handle, { r with current := r.current.retire name })
  | none => .error (.unknown name)

end Registry
end Rollout
