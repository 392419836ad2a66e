/-
# Invariants

Conditions on the state after a proposal, written down as data. Accounts are given by
references as in `Rollout.Template`.

| invariant | holds if |
| --- | --- |
| `roleHeldBy r hs x` | every holder listed has the role and, if exclusive, nobody else has |
| `balanceWithin t h a b` | the balance of `h` in `t` lies between `a` and `b` |
| `oracleWithin o a b` | the reading of `o` is valid and lies between `a` and `b` |
| `paused c p` | the pause flag of `c` is `p` |
| `storageEquals c k v` | slot `k` of `c` is set and holds `v`, placeholders resolved |

`Invariant.assertion` looks at the state; it is an error where a reference stands for nothing
or the chain refuses the read.
-/

import Rollout.Template
import Rollout.Assertion
import Rollout.Lifecycle.Error
import Rollout.Chain.Basic

namespace Rollout

/-- A condition on the state after a proposal. -/
inductive Invariant
  | roleHeldBy (role : String) (holders : List String) (exclusive : Bool)
  | balanceWithin (token holder : String) (least greatest : Amount)
  | oracleWithin (oracle : String) (least greatest : Amount)
  | paused (resource : String) (flag : Bool)
  | storageEquals (resource key : String) (expected : Value)
deriving DecidableEq

namespace Invariant

/-- A short name. -/
def name : Invariant → String
  | roleHeldBy role _ exclusive => role ++ if exclusive then " held exclusively" else " held"
  | balanceWithin token holder _ _ => token ++ " balance of " ++ holder
  | oracleWithin oracle _ _ => oracle ++ " reading"
  | paused resource flag => resource ++ if flag then " paused" else " unpaused"
  | storageEquals resource key _ => resource ++ "." ++ key

/-! ## Reading and writing -/

/-- The fields of each kind after its tag, in order. -/
def keys : String → List String
  | "roleHeldBy" => ["role", "holders", "exclusive"]
  | "balanceWithin" => ["token", "holder", "min", "max"]
  | "oracleWithin" => ["oracle", "min", "max"]
  | "paused" => ["resource", "paused"]
  | "storageEquals" => ["resource", "key", "expected"]
  | _ => []

/-- Whether a key is the one of the tag. -/
def isTagKey (k : Node) : Bool :=
  match k.settle with
  | some (.text s) => s == "type"
  | _ => false

/-- The tag of a record and the record without it, the meaning of scalars settled. -/
def taggedRecord? : Node → Option (String × Node)
  | .map es => do
    match es.filter (isTagKey ·.1) with
    | [(_, tag)] => return (← tag.name?, ← (Node.map (es.filter (!isTagKey ·.1))).settle)
    | _ => none
  | .list (tag :: items) => do return (← tag.name?, ← (Node.list items).settle)
  | _ => none

/-- The invariant of a kind with the given fields. -/
def ofFields? (tag : String) (fields : Fields) : Option Invariant :=
  let text := Decoder.required Decoder.text .json
  let amount := Decoder.required Amount.decode .json
  match tag, fields with
  | "roleHeldBy", [role, holders, exclusive] => do
    return roleHeldBy (← text role)
      (← Decoder.required (Decoder.list Decoder.text) .json holders)
      (← Decoder.orElse false Decoder.bool .json exclusive)
  | "balanceWithin", [token, holder, least, greatest] => do
    return balanceWithin (← text token) (← text holder) (← amount least) (← amount greatest)
  | "oracleWithin", [oracle, least, greatest] => do
    return oracleWithin (← text oracle) (← amount least) (← amount greatest)
  | "paused", [resource, flag] => do
    return paused (← text resource) (← Decoder.orElse true Decoder.bool .json flag)
  | "storageEquals", [resource, key, expected] => do
    return storageEquals (← text resource) (← text key)
      (← Decoder.required Decoder.value .json expected)
  | _, _ => none

/-- Reads an invariant: its tag, then its fields. -/
def decode : Decoder Invariant := fun _ n => do
  let (tag, n) ← taggedRecord? n
  ofFields? tag (← Decoder.record (keys tag) .json n)

def document : Invariant → Document
  | roleHeldBy role holders exclusive =>
    .map [("type", .text "roleHeldBy"), ("role", .text role),
      ("holders", .list (holders.map .text)), ("exclusive", .bool exclusive)]
  | balanceWithin token holder least greatest =>
    .map [("type", .text "balanceWithin"), ("token", .text token), ("holder", .text holder),
      ("min", least.document), ("max", greatest.document)]
  | oracleWithin oracle least greatest =>
    .map [("type", .text "oracleWithin"), ("oracle", .text oracle), ("min", least.document),
      ("max", greatest.document)]
  | paused resource flag =>
    .map [("type", .text "paused"), ("resource", .text resource), ("paused", .bool flag)]
  | storageEquals resource key expected =>
    .map [("type", .text "storageEquals"), ("resource", .text resource), ("key", .text key),
      ("expected", expected.document)]

/-! ## Looking at the state -/

/-- Addresses in a row, or that there are none. -/
def listed (addresses : List Address) : String :=
  if addresses.isEmpty then "none" else String.intercalate ", " (addresses.map Address.text)

/-- The text of a slot's value. -/
def slotText : Option Value → String
  | some v => "Some(" ++ v.spelled ++ ")"
  | none => "None"

/-- Every account listed has the role and, if exclusive, nobody else has. -/
def heldAssertion (name : String) (expected actual : List Address) (exclusive : Bool) :
    Assertion :=
  let missing := expected.filter (!actual.contains ·)
  let extra := actual.filter fun a => exclusive && !expected.contains a
  { name
    holds := missing.isEmpty && extra.isEmpty
    detail := "missing " ++ listed missing ++ ", unexpected " ++ listed extra }

/-- The reading is valid and lies between the bounds. -/
def readingAssertion (name : String) (reading : Reading) (least greatest : Amount) :
    Assertion where
  name := name
  holds := reading.valid && (Assertion.within name reading.value least greatest).holds
  detail := "reading " ++ reading.value.text ++ " (valid: " ++ toString reading.valid
    ++ ") outside [" ++ least.text ++ ", " ++ greatest.text ++ "]"

/-- The assertion that an invariant makes of a registry and a chain. -/
def assertion (i : Invariant) (registry : Snapshot) (chain : Chain) :
    Except HookError Assertion :=
  let name := "invariant: " ++ i.name
  let party (reference : String) : Except HookError Address :=
    (Template.party registry reference).mapError .lookup
  match i with
  | roleHeldBy role holders exclusive => do
    let expected ← (Template.parties registry holders).mapError .lookup
    return heldAssertion name expected (chain.roleHolders role) exclusive
  | balanceWithin token holder least greatest => do
    let token ← party token
    let holder ← party holder
    let balance ← (chain.balanceOf token holder).mapError .chain
    return .within name balance least greatest
  | oracleWithin oracle least greatest => do
    let reading ← (chain.readOracle (← party oracle)).mapError .chain
    return readingAssertion name reading least greatest
  | paused resource flag => do
    let actual ← (chain.isPaused (← party resource)).mapError .chain
    return .equal name (actual == flag) (toString actual) (toString flag)
  | storageEquals resource key expected => do
    let a ← party resource
    let expected ← (Template.resolve registry expected).mapError .lookup
    let actual ← (chain.storage a key).mapError .chain
    return .equal name (actual.any (·.agrees expected)) (slotText actual)
      (slotText (some expected))

/-- Records the assertion, or leaves the set as it was where there is none. -/
def check (i : Invariant) (registry : Snapshot) (chain : Chain) (set : AssertionSet) :
    Except HookError Unit × AssertionSet :=
  match i.assertion registry chain with
  | .ok a => (.ok (), set.record a)
  | .error e => (.error e, set)

end Invariant
end Rollout
