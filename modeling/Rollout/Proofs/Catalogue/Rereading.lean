/-
# Catalogue files read back

A catalogue that is read from a file and written down again is the same catalogue when it is read
a second time (`CatalogueFile.decode_document`): no field of a record, a payload, a command, an
invariant or a deployment is lost or moved, and the records keep their ids and their order. Of
records that come from elsewhere one thing is lost, an empty text for the id of a proposal that
already exists.

For each type there are two lemmas: what is written is read back (`reads_document`), provided that
the free values inside are genuine, and whatever is read has genuine values inside
(`yields_genuine`).
-/

import Rollout.Catalogue.File
import Rollout.Proofs.Amount.Text
import Rollout.Proofs.Document.Values

namespace Rollout

open Decoder

/-! ## Amounts and names -/

/-- An amount that is written is read back. -/
theorem Amount.reads_document (a : Amount) : Reads decode a.document a :=
  reads_settled (ofText?_text a)

/-- A category that is written is read back. -/
theorem Category.reads_document (c : Category) : Reads decode c.document c :=
  reads_name (ofText?_text c)

/-- A kind that is written is read back. -/
theorem Kind.reads_document (k : Kind) : Reads decode k.document k :=
  reads_name (ofText?_text k)

/-! ## Payloads -/

namespace Command

/-- The free values inside are genuine. -/
def Genuine (c : Command) : Prop := ∀ v ∈ c.arguments, v.Genuine

/-- A command that is written is read back. -/
theorem reads_document {c : Command} (h : c.Genuine) : Reads decode c.document c := by
  intro dialect
  have value := c.value.reads_document dialect
  have arguments := reads_list Value.document (fun v hv => (h v hv).reads) dialect
  rw [decode, document, record_map]
  case names => rfl
  case distinct => decide
  simp [required, orElse, reads_text _ dialect, value, arguments]

/-- A command that is read has genuine arguments. -/
theorem yields_genuine : Yields decode Genuine := by
  intro dialect n c read
  obtain ⟨fields, -, read⟩ := Option.bind_eq_some_iff.1 read
  split at read
  · simp only [Option.bind_eq_bind, Option.bind_eq_some_iff, Option.pure_def,
      Option.some.injEq] at read
    obtain ⟨_, -, _, -, _, -, arguments, hArguments, _, -, rfl⟩ := read
    exact forall_of_orElse yields_value hArguments
  · cases read

end Command

namespace Payload

/-- The free values inside are genuine. -/
def Genuine (p : Payload) : Prop := ∀ c ∈ p.commands, c.Genuine

/-- A payload that is written is read back. -/
theorem reads_document {p : Payload} (h : p.Genuine) : Reads decode p.document p := by
  intro dialect
  have commands :=
    reads_list Command.document (fun c hc => Command.reads_document (h c hc)) dialect
  rw [decode, document, record_map]
  case names => rfl
  case distinct => decide
  simp [required, orElse, reads_text _ dialect, commands]

/-- A payload that is read has genuine commands. -/
theorem yields_genuine : Yields decode Genuine := by
  intro dialect n p read
  obtain ⟨fields, -, read⟩ := Option.bind_eq_some_iff.1 read
  split at read
  · simp only [Option.bind_eq_bind, Option.bind_eq_some_iff, Option.pure_def,
      Option.some.injEq] at read
    obtain ⟨_, -, commands, hCommands, _, -, rfl⟩ := read
    exact forall_of_orElse Command.yields_genuine hCommands
  · cases read

end Payload

/-! ## Deployments -/

namespace DeploymentSpec

/-- The free values inside are genuine. -/
def Genuine (s : DeploymentSpec) : Prop := ∀ v ∈ s.arguments, v.Genuine

/-- A deployment that is written is read back. -/
theorem reads_document {s : DeploymentSpec} (h : s.Genuine) : Reads decode s.document s := by
  intro dialect
  have kind := s.kind.reads_document dialect
  have arguments := reads_list Value.document (fun v hv => (h v hv).reads) dialect
  rw [decode, document, record_map]
  case names => rfl
  case distinct => decide
  simp [required, orElse, reads_text _ dialect, kind, arguments]

/-- A deployment that is read has genuine arguments. -/
theorem yields_genuine : Yields decode Genuine := by
  intro dialect n s read
  obtain ⟨fields, -, read⟩ := Option.bind_eq_some_iff.1 read
  split at read
  · simp only [Option.bind_eq_bind, Option.bind_eq_some_iff, Option.pure_def,
      Option.some.injEq] at read
    obtain ⟨_, -, _, -, _, -, arguments, hArguments, rfl⟩ := read
    exact forall_of_orElse yields_value hArguments
  · cases read

end DeploymentSpec

/-! ## Invariants -/

namespace Invariant

/-- The free value inside, if there is one, is genuine. -/
def Genuine : Invariant → Prop
  | storageEquals _ _ expected => expected.Genuine
  | _ => True

theorem isTagKey_text (k : String) : isTagKey (.text k) = (k == "type") := rfl

/-- The tag is taken off a record in which it stands first and no other field has its key. -/
theorem taggedRecord?_map {kind : String} {es : List (String × Document)}
    (h : "type" ∉ es.map (·.1)) :
    taggedRecord? (Document.map (("type", .text kind) :: es)).node
      = some (kind, (Document.map es).node) := by
  have other : ∀ e ∈ es.map (fun e => (Node.text e.1, e.2.node)), isTagKey e.1 = false := by
    intro e he
    obtain ⟨f, hf, rfl⟩ := List.mem_map.1 he
    rw [isTagKey_text, beq_eq_false_iff_ne]
    exact fun same => h (same ▸ List.mem_map_of_mem hf)
  have tags : (es.map fun e => (Node.text e.1, e.2.node)).filter (isTagKey ·.1) = [] := by
    rw [List.filter_eq_nil_iff]
    intro e he
    rw [other e he]
    exact Bool.false_ne_true
  have fields : (es.map fun e => (Node.text e.1, e.2.node)).filter (!isTagKey ·.1)
      = es.map fun e => (Node.text e.1, e.2.node) := by
    rw [List.filter_eq_self]
    intro e he
    rw [other e he, Bool.not_false]
  have settled := Document.settle_node (.map es)
  rw [Document.node_map] at settled ⊢
  rw [List.map_cons, taggedRecord?, List.filter_cons_of_pos rfl,
    List.filter_cons_of_neg (by simp [isTagKey_text]), tags, fields, settled, Document.node_map]
  rfl

/-- The fields of an invariant have different keys, and none of them is that of its tag. -/
theorem nodup_keys (kind : String) : ("type" :: keys kind).Nodup := by
  unfold keys
  split <;> decide

/-- A tagged record is read by the fields of its kind. -/
theorem decode_map {kind : String} {es : List (String × Document)}
    (names : es.map (·.1) = keys kind) (dialect : Dialect) :
    decode dialect (Document.map (("type", .text kind) :: es)).node
      = ofFields? kind (es.map fun e => some e.2.node) := by
  obtain ⟨untagged, distinct⟩ := List.nodup_cons.1 (nodup_keys kind)
  rw [decode, taggedRecord?_map (names ▸ untagged)]
  simp [record_map names distinct]

/-- An invariant that is written is read back. -/
theorem reads_document {i : Invariant} (h : i.Genuine) : Reads decode i.document i := by
  intro dialect
  cases i with
  | roleHeldBy role holders exclusive =>
    have holders := reads_list .text (fun s (_ : s ∈ holders) => reads_text s) .json
    rw [document, decode_map]
    case names => rfl
    simp [ofFields?, required, orElse, reads_text _ .json, reads_bool _ .json, holders]
  | balanceWithin token holder least greatest =>
    rw [document, decode_map]
    case names => rfl
    simp [ofFields?, required, reads_text _ .json, Amount.reads_document _ .json]
  | oracleWithin oracle least greatest =>
    rw [document, decode_map]
    case names => rfl
    simp [ofFields?, required, reads_text _ .json, Amount.reads_document _ .json]
  | paused resource flag =>
    rw [document, decode_map]
    case names => rfl
    simp [ofFields?, required, orElse, reads_text _ .json, reads_bool _ .json]
  | storageEquals resource key expected =>
    have expected := Value.Genuine.reads h .json
    rw [document, decode_map]
    case names => rfl
    simp [ofFields?, required, reads_text _ .json, expected]

/-- An invariant that is made of fields as they are read is genuine. -/
theorem genuine_of_ofFields? {kind : String} {fields : Fields} {i : Invariant}
    (h : ofFields? kind fields = some i) : i.Genuine := by
  unfold ofFields? at h
  split at h
  all_goals
    simp only [Option.bind_eq_bind, Option.bind_eq_some_iff, Option.pure_def,
      Option.some.injEq] at h
  · obtain ⟨_, -, _, -, _, -, rfl⟩ := h
    trivial
  · obtain ⟨_, -, _, -, _, -, _, -, rfl⟩ := h
    trivial
  · obtain ⟨_, -, _, -, _, -, rfl⟩ := h
    trivial
  · obtain ⟨_, -, _, -, rfl⟩ := h
    trivial
  · obtain ⟨_, -, _, -, expected, hExpected, rfl⟩ := h
    have genuine : expected.Genuine := of_required yields_value hExpected
    exact genuine
  · cases h

/-- An invariant that is read is genuine. -/
theorem yields_genuine : Yields decode Genuine := by
  intro dialect n i read
  simp only [decode, Option.bind_eq_bind, Option.bind_eq_some_iff] at read
  obtain ⟨_, -, fields, -, read⟩ := read
  exact genuine_of_ofFields? read

end Invariant

/-! ## Records -/

namespace CatalogueRecord

/-- The free values inside are genuine. -/
structure Genuine (r : CatalogueRecord) : Prop where
  payload : ∀ p, r.payload = some p → p.Genuine
  invariants : ∀ i ∈ r.invariants, i.Genuine
  deployments : ∀ s ∈ r.deployments, s.Genuine

/-- An identifier that is not empty is kept. -/
theorem filter_id_eq_self {id : Option String} (h : id ≠ some "") : id.filter (· ≠ "") = id := by
  cases id with
  | none => rfl
  | some s =>
    have : s ≠ "" := fun e => h (congrArg some e)
    simp [this]

/-- An identifier that is written is read back, but that an empty one is lost. -/
theorem reads_decodeId (id : Option String) :
    Reads decodeId ((id.map .text).getD .null) (id.filter (· ≠ "")) := by
  intro dialect
  cases id <;> rfl

/-- Names that are written are read back. -/
theorem reads_texts (names : List String) : Reads (list text) (texts names) names :=
  reads_list .text fun name _ => reads_text name

/-- A list that is left out where it is empty is read back. -/
theorem orElse_unlessEmpty {α : Type} {dec : Decoder α} {doc : α → Document} {items : List α}
    (h : ∀ a ∈ items, Reads dec (doc a) a) (dialect : Dialect) :
    orElse [] (list dec) dialect ((unlessEmpty doc items).map Document.node) = some items := by
  cases items with
  | nil => rfl
  | cons a items => exact reads_list doc h dialect

/-- **A record is read back from its document**, but for an empty id. -/
theorem reads_document {r : CatalogueRecord} (h : r.Genuine) :
    Reads decode r.document { r with existingId := r.existingId.filter (· ≠ "") } := by
  intro dialect
  have payload : option Payload.decode dialect
      ((r.payload.map Payload.document).getD .null).node = some r.payload := by
    cases hp : r.payload with
    | none => exact reads_option_null dialect
    | some p =>
      have written := Payload.reads_document (h.payload p hp)
      exact reads_option written (by simp [Payload.document]) dialect
  have expected : orElse none (option (list text)) dialect
      ((r.expected.map texts).map Document.node) = some r.expected := by
    cases r.expected with
    | none => rfl
    | some names => exact reads_option (reads_texts names) (by simp [texts]) dialect
  have invariants :=
    orElse_unlessEmpty (fun i hi => Invariant.reads_document (h.invariants i hi)) dialect
  have deployments :=
    orElse_unlessEmpty (fun s hs => DeploymentSpec.reads_document (h.deployments s hs)) dialect
  rw [decode, document, record_ofFields]
  case names => rfl
  case distinct => decide
  simp only [List.map_cons, List.map_nil, Option.map_some, Option.bind_eq_bind, Option.bind_some,
    expected, invariants, deployments]
  simp [required, orElse, reads_bool _ dialect, r.totalValue.reads_document dialect, payload,
    reads_decodeId _ dialect, reads_texts _ dialect, r.category.reads_document dialect]

/-- An identifier that is read is not empty. -/
theorem yields_decodeId : Yields decodeId fun id => id ≠ some "" := by
  rintro dialect n _ read rfl
  obtain ⟨id, -, kept⟩ := Option.bind_eq_some_iff.1 read
  have := (Option.filter_eq_some_iff.1 (Option.some.inj kept)).2
  simp at this

/-- A record that is read has genuine values inside and no empty id. -/
theorem yields_genuine : Yields decode fun r => r.Genuine ∧ r.existingId ≠ some "" := by
  intro dialect n r read
  obtain ⟨fields, -, read⟩ := Option.bind_eq_some_iff.1 read
  split at read
  · simp only [Option.bind_eq_bind, Option.bind_eq_some_iff, Option.pure_def,
      Option.some.injEq] at read
    obtain ⟨_, -, _, -, payload, hPayload, id, hId, _, -, _, -, _, -, _, -, invariants,
      hInvariants, deployments, hDeployments, rfl⟩ := read
    have genuine : ∀ p, payload = some p → p.Genuine :=
      of_orElse (P := fun payload => ∀ p, payload = some p → p.Genuine)
        (yields_option Payload.yields_genuine) (by simp) hPayload
    have full : id ≠ some "" := of_orElse (P := (· ≠ some "")) yields_decodeId (by simp) hId
    exact ⟨⟨genuine, forall_of_orElse Invariant.yields_genuine hInvariants,
      forall_of_orElse DeploymentSpec.yields_genuine hDeployments⟩, full⟩
  · cases read

end CatalogueRecord

/-! ## Files -/

namespace Listing

variable {α : Type}

/-- A new name is put behind all others. -/
theorem putIn_of_notMem {name : String} {a : α} {xs : List (String × α)}
    (h : name ∉ xs.map (·.1)) : putIn name a xs = xs ++ [(name, a)] := by
  induction xs with
  | nil => rfl
  | cons e xs ih =>
    rw [List.map_cons, List.mem_cons, not_or] at h
    rw [putIn, if_neg fun same => h.1 same.symm, ih h.2, List.cons_append]

/-- Of what is put in, an entry is the new one or was there before. -/
theorem mem_of_mem_putIn {name : String} {a : α} {xs : List (String × α)} {e : String × α}
    (h : e ∈ putIn name a xs) : e = (name, a) ∨ e ∈ xs := by
  induction xs with
  | nil => exact .inl (List.mem_singleton.1 h)
  | cons x xs ih =>
    rw [putIn] at h
    split at h
    · next same =>
      rcases List.mem_cons.1 h with he | he
      · exact .inl (same ▸ he)
      · exact .inr (List.mem_cons_of_mem _ he)
    · rcases List.mem_cons.1 h with rfl | he
      · exact .inr List.mem_cons_self
      · exact (ih he).imp_right (List.mem_cons_of_mem _)

/-- Items under new names come after those that are there, in their order. -/
theorem toList_foldl_insert {xs : List (String × α)} {l : Listing α}
    (h : ((l.toList ++ xs).map (·.1)).Nodup) :
    (xs.foldl (fun l e => l.insert e.1 e.2) l).toList = l.toList ++ xs := by
  -- The names there and those to come stay the same together, so they stay distinct.
  induction xs generalizing l with
  | nil => exact (List.append_nil _).symm
  | cons e xs ih =>
    have fresh : e.1 ∉ l.toList.map (·.1) := by
      rw [List.map_append, List.nodup_append] at h
      exact fun mem => h.2.2 _ mem _ List.mem_cons_self rfl
    have inserted : (l.insert e.1 e.2).toList = l.toList ++ [e] := putIn_of_notMem fresh
    have shifted : (l.insert e.1 e.2).toList ++ xs = l.toList ++ e :: xs := by
      rw [inserted, List.append_assoc, List.singleton_append]
    rw [List.foldl_cons, ih (shifted ▸ h), shifted]

/-- The items of a listing make up that listing, in its order. -/
theorem ofList_toList (l : Listing α) : ofList l.toList = l := by
  have same : (ofList l.toList).toList = l.toList := toList_foldl_insert l.distinct
  cases hl : ofList l.toList
  cases l
  simp_all

/-- Of what is inserted one by one, an entry is one of these or was there before. -/
theorem mem_of_mem_foldl_insert {xs : List (String × α)} {l : Listing α} {e : String × α}
    (h : e ∈ (xs.foldl (fun l e => l.insert e.1 e.2) l).toList) : e ∈ l.toList ∨ e ∈ xs := by
  induction xs generalizing l with
  | nil => exact .inl h
  | cons x xs ih =>
    rcases ih h with he | he
    · rcases mem_of_mem_putIn he with rfl | he
      · exact .inr List.mem_cons_self
      · exact .inl he
    · exact .inr (List.mem_cons_of_mem _ he)

/-- The entries of a listing are among those that it was made of. -/
theorem mem_of_mem_ofList {xs : List (String × α)} {e : String × α}
    (h : e ∈ (ofList xs).toList) : e ∈ xs := by
  rcases mem_of_mem_foldl_insert h with he | he
  · cases he
  · exact he

end Listing

namespace CatalogueFile

/-- A file that is written is read back, if its records are genuine and no identifier is empty. -/
theorem reads_document {f : CatalogueFile}
    (h : ∀ e ∈ f.toList, e.2.Genuine ∧ e.2.existingId ≠ some "") : Reads decode f.document f := by
  intro dialect
  have records : Reads (entries CatalogueRecord.decode) f.document f.toList := by
    refine reads_entries _ fun e he => ?_
    have read := CatalogueRecord.reads_document (h e he).1
    rwa [CatalogueRecord.filter_id_eq_self (h e he).2] at read
  rw [decode, records dialect]
  simp [Listing.ofList_toList]

/-- The records of a file that is read are genuine, and no identifier is empty. -/
theorem yields_genuine :
    Yields decode fun f => ∀ e ∈ f.toList, e.2.Genuine ∧ e.2.existingId ≠ some "" := by
  intro dialect n f read e he
  obtain ⟨es, hes, made⟩ := Option.bind_eq_some_iff.1 read
  cases made
  have genuine := yields_entries CatalogueRecord.yields_genuine dialect n es hes
  exact genuine e (Listing.mem_of_mem_ofList he)

/-- **Written down and read again.** A file that was read, in whatever dialect, is the same file
when it is read from its own document, in whatever dialect: the same ids in the same order and
equal records. A record that was not read but made loses nothing but an empty id. -/
theorem decode_document :
    (∀ (dialect dialect' : Dialect) (n : Node) (f : CatalogueFile),
      decode dialect n = some f → decode dialect' f.document.node = some f) ∧
    ∀ (dialect : Dialect) (r : CatalogueRecord), r.Genuine →
      CatalogueRecord.decode dialect r.document.node
        = some { r with existingId := r.existingId.filter (· ≠ "") } :=
  ⟨fun dialect dialect' n f read => reads_document (yields_genuine dialect n f read) dialect',
    fun dialect _ genuine => CatalogueRecord.reads_document genuine dialect⟩

end CatalogueFile

namespace Drill

/-- A record with invariants of all kinds, the greatest amounts and an empty id. -/
def filing : CatalogueRecord where
  deploys := true
  totalValue := .greatest
  payload := some {
    title := "Raise the cap"
    commands := [{
      target := "core"
      value := .greatest
      method := "setCap"
      arguments := [.object [("cap", .nat 5), ("tags", .list [.null, .text "a"])]] }] }
  existingId := some ""
  affected := ["core"]
  expected := some []
  invariants := [
    .roleHeldBy "MINTER" ["core"] true,
    .balanceWithin "token" "core" .zero .greatest,
    .oracleWithin "oracle" .zero .greatest,
    .paused "core" false,
    .storageEquals "core" "cap" (.nat 5)]
  deployments := [{ name := "vault", artifact := "Vault", arguments := [.text "core"] }]

/-- The record is genuine. -/
theorem filing_genuine : filing.Genuine where
  payload := by
    rintro p ⟨⟩ c hc v hv
    obtain rfl := List.mem_singleton.1 hc
    obtain rfl := List.mem_singleton.1 hv
    have tags : ∀ v ∈ [Value.null, .text "a"], v.Genuine := by
      simp [Value.Genuine.null, Value.Genuine.text]
    refine .object (List.pairwise_pair.2 (by decide)) ?_
    simp [Value.nat, Value.Genuine.int, Value.Genuine.list tags]
  invariants := by
    intro i hi
    simp only [filing, List.mem_cons, List.not_mem_nil, or_false] at hi
    rcases hi with rfl | rfl | rfl | rfl | rfl
    case inr.inr.inr.inr => exact Value.Genuine.int 5
    all_goals trivial
  deployments := by
    intro s hs v hv
    obtain rfl := List.mem_singleton.1 hs
    obtain rfl := List.mem_singleton.1 hv
    exact .text "core"

/-- A file in which the record stands first and one with few fields second. -/
def sheet : Node := .map [
  (.text "fip_2", filing.document.node),
  (.text "fip_1", .map [
    (.text "category", .text "DAO"),
    (.text "deploy", .bool false),
    (.text "totalValue", .number (.int 42)),
    (.text "proposalId", .text "")])]

/-- What is read off that file. -/
def filed : CatalogueFile where
  toList := [
    ("fip_2", { filing with existingId := none }),
    ("fip_1", { deploys := false, totalValue := ⟨42, by decide⟩ })]

end Drill

namespace CatalogueFile

/-- A sheet is read and read back, and a record that is made by hand with an empty identifier comes
back without it. -/
theorem decode_document_drill :
    decode .json Drill.sheet = some Drill.filed ∧
      decode .json Drill.filed.document.node = some Drill.filed ∧
      Drill.filing.Genuine ∧
      CatalogueRecord.decode .json Drill.filing.document.node
        = some { Drill.filing with existingId := none } := by
  have read : decode .json Drill.sheet = some Drill.filed := by decide +kernel
  exact ⟨read, decode_document.1 .json .json _ _ read, Drill.filing_genuine,
    decode_document.2 .json _ Drill.filing_genuine⟩

end CatalogueFile
end Rollout
