/-
# Reading what was written

A document is *read as* a value if a decoder gives that value on it in every dialect
(`Decoder.Reads`). Documents have no scalars, tags or voids, so the dialects differ on them in
nothing that a writer of documents makes. One lemma for each form of decoder says when it reads
what is written in that form; the one for records, `Decoder.record_ofFields`, is the one with
content: if the keys are distinct, every field comes back in its place, and a field that was left
out comes back as missing.

The other direction, what a decoder can give at all, is `Decoder.Yields`.
-/

import Rollout.Document.Decoder

namespace Rollout

/-! ## Documents as nodes -/

namespace Document

/-- The nodes of documents, as a map of them. -/
theorem nodes_eq_map (ds : List Document) : nodes ds = ds.map node := by
  induction ds with
  | nil => rfl
  | cons d ds ih => rw [nodes, ih, List.map_cons]

/-- The nodes of entries, as a map of them. -/
theorem nodeEntries_eq_map (es : List (String × Document)) :
    nodeEntries es = es.map fun e => (Node.text e.1, e.2.node) := by
  induction es with
  | nil => rfl
  | cons e es ih =>
    obtain ⟨k, d⟩ := e
    rw [nodeEntries, ih, List.map_cons]

/-- The node of a list is the list of the nodes. -/
theorem node_list (ds : List Document) : (list ds).node = .list (ds.map node) := by
  rw [node, nodes_eq_map]

/-- The node of a map is the map of the nodes. -/
theorem node_map (es : List (String × Document)) :
    (map es).node = .map (es.map fun e => (Node.text e.1, e.2.node)) := by
  rw [node, nodeEntries_eq_map]

mutual

/-- Documents have nothing to settle. -/
theorem settle_node (d : Document) : d.node.settle = some d.node := by
  cases d with
  | list ds => rw [node, Node.settle, settleItems_nodes ds, Option.map_some]
  | map es => rw [node, Node.settle, settleEntries_nodes es, Option.map_some]
  | _ => rfl

/-- Items that were written are settled as they are. -/
theorem settleItems_nodes (ds : List Document) : Node.settleItems (nodes ds) = some (nodes ds) := by
  cases ds with
  | nil => rfl
  | cons d ds => simp [nodes, Node.settleItems, settle_node d, settleItems_nodes ds]

/-- Entries that were written are settled as they are. -/
theorem settleEntries_nodes (es : List (String × Document)) :
    Node.settleEntries (nodeEntries es) = some (nodeEntries es) := by
  cases es with
  | nil => rfl
  | cons e es =>
    obtain ⟨k, d⟩ := e
    simp [nodeEntries, Node.settleEntries, Node.settle, Node.settledKey, settle_node d,
      settleEntries_nodes es]

end

end Document

/-! ## Partial maps along a list -/

namespace Decoder

variable {α β : Type}

/-- Where every item is taken, the list of what they are taken for is had. -/
theorem mapM_eq_some_map {f : α → Option β} {g : α → β} {as : List α}
    (h : ∀ a ∈ as, f a = some (g a)) : as.mapM f = some (as.map g) := by
  induction as with
  | nil => rfl
  | cons a as ih =>
    have head := h a List.mem_cons_self
    have tail := ih fun b hb => h b (List.mem_cons_of_mem a hb)
    simp [List.mapM_cons, head, tail]

/-- What is in a list that was had of items was had of one of them. -/
theorem exists_of_mem_of_mapM {f : α → Option β} {as : List α} {bs : List β}
    (h : as.mapM f = some bs) : ∀ b ∈ bs, ∃ a ∈ as, f a = some b := by
  induction as generalizing bs with
  | nil =>
    obtain rfl : bs = [] := by simpa using h.symm
    simp
  | cons a as ih =>
    simp only [List.mapM_cons, Option.bind_eq_bind, Option.bind_eq_some_iff, Option.pure_def,
      Option.some.injEq] at h
    obtain ⟨b, hb, rest, hrest, rfl⟩ := h
    intro c hc
    rcases List.mem_cons.1 hc with rfl | hc
    · exact ⟨a, List.mem_cons_self, hb⟩
    · obtain ⟨a', mem, ha'⟩ := ih hrest c hc
      exact ⟨a', List.mem_cons_of_mem a mem, ha'⟩

/-! ## Documents read back -/

/-- The document is read as the value, whatever the dialect. -/
def Reads (dec : Decoder α) (d : Document) (a : α) : Prop :=
  ∀ dialect, dec dialect d.node = some a

variable {dec : Decoder α} {d : Document} {a : α}

/-- Text that is written is read back. -/
theorem reads_text (s : String) : Reads Decoder.text (.text s) s := fun _ => rfl

/-- A flag that is written is read back. -/
theorem reads_bool (b : Bool) : Reads Decoder.bool (.bool b) b := fun _ => rfl

/-- A name that is known is read as what it names. -/
theorem reads_name {all : List α} {of? : String → Option α} {s : String} (h : of? s = some a) :
    Reads (name all of?) (.text s) a := fun _ => h

/-- A settled decoder looks at a document as JSON. -/
theorem reads_settled (h : dec .json d.node = some a) : Reads (settled dec) d a := by
  intro dialect
  rw [settled, Document.settle_node]
  exact h

/-- A list is read back if its items are. -/
theorem reads_list {as : List α} (doc : α → Document) (h : ∀ a ∈ as, Reads dec (doc a) a) :
    Reads (list dec) (.list (as.map doc)) as := by
  intro dialect
  have items : as.mapM (fun a => dec dialect (doc a).node) = some (as.map id) :=
    mapM_eq_some_map fun a ha => h a ha dialect
  rw [list, Document.node_list]
  simpa [Node.untagged, List.mapM_map, Function.comp_def] using items

/-- A map whose keys are written as texts. -/
theorem reads_entriesBy {κ : Type} {key : Decoder κ} {es : List (κ × α)} (name : κ → String)
    (doc : α → Document) (hk : ∀ e ∈ es, Reads key (.text (name e.1)) e.1)
    (h : ∀ e ∈ es, Reads dec (doc e.2) e.2) :
    Reads (entriesBy key dec) (.map (es.map fun e => (name e.1, doc e.2))) es := by
  intro dialect
  have each : ∀ e ∈ es,
      (do return (← key dialect (.text (name e.1)), ← dec dialect (doc e.2).node))
        = some (id e) := by
    intro e he
    have name : key dialect (.text (name e.1)) = some e.1 := hk e he dialect
    rw [name, h e he dialect]
    rfl
  rw [entriesBy, Document.node_map]
  simpa [Node.untagged, List.mapM_map, Function.comp_def] using mapM_eq_some_map each

/-- A map is read back if its values are. -/
theorem reads_entries {es : List (String × α)} (doc : α → Document)
    (h : ∀ e ∈ es, Reads dec (doc e.2) e.2) :
    Reads (entries dec) (.map (es.map fun e => (e.1, doc e.2))) es :=
  reads_entriesBy id doc (fun e _ => reads_text e.1) h

/-- Null is read as an option without a value. -/
theorem reads_option_null : Reads (option dec) .null none := fun _ => rfl

/-- What is not null is read as an option with what it is read as. -/
theorem reads_option (h : Reads dec d a) (notNull : d ≠ .null) :
    Reads (option dec) d (some a) := by
  intro dialect
  have inner := h dialect
  cases d with
  | null => exact absurd rfl notNull
  | _ => exact congrArg (Option.map some) inner

/-! ## What decoders give -/

/-- Whatever the decoder gives has the property. -/
def Yields (dec : Decoder α) (P : α → Prop) : Prop :=
  ∀ dialect n a, dec dialect n = some a → P a

variable {P : α → Prop}

/-- What a decoder gives in lists has the property that it gives all. -/
theorem yields_list (h : Yields dec P) : Yields (list dec) fun as => ∀ a ∈ as, P a := by
  intro dialect n as read
  unfold list at read
  split at read
  · intro a ha
    obtain ⟨m, -, hm⟩ := exists_of_mem_of_mapM read a ha
    exact h dialect m a hm
  · split at read
    · cases read
      intro a ha
      cases ha
    · cases read

/-- What a decoder gives in maps has the property that it gives all. -/
theorem yields_entries (h : Yields dec P) : Yields (entries dec) fun es => ∀ e ∈ es, P e.2 := by
  intro dialect n es read
  unfold entries entriesBy at read
  split at read
  · intro e he
    obtain ⟨m, -, hm⟩ := exists_of_mem_of_mapM read e he
    simp only [Option.bind_eq_bind, Option.bind_eq_some_iff, Option.pure_def,
      Option.some.injEq] at hm
    obtain ⟨k, -, a, ha, rfl⟩ := hm
    exact h dialect m.2 a ha
  · split at read
    · cases read
      intro e he
      cases he
    · cases read

/-- What a decoder gives in options has the property that it gives all. -/
theorem yields_option (h : Yields dec P) : Yields (option dec) fun o => ∀ a, o = some a → P a := by
  rintro dialect n _ read a rfl
  unfold option at read
  split at read
  · cases read
  · cases read
  · split at read
    · cases read
    · split at read
      · split at read <;> cases read
      · obtain ⟨b, hb, e⟩ := Option.map_eq_some_iff.1 read
        cases e
        exact h dialect _ a hb
  · obtain ⟨b, hb, e⟩ := Option.map_eq_some_iff.1 read
    cases e
    exact h dialect _ a hb

/-- A required field that is read has the property that its decoder gives. -/
theorem of_required (h : Yields dec P) {dialect : Dialect} {field : Option Node}
    (read : required dec dialect field = some a) : P a := by
  cases field with
  | none => cases read
  | some n => exact h dialect n a read

/-- A field that may be missing has the property if what stands for it has. -/
theorem of_orElse (h : Yields dec P) {missing : α} (absent : P missing) {dialect : Dialect}
    {field : Option Node} (read : orElse missing dec dialect field = some a) : P a := by
  cases field with
  | none =>
    cases read
    exact absent
  | some n => exact h dialect n a read

/-- A list that is empty when it is missing. -/
theorem forall_of_orElse (h : Yields dec P) {dialect : Dialect} {field : Option Node}
    {as : List α} (read : orElse [] (list dec) dialect field = some as) : ∀ a ∈ as, P a :=
  of_orElse (P := fun as => ∀ a ∈ as, P a) (yields_list h) (by simp) read

/-! ## Records -/

/-- With one spelling for each field, a key means the place at which it stands among the keys. -/
theorem findIdx?_spelling {keys : List String} (distinct : keys.Nodup) {k : String} {i : Nat}
    (hi : i < keys.length) :
    (keys.map ([·])).findIdx? (·.contains k) = some i ↔ k = keys[i] := by
  have whole : (keys.map ([·])).findIdx? (·.contains k) = keys.findIdx? (k == ·) := by
    rw [List.findIdx?_map]
    congr 1
    funext s
    rw [Bool.eq_iff_iff]
    simp
  rw [whole, List.findIdx?_eq_some_iff_getElem]
  constructor
  · rintro ⟨_, found, -⟩
    exact eq_of_beq found
  · rintro rfl
    refine ⟨hi, beq_self_eq_true _, fun j hj found => ?_⟩
    have : i = j := (List.getElem_inj distinct).1 (eq_of_beq found)
    omega

/-- The fields that are there, with their keys. -/
def present (fs : List (String × Option Document)) : List (String × Document) :=
  fs.filterMap fun f => f.2.map (f.1, ·)

/-- The first field is present if it has a document, and then come the others. -/
theorem present_cons (f : String × Option Document) (fs : List (String × Option Document)) :
    present (f :: fs) = (f.2.map (f.1, ·)).toList ++ present fs := by
  cases h : f.2 <;> simp [present, h]

/-- The keys of fields that are present are among the keys. -/
theorem key_mem_of_mem_present {fs : List (String × Option Document)} {e : String × Document}
    (h : e ∈ present fs) : e.1 ∈ fs.map (·.1) := by
  obtain ⟨f, hf, he⟩ := List.mem_filterMap.1 h
  obtain ⟨d, -, rfl⟩ := Option.map_eq_some_iff.1 he
  exact List.mem_map_of_mem hf

/-- If the keys are distinct, what stands under the key of a field is that field, if anything. -/
theorem filter_present {fs : List (String × Option Document)} (distinct : (fs.map (·.1)).Nodup)
    {f : String × Option Document} (hf : f ∈ fs) :
    (present fs).filter (fun e => e.1 = f.1) = (f.2.map (f.1, ·)).toList := by
  induction fs with
  | nil => cases hf
  | cons g fs ih =>
    rw [List.map_cons, List.nodup_cons] at distinct
    rw [present_cons, List.filter_append]
    -- Either it is the first field, and no later one has its key, or the first has another key.
    rcases List.mem_cons.1 hf with rfl | hf
    · have own : ((f.2.map (f.1, ·)).toList).filter (fun e => e.1 = f.1)
          = (f.2.map (f.1, ·)).toList := by cases f.2 <;> simp
      have rest : (present fs).filter (fun e => e.1 = f.1) = [] := by
        rw [List.filter_eq_nil_iff]
        intro e he same
        exact distinct.1 (of_decide_eq_true same ▸ key_mem_of_mem_present he)
      rw [own, rest, List.append_nil]
    · have other : g.1 ≠ f.1 := fun same => distinct.1 (same ▸ List.mem_map_of_mem hf)
      have head : ((g.2.map (g.1, ·)).toList).filter (fun e => e.1 = f.1) = [] := by
        cases g.2 <;> simp [other]
      rw [head, ih distinct.2 hf, List.nil_append]

/-- A field with the place that its key means, as a record keeps it. -/
def placed (keys : List String) (e : String × Document) : Option Nat × Node :=
  ((keys.map ([·])).findIdx? (·.contains e.1), e.2.node)

/-- At the place of a field stands that field, if anything. -/
theorem only?_present {fs : List (String × Option Document)} (distinct : (fs.map (·.1)).Nodup)
    {i : Nat} (hi : i < fs.length) :
    Fields.only? ((present fs).map (placed (fs.map (·.1)))) i
      = some (fs[i].2.map Document.node) := by
  have means (e : String × Document) :
      ((placed (fs.map (·.1)) e).1 == some i) = decide (e.1 = fs[i].1) := by
    have place := findIdx?_spelling distinct (k := e.1) (i := i) (by simpa using hi)
    rw [Bool.eq_iff_iff, beq_iff_eq, decide_eq_true_iff]
    simpa [placed] using place
  have under : ((present fs).map (placed (fs.map (·.1)))).filter (·.1 == some i)
      = ((fs[i].2.map (fs[i].1, ·)).toList).map (placed (fs.map (·.1))) := by
    rw [List.filter_map, ← filter_present distinct (List.getElem_mem hi)]
    congr 1
    exact List.filter_congr fun e _ => means e
  rw [Fields.only?, under]
  cases fs[i].2 <;> rfl

/-- What is written has a key in every entry, whatever place the key means. -/
theorem mapM_place? (spellings : List (List String)) (es : List (String × Document)) :
    (es.map fun e => (Node.text e.1, e.2.node)).mapM
      (fun e => (Fields.place? spellings e.1).map (·, e.2))
      = some (es.map fun e => (spellings.findIdx? (·.contains e.1), e.2.node)) := by
  rw [List.mapM_map]
  exact mapM_eq_some_map fun e _ => rfl

/-- Every field that is present is found at its place. -/
theorem mapM_place?_present (keys : List String) (fs : List (String × Option Document)) :
    ((present fs).map fun e => (Node.text e.1, e.2.node)).mapM
      (fun e => (Fields.place? (keys.map ([·])) e.1).map (·, e.2))
      = some ((present fs).map (placed keys)) :=
  mapM_place? (keys.map ([·])) (present fs)

/-- Every place has the field that is present there, and no other. -/
theorem mapM_only?_present {fs : List (String × Option Document)}
    (distinct : (fs.map (·.1)).Nodup) :
    (List.range fs.length).mapM (Fields.only? ((present fs).map (placed (fs.map (·.1)))))
      = some (fs.map fun f => f.2.map Document.node) := by
  have each : ∀ i ∈ List.range fs.length,
      Fields.only? ((present fs).map (placed (fs.map (·.1)))) i
        = some ((fs[i]?.bind (·.2)).map Document.node) := by
    intro i hi
    have hi := List.mem_range.1 hi
    rw [only?_present distinct hi, List.getElem?_eq_getElem hi, Option.bind_some]
  rw [mapM_eq_some_map each]
  congr 1
  refine List.ext_getElem (by simp) fun i _ hi => ?_
  rw [List.length_map] at hi
  simp [hi]

/-- **A record reads back as its fields.** With distinct keys every field that is there comes back
in its place, and one that was left out comes back as missing. -/
theorem record_ofFields {keys : List String} {fs : List (String × Option Document)}
    (names : fs.map (·.1) = keys) (distinct : keys.Nodup) (dialect : Dialect) :
    record keys dialect (Document.ofFields fs).node
      = some (fs.map fun f => f.2.map Document.node) := by
  subst names
  have shape : (Document.ofFields fs).node
      = .map ((present fs).map fun e => (Node.text e.1, e.2.node)) := Document.node_map _
  simp only [record, Fields.of?, shape, Node.untagged, mapM_place?_present, Option.bind_eq_bind,
    Option.bind_some, List.length_map, mapM_only?_present distinct]

/-- The same where no field is left out. -/
theorem record_map {keys : List String} {es : List (String × Document)}
    (names : es.map (·.1) = keys) (distinct : keys.Nodup) (dialect : Dialect) :
    record keys dialect (Document.map es).node = some (es.map fun e => some e.2.node) := by
  have all : Document.ofFields (es.map fun e => (e.1, some e.2)) = .map es := by
    rw [Document.ofFields, List.filterMap_map]
    exact congrArg Document.map List.filterMap_some
  have names' : (es.map fun e => (e.1, some e.2)).map (·.1) = keys := by
    rw [List.map_map]
    exact names
  rw [← all, record_ofFields names' distinct, List.map_map]
  rfl

/-- A field may have other spellings: as long as none of them is used, they make no difference. -/
theorem of?_map_eq_record {spellings : List (List String)} {keys : List String}
    (length : spellings.length = keys.length) {es : List (String × Document)}
    (places : ∀ e ∈ es, spellings.findIdx? (·.contains e.1)
      = (keys.map ([·])).findIdx? (·.contains e.1)) (dialect : Dialect) :
    Fields.of? spellings dialect (Document.map es).node
      = record keys dialect (Document.map es).node := by
  have same : (es.map fun e => (spellings.findIdx? (·.contains e.1), e.2.node))
      = es.map fun e => ((keys.map ([·])).findIdx? (·.contains e.1), e.2.node) :=
    List.map_congr_left fun e he => by rw [places e he]
  simp only [record, Fields.of?, Document.node_map, Node.untagged, mapM_place?, same,
    List.length_map, length]

end Decoder
end Rollout
