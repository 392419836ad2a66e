/-
# Free values as documents

A value is *genuine* if every object inside it has its keys in ascending order, each once, and
every double inside it is finite (`Value.Genuine`, more than `Value.Ordered`). Every value that is
read off a node is of that kind, whatever the node (`Node.genuine_of_value?`), and a genuine value
is read back from the document that it is written as (`Value.Genuine.value?_node`).
-/

import Rollout.Proofs.Document.Reading
import Rollout.Proofs.Table.Overlay
import Rollout.Proofs.Value.Places

namespace Rollout

/-! ## Tables of lists -/

namespace Table

variable {κ α : Type} [Ord κ] [Std.TransOrd κ]

/-- Of what is put into a table, an entry is one of these or was there before. -/
theorem mem_of_mem_putAll {es : List (κ × α)} {t : Table κ α} {e : κ × α}
    (h : e ∈ (t.putAll es).entries) : e ∈ t.entries ∨ e ∈ es := by
  induction es generalizing t with
  | nil => exact .inl h
  | cons e' es ih =>
    rcases ih (t := t.insert e'.1 e'.2) h with he | he
    · rcases mem_insertIn he with rfl | he
      · exact .inr List.mem_cons_self
      · exact .inl he
    · exact .inr (List.mem_cons_of_mem _ he)

/-- The entries of a table are among those that it was made of. -/
theorem mem_of_mem_ofList {es : List (κ × α)} {e : κ × α} (h : e ∈ (ofList es).entries) :
    e ∈ es := by
  rcases mem_of_mem_putAll (t := empty) h with he | he
  · cases he
  · exact he

/-- The pairs of a table make up that table. -/
theorem ofList_entries [Std.LawfulEqOrd κ] [DecidableEq κ] (t : Table κ α) :
    ofList t.entries = t := by
  refine ext_find? fun k => ?_
  have laid := find?_putAll_of_perm empty t (List.Perm.refl t.entries) k
  rwa [find?_empty, Option.or_none] at laid

end Table

/-! ## Genuine values -/

namespace Value

/-- Objects in ascending order of their keys, and doubles finite. -/
inductive Genuine : Value → Prop
  | null : Genuine null
  | bool (b : Bool) : Genuine (bool b)
  | int (i : Int) : Genuine (number (.int i))
  | double {x : Double} (finite : x.isFinite = true) : Genuine (number (.double x))
  | text (s : String) : Genuine (text s)
  | list {items : List Value} (parts : ∀ v ∈ items, Genuine v) : Genuine (list items)
  | object {fields : List (String × Value)} (ascending : Ascending fields)
      (parts : ∀ e ∈ fields, Genuine e.2) : Genuine (object fields)

/-- The fields of a genuine value come in order. -/
theorem Genuine.ordered {v : Value} (h : v.Genuine) : v.Ordered := by
  induction h with
  | list _ ih => exact ordered_list_iff.2 ih
  | object ascending _ ih => exact ordered_object_iff.2 ⟨ascending, ih⟩
  | _ => trivial

/-- A number that is read is genuine. -/
theorem genuine_ofNumber (n : Number) : (ofNumber n).Genuine := by
  cases n with
  | int i => exact .int i
  | double x =>
    rw [ofNumber]
    split
    · next finite => exact .double finite
    · exact .null

/-- The pairs may repeat a key: the object made of them does not. -/
theorem genuine_ofFields {fields : List (String × Value)} (h : ∀ e ∈ fields, e.2.Genuine) :
    (ofFields fields).Genuine :=
  .object (Table.ofList fields).ascending fun e he => h e (Table.mem_of_mem_ofList he)

/-- Fields that come in order are the object as they are. -/
theorem ofFields_of_ascending {fields : List (String × Value)} (h : Ascending fields) :
    ofFields fields = object fields :=
  congrArg (fun t : Table String Value => object t.entries) (Table.ofList_entries ⟨fields, h⟩)

/-! ### Read back -/

/-- Items that are written are read back if each of them is. -/
theorem values?_nodes {vs : List Value} (h : ∀ v ∈ vs, v.document.node.value? = some v) :
    Node.values? (Document.nodes (documents vs)) = some vs := by
  induction vs with
  | nil => rfl
  | cons v vs ih =>
    have head := h v List.mem_cons_self
    have tail := ih fun w hw => h w (List.mem_cons_of_mem v hw)
    simp [documents, Document.nodes, Node.values?, head, tail]

/-- Fields that are written are read back if each of them is. -/
theorem fields?_nodes {es : List (String × Value)}
    (h : ∀ e ∈ es, e.2.document.node.value? = some e.2) :
    Node.fields? (Document.nodeEntries (entries es)) = some es := by
  induction es with
  | nil => rfl
  | cons e es ih =>
    obtain ⟨k, v⟩ := e
    have head := h (k, v) List.mem_cons_self
    have tail := ih fun e' he => h e' (List.mem_cons_of_mem _ he)
    simp only at head
    simp [entries, Document.nodeEntries, Node.fields?, Node.name?, Node.untagged, head, tail]

/-- **A genuine value is read back from its document.** -/
theorem Genuine.value?_node {v : Value} (h : v.Genuine) : v.document.node.value? = some v := by
  induction h with
  | double finite => simp [document, Document.node, Node.value?, ofNumber, finite]
  | list _ ih => rw [document, Document.node, Node.value?, values?_nodes ih, Option.map_some]
  | object ascending _ ih =>
    rw [document, Document.node, Node.value?, fields?_nodes ih, Option.map_some,
      ofFields_of_ascending ascending]
  | _ => rfl

/-- **A genuine value that is written is read back.** -/
theorem Genuine.reads {v : Value} (h : v.Genuine) : Decoder.Reads Decoder.value v.document v :=
  fun _ => h.value?_node

end Value

/-! ## What can be read -/

/-- The value of a primitive is genuine. -/
theorem Primitive.genuine_value (p : Primitive) : p.value.Genuine := by
  cases p with
  | null => exact .null
  | bool b => exact .bool b
  | number n => exact Value.genuine_ofNumber n
  | text s => exact .text s

namespace Node

mutual

/-- **What is read off a node is genuine**, be the node what it may. -/
theorem genuine_of_value? {n : Node} {v : Value} (h : n.value? = some v) : v.Genuine := by
  cases n with
  | null => cases h; exact .null
  | bool b => cases h; exact .bool b
  | number n => cases h; exact Value.genuine_ofNumber n
  | text s => cases h; exact .text s
  | scalar s =>
    obtain ⟨p, -, rfl⟩ := Option.map_eq_some_iff.1 h
    exact p.genuine_value
  | tagged tag n => cases h
  | list items =>
    obtain ⟨vs, hvs, rfl⟩ := Option.map_eq_some_iff.1 h
    exact .list (genuine_of_values? hvs)
  | map entries =>
    obtain ⟨es, hes, rfl⟩ := Option.map_eq_some_iff.1 h
    exact Value.genuine_ofFields (genuine_of_fields? hes)
  | void => cases h; exact .null
  | unreadable => cases h

/-- Items that are read as values are genuine. -/
theorem genuine_of_values? {ns : List Node} {vs : List Value} (h : values? ns = some vs) :
    ∀ v ∈ vs, v.Genuine := by
  cases ns with
  | nil =>
    cases h
    intro v hv
    cases hv
  | cons n ns =>
    simp only [values?, Option.bind_eq_bind, Option.bind_eq_some_iff, Option.pure_def,
      Option.some.injEq] at h
    obtain ⟨v, hv, rest, hrest, rfl⟩ := h
    intro w hw
    rcases List.mem_cons.1 hw with rfl | hw
    · exact genuine_of_value? hv
    · exact genuine_of_values? hrest w hw

/-- Fields that are read as values are genuine. -/
theorem genuine_of_fields? {es : List (Node × Node)} {fs : List (String × Value)}
    (h : fields? es = some fs) : ∀ f ∈ fs, f.2.Genuine := by
  cases es with
  | nil =>
    cases h
    intro f hf
    cases hf
  | cons e es =>
    obtain ⟨k, n⟩ := e
    simp only [fields?, Option.bind_eq_bind, Option.bind_eq_some_iff, Option.pure_def,
      Option.some.injEq] at h
    obtain ⟨key, -, v, hv, rest, hrest, rfl⟩ := h
    intro f hf
    rcases List.mem_cons.1 hf with rfl | hf
    · exact genuine_of_value? hv
    · exact genuine_of_fields? hrest f hf

end

end Node

/-- A value that is read is genuine. -/
theorem Decoder.yields_value : Decoder.Yields Decoder.value Value.Genuine :=
  fun _ _ _ h => Node.genuine_of_value? h

end Rollout
