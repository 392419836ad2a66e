/-
# Places inside a value

A place inside a value is a list of steps, each into an item of a list by its number or into a
field of an object by its key (`Value.inside?`). In depth-first order the earlier of two places is
the one that, where they part, goes into the item of the smaller number or the field of the lesser
key (`Value.Precedes`).

`Value.texts` lists the texts inside a value, each with its place, by the items and fields as they
are listed. If all objects have their keys in ascending order, it has every text that stands
somewhere (`Value.mem_texts_iff`), in depth-first order (`Value.pairwise_texts`).

`Value.mapText` changes the texts inside a value and nothing else: which kinds of values stand
where, and under which keys, is as before.
-/

import Rollout.Value
import Mathlib.Data.List.Lex

namespace Rollout
namespace Value

/-- A step into a list or into an object. -/
inductive Step
  | item (index : Nat)
  | field (key : String)
deriving DecidableEq

namespace Step

/-- One step goes into an earlier part of a list or an object than another. -/
inductive Before : Step → Step → Prop
  | item {i j : Nat} (h : i < j) : Before (item i) (item j)
  | field {k l : String} (h : k < l) : Before (field k) (field l)

/-- Of two steps only one comes before the other. -/
theorem Before.asymm {s t : Step} (h : Before s t) : ¬ Before t s := by
  cases h with
  | item h =>
    rintro ⟨h'⟩
    exact Nat.lt_asymm h ‹_›
  | field h =>
    rintro ⟨h'⟩
    exact String.lt_asymm h ‹_›

instance : Std.Asymm Before := ⟨fun _ _ h => h.asymm⟩

end Step

/-- One place comes before another in depth-first order. -/
def Precedes (p q : List Step) : Prop := List.Lex Step.Before p q

/-- Of two places only one comes before the other. -/
theorem Precedes.asymm {p q : List Step} (h : Precedes p q) : ¬ Precedes q p :=
  (List.Lex.asymm Step.Before).asymm p q h

/-! ## Induction over a value -/

mutual

/-- What is true of a list or an object if it is true of what is in it, and true of all other
values, is true of every value. -/
@[elab_as_elim]
theorem induction_members {P : Value → Prop} (null : P null) (bool : ∀ b, P (bool b))
    (number : ∀ n, P (number n)) (text : ∀ t, P (text t))
    (list : ∀ items, (∀ v ∈ items, P v) → P (list items))
    (object : ∀ fields, (∀ e ∈ fields, P e.2) → P (object fields)) (v : Value) : P v :=
  match v with
  | .null => null
  | .bool b => bool b
  | .number n => number n
  | .text t => text t
  | .list items => list items (induction_items null bool number text list object items)
  | .object fields => object fields (induction_fields null bool number text list object fields)

/-- What values have by induction, all items have. -/
theorem induction_items {P : Value → Prop} (null : P null) (bool : ∀ b, P (bool b))
    (number : ∀ n, P (number n)) (text : ∀ t, P (text t))
    (list : ∀ items, (∀ v ∈ items, P v) → P (list items))
    (object : ∀ fields, (∀ e ∈ fields, P e.2) → P (object fields)) (items : List Value) :
    ∀ v ∈ items, P v :=
  match items with
  | [] => List.forall_mem_nil _
  | v :: items => List.forall_mem_cons.2
    ⟨induction_members null bool number text list object v,
      induction_items null bool number text list object items⟩

/-- What values have by induction, the values of all fields have. -/
theorem induction_fields {P : Value → Prop} (null : P null) (bool : ∀ b, P (bool b))
    (number : ∀ n, P (number n)) (text : ∀ t, P (text t))
    (list : ∀ items, (∀ v ∈ items, P v) → P (list items))
    (object : ∀ fields, (∀ e ∈ fields, P e.2) → P (object fields))
    (fields : List (String × Value)) : ∀ e ∈ fields, P e.2 :=
  match fields with
  | [] => List.forall_mem_nil _
  | (_, v) :: fields => List.forall_mem_cons.2
    ⟨induction_members null bool number text list object v,
      induction_fields null bool number text list object fields⟩

end

/-! ## Objects in order -/

/-- A list is ordered if its items are. -/
theorem ordered_list_iff {items : List Value} :
    (list items).Ordered ↔ ∀ v ∈ items, v.Ordered := by
  rw [Ordered]
  induction items with
  | nil => simp [OrderedList]
  | cons v items ih => rw [OrderedList, ih, List.forall_mem_cons]

/-- Fields are ordered if their values are. -/
theorem orderedFields_iff {fields : List (String × Value)} :
    OrderedFields fields ↔ ∀ e ∈ fields, e.2.Ordered := by
  induction fields with
  | nil => simp [OrderedFields]
  | cons e fields ih => rw [OrderedFields, ih, List.forall_mem_cons]

/-- An object is ordered if its fields ascend and their values are ordered. -/
theorem ordered_object_iff {fields : List (String × Value)} :
    (object fields).Ordered ↔ Ascending fields ∧ ∀ e ∈ fields, e.2.Ordered := by
  rw [Ordered, orderedFields_iff]

/-! ## Places -/

/-- The value that a step leads to. -/
def child? (v : Value) : Step → Option Value
  | .item i =>
    match v with
    | list items => items[i]?
    | _ => none
  | .field k => v.field? k

/-- The value at a place. -/
def inside? (v : Value) : List Step → Option Value
  | [] => some v
  | s :: p => (v.child? s).bind (inside? · p)

/-- Inside a value by one step more is inside what is there by the first step. -/
theorem inside?_cons_eq_some_iff {v w : Value} {s : Step} {p : List Step} :
    v.inside? (s :: p) = some w ↔ ∃ u, v.child? s = some u ∧ u.inside? p = some w :=
  Option.bind_eq_some_iff

/-! ## Texts -/

/-- What is listed of a part of a value, seen from the whole. -/
def beneath (s : Step) (x : List Step × String) : List Step × String := (s :: x.1, x.2)

mutual

/-- The texts inside a value with their places. -/
def texts : Value → List (List Step × String)
  | text t => [([], t)]
  | list items => textsOfItems 0 items
  | object fields => textsOfFields fields
  | _ => []

/-- The same of items of which the first has a given number. -/
def textsOfItems (first : Nat) : List Value → List (List Step × String)
  | [] => []
  | v :: items => (texts v).map (beneath (.item first)) ++ textsOfItems (first + 1) items

/-- The same of fields. -/
def textsOfFields : List (String × Value) → List (List Step × String)
  | [] => []
  | (k, v) :: fields => (texts v).map (beneath (.field k)) ++ textsOfFields fields

end

/-- A text beneath a step stands at a place that begins with it. -/
theorem mem_map_beneath_iff {s : Step} {xs : List (List Step × String)} {p : List Step}
    {t : String} : (p, t) ∈ xs.map (beneath s) ↔ ∃ q, p = s :: q ∧ (q, t) ∈ xs := by
  rw [List.mem_map]
  constructor
  · rintro ⟨⟨q, t⟩, mem, ⟨⟩⟩
    exact ⟨q, rfl, mem⟩
  · rintro ⟨q, rfl, mem⟩
    exact ⟨(q, t), mem, rfl⟩

/-- A text of items stands in one of them, at the place of that item. -/
theorem mem_textsOfItems_iff {first : Nat} {items : List Value} {p : List Step} {t : String} :
    (p, t) ∈ textsOfItems first items ↔
      ∃ i v q, items[i]? = some v ∧ p = .item (first + i) :: q ∧ (q, t) ∈ v.texts := by
  induction items generalizing first with
  | nil => simp [textsOfItems]
  | cons v items ih =>
    rw [textsOfItems, List.mem_append, mem_map_beneath_iff, ih]
    constructor
    · rintro (⟨q, rfl, mem⟩ | ⟨i, w, q, found, rfl, mem⟩)
      · exact ⟨0, v, q, rfl, rfl, mem⟩
      · exact ⟨i + 1, w, q, found, by rw [Nat.add_right_comm, Nat.add_assoc], mem⟩
    · rintro ⟨i, w, q, found, rfl, mem⟩
      cases i with
      | zero =>
        cases found
        exact .inl ⟨q, rfl, mem⟩
      | succ i => exact .inr ⟨i, w, q, found, by rw [Nat.add_right_comm, Nat.add_assoc], mem⟩

/-- A text of fields stands in one of them, at the place of that field. -/
theorem mem_textsOfFields_iff {fields : List (String × Value)} {p : List Step} {t : String} :
    (p, t) ∈ textsOfFields fields ↔
      ∃ k v q, (k, v) ∈ fields ∧ p = .field k :: q ∧ (q, t) ∈ v.texts := by
  induction fields with
  | nil => simp [textsOfFields]
  | cons e fields ih =>
    obtain ⟨k, v⟩ := e
    rw [textsOfFields, List.mem_append, mem_map_beneath_iff, ih]
    constructor
    · rintro (⟨q, rfl, mem⟩ | ⟨l, w, q, field, rfl, mem⟩)
      · exact ⟨k, v, q, List.mem_cons_self, rfl, mem⟩
      · exact ⟨l, w, q, List.mem_cons_of_mem _ field, rfl, mem⟩
    · rintro ⟨l, w, q, field, rfl, mem⟩
      rcases List.mem_cons.1 field with here | field
      · cases here
        exact .inl ⟨q, rfl, mem⟩
      · exact .inr ⟨l, w, q, field, rfl, mem⟩

/-- **The texts that are listed are those that stand at the places.** -/
theorem mem_texts_iff {v : Value} (h : v.Ordered) {p : List Step} {t : String} :
    (p, t) ∈ v.texts ↔ v.inside? p = some (text t) := by
  induction v using induction_members generalizing p with
  | null | bool | number =>
    cases p with
    | nil => simp [texts, inside?]
    | cons s p => cases s <;> simp [texts, inside?, child?, field?]
  | text u =>
    cases p with
    | nil => simp [texts, inside?, eq_comm]
    | cons s p => cases s <;> simp [texts, inside?, child?, field?]
  | list items ih =>
    have ordered := ordered_list_iff.1 h
    rw [texts, mem_textsOfItems_iff]
    constructor
    · rintro ⟨i, v, q, found, rfl, mem⟩
      have member := List.mem_of_getElem? found
      rw [Nat.zero_add, inside?_cons_eq_some_iff]
      exact ⟨v, found, (ih v member (ordered v member)).1 mem⟩
    · intro stands
      cases p with
      | nil => simp [inside?] at stands
      | cons s q =>
        obtain ⟨v, found, there⟩ := inside?_cons_eq_some_iff.1 stands
        cases s with
        | field k => cases found
        | item i =>
          have member := List.mem_of_getElem? found
          exact ⟨i, v, q, found, by rw [Nat.zero_add], (ih v member (ordered v member)).2 there⟩
  | object fields ih =>
    obtain ⟨ascending, ordered⟩ := ordered_object_iff.1 h
    -- In ascending order no key stands twice, so the field found is the field that is meant.
    have found_iff (k : String) (v : Value) :
        (k, v) ∈ fields ↔ (object fields).child? (.field k) = some v :=
      (⟨fields, ascending⟩ : Table String Value).mem_entries_iff
    rw [texts, mem_textsOfFields_iff]
    constructor
    · rintro ⟨k, v, q, field, rfl, mem⟩
      rw [inside?_cons_eq_some_iff]
      exact ⟨v, (found_iff k v).1 field, (ih _ field (ordered _ field)).1 mem⟩
    · intro stands
      cases p with
      | nil => simp [inside?] at stands
      | cons s q =>
        obtain ⟨v, found, there⟩ := inside?_cons_eq_some_iff.1 stands
        cases s with
        | item i => cases found
        | field k =>
          have field := (found_iff k v).2 found
          exact ⟨k, v, q, field, rfl, (ih _ field (ordered _ field)).2 there⟩

/-! ### In order -/

/-- Beneath a step, places come in the order that they had. -/
theorem pairwise_map_beneath {s : Step} {xs : List (List Step × String)}
    (h : xs.Pairwise fun x y => Precedes x.1 y.1) :
    (xs.map (beneath s)).Pairwise fun x y => Precedes x.1 y.1 :=
  List.pairwise_map.2 (h.imp fun before => List.Lex.cons before)

/-- The texts of items come in the order of their places. -/
theorem pairwise_textsOfItems {items : List Value}
    (h : ∀ v ∈ items, v.texts.Pairwise fun x y => Precedes x.1 y.1) (first : Nat) :
    (textsOfItems first items).Pairwise fun x y => Precedes x.1 y.1 := by
  induction items generalizing first with
  | nil => exact .nil
  | cons v items ih =>
    obtain ⟨here, there⟩ := List.forall_mem_cons.1 h
    refine List.pairwise_append.2 ⟨pairwise_map_beneath here, ih there _, ?_⟩
    rintro ⟨p, t⟩ mem ⟨p', t'⟩ mem'
    obtain ⟨q, rfl, -⟩ := mem_map_beneath_iff.1 mem
    obtain ⟨i, -, q', -, rfl, -⟩ := mem_textsOfItems_iff.1 mem'
    exact .rel (.item (by omega))

/-- The texts of fields come in the order of their places, if the fields ascend. -/
theorem pairwise_textsOfFields {fields : List (String × Value)} (ascending : Ascending fields)
    (h : ∀ e ∈ fields, e.2.texts.Pairwise fun x y => Precedes x.1 y.1) :
    (textsOfFields fields).Pairwise fun x y => Precedes x.1 y.1 := by
  induction fields with
  | nil => exact .nil
  | cons e fields ih =>
    obtain ⟨k, v⟩ := e
    obtain ⟨here, there⟩ := List.forall_mem_cons.1 h
    obtain ⟨least, ascending⟩ := List.pairwise_cons.1 ascending
    refine List.pairwise_append.2 ⟨pairwise_map_beneath here, ih ascending there, ?_⟩
    rintro ⟨p, t⟩ mem ⟨p', t'⟩ mem'
    obtain ⟨q, rfl, -⟩ := mem_map_beneath_iff.1 mem
    obtain ⟨l, w, q', field, rfl, -⟩ := mem_textsOfFields_iff.1 mem'
    exact .rel (.field (compareOfLessAndEq_eq_lt.1 (least _ field)))

/-- **The texts are listed in depth-first order.** -/
theorem pairwise_texts {v : Value} (h : v.Ordered) :
    v.texts.Pairwise fun x y => Precedes x.1 y.1 := by
  induction v using induction_members with
  | null | bool | number => exact .nil
  | text t => exact List.pairwise_singleton ..
  | list items ih =>
    have ordered := ordered_list_iff.1 h
    exact pairwise_textsOfItems (fun v hv => ih v hv (ordered v hv)) 0
  | object fields ih =>
    obtain ⟨ascending, ordered⟩ := ordered_object_iff.1 h
    exact pairwise_textsOfFields ascending fun e he => ih e he (ordered e he)

/-- What is listed before a text is what stands at the earlier places. -/
theorem mem_before_iff {v : Value} (h : v.Ordered) {before after : List (List Step × String)}
    {p q : List Step} {t u : String} (split : v.texts = before ++ (p, t) :: after) :
    (q, u) ∈ before ↔ Precedes q p ∧ v.inside? q = some (text u) := by
  have ordered := pairwise_texts h
  rw [split, List.pairwise_append, List.pairwise_cons] at ordered
  obtain ⟨-, ⟨later, -⟩, earlier⟩ := ordered
  rw [← mem_texts_iff h, split, List.mem_append, List.mem_cons]
  constructor
  · exact fun mem => ⟨earlier _ mem _ List.mem_cons_self, .inl mem⟩
  · rintro ⟨first, mem | same | mem⟩
    · exact mem
    · cases same
      exact absurd first first.asymm
    · exact absurd first (later _ mem).asymm

/-! ## Other texts in the same places -/

mutual

/-- The value with its texts changed. -/
def mapText (f : String → String) : Value → Value
  | text t => text (f t)
  | list items => list (mapItems f items)
  | object fields => object (mapFields f fields)
  | v => v

/-- The same of items. -/
def mapItems (f : String → String) : List Value → List Value
  | [] => []
  | v :: items => mapText f v :: mapItems f items

/-- The same of fields. -/
def mapFields (f : String → String) : List (String × Value) → List (String × Value)
  | [] => []
  | (k, v) :: fields => (k, mapText f v) :: mapFields f fields

end

variable {f : String → String}

/-- Changing the texts of items is changing them one by one. -/
theorem mapItems_eq_map (items : List Value) : mapItems f items = items.map (mapText f) := by
  induction items with
  | nil => rfl
  | cons v items ih => rw [mapItems, ih, List.map_cons]

/-- Changing the texts of fields is changing them one by one. -/
theorem mapFields_eq_map (fields : List (String × Value)) :
    mapFields f fields = fields.map fun e => (e.1, mapText f e.2) := by
  induction fields with
  | nil => rfl
  | cons e fields ih => rw [mapFields, ih, List.map_cons]

/-- Changing texts keeps a value ordered. -/
theorem ordered_mapText {v : Value} (h : v.Ordered) : (v.mapText f).Ordered := by
  induction v using induction_members with
  | null | bool | number | text => trivial
  | list items ih =>
    rw [mapText, mapItems_eq_map, ordered_list_iff, List.forall_mem_map]
    exact fun v hv => ih v hv (ordered_list_iff.1 h v hv)
  | object fields ih =>
    obtain ⟨ascending, ordered⟩ := ordered_object_iff.1 h
    rw [mapText, mapFields_eq_map, ordered_object_iff, List.forall_mem_map]
    exact ⟨Table.ascending_map (fun _ => mapText f) ascending,
      fun e he => ih e he (ordered e he)⟩

/-! ### What is listed then -/

/-- A text that is listed, changed at its place. -/
def changed (f : String → String) (x : List Step × String) : List Step × String := (x.1, f x.2)

/-- Changing texts has no part in where they stand. -/
theorem map_beneath_map_changed (s : Step) (xs : List (List Step × String)) :
    (xs.map (changed f)).map (beneath s) = (xs.map (beneath s)).map (changed f) := by
  rw [List.map_map, List.map_map]
  rfl

/-- The texts of changed items are their texts, changed. -/
theorem textsOfItems_mapItems {items : List Value}
    (h : ∀ v ∈ items, (v.mapText f).texts = v.texts.map (changed f)) (first : Nat) :
    textsOfItems first (mapItems f items) = (textsOfItems first items).map (changed f) := by
  induction items generalizing first with
  | nil => rfl
  | cons v items ih =>
    obtain ⟨here, there⟩ := List.forall_mem_cons.1 h
    rw [mapItems, textsOfItems, textsOfItems, List.map_append, here, map_beneath_map_changed,
      ih there]

/-- The texts of changed fields are their texts, changed. -/
theorem textsOfFields_mapFields {fields : List (String × Value)}
    (h : ∀ e ∈ fields, (e.2.mapText f).texts = e.2.texts.map (changed f)) :
    textsOfFields (mapFields f fields) = (textsOfFields fields).map (changed f) := by
  induction fields with
  | nil => rfl
  | cons e fields ih =>
    obtain ⟨k, v⟩ := e
    obtain ⟨here, there⟩ := List.forall_mem_cons.1 h
    rw [mapFields, textsOfFields, textsOfFields, List.map_append, here, map_beneath_map_changed,
      ih there]

/-- **The texts stand where they stood before.** -/
theorem texts_mapText (v : Value) : (v.mapText f).texts = v.texts.map (changed f) := by
  induction v using induction_members with
  | null | bool | number | text => rfl
  | list items ih => exact textsOfItems_mapItems ih 0
  | object fields ih => exact textsOfFields_mapFields ih

/-- Items are not changed if none of their texts is. -/
theorem mapItems_eq_self {items : List Value} {first : Nat}
    (h : ∀ v ∈ items, (∀ x ∈ v.texts, f x.2 = x.2) → v.mapText f = v)
    (kept : ∀ x ∈ textsOfItems first items, f x.2 = x.2) : mapItems f items = items := by
  induction items generalizing first with
  | nil => rfl
  | cons v items ih =>
    obtain ⟨here, there⟩ := List.forall_mem_cons.1 h
    obtain ⟨keptHere, keptThere⟩ := List.forall_mem_append.1 kept
    rw [mapItems, here (List.forall_mem_map.1 keptHere), ih there keptThere]

/-- Fields are not changed if none of their texts is. -/
theorem mapFields_eq_self {fields : List (String × Value)}
    (h : ∀ e ∈ fields, (∀ x ∈ e.2.texts, f x.2 = x.2) → e.2.mapText f = e.2)
    (kept : ∀ x ∈ textsOfFields fields, f x.2 = x.2) : mapFields f fields = fields := by
  induction fields with
  | nil => rfl
  | cons e fields ih =>
    obtain ⟨k, v⟩ := e
    obtain ⟨here, there⟩ := List.forall_mem_cons.1 h
    obtain ⟨keptHere, keptThere⟩ := List.forall_mem_append.1 kept
    rw [mapFields, here (List.forall_mem_map.1 keptHere), ih there keptThere]

/-- Where every text is kept, so is the value. -/
theorem mapText_eq_self {v : Value} (kept : ∀ x ∈ v.texts, f x.2 = x.2) : v.mapText f = v := by
  induction v using induction_members with
  | null | bool | number => rfl
  | text t => exact congrArg text (kept ([], t) List.mem_cons_self)
  | list items ih => exact congrArg list (mapItems_eq_self ih kept)
  | object fields ih => exact congrArg object (mapFields_eq_self ih kept)

end Value
end Rollout
