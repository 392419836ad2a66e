/-
# Addresses in place of placeholders

`Template.resolve` reads every text inside a value by itself (`Template.substitute`): a placeholder
as the address of a live resource, which fails where there is none, and every other text as it is.
The value as a whole is then

| texts inside | outcome |
| --- | --- |
| all can be read | the value with those texts in the same places |
| some cannot | the error of the first of them |

(`Template.resolve_eq`). What this says of the placeholders inside is `Template.Resolution`.
-/

import Rollout.Proofs.Registry.Entries
import Rollout.Proofs.Template.Placeholders
import Rollout.Proofs.Value.Places

namespace Rollout

/-! ## A letter to two addressees -/

namespace Drill

/-- A registry of two resources. -/
def house : Snapshot :=
  .ofHandles [{ name := "core", address := .ofNat 1 }, { name := "fei", address := .ofNat 2 }]

/-- Placeholders for both, one of them inside a list. -/
def letter : Value :=
  .object [
    ("path", .list [.text "\x7bcore\x7d", .text "literal", .nat 3]),
    ("token", .text "\x7bfei\x7d")]

/-- The letter with addresses. -/
def addressed : Value :=
  .object [
    ("path", .list [(Address.ofNat 1).toValue, .text "literal", .nat 3]),
    ("token", (Address.ofNat 2).toValue)]

end Drill

namespace Template

variable {s : Snapshot} {v w : Value} {t n : String}

/-! ## One text -/

/-- What a text is read as. -/
def substitute (s : Snapshot) (t : String) : Except LookupError String :=
  match placeholder? t with
  | some n => (s.address n).map Address.text
  | none => .ok t

/-- What is put in place of a text, the text itself where it cannot be read. -/
def filled (s : Snapshot) (t : String) : String := (substitute s t).toOption.getD t

/-- The error of a text that cannot be read. -/
def failure? (s : Snapshot) (t : String) : Option LookupError :=
  match substitute s t with
  | .ok _ => none
  | .error e => some e

/-- A placeholder of a live name is substituted by its address. -/
theorem substitute_of_live {h : Handle} (ph : Placeholder t n) (live : s.get n = .ok h) :
    substitute s t = .ok h.address.text := by
  rw [substitute, placeholder?_eq_some_iff.2 ph]
  simp only [Snapshot.address, live]
  rfl

/-- A placeholder of any other name fails with the error of its lookup. -/
theorem substitute_of_dead {e : LookupError} (ph : Placeholder t n) (dead : s.get n = .error e) :
    substitute s t = .error e := by
  rw [substitute, placeholder?_eq_some_iff.2 ph]
  simp only [Snapshot.address, dead]
  rfl

/-- Text that is no placeholder is left as it is. -/
theorem substitute_of_not_placeholder (h : ∀ n, ¬ Placeholder t n) : substitute s t = .ok t := by
  rw [substitute, placeholder?_eq_none_iff.2 h]

/-- What can be wrong with a text is that it is a placeholder for a name that is not live. -/
theorem failure?_eq_some_iff {e : LookupError} :
    failure? s t = some e ↔ ∃ n, Placeholder t n ∧ s.get n = .error e := by
  constructor
  · intro fails
    cases found : placeholder? t with
    | none =>
      rw [failure?, substitute_of_not_placeholder (placeholder?_eq_none_iff.1 found)] at fails
      cases fails
    | some n =>
      have ph := placeholder?_eq_some_iff.1 found
      cases got : s.get n with
      | ok h =>
        rw [failure?, substitute_of_live ph got] at fails
        cases fails
      | error e' =>
        rw [failure?, substitute_of_dead ph got] at fails
        cases fails
        exact ⟨n, ph, got⟩
  · rintro ⟨n, ph, dead⟩
    rw [failure?, substitute_of_dead ph dead]

/-- Text does not fail exactly if it is no placeholder, or one of a live name. -/
theorem failure?_eq_none_iff :
    failure? s t = none ↔ ∀ n, Placeholder t n → s.isLive n = true := by
  simp only [Option.eq_none_iff_forall_ne_some, ne_eq, failure?_eq_some_iff, Snapshot.isLive_iff]
  constructor
  · intro none n ph
    cases got : s.get n with
    | ok h => exact ⟨h, rfl⟩
    | error e => exact absurd ⟨n, ph, got⟩ (none e)
  · rintro live e ⟨n, ph, dead⟩
    obtain ⟨h, got⟩ := live n ph
    rw [dead] at got
    cases got

/-- A change of texts that puts the addresses of live resources in place of placeholders for them
and keeps all texts that are no placeholders. -/
structure Fills (s : Snapshot) (f : String → String) : Prop where
  placeholder : ∀ t n h, Placeholder t n → s.get n = .ok h → f t = h.address.text
  other : ∀ t, (∀ n, ¬ Placeholder t n) → f t = t

/-- What is put into texts is what the registry has for their placeholders. -/
theorem fills_filled (s : Snapshot) : Fills s (filled s) where
  placeholder t n h ph live := by
    rw [filled, substitute_of_live ph live]
    rfl
  other t none := by
    rw [filled, substitute_of_not_placeholder none]
    rfl

/-- No placeholder is left where the text could be read. -/
theorem not_placeholder_filled (h : failure? s t = none) (n : String) :
    ¬ Placeholder (filled s t) n := by
  cases found : placeholder? t with
  | none =>
    have none := placeholder?_eq_none_iff.1 found
    rw [(fills_filled s).other t none]
    exact none n
  | some m =>
    have ph := placeholder?_eq_some_iff.1 found
    obtain ⟨handle, live⟩ := Snapshot.isLive_iff.1 (failure?_eq_none_iff.1 h m ph)
    rw [(fills_filled s).placeholder t m handle ph live]
    exact not_placeholder_text handle.address n

/-! ## A whole value -/

/-- The error, if there is one, or else the result. -/
def unlessError {α : Type} (e? : Option LookupError) (a : α) : Except LookupError α :=
  match e? with
  | some e => .error e
  | none => .ok a

/-- The first error of the texts that are listed. -/
def firstFailure? (s : Snapshot) (xs : List (List Value.Step × String)) : Option LookupError :=
  xs.findSome? fun x => failure? s x.2

/-- The first failure of two lists is that of the one, or else of the other. -/
theorem firstFailure?_append (xs ys : List (List Value.Step × String)) :
    firstFailure? s (xs ++ ys) = (firstFailure? s xs).or (firstFailure? s ys) :=
  List.findSome?_append

/-- The first failure does not depend on where the texts stand. -/
theorem firstFailure?_beneath (step : Value.Step) (xs : List (List Value.Step × String)) :
    firstFailure? s (xs.map (Value.beneath step)) = firstFailure? s xs :=
  List.findSome?_map

/-- Of two parts that are read one after the other, the first error counts. -/
theorem unlessError_bind {α β γ : Type} (d? e? : Option LookupError) (a : α) (b : β)
    (f : α → β → γ) :
    (do let x ← unlessError d? a; let y ← unlessError e? b; return f x y)
      = unlessError (d?.or e?) (f a b) := by
  cases d? with
  | some d => rfl
  | none =>
    cases e? with
    | some e => rfl
    | none => rfl

/-- Text is resolved by substituting it. -/
theorem resolve_text (s : Snapshot) (t : String) :
    resolve s (.text t) = (substitute s t).map Value.text := by
  rw [resolve, substitute]
  cases placeholder? t with
  | none => rfl
  | some n =>
    show (s.address n).map Address.toValue = ((s.address n).map Address.text).map Value.text
    cases s.address n with
    | ok a => rfl
    | error e => rfl

/-- Items that are resolved or fail by their texts do so as a list. -/
theorem resolveList_eq {items : List Value}
    (h : ∀ v ∈ items, resolve s v = unlessError (firstFailure? s v.texts) (v.mapText (filled s)))
    (first : Nat) :
    resolveList s items = unlessError (firstFailure? s (Value.textsOfItems first items))
      (Value.mapItems (filled s) items) := by
  induction items generalizing first with
  | nil => rfl
  | cons v items ih =>
    obtain ⟨here, there⟩ := List.forall_mem_cons.1 h
    rw [resolveList, here, ih there (first + 1), unlessError_bind, Value.textsOfItems,
      firstFailure?_append, firstFailure?_beneath, Value.mapItems]

/-- Fields that are resolved or fail by their texts do so as an object. -/
theorem resolveFields_eq {fields : List (String × Value)}
    (h : ∀ e ∈ fields,
      resolve s e.2 = unlessError (firstFailure? s e.2.texts) (e.2.mapText (filled s))) :
    resolveFields s fields = unlessError (firstFailure? s (Value.textsOfFields fields))
      (Value.mapFields (filled s) fields) := by
  induction fields with
  | nil => rfl
  | cons e fields ih =>
    obtain ⟨k, v⟩ := e
    obtain ⟨here, there⟩ := List.forall_mem_cons.1 h
    rw [resolveFields, here, ih there, unlessError_bind _ _ _ _ fun x y => (k, x) :: y,
      Value.textsOfFields, firstFailure?_append, firstFailure?_beneath, Value.mapFields]

/-- **What a value is resolved to**: the first error of its texts, or the value with all texts
filled in. -/
theorem resolve_eq (s : Snapshot) (v : Value) :
    resolve s v = unlessError (firstFailure? s v.texts) (v.mapText (filled s)) := by
  induction v using Value.induction_members with
  | null | bool | number => rfl
  | text t =>
    rw [resolve_text, Value.texts, Value.mapText, firstFailure?, List.findSome?_singleton, failure?,
      filled]
    cases substitute s t with
    | ok u => rfl
    | error e => rfl
  | list items ih =>
    rw [resolve, resolveList_eq ih 0, Value.texts, Value.mapText]
    cases firstFailure? s (Value.textsOfItems 0 items) with
    | some e => rfl
    | none => rfl
  | object fields ih =>
    rw [resolve, resolveFields_eq ih, Value.texts, Value.mapText]
    cases firstFailure? s (Value.textsOfFields fields) with
    | some e => rfl
    | none => rfl

/-- **A value is resolved exactly if no text in it fails**, and then every text is filled in. -/
theorem resolve_eq_ok_iff :
    resolve s v = .ok w ↔ (∀ x ∈ v.texts, failure? s x.2 = none) ∧ w = v.mapText (filled s) := by
  have all : firstFailure? s v.texts = none ↔ ∀ x ∈ v.texts, failure? s x.2 = none :=
    List.findSome?_eq_none_iff
  rw [resolve_eq, ← all]
  cases firstFailure? s v.texts with
  | some e => simp [unlessError]
  | none => simp [unlessError, eq_comm]

/-- A value can be resolved exactly if no text in it fails. -/
theorem exists_resolve_eq_ok_iff :
    (∃ w, resolve s v = .ok w) ↔ ∀ x ∈ v.texts, failure? s x.2 = none := by
  simp only [resolve_eq_ok_iff, exists_and_left, exists_eq, and_true]

/-- **A value fails with the first failure of its texts.** -/
theorem resolve_eq_error_iff {e : LookupError} :
    resolve s v = .error e ↔ firstFailure? s v.texts = some e := by
  rw [resolve_eq]
  cases firstFailure? s v.texts with
  | some e' => simp [unlessError]
  | none => simp [unlessError]

/-! ### Several values -/

/-- Several values are resolved as a list of them is. -/
theorem resolve_list (s : Snapshot) (items : List Value) :
    resolve s (.list items) = (resolveList s items).map .list := by
  rw [resolve]

/-- Items are resolved exactly if the list of them is. -/
theorem exists_resolveList_eq_ok_iff {items : List Value} :
    (∃ ws, resolveList s items = .ok ws) ↔ ∃ w, resolve s (.list items) = .ok w := by
  rw [resolve_list]
  cases resolveList s items with
  | ok ws => exact iff_of_true ⟨ws, rfl⟩ ⟨.list ws, rfl⟩
  | error e => exact iff_of_false (fun ⟨_, h⟩ => nomatch h) fun ⟨_, h⟩ => nomatch h

/-- Items fail as the list of them does. -/
theorem resolveList_eq_error_iff {items : List Value} {e : LookupError} :
    resolveList s items = .error e ↔ resolve s (.list items) = .error e := by
  rw [resolve_list]
  cases resolveList s items with
  | ok ws => exact iff_of_false nofun nofun
  | error d =>
    constructor
    · rintro ⟨⟩
      rfl
    · rintro ⟨⟩
      rfl

/-- Items that are resolved are filled in one by one. -/
theorem eq_of_resolveList {items ws : List Value} (resolved : resolveList s items = .ok ws) :
    ws = items.map (Value.mapText (filled s)) := by
  have whole : resolve s (.list items) = .ok (.list ws) := by
    rw [resolve_list, resolved]
    rfl
  have texts := (resolve_eq_ok_iff.1 whole).2
  rw [Value.mapText, Value.mapItems_eq_map] at texts
  exact Value.list.inj texts

/-! ## The placeholders inside -/

/-- A placeholder for the name stands at the place. -/
def StandsAt (v : Value) (p : List Value.Step) (n : String) : Prop :=
  ∃ t, v.inside? p = some (.text t) ∧ Placeholder t n

/-- What resolving a value does. -/
structure Resolution (s : Snapshot) (v : Value) : Prop where
  /-- It succeeds exactly if all names in placeholders are live. -/
  succeeds : (∃ w, resolve s v = .ok w) ↔ ∀ p n, StandsAt v p n → s.isLive n = true
  /-- The result has the addresses in place of the placeholders and is otherwise the same. -/
  result : ∀ w, resolve s v = .ok w → ∃ f, Fills s f ∧ w = v.mapText f
  /-- The result has no placeholders and is kept by every other registry. -/
  settled : ∀ w, resolve s v = .ok w → (∀ p n, ¬ StandsAt w p n) ∧ ∀ s', resolve s' w = .ok w
  /-- The error is that of the first name that is not live. -/
  fails : ∀ e, resolve s v = .error e ↔ ∃ p n, StandsAt v p n ∧ s.get n = .error e ∧
    ∀ q m, Value.Precedes q p → StandsAt v q m → s.isLive m = true

/-- No text in a value fails exactly if every placeholder that stands in it is of a live name. -/
theorem forall_texts_iff (h : v.Ordered) :
    (∀ x ∈ v.texts, failure? s x.2 = none) ↔ ∀ p n, StandsAt v p n → s.isLive n = true := by
  simp only [failure?_eq_none_iff]
  constructor
  · rintro live p n ⟨t, stands, ph⟩
    exact live (p, t) ((Value.mem_texts_iff h).2 stands) n ph
  · rintro live ⟨p, t⟩ mem n ph
    exact live p n ⟨t, (Value.mem_texts_iff h).1 mem, ph⟩

/-- What is resolved has nothing left to resolve. -/
theorem settled_of_resolve (h : v.Ordered) (resolved : resolve s v = .ok w) :
    (∀ p n, ¬ StandsAt w p n) ∧ ∀ s', resolve s' w = .ok w := by
  obtain ⟨readable, rfl⟩ := resolve_eq_ok_iff.1 resolved
  have none : ∀ x ∈ (v.mapText (filled s)).texts, ∀ n, ¬ Placeholder x.2 n := by
    rw [Value.texts_mapText, List.forall_mem_map]
    exact fun x mem => not_placeholder_filled (readable x mem)
  constructor
  · rintro p n ⟨t, stands, ph⟩
    exact none (p, t) ((Value.mem_texts_iff (Value.ordered_mapText h)).2 stands) n ph
  · intro s'
    rw [resolve_eq_ok_iff]
    constructor
    · exact fun x mem => failure?_eq_none_iff.2 fun n ph => absurd ph (none x mem n)
    · exact (Value.mapText_eq_self fun x mem => (fills_filled s').other x.2 (none x mem)).symm

/-- An error is that of a place before which all names are live. -/
theorem resolve_eq_error_iff_first (h : v.Ordered) (e : LookupError) :
    resolve s v = .error e ↔ ∃ p n, StandsAt v p n ∧ s.get n = .error e ∧
      ∀ q m, Value.Precedes q p → StandsAt v q m → s.isLive m = true := by
  rw [resolve_eq_error_iff, firstFailure?, List.findSome?_eq_some_iff]
  constructor
  · rintro ⟨before, ⟨p, t⟩, after, split, fails, readable⟩
    obtain ⟨n, ph, dead⟩ := failure?_eq_some_iff.1 fails
    have listed : (p, t) ∈ v.texts := split ▸ List.mem_append_right _ List.mem_cons_self
    refine ⟨p, n, ⟨t, (Value.mem_texts_iff h).1 listed, ph⟩, dead, ?_⟩
    rintro q m earlier ⟨u, stands, ph'⟩
    have listed' : (q, u) ∈ before := (Value.mem_before_iff h split).2 ⟨earlier, stands⟩
    exact failure?_eq_none_iff.1 (readable (q, u) listed') m ph'
  · rintro ⟨p, n, ⟨t, stands, ph⟩, dead, earliest⟩
    obtain ⟨before, after, split⟩ := List.append_of_mem ((Value.mem_texts_iff h).2 stands)
    refine ⟨before, (p, t), after, split, failure?_eq_some_iff.2 ⟨n, ph, dead⟩, ?_⟩
    rintro ⟨q, u⟩ mem
    obtain ⟨earlier, stands'⟩ := (Value.mem_before_iff h split).1 mem
    exact failure?_eq_none_iff.2 fun m ph' => earliest q m earlier ⟨u, stands', ph'⟩

/-- **What resolving does to every value**, however deeply its lists and objects are nested. -/
theorem resolution (s : Snapshot) (h : v.Ordered) : Resolution s v where
  succeeds := by
    rw [← forall_texts_iff h, exists_resolve_eq_ok_iff]
  result w resolved := ⟨filled s, fills_filled s, (resolve_eq_ok_iff.1 resolved).2⟩
  settled w resolved := settled_of_resolve h resolved
  fails e := resolve_eq_error_iff_first h e

/-- Of the two names, the one inside the list comes first. -/
theorem resolution_letter :
    Drill.letter.Ordered ∧ Resolution Drill.house Drill.letter ∧
      resolve Drill.house Drill.letter = .ok Drill.addressed ∧
      resolve .empty Drill.letter = .error (.unknown "core") := by
  have ordered : Drill.letter.Ordered :=
    ⟨List.pairwise_pair.2 (by decide), ⟨trivial, trivial, trivial, trivial⟩, trivial, trivial⟩
  exact ⟨ordered, resolution Drill.house ordered, by decide +kernel, by decide +kernel⟩

end Template
end Rollout
