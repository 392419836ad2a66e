/-
# Computations that may fail

A computation in several steps succeeds if each of them does, and fails by the first that does not:

| question | answered by |
| --- | --- |
| when it comes to a value | `bind_eq_ok_iff`, `bind₂_eq_ok_iff`, `map_eq_ok_iff`, `toOption_eq_some_iff` |
| when it comes to an error | `bind_eq_error_iff` |
| which errors it may come to | `Errs`, which holds of it if it holds of each step |
| which error it comes to | `errorOf?`, of two steps that of the first which has one |
-/

namespace Rollout

/-! ## Values -/

/-- What follows succeeds exactly if what comes first does and it does after that. -/
theorem bind_eq_ok_iff {ε α β : Type} {x : Except ε α} {f : α → Except ε β} {b : β} :
    x >>= f = .ok b ↔ ∃ a, x = .ok a ∧ f a = .ok b := by
  cases x with
  | error e => exact ⟨nofun, nofun⟩
  | ok a => exact ⟨fun h => ⟨a, rfl, h⟩, fun ⟨_, h, hf⟩ => by cases h; exact hf⟩

/-- What follows fails exactly if what comes first does, or if it does after that. -/
theorem bind_eq_error_iff {ε α β : Type} {x : Except ε α} {f : α → Except ε β} {e : ε} :
    x >>= f = .error e ↔ x = .error e ∨ ∃ a, x = .ok a ∧ f a = .error e := by
  cases x with
  | error e' =>
    show (Except.error e' : Except ε β) = .error e ↔ _
    simp
  | ok a =>
    show f a = .error e ↔ _
    simp

/-- A mapped result succeeds exactly if the result does. -/
theorem map_eq_ok_iff {ε α β : Type} {x : Except ε α} {f : α → β} {b : β} :
    x.map f = .ok b ↔ ∃ a, x = .ok a ∧ f a = b := by
  cases x with
  | error e => exact ⟨nofun, nofun⟩
  | ok a =>
    exact ⟨fun h => ⟨a, rfl, Except.ok.inj h⟩, fun ⟨_, h, hf⟩ => by cases h; exact congrArg _ hf⟩

/-- A result that is no error is a value. -/
theorem exists_of_isOk {ε α : Type} {x : Except ε α} (h : x.isOk = true) : ∃ a, x = .ok a := by
  cases x with
  | error e => cases h
  | ok a => exact ⟨a, rfl⟩

/-- Mapping the error changes no value. -/
theorem mapError_eq_ok_iff {ε ε' α : Type} {x : Except ε α} {f : ε → ε'} {a : α} :
    x.mapError f = .ok a ↔ x = .ok a := by
  cases x with
  | error e => exact ⟨nofun, nofun⟩
  | ok b =>
    show (Except.ok b : Except ε' α) = .ok a ↔ _
    rw [Except.ok.injEq, Except.ok.injEq]

/-- A result has a value exactly if it succeeds with it. -/
theorem toOption_eq_some_iff {ε α : Type} {x : Except ε α} {a : α} :
    x.toOption = some a ↔ x = .ok a := by
  cases x <;> simp [Except.toOption]

/-- Both come to a value, and the result is made of these. -/
theorem bind₂_eq_ok_iff {ε α β γ : Type} {x : Except ε α} {y : Except ε β} {f : α → β → γ} {c : γ} :
    (do let a ← x; let b ← y; return f a b) = .ok c ↔ ∃ a b, x = .ok a ∧ y = .ok b ∧ c = f a b := by
  simp only [bind_eq_ok_iff, pure, Except.pure, Except.ok.injEq, eq_comm (a := f _ _)]
  exact exists_congr fun a => exists_and_left.symm

/-! ## Errors that may be -/

/-- If there is an error, it is one of these. -/
def Errs {ε α : Type} (P : ε → Prop) (x : Except ε α) : Prop := ∀ e, x = .error e → P e

namespace Errs

variable {ε α β : Type} {P : ε → Prop} {x : Except ε α} {e : ε}

/-- A value is no error at all. -/
theorem ok (a : α) : Errs P (.ok a) := nofun

/-- An error that has the property is one of these. -/
theorem error (h : P e) : Errs P (.error e : Except ε α) := by
  rintro _ ⟨⟩
  exact h

/-- What follows adds its own errors to those of what comes first. -/
theorem bind {f : α → Except ε β} (hx : Errs P x) (hf : ∀ a, Errs P (f a)) : Errs P (x >>= f) := by
  cases x with
  | error e => exact error (hx e rfl)
  | ok a => exact hf a

/-- Mapping the value changes no error. -/
theorem map (f : α → β) (hx : Errs P x) : Errs P (x.map f) := by
  cases x with
  | error e => exact error (hx e rfl)
  | ok a => exact ok _

end Errs

/-! ## The error that there is -/

/-- The error, where it is one. -/
def errorOf? {ε α : Type} : Except ε α → Option ε
  | .ok _ => none
  | .error e => some e

/-- The error of a result is what it fails with. -/
theorem errorOf?_eq_some_iff {ε α : Type} {x : Except ε α} {e : ε} :
    errorOf? x = some e ↔ x = .error e := by
  cases x <;> simp [errorOf?]

/-- A result without an error succeeds. -/
theorem errorOf?_eq_none_iff {ε α : Type} {x : Except ε α} :
    errorOf? x = none ↔ x.isOk = true := by
  cases x <;> simp [errorOf?, Except.isOk, Except.toBool]

/-- Of two computations, one after the other, the first error counts. -/
theorem errorOf?_bind₂ {ε α β γ : Type} (x : Except ε α) (y : Except ε β) (f : α → β → γ) :
    errorOf? (do let a ← x; let b ← y; return f a b) = (errorOf? x).or (errorOf? y) := by
  cases x with
  | error e => rfl
  | ok a => cases y <;> rfl

end Rollout
