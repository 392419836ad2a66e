/-
# Amounts as text

Reading takes the blanks off both ends of a text (`Text.trim_append`), and the underscores out of
what is left. An amount is written in decimal digits, which are neither blanks nor underscores nor a
sign, so reading drops none of them and the written form of every amount is read back, up to the
greatest (`Amount.ofText?_text`).
-/

import Rollout.Amount

namespace Rollout

/-! ## Trimming -/

namespace Text

/-- Nothing is taken off the front of text without blanks. -/
theorem dropWhile_isBlank_of_kept {cs : List Char} (h : ∀ c ∈ cs, isBlank c = false)
    (some : cs ≠ []) (rest : List Char) : (cs ++ rest).dropWhile isBlank = cs ++ rest := by
  cases cs with
  | nil => exact absurd rfl some
  | cons c cs => rw [List.cons_append, List.dropWhile_cons, h c List.mem_cons_self]; rfl

/-- Blanks at the ends are taken off, and nothing else is. -/
theorem trim_append {before core after : List Char} (hb : ∀ c ∈ before, isBlank c = true)
    (hc : ∀ c ∈ core, isBlank c = false) (some : core ≠ [])
    (ha : ∀ c ∈ after, isBlank c = true) : trim (before ++ core ++ after) = core := by
  have front : (before ++ core ++ after).dropWhile isBlank = core ++ after := by
    rw [List.append_assoc, List.dropWhile_append_of_pos hb, dropWhile_isBlank_of_kept hc some]
  have kept : (core.reverse ++ []).dropWhile isBlank = core.reverse ++ [] :=
    dropWhile_isBlank_of_kept (fun c h => hc c (List.mem_reverse.1 h))
      (List.reverse_ne_nil_iff.2 some) []
  have back : (core ++ after).reverse.dropWhile isBlank = core.reverse := by
    rw [List.append_nil] at kept
    rw [List.reverse_append,
      List.dropWhile_append_of_pos fun c h => ha c (List.mem_reverse.1 h), kept]
  rw [trim, front, back, List.reverse_reverse]

/-- Text without blanks is not trimmed. -/
theorem trim_eq_self {cs : List Char} (h : ∀ c ∈ cs, isBlank c = false) : trim cs = cs := by
  by_cases some : cs = []
  · rw [some]
    rfl
  · have trimmed : trim ([] ++ cs ++ []) = cs := trim_append nofun h some nofun
    rwa [List.nil_append, List.append_nil] at trimmed

/-- A text is what is left of it between blanks. -/
theorem exists_trim (cs : List Char) : ∃ before after, cs = before ++ trim cs ++ after ∧
    (∀ c ∈ before, isBlank c = true) ∧ ∀ c ∈ after, isBlank c = true := by
  refine ⟨cs.takeWhile isBlank, ((cs.dropWhile isBlank).reverse.takeWhile isBlank).reverse, ?_,
    List.all_eq_true.1 List.all_takeWhile,
    fun c h => List.all_eq_true.1 List.all_takeWhile c (List.mem_reverse.1 h)⟩
  rw [trim, List.append_assoc, ← List.reverse_append, List.takeWhile_append_dropWhile,
    List.reverse_reverse, List.takeWhile_append_dropWhile]

/-- Digits are not blank. -/
theorem isBlank_of_isDigit {c : Char} (h : c.isDigit = true) : isBlank c = false := by
  simp only [Char.isDigit, Bool.and_eq_true, decide_eq_true_eq, ge_iff_le,
    UInt32.le_iff_toNat_le] at h
  have same : c.toNat = c.val.toNat := rfl
  have least : '0'.val.toNat = 48 := rfl
  have greatest : '9'.val.toNat = 57 := rfl
  simp only [isBlank, Bool.or_eq_false_iff, Bool.and_eq_false_iff, decide_eq_false_iff_not,
    beq_eq_false_iff_ne]
  omega

end Text

/-! ## Amounts -/

namespace Amount

/-- **Every amount is read back from its text**, up to the greatest. -/
theorem ofText?_text (a : Amount) : ofText? a.text = some a := by
  have digits : a.text.toList = Nat.toDigits 10 a.units := Nat.toList_repr
  have isDigit : ∀ c ∈ Nat.toDigits 10 a.units, c.isDigit = true :=
    fun c hc => Nat.isDigit_of_mem_toDigits (by omega) (by omega) hc
  have trimmed : Text.trim (Nat.toDigits 10 a.units) = Nat.toDigits 10 a.units :=
    Text.trim_eq_self fun c hc => Text.isBlank_of_isDigit (isDigit c hc)
  have kept : (Nat.toDigits 10 a.units).filter (· ≠ '_') = Nat.toDigits 10 a.units := by
    rw [List.filter_eq_self]
    intro c hc
    have : c ≠ '_' := by
      rintro rfl
      exact absurd (isDigit _ hc) (by decide)
    exact decide_eq_true this
  have all : (Nat.toDigits 10 a.units).all Char.isDigit = true := List.all_eq_true.2 isDigit
  have value : Nat.ofDigitChars 10 (Nat.toDigits 10 a.units) 0 = a.units :=
    Nat.ofDigitChars_toDigits (by omega) (by omega)
  rw [ofText?, digits, trimmed, kept]
  cases hds : Nat.toDigits 10 a.units with
  | nil => exact absurd hds Nat.toDigits_ne_nil
  | cons d ds =>
    have noSign : d ≠ '+' := by
      rintro rfl
      exact absurd (isDigit '+' (hds ▸ List.mem_cons_self)) (by decide)
    rw [hds] at all value
    split
    · next e => cases e; exact absurd rfl noSign
    · simp [all, value, ofNat?, a.isLt]

end Amount
end Rollout
