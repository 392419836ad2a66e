/-
# The text format of amounts

An amount may be written in many ways, of which the decimal text is one: blanks may stand around the
digits, underscores anywhere between them, a plus sign before them, and zeros before the first that
counts. What a numeral stands for is said digit by digit (`Amount.Numeral`), and what a text is
written for by taking it apart (`Amount.Written`), both without the functions that read:

| left between the blanks, without underscores | read as |
| --- | --- |
| digits, or one plus sign and digits, of a number below `2 ^ 128` | the amount of that number |
| anything else | an error, which is the whole text |

Blanks are taken off before underscores are, so a blank next to an underscore stays where it is and
makes the text unreadable.
-/

import Rollout.Proofs.Amount.Text
import Rollout.Proofs.Document.Quoting
import Rollout.Proofs.Errors
import Mathlib.Data.List.Induction

namespace Rollout

-- Powers are those of core, whatever is imported beside this module.
attribute [local instance (high)] instPowNat

namespace Amount

/-! ## The format -/

/-- Decimal digits, at least one, and the number that they stand for. -/
inductive Numeral : List Char → Nat → Prop
  | digit {d : Nat} (h : d < 10) : Numeral [Nat.digitChar d] d
  | append {ds : List Char} {n d : Nat} (before : Numeral ds n) (h : d < 10) :
      Numeral (ds ++ [Nat.digitChar d]) (10 * n + d)

/-- The text is written for a number: between blanks, and underscores aside, it is a numeral or one
plus sign and a numeral. -/
inductive Written (s : String) (n : Nat) : Prop
  | intro {before core after ds : List Char} (split : s.toList = before ++ core ++ after)
      (blanksBefore : ∀ c ∈ before, Text.isBlank c = true)
      (blanksAfter : ∀ c ∈ after, Text.isBlank c = true)
      (signed : core.filter (· ≠ '_') = ds ∨ core.filter (· ≠ '_') = '+' :: ds)
      (numeral : Numeral ds n)

/-- What a reader of amounts has to do with the format, with decimal texts, and with the text of
documents in JSON. -/
structure Conforms (read : String → Except String Amount) : Prop where
  accepts_iff : ∀ s a, read s = .ok a ↔ Written s a.units
  /-- Any other text is the error, as it stands. -/
  refuses_iff : ∀ s e, read s = .error e ↔ e = s ∧ ¬ ∃ n, n < 2 ^ (128 : Nat) ∧ Written s n
  /-- Decimal text is read back. -/
  reads_repr : ∀ a : Amount, read a.units.repr = .ok a
  /-- An amount is encoded as decimal text between quotes. -/
  encodes : ∀ a : Amount, a.document.compact = Json.quote a.units.repr
  /-- Text between quotes is decoded as what is read. -/
  decodes : ∀ s, (Json.read (Json.quote s)).bind (decode .json) = (read s).toOption
  /-- An amount that is encoded is decoded again. -/
  redecodes : ∀ a : Amount, (Json.read a.document.compact).bind (decode .json) = some a

/-! ## Numerals -/

variable {s : String} {cs ds : List Char} {n : Nat} {a : Amount}

/-- One digit more is ten times the number and the digit. -/
theorem ofDigitChars_append_digit (ds : List Char) {d : Nat} (h : d < 10) :
    Nat.ofDigitChars 10 (ds ++ [Nat.digitChar d]) 0 = 10 * Nat.ofDigitChars 10 ds 0 + d := by
  rw [Nat.ofDigitChars_append, Nat.ofDigitChars_cons_digitChar_of_lt_ten h, Nat.ofDigitChars_nil]

/-- A decimal digit is that of a number below ten. -/
theorem exists_digitChar {c : Char} (h : c.isDigit = true) : ∃ d < 10, c = Nat.digitChar d := by
  obtain ⟨least, greatest⟩ : 48 ≤ c.toNat ∧ c.toNat ≤ 57 := Char.isDigit_iff_toNat.1 h
  have chars : ∀ d < 10, Char.ofNat (d + 48) = Nat.digitChar d := by decide
  refine ⟨c.toNat - 48, by omega, ?_⟩
  rw [← chars _ (by omega), Nat.sub_add_cancel least, Char.ofNat_toNat]

/-- A numeral is digits, at least one, and what it stands for is their value. -/
theorem numeral_iff :
    Numeral ds n ↔ ds ≠ [] ∧ (∀ c ∈ ds, c.isDigit = true) ∧ Nat.ofDigitChars 10 ds 0 = n := by
  constructor
  · intro h
    induction h with
    | digit h =>
      refine ⟨nofun, ?_, ?_⟩
      · simpa [Nat.isDigit_digitChar] using h
      · have value := ofDigitChars_append_digit [] h
        simpa using value
    | append before h ih =>
      obtain ⟨-, digits, value⟩ := ih
      refine ⟨by simp, ?_, by rw [ofDigitChars_append_digit _ h, value]⟩
      simpa [or_imp, forall_and, Nat.isDigit_digitChar, h] using digits
  · rintro ⟨some, digits, rfl⟩
    induction ds using List.reverseRecOn with
    | nil => exact absurd rfl some
    | append_singleton ds c ih =>
      obtain ⟨d, h, rfl⟩ := exists_digitChar (digits c (by simp))
      rw [ofDigitChars_append_digit _ h]
      rcases ds.eq_nil_or_concat with rfl | ⟨es, e, rfl⟩
      · simpa using Numeral.digit h
      · exact .append (ih (by simp) fun c hc => digits c (List.mem_append_left _ hc)) h

/-- A numeral has a digit. -/
theorem Numeral.ne_nil (h : Numeral ds n) : ds ≠ [] := (numeral_iff.1 h).1

/-- A numeral has nothing but digits. -/
theorem Numeral.isDigit (h : Numeral ds n) : ∀ c ∈ ds, c.isDigit = true := (numeral_iff.1 h).2.1

/-! ## Reading -/

/-- One plus sign is passed over, and what follows it is read. -/
theorem ofText?_of_signed
    (signed : (Text.trim s.toList).filter (· ≠ '_') = '+' :: ds ∨
      (Text.trim s.toList).filter (· ≠ '_') = ds ∧ ds.head? ≠ some '+') :
    ofText? s = if ds.isEmpty || !ds.all Char.isDigit then none
      else ofNat? (Nat.ofDigitChars 10 ds 0) := by
  rw [ofText?]
  rcases signed with plus | ⟨rfl, unsigned⟩
  · rw [plus]
    rfl
  · split
    · next r plus => exact absurd (congrArg List.head? plus) unsigned
    · rfl

/-- A number is an amount exactly if it is the units of one. -/
theorem ofNat?_eq_some_iff {n : Nat} : ofNat? n = some a ↔ a.units = n := by
  rw [ofNat?]
  constructor
  · intro h
    split at h
    · cases h
      rfl
    · cases h
  · rintro rfl
    exact dif_pos a.isLt

/-- A text is read as the number that it is written for, if that is small enough. -/
theorem ofText?_eq_some_iff : ofText? s = some a ↔ Written s a.units := by
  constructor
  · intro read
    obtain ⟨ds, signed⟩ : ∃ ds, (Text.trim s.toList).filter (· ≠ '_') = '+' :: ds ∨
        (Text.trim s.toList).filter (· ≠ '_') = ds ∧ ds.head? ≠ some '+' := by
      cases left : (Text.trim s.toList).filter (· ≠ '_') with
      | nil => exact ⟨[], .inr ⟨rfl, nofun⟩⟩
      | cons c ds =>
        by_cases plus : c = '+'
        · exact ⟨ds, .inl (plus ▸ rfl)⟩
        · exact ⟨c :: ds, .inr ⟨rfl, by simpa using plus⟩⟩
    rw [ofText?_of_signed signed] at read
    obtain ⟨before, after, split, blanksBefore, blanksAfter⟩ := Text.exists_trim s.toList
    have numeral : Numeral ds a.units := by
      split at read
      · cases read
      · next digits =>
        simp only [Bool.or_eq_true, List.isEmpty_iff, Bool.not_eq_eq_eq_not, Bool.not_true,
          not_or, Bool.not_eq_false, List.all_eq_true] at digits
        exact numeral_iff.2 ⟨digits.1, digits.2, (ofNat?_eq_some_iff.1 read).symm⟩
    exact .intro split blanksBefore blanksAfter (signed.symm.imp_left And.left) numeral
  · rintro ⟨split, blanksBefore, blanksAfter, signed, numeral⟩
    rename_i before core after ds
    have kept : ∀ c ∈ core, Text.isBlank c = false := by
      intro c mem
      by_cases underscore : c = '_'
      · rw [underscore]
        rfl
      · have left : c ∈ core.filter (· ≠ '_') := List.mem_filter.2 ⟨mem, decide_eq_true underscore⟩
        rcases signed with h | h
        · exact Text.isBlank_of_isDigit (numeral.isDigit c (h ▸ left))
        · rw [h, List.mem_cons] at left
          rcases left with rfl | left
          · rfl
          · exact Text.isBlank_of_isDigit (numeral.isDigit c left)
    have some : core ≠ [] := by
      rintro rfl
      rcases signed with h | h
      · exact numeral.ne_nil h.symm
      · cases h
    have trimmed : Text.trim s.toList = core := by
      rw [split]
      exact Text.trim_append blanksBefore kept some blanksAfter
    have unsigned : ds.head? ≠ Option.some '+' := by
      intro plus
      exact absurd (numeral.isDigit '+' (List.mem_of_head? plus)) (by decide)
    obtain ⟨nonempty, digits, value⟩ := numeral_iff.1 numeral
    rw [← trimmed] at signed
    rw [ofText?_of_signed (signed.symm.imp_right fun h => ⟨h, unsigned⟩), if_neg, value]
    · exact ofNat?_eq_some_iff.2 rfl
    · simpa [nonempty] using digits

/-- Text is read with an error exactly where it is read as nothing. -/
theorem ofText_eq_ok_iff : ofText s = .ok a ↔ ofText? s = some a := by
  rw [ofText]
  cases ofText? s with
  | none => exact ⟨nofun, nofun⟩
  | some b => rw [Except.ok.injEq, Option.some.injEq]

/-- Without its error the reader is the one that has none. -/
theorem toOption_ofText (s : String) : (ofText s).toOption = ofText? s := by
  rw [ofText]
  cases ofText? s <;> rfl

/-- A text is refused as it stands exactly if it is not written for a small enough number. -/
theorem ofText_eq_error_iff {e : String} :
    ofText s = .error e ↔ e = s ∧ ¬ ∃ n, n < 2 ^ (128 : Nat) ∧ Written s n := by
  have written : (∃ n, n < 2 ^ (128 : Nat) ∧ Written s n) ↔ ∃ a, ofText? s = some a := by
    simp only [ofText?_eq_some_iff]
    exact ⟨fun ⟨n, small, h⟩ => ⟨⟨n, small⟩, h⟩, fun ⟨a, h⟩ => ⟨a.units, a.isLt, h⟩⟩
  rw [written, ofText]
  cases ofText? s with
  | none => simp [eq_comm]
  | some a => simp

/-! ## Documents -/

/-- A decoder reads text as the reader does. -/
theorem decode_text (dialect : Dialect) (s : String) :
    decode dialect (.text s) = ofText? s := rfl

/-- **Amounts are read in their format**, and decimal text is one of the ways to write them. -/
theorem conforms_ofText : Conforms ofText where
  accepts_iff _ _ := ofText_eq_ok_iff.trans ofText?_eq_some_iff
  refuses_iff _ _ := ofText_eq_error_iff
  reads_repr a := ofText_eq_ok_iff.2 (ofText?_text a)
  encodes _ := rfl
  decodes s := by rw [Json.bind_read_quote, decode_text, toOption_ofText]
  redecodes a := by
    show (Json.read (Json.quote a.text)).bind (decode .json) = some a
    rw [Json.bind_read_quote, decode_text, ofText?_text]

/-- Underscores may stand anywhere between the blanks, but no blank between underscores. -/
example : (ofText " _+_00_7_\u00a0").toOption.map units = some 7 ∧
    ofText "_ 7" = .error "_ 7" ∧ ofText " __ " = .error " __ " := by
  decide +kernel

end Amount
end Rollout
