/-
# Addresses as text

Forty characters *spell* an address if they are hexadecimal digits of its number, in either case
(`Address.Spelled`). Text is read as an address exactly if what follows its mark, if it has one,
spells it (`Address.ofText_eq_ok_iff`); hence the written form of every address is read back
(`Address.ofText_text`).
-/

import Rollout.Address

namespace Rollout

-- Powers are those of core, whatever is imported beside this module.
attribute [local instance (high)] instPowNat

/-! ## Digits -/

namespace Hex

/-- The character is a digit of either case. -/
def IsDigit (c : Char) : Prop := (digitValue? c).isSome = true

/-- The digits of numbers below sixteen are digits. -/
theorem isDigit_digit {n : Nat} (h : n < 16) : IsDigit (digit n) := by
  rw [IsDigit, digitValue?_digit h]
  rfl

/-- A digit takes one byte. -/
theorem utf8Size_of_isDigit {c : Char} (h : IsDigit c) : c.utf8Size = 1 := by
  have small : c.toNat ≤ 102 := by
    rw [IsDigit, Option.isSome_iff_exists] at h
    obtain ⟨n, h⟩ := h
    simp only [digitValue?] at h
    split at h
    · omega
    · split at h
      · omega
      · split at h
        · omega
        · cases h
  rw [Char.utf8Size_eq_one_iff, UInt32.le_iff_toNat_le]
  have same : c.toNat = c.val.toNat := rfl
  have bound : (127 : UInt32).toNat = 127 := rfl
  omega

/-- Digits are read one by one. -/
theorem length_filterMap_digitValue? {cs : List Char} (h : ∀ c ∈ cs, IsDigit c) :
    (cs.filterMap digitValue?).length = cs.length := by
  induction cs with
  | nil => rfl
  | cons c cs ih =>
    obtain ⟨n, hn⟩ := Option.isSome_iff_exists.1 (h c List.mem_cons_self)
    rw [List.filterMap_cons_some hn, List.length_cons, List.length_cons,
      ih fun d hd => h d (List.mem_cons_of_mem c hd)]

/-- Digits that are written are read back. -/
theorem filterMap_digit {ds : List Nat} (h : ∀ d ∈ ds, d < 16) :
    (ds.map digit).filterMap digitValue? = ds := by
  induction ds with
  | nil => rfl
  | cons d ds ih =>
    rw [List.map_cons, List.filterMap_cons_some (digitValue?_digit (h d List.mem_cons_self)),
      ih fun e he => h e (List.mem_cons_of_mem d he)]

end Hex

namespace Address

/-- Forty digits whose number is that of the address. -/
structure Spelled (cs : List Char) (a : Address) : Prop where
  length : cs.length = 40
  digits : ∀ c ∈ cs, Hex.IsDigit c
  value : Digits.value 16 (cs.filterMap Hex.digitValue?) = a.val

/-! ## Reading -/

/-- There is no bad byte exactly if all are digits. -/
theorem firstBad?_eq_none_iff {cs : List Char} :
    firstBad? cs = none ↔ ∀ c ∈ cs, Hex.IsDigit c := by
  induction cs with
  | nil => exact ⟨fun _ _ h => absurd h List.not_mem_nil, fun _ => rfl⟩
  | cons c cs ih =>
    rw [firstBad?, List.forall_mem_cons, Hex.IsDigit]
    cases Hex.digitValue? c with
    | none => simp
    | some n => simp [ih]

/-- Digits are as long in bytes as they are many. -/
theorem byteLength_eq_length {cs : List Char} (h : ∀ c ∈ cs, Hex.IsDigit c) :
    byteLength cs = cs.length := by
  induction cs with
  | nil => rfl
  | cons c cs ih =>
    rw [byteLength, List.length_cons, Hex.utf8Size_of_isDigit (h c List.mem_cons_self),
      ih fun d hd => h d (List.mem_cons_of_mem c hd), Nat.add_comm]

/-- The number of forty digits is that of an address. -/
theorem value_lt {cs : List Char} (length : cs.length = 40) (digits : ∀ c ∈ cs, Hex.IsDigit c) :
    Digits.value 16 (cs.filterMap Hex.digitValue?) < 2 ^ (160 : Nat) := by
  have below : ∀ d ∈ cs.filterMap Hex.digitValue?, d < 16 := by
    intro d hd
    obtain ⟨c, -, hc⟩ := List.mem_filterMap.1 hd
    exact Hex.digitValue?_lt hc
  have bound := Digits.value_lt below
  rw [Hex.length_filterMap_digitValue? digits, length] at bound
  exact bound

/-- **What is read as an address**: forty digits, with a mark before them or without. -/
theorem ofText_eq_ok_iff {t : String} {a : Address} :
    ofText t = .ok a ↔ Spelled (afterMark t.toList) a := by
  rw [ofText]
  generalize afterMark t.toList = cs
  constructor
  · intro h
    split at h
    · cases h
    · next size =>
      split at h
      · cases h
      · next none =>
        have digits := firstBad?_eq_none_iff.1 none
        rw [byteLength_eq_length digits, ne_eq, Decidable.not_not] at size
        cases h
        exact ⟨size, digits, (Nat.mod_eq_of_lt (value_lt size digits)).symm⟩
  · rintro ⟨length, digits, value⟩
    have same : ofNat a.val = a := ext_val (Nat.mod_eq_of_lt a.isLt)
    simp only [byteLength_eq_length digits, length, firstBad?_eq_none_iff.2 digits, value, same,
      ne_eq, not_true_eq_false, if_false]

/-- The text begins with the mark of an address. -/
def Marked (cs : List Char) : Prop := ['0', 'x'] <+: cs ∨ ['0', 'X'] <+: cs

instance (cs : List Char) : Decidable (Marked cs) :=
  inferInstanceAs (Decidable (['0', 'x'] <+: cs ∨ ['0', 'X'] <+: cs))

/-- Nothing is taken off text without the mark. -/
theorem afterMark_of_not_marked {cs : List Char} (h : ¬ Marked cs) : afterMark cs = cs := by
  unfold afterMark
  split
  · next r => exact absurd (.inl ⟨r, rfl⟩) h
  · next r => exact absurd (.inr ⟨r, rfl⟩) h
  · rfl

/-- A mark is no digits. -/
theorem Spelled.not_marked {cs : List Char} {a : Address} (h : Spelled cs a) : ¬ Marked cs := by
  rintro (⟨r, rfl⟩ | ⟨r, rfl⟩)
  · have digit : Hex.IsDigit 'x' := h.digits 'x' (.tail _ (.head _))
    cases digit
  · have digit : Hex.IsDigit 'X' := h.digits 'X' (.tail _ (.head _))
    cases digit

/-- Digits alone are read. -/
theorem ofText_of_spelled {t : String} {a : Address} (h : Spelled t.toList a) :
    ofText t = .ok a := by
  rwa [ofText_eq_ok_iff, afterMark_of_not_marked h.not_marked]

/-- What is read without a mark is digits alone. -/
theorem spelled_of_not_marked {t : String} {a : Address} (read : ofText t = .ok a)
    (unmarked : ¬ Marked t.toList) : Spelled t.toList a := by
  rwa [ofText_eq_ok_iff, afterMark_of_not_marked unmarked] at read

/-! ## Writing -/

/-- An address is written as the mark and its digits. -/
theorem toList_text (a : Address) : a.text.toList = '0' :: 'x' :: a.digits := by
  have mark : "0x".toList = ['0', 'x'] := rfl
  rw [text, String.toList_append, mark, String.toList_ofList, List.cons_append, List.cons_append,
    List.nil_append]

/-- The digits that are written spell the address. -/
theorem spelled_digits (a : Address) : Spelled a.digits a where
  length := by rw [digits, List.length_map, Digits.length_fixed]
  digits c hc := by
    obtain ⟨d, hd, rfl⟩ := List.mem_map.1 hc
    exact Hex.isDigit_digit (Digits.lt_of_mem_fixed (by decide) hd)
  value := by
    have read : a.digits.filterMap Hex.digitValue? = Digits.fixed 16 40 a.val := by
      rw [digits]
      exact Hex.filterMap_digit fun d hd => Digits.lt_of_mem_fixed (by decide) hd
    rw [read, Digits.value_fixed]
    exact Nat.mod_eq_of_lt a.isLt

/-- **The written form of every address is read back.** -/
theorem ofText_text (a : Address) : ofText a.text = .ok a := by
  rw [ofText_eq_ok_iff, toList_text, afterMark]
  exact spelled_digits a

end Address
end Rollout
