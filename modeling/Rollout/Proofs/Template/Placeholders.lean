/-
# Texts that are placeholders

A text is a *placeholder* for a name if it is the name in braces, and the name is not empty and has
no brace in it (`Template.Placeholder`). `Template.placeholder?` finds the name of exactly these
texts (`Template.placeholder?_eq_some_iff`). No text that is read as an address is among them, in
particular none that an address is written as.
-/

import Rollout.Template
import Rollout.Proofs.Address.Text

namespace Rollout
namespace Template

/-- The text is the name in braces. -/
structure Placeholder (t n : String) : Prop where
  form : t = "\x7b" ++ n ++ "\x7d"
  nonempty : n ≠ ""
  unopened : opening ∉ n.toList
  unclosed : closing ∉ n.toList

variable {t n : String}

/-- A name in braces, as characters. -/
theorem toList_braced (n : String) :
    ("\x7b" ++ n ++ "\x7d").toList = opening :: (n.toList ++ [closing]) := by
  have left : "\x7b".toList = [opening] := rfl
  have right : "\x7d".toList = [closing] := rfl
  rw [String.toList_append, String.toList_append, left, right, List.singleton_append,
    List.cons_append]

/-- A name is found between one brace at each end, where it is not empty and has no brace in it. -/
theorem nameIn?_eq_some_iff {cs name : List Char} :
    nameIn? cs = some name ↔ cs = opening :: (name ++ [closing]) ∧
      name ≠ [] ∧ opening ∉ name ∧ closing ∉ name := by
  constructor
  · intro h
    cases cs with
    | nil => cases h
    | cons c r =>
      rw [nameIn?, Option.ite_none_right_eq_some] at h
      obtain ⟨⟨rfl, last, named⟩, h⟩ := h
      obtain ⟨inner, rfl⟩ := List.getLast?_eq_some_iff.1 last
      rw [List.dropLast_concat] at h named
      cases h
      exact ⟨rfl, named⟩
  · rintro ⟨rfl, named⟩
    rw [nameIn?, List.dropLast_concat, List.getLast?_concat]
    exact if_pos ⟨rfl, rfl, named⟩

/-- **The name is found of exactly the texts that are placeholders.** -/
theorem placeholder?_eq_some_iff : placeholder? t = some n ↔ Placeholder t n := by
  rw [placeholder?, Option.map_eq_some_iff]
  constructor
  · rintro ⟨name, found, rfl⟩
    obtain ⟨form, nonempty, unopened, unclosed⟩ := nameIn?_eq_some_iff.1 found
    refine ⟨String.toList_inj.1 ?_, ?_, ?_, ?_⟩
    · rw [toList_braced, String.toList_ofList, form]
    · exact fun empty => nonempty (String.ofList_eq_empty_iff.1 empty)
    · rwa [String.toList_ofList]
    · rwa [String.toList_ofList]
  · rintro ⟨rfl, nonempty, unopened, unclosed⟩
    have named : n.toList ≠ [] := fun empty => nonempty (String.toList_eq_nil_iff.1 empty)
    exact ⟨n.toList, nameIn?_eq_some_iff.2 ⟨toList_braced n, named, unopened, unclosed⟩,
      String.ofList_toList⟩

/-- Text has no placeholder exactly if it is none. -/
theorem placeholder?_eq_none_iff : placeholder? t = none ↔ ∀ n, ¬ Placeholder t n := by
  simp only [Option.eq_none_iff_forall_ne_some, ne_eq, placeholder?_eq_some_iff]

/-- A text is a placeholder for one name. -/
theorem Placeholder.unique {m : String} (h : Placeholder t n) (h' : Placeholder t m) : n = m :=
  Option.some.inj ((placeholder?_eq_some_iff.2 h).symm.trans (placeholder?_eq_some_iff.2 h'))

/-- **What is read as an address is no placeholder**: a brace is no digit. -/
theorem Placeholder.not_address (h : Placeholder t n) (a : Address) : Address.ofText t ≠ .ok a := by
  rw [h.form, ne_eq, Address.ofText_eq_ok_iff, toList_braced]
  intro spelled
  have digit : Hex.IsDigit opening := spelled.digits opening List.mem_cons_self
  cases digit

/-- Nor is what an address is written as. -/
theorem not_placeholder_text (a : Address) (n : String) : ¬ Placeholder a.text n :=
  fun h => h.not_address a (Address.ofText_text a)

end Template
end Rollout
