/-
# Text between quotes in JSON

Text is written between quotes character by character: most as they are, some after a backslash,
and the other control characters by their code. Reading takes such a code for a unit of 16 bits
(`Json.piece`), and half of a surrogate pair would be one that has no text; but no character below
the blank is such a half. So every text is read back from between its quotes (`Json.read_quote`),
and what is read off quoted text is what is read off the text.
-/

import Rollout.Document.Decoder
import Rollout.Document.Json
import Rollout.Document.Printer

namespace Rollout
namespace Json

/-! ## One character -/

/-- What the written form of a character is taken for. -/
def piece (c : Char) : Piece :=
  if c ∈ ['\n', '\r', '\t', '\x08', '\x0c'] ∨ 0x20 ≤ c.toNat then .char c else .unit c.toNat

/-- A character is read back from its written form, whatever follows. -/
theorem pieces_escape (c : Char) (rest : List Char) :
    pieces ((escape c).toList ++ rest) = (pieces rest).map fun x => (piece c :: x.1, x.2) := by
  unfold escape
  split
  case h_8 quote backslash feed ret tab back page =>
    split
    · next control =>
      have first : Hex.digitValue? (Hex.digit (c.toNat / 16)) = some (c.toNat / 16) :=
        Hex.digitValue?_digit (by omega)
      have second : Hex.digitValue? (Hex.digit (c.toNat % 16)) = some (c.toNat % 16) :=
        Hex.digitValue?_digit (by omega)
      have zero : Hex.digitValue? '0' = some 0 := rfl
      have code : c.toNat / 16 * 16 + c.toNat % 16 = c.toNat := by omega
      have unit : piece c = .unit c.toNat := by
        rw [piece, if_neg]
        rintro (special | visible)
        · simp only [List.mem_cons, List.not_mem_nil, or_false] at special
          rcases special with h | h | h | h | h
          · exact feed h
          · exact ret h
          · exact tab h
          · exact back h
          · exact page h
        · omega
      rw [String.toList_ofList]
      simp [pieces, first, second, zero, code, unit]
      cases pieces rest <;> rfl
    · next visible =>
      have char : piece c = .char c := if_pos (.inr (by omega))
      rw [Char.toString, String.toList_singleton, List.singleton_append, pieces, char]
      · simp [visible]
        cases pieces rest <;> rfl
      · exact quote
      · exact fun _ _ _ _ _ h => absurd h backslash
      · exact fun _ _ h => absurd h backslash
  all_goals
    simp [pieces, piece]
    cases pieces rest <;> rfl

/-- A unit below the surrogates is a character of its own. -/
theorem join_unit {n : Nat} (small : n < 0xD800) (ps : List Piece) :
    join (.unit n :: ps) = (join ps).map (Char.ofNat n :: ·) := by
  have low : ¬ 0xD800 ≤ n := by omega
  have high : ¬ 0xDC00 ≤ n := by omega
  rcases ps with _ | ⟨⟨c⟩ | m, ps⟩ <;> simp [join, low, high]

/-- A piece that is one character is put in front of the others. -/
theorem join_piece (c : Char) (ps : List Piece) :
    join (piece c :: ps) = (join ps).map (c :: ·) := by
  rw [piece]
  split
  · rfl
  · next control =>
    have small : c.toNat < 0xD800 := by
      have := fun h => control (.inr h)
      omega
    rw [join_unit small, Char.ofNat_toNat]

/-! ## Texts -/

/-- Quoted text is its characters, escaped, between quotes. -/
theorem toList_quote (s : String) :
    (quote s).toList = '"' :: (s.toList.flatMap fun c => (escape c).toList) ++ ['"'] := by
  have written (cs : List Char) (out : String) :
      (cs.foldl (fun out c => out ++ escape c) out).toList
        = out.toList ++ cs.flatMap fun c => (escape c).toList := by
    induction cs generalizing out with
    | nil => simp
    | cons c cs ih =>
      rw [List.foldl_cons, ih, String.toList_append, List.append_assoc, List.flatMap_cons]
  have mark : "\"".toList = ['"'] := rfl
  rw [quote, String.toList_append, written, mark]
  rfl

/-- Text is read back up to the closing quote. -/
theorem quotedText_escaped (cs rest : List Char) :
    quotedText ((cs.flatMap fun c => (escape c).toList) ++ '"' :: rest)
      = some (some (String.ofList cs), rest) := by
  have found : pieces ((cs.flatMap fun c => (escape c).toList) ++ '"' :: rest)
      = some (cs.map piece, rest) := by
    induction cs with
    | nil => rfl
    | cons c cs ih => rw [List.flatMap_cons, List.append_assoc, pieces_escape, ih]; rfl
  have joined : join (cs.map piece) = some cs := by
    clear found
    induction cs with
    | nil => rfl
    | cons c cs ih => rw [List.map_cons, join_piece, ih]; rfl
  rw [quotedText, found]
  simp [joined]

/-- **Every text is read back from between its quotes.** -/
theorem read_quote (s : String) : read (quote s) = some (.text s) := by
  have first : value (2 * (quote s).toList.length + 2) 0 (quote s).toList = some (.text s, []) := by
    rw [toList_quote, List.cons_append, value]
    simp [skipBlanks, quotedText_escaped]
  rw [read, first]
  rfl

/-- What is read off quoted text is what is read off the text. -/
theorem bind_read_quote {α : Type} (dec : Decoder α) (s : String) :
    (read (quote s)).bind (dec .json) = dec .json (.text s) := by
  rw [read_quote]
  rfl

end Json
end Rollout
