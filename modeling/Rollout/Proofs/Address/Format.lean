/-
# The text format of addresses

What a reader and a writer of addresses have to do with the format is said of the text alone, digit
by digit and byte by byte (`Address.Conforms`):

| text | read as |
| --- | --- |
| forty digits of either case, one mark before them or none | the address with these digits |
| not forty bytes after the mark, if it has one | `ParseError.length` with the count |
| forty bytes, some of them no digits | `ParseError.digit` with the first of these and its place |

Reading counts characters where the format counts bytes. That makes no difference where it matters,
as every digit is one byte and no other character begins with the byte of a digit
(`Text.leadByte_of_not_isDigit`).
-/

import Rollout.Proofs.Address.Bytes
import Rollout.Proofs.Address.Text
import Rollout.Proofs.Document.Quoting
import Rollout.Proofs.Errors

namespace Rollout

-- Powers are those of core, whatever is imported beside this module.
attribute [local instance (high)] instPowNat

/-! ## Digits -/

namespace Hex

/-- The digits of either case. -/
def all : List Char :=
  ['0', '1', '2', '3', '4', '5', '6', '7', '8', '9', 'a', 'b', 'c', 'd', 'e', 'f',
    'A', 'B', 'C', 'D', 'E', 'F']

-- What holds of all digits is asked of the list. A `∀` over characters would be decided by going
-- through every one that there is.
/-- All hexadecimal digits are plain characters. -/
theorem toNat_lt_of_mem {c : Char} (h : c ∈ all) : c.toNat < 128 := by
  have small : all.all (fun d => d.toNat < 128) = true := by decide
  exact of_decide_eq_true (List.all_eq_true.1 small c h)

/-- A digit is one of those in the list. -/
theorem isDigit_iff {c : Char} : IsDigit c ↔ c ∈ all := by
  have ascii : ∀ n < 128, (digitValue? (Char.ofNat n)).isSome = true ↔ Char.ofNat n ∈ all := by
    decide
  by_cases h : c.toNat < 128
  · have same := ascii c.toNat h
    rwa [Char.ofNat_toNat] at same
  · refine ⟨fun digit => ?_, fun mem => absurd (toNat_lt_of_mem mem) h⟩
    have one := Char.utf8Size_eq_one_iff.1 (utf8Size_of_isDigit digit)
    rw [UInt32.le_iff_toNat_le] at one
    have same : c.toNat = c.val.toNat := rfl
    have bound : (127 : UInt32).toNat = 127 := rfl
    omega

/-- A digit is written in lower case. -/
theorem digit_of_digitValue? {c : Char} {n : Nat} (h : digitValue? c = some n) :
    digit n = c.toLower := by
  have lower : all.all (fun d => (digitValue? d).map digit = some d.toLower) = true := by decide
  have mem := isDigit_iff.1 (Option.isSome_iff_exists.2 ⟨n, h⟩)
  have same := of_decide_eq_true (List.all_eq_true.1 lower c mem)
  rw [h] at same
  exact Option.some.inj same

/-- Digits that are read and written again are those in lower case. -/
theorem map_digit_filterMap {cs : List Char} (h : ∀ c ∈ cs, IsDigit c) :
    (cs.filterMap digitValue?).map digit = cs.map Char.toLower := by
  induction cs with
  | nil => rfl
  | cons c cs ih =>
    obtain ⟨n, hn⟩ := Option.isSome_iff_exists.1 (h c List.mem_cons_self)
    rw [List.filterMap_cons_some hn, List.map_cons, List.map_cons, digit_of_digitValue? hn,
      ih fun d hd => h d (List.mem_cons_of_mem c hd)]

/-- The byte is that of a digit. -/
def IsDigitByte (b : UInt8) : Prop := ∃ c ∈ all, b.toNat = c.toNat

end Hex

/-! ## Bytes -/

namespace Text

/-- The bytes of a text. -/
def utf8 (cs : List Char) : List UInt8 := cs.flatMap String.utf8EncodeChar

/-- The length that is checked is that of the text in UTF-8. -/
theorem byteLength_eq (cs : List Char) : Address.byteLength cs = (utf8 cs).length := by
  induction cs with
  | nil => rfl
  | cons c cs ih =>
    rw [Address.byteLength, utf8, List.flatMap_cons, List.length_append,
      String.length_utf8EncodeChar, ih]
    rfl

/-- A digit is the byte of its own number. -/
theorem utf8EncodeChar_of_isDigit {c : Char} (h : Hex.IsDigit c) :
    ∃ b, String.utf8EncodeChar c = [b] ∧ Hex.IsDigitByte b := by
  have mem := Hex.isDigit_iff.1 h
  have bytes : Hex.all.all (fun d => String.utf8EncodeChar d = [UInt8.ofNat d.toNat] ∧
      (UInt8.ofNat d.toNat).toNat = d.toNat) = true := by decide
  obtain ⟨one, same⟩ := of_decide_eq_true (List.all_eq_true.1 bytes c mem)
  exact ⟨_, one, c, mem, same⟩

/-- No other character begins with the byte of a digit. -/
theorem leadByte_of_not_isDigit {c : Char} (h : ¬ Hex.IsDigit c) :
    ∃ b rest, String.utf8EncodeChar c = b :: rest ∧ Address.leadByte c = b.toNat ∧
      ¬ Hex.IsDigitByte b := by
  cases bytes : String.utf8EncodeChar c with
  | nil => exact absurd bytes String.utf8EncodeChar_ne_nil
  | cons b rest =>
    refine ⟨b, rest, rfl, by rw [Address.leadByte, bytes], ?_⟩
    rintro ⟨d, mem, same⟩
    have bound := Hex.toNat_lt_of_mem mem
    have value : c.toNat = c.val.toNat := rfl
    simp only [String.utf8EncodeChar] at bytes
    split at bytes
    · next ascii =>
      cases bytes
      have number : (UInt8.ofNat c.val.toNat).toNat = c.toNat := by
        rw [UInt8.toNat_ofNat']
        omega
      have equal : c = d := by
        rw [← Char.ofNat_toNat c, ← Char.ofNat_toNat d, ← same, number]
      exact h (Hex.isDigit_iff.2 (equal ▸ mem))
    · split at bytes
      · cases bytes
        rw [UInt8.toNat_ofNat'] at same
        omega
      · split at bytes
        · cases bytes
          rw [UInt8.toNat_ofNat'] at same
          omega
        · cases bytes
          rw [UInt8.toNat_ofNat'] at same
          omega

/-- Digits are one byte each in UTF-8, and those bytes are digits. -/
theorem utf8_of_isDigit {cs : List Char} (h : ∀ c ∈ cs, Hex.IsDigit c) :
    (utf8 cs).length = cs.length ∧ ∀ b ∈ utf8 cs, Hex.IsDigitByte b := by
  induction cs with
  | nil => exact ⟨rfl, nofun⟩
  | cons c cs ih =>
    obtain ⟨length, digits⟩ := ih fun d hd => h d (List.mem_cons_of_mem c hd)
    obtain ⟨b, bytes, digit⟩ := utf8EncodeChar_of_isDigit (h c List.mem_cons_self)
    have split : utf8 (c :: cs) = b :: utf8 cs := by
      rw [utf8, List.flatMap_cons, bytes]
      rfl
    rw [split]
    exact ⟨congrArg (· + 1) length, List.forall_mem_cons.2 ⟨digit, digits⟩⟩

end Text

namespace Address

/-! ## The format -/

/-- The text is forty digits, with one mark before them or none. -/
structure Written (s : String) (ds : List Char) : Prop where
  marked : ∃ mark ∈ [[], ['0', 'x'], ['0', 'X']], s.toList = mark ++ ds
  length : ds.length = 40
  digits : ∀ c ∈ ds, c ∈ Hex.all

/-- What follows the mark of a text, or the whole of a text without one. -/
inductive Rest : List Char → List Char → Prop
  | lower (ds : List Char) : Rest ('0' :: 'x' :: ds) ds
  | upper (ds : List Char) : Rest ('0' :: 'X' :: ds) ds
  | bare {ds : List Char} (unmarked : ¬ Marked ds) : Rest ds ds

/-- What is wrong with a text: the count of bytes, or else the first byte that is no digit. -/
inductive Refusal (s : String) : ParseError → Prop
  | length {ds : List Char} (rest : Rest s.toList ds) (other : (Text.utf8 ds).length ≠ 40) :
      Refusal s (.length (Text.utf8 ds).length)
  | digit {ds : List Char} {b : UInt8} {i : Nat} (rest : Rest s.toList ds)
      (length : (Text.utf8 ds).length = 40) (byte : (Text.utf8 ds)[i]? = some b)
      (bad : ¬ Hex.IsDigitByte b)
      (earlier : ∀ j < i, ∀ x, (Text.utf8 ds)[j]? = some x → Hex.IsDigitByte x) :
      Refusal s (.digit b.toNat i)

/-- What a reader and a writer have to do with the format, with each other, and with the text of
documents in JSON. -/
structure Conforms (read : String → Except ParseError Address) (write : Address → String) :
    Prop where
  accepts_iff : ∀ s, (∃ a, read s = .ok a) ↔ ∃ ds, Written s ds
  refuses_iff : ∀ s e, read s = .error e ↔ Refusal s e
  /-- What is written is read back. -/
  reads_write : ∀ a, read (write a) = .ok a
  /-- What is read is written with the same digits, in lower case. -/
  writes : ∀ s ds a, Written s ds → read s = .ok a →
    write a = "0x" ++ String.ofList (ds.map Char.toLower)
  /-- Digits stand for the same address exactly if they differ in case at most. -/
  same_iff : ∀ s t ds es, Written s ds → Written t es →
    (read s = read t ↔ ds.map Char.toLower = es.map Char.toLower)
  /-- An address is encoded as what is written, between quotes. -/
  encodes : ∀ a : Address, a.document.compact = Json.quote (write a)
  /-- Text between quotes is decoded as what is read. -/
  decodes : ∀ s, (Json.read (Json.quote s)).bind (decode .json) = (read s).toOption
  /-- Nothing but text is decoded. -/
  decodes_iff : ∀ (d : Document) a, decode .json d.node = some a ↔
    ∃ s, d = .text s ∧ read s = .ok a

/-! ## Marks -/

variable {s t : String} {cs ds es : List Char} {a : Address} {e e' : ParseError}

/-- What is to be read is what follows the mark, where there is one. -/
theorem rest_iff : Rest cs ds ↔ ds = afterMark cs := by
  constructor
  · rintro (_ | _ | unmarked)
    · rfl
    · rfl
    · exact (afterMark_of_not_marked unmarked).symm
  · rintro rfl
    unfold afterMark
    split
    · exact .lower _
    · exact .upper _
    · next notLower notUpper =>
      refine .bare ?_
      rintro (⟨r, rfl⟩ | ⟨r, rfl⟩)
      · exact notLower r rfl
      · exact notUpper r rfl

/-- Digits are what follows the mark. -/
theorem Written.rest (h : Written s ds) : Rest s.toList ds := by
  obtain ⟨mark, mem, split⟩ := h.marked
  simp only [List.mem_cons, List.not_mem_nil, or_false] at mem
  rw [split]
  rcases mem with rfl | rfl | rfl
  · refine .bare ?_
    rintro (⟨r, rfl⟩ | ⟨r, rfl⟩)
    · exact absurd (h.digits 'x' (.tail _ (.head _))) (by decide)
    · exact absurd (h.digits 'X' (.tail _ (.head _))) (by decide)
  · exact .lower ds
  · exact .upper ds

/-- Forty digits behind an optional mark are an address in writing. -/
theorem written_of_rest (rest : Rest s.toList ds) (length : ds.length = 40)
    (digits : ∀ c ∈ ds, Hex.IsDigit c) : Written s ds where
  marked := by
    generalize s.toList = cs at rest
    cases rest with
    | lower => exact ⟨['0', 'x'], by simp, rfl⟩
    | upper => exact ⟨['0', 'X'], by simp, rfl⟩
    | bare => exact ⟨[], by simp, rfl⟩
  length := length
  digits := fun c hc => Hex.isDigit_iff.1 (digits c hc)

/-! ## Acceptance -/

/-- Forty digits spell an address. -/
theorem exists_spelled (length : ds.length = 40) (digits : ∀ c ∈ ds, Hex.IsDigit c) :
    ∃ a, Spelled ds a :=
  ⟨⟨_, value_lt length digits⟩, length, digits, rfl⟩

/-- An address in writing has nothing but digits. -/
theorem Written.isDigit (h : Written s ds) : ∀ c ∈ ds, Hex.IsDigit c :=
  fun c hc => Hex.isDigit_iff.2 (h.digits c hc)

/-- Text is read as the address that its digits spell. -/
theorem ofText_eq_ok_iff_of_written (h : Written s ds) : ofText s = .ok a ↔ Spelled ds a := by
  rw [ofText_eq_ok_iff, ← rest_iff.1 h.rest]

/-- **Text is accepted exactly if it is an address in writing.** -/
theorem accepts_iff (s : String) : (∃ a, ofText s = .ok a) ↔ ∃ ds, Written s ds := by
  constructor
  · rintro ⟨a, read⟩
    have spelled := ofText_eq_ok_iff.1 read
    exact ⟨_, written_of_rest (rest_iff.2 rfl) spelled.length spelled.digits⟩
  · rintro ⟨ds, written⟩
    obtain ⟨a, spelled⟩ := exists_spelled written.length written.isDigit
    exact ⟨a, (ofText_eq_ok_iff_of_written written).2 spelled⟩

/-- An address is written with the digits that spell it, in lower case. -/
theorem Spelled.digits_eq (h : Spelled ds a) : a.digits = ds.map Char.toLower := by
  have count := Hex.length_filterMap_digitValue? h.digits
  have below : ∀ d ∈ ds.filterMap Hex.digitValue?, d < 16 := by
    intro d hd
    obtain ⟨c, -, hc⟩ := List.mem_filterMap.1 hd
    exact Hex.digitValue?_lt hc
  rw [Address.digits, ← h.value, ← h.length, ← count, Digits.fixed_value below,
    Hex.map_digit_filterMap h.digits]

/-- What is read is written in lower case with the mark. -/
theorem text_of_written (h : Written s ds) (read : ofText s = .ok a) :
    a.text = "0x" ++ String.ofList (ds.map Char.toLower) := by
  rw [text, ((ofText_eq_ok_iff_of_written h).1 read).digits_eq]

/-- An address is known by what is written for it. -/
theorem text_injective : Function.Injective text := by
  intro a b same
  have read := ofText_text a
  rw [same, ofText_text b] at read
  exact (Except.ok.inj read).symm

/-- Texts are read as the same address exactly if their digits are the same in lower case. -/
theorem ofText_eq_ofText_iff (hs : Written s ds) (ht : Written t es) :
    ofText s = ofText t ↔ ds.map Char.toLower = es.map Char.toLower := by
  obtain ⟨a, ha⟩ := (accepts_iff s).2 ⟨ds, hs⟩
  obtain ⟨b, hb⟩ := (accepts_iff t).2 ⟨es, ht⟩
  rw [ha, hb, Except.ok.injEq, ← text_injective.eq_iff, text_of_written hs ha,
    text_of_written ht hb, ← String.toList_inj, String.toList_append, String.toList_append,
    List.append_cancel_left_eq, String.toList_ofList, String.toList_ofList]

/-! ## Refusal -/

/-- The first bad byte is behind digits alone, and its position is their number. -/
theorem firstBad?_eq_some {c : Char} {n : Nat} (h : firstBad? cs = some (c, n)) :
    ∃ before after, cs = before ++ c :: after ∧ (∀ d ∈ before, Hex.IsDigit d) ∧
      ¬ Hex.IsDigit c ∧ n = before.length := by
  induction cs generalizing n with
  | nil => cases h
  | cons d cs ih =>
    rw [firstBad?] at h
    split at h
    · next bad =>
      cases h
      exact ⟨[], cs, rfl, List.forall_mem_nil _, by simpa [Hex.IsDigit] using bad, rfl⟩
    · next good =>
      obtain ⟨⟨c', m⟩, later, same⟩ := Option.map_eq_some_iff.1 h
      cases same
      obtain ⟨before, after, rfl, digits, bad, rfl⟩ := ih later
      have digit : Hex.IsDigit d := by
        rw [Hex.IsDigit]
        simpa [Option.isSome_iff_ne_none] using good
      exact ⟨d :: before, after, rfl, List.forall_mem_cons.2 ⟨digit, digits⟩, bad, rfl⟩

/-- **An error says what is wrong**, the length before the digits. -/
theorem refusal_of_error (h : ofText s = .error e) : Refusal s e := by
  have rest : Rest s.toList (afterMark s.toList) := rest_iff.2 rfl
  rw [ofText] at h
  generalize afterMark s.toList = ds at rest h
  simp only [Text.byteLength_eq] at h
  split at h
  · next other =>
    cases h
    exact .length rest other
  · next size =>
    split at h
    · next c n found =>
      cases h
      obtain ⟨before, after, rfl, digits, bad, rfl⟩ := firstBad?_eq_some found
      obtain ⟨length, hex⟩ := Text.utf8_of_isDigit digits
      obtain ⟨b, tail, bytes, lead, notHex⟩ := Text.leadByte_of_not_isDigit bad
      have split : Text.utf8 (before ++ c :: after)
          = Text.utf8 before ++ b :: (tail ++ Text.utf8 after) := by
        rw [Text.utf8, List.flatMap_append, List.flatMap_cons, bytes]
        rfl
      rw [lead, ← length]
      refine .digit rest (not_not.1 size) ?_ notHex fun j hj x hx => hex x ?_
      · rw [split, List.getElem?_append_right (Nat.le_refl _), Nat.sub_self]
        rfl
      · rw [split, List.getElem?_append_left hj] at hx
        exact List.mem_of_getElem? hx
    · cases h

/-- A text is refused for one reason. -/
theorem Refusal.unique (h : Refusal s e) (h' : Refusal s e') : e = e' := by
  have same {ds es : List Char} (hd : Rest s.toList ds) (he : Rest s.toList es) : ds = es :=
    (rest_iff.1 hd).trans (rest_iff.1 he).symm
  cases h with
  | length rest other =>
    cases h' with
    | length rest' other' => rw [same rest rest']
    | digit rest' length' => exact absurd (same rest rest' ▸ length') other
  | digit rest length byte bad earlier =>
    cases h' with
    | length rest' other' => exact absurd (same rest rest' ▸ length) other'
    | digit rest' length' byte' bad' earlier' =>
      rename_i i _ _ j
      obtain rfl := same rest rest'
      rcases Nat.lt_trichotomy i j with before | rfl | after
      · exact absurd (earlier' i before _ byte) bad
      · rw [Option.some.inj (byte.symm.trans byte')]
      · exact absurd (earlier j after _ byte') bad'

/-- What is refused is not written in the format. -/
theorem Refusal.not_written (h : Refusal s e) : ¬ Written s ds := by
  intro written
  have bytes := Text.utf8_of_isDigit written.isDigit
  have same {es : List Char} (rest : Rest s.toList es) : es = ds :=
    (rest_iff.1 rest).trans (rest_iff.1 written.rest).symm
  cases h with
  | length rest other =>
    obtain rfl := same rest
    exact other (bytes.1.trans written.length)
  | digit rest length byte bad earlier =>
    obtain rfl := same rest
    exact bad (bytes.2 _ (List.mem_of_getElem? byte))

/-- Reading fails with an error exactly if that is what is wrong. -/
theorem ofText_eq_error_iff (s : String) (e : ParseError) :
    ofText s = .error e ↔ Refusal s e := by
  refine ⟨refusal_of_error, fun refusal => ?_⟩
  cases read : ofText s with
  | error e' => rw [refusal.unique (refusal_of_error read)]
  | ok a =>
    obtain ⟨ds, written⟩ := (accepts_iff s).1 ⟨a, read⟩
    exact absurd written refusal.not_written

/-! ## Documents -/

/-- A decoder reads text as the reader does. -/
theorem decode_text (dialect : Dialect) (s : String) :
    decode dialect (.text s) = (ofText s).toOption := rfl

/-- A document is decoded as an address exactly if it is text that is read as one. -/
theorem decode_node_iff (d : Document) (a : Address) :
    decode .json d.node = some a ↔ ∃ s, d = .text s ∧ ofText s = .ok a := by
  cases d with
  | text s =>
    rw [Document.node, decode_text]
    constructor
    · intro decoded
      exact ⟨s, rfl, toOption_eq_some_iff.1 decoded⟩
    · rintro ⟨t, same, read⟩
      cases same
      exact toOption_eq_some_iff.2 read
  | _ => exact ⟨nofun, nofun⟩

/-- **Addresses are read and written in their format**, as text and as text in JSON. -/
theorem conforms_text : Conforms ofText text where
  accepts_iff := accepts_iff
  refuses_iff := ofText_eq_error_iff
  reads_write := ofText_text
  writes _ _ _ := text_of_written
  same_iff _ _ _ _ := ofText_eq_ofText_iff
  encodes _ := rfl
  decodes s := by rw [Json.bind_read_quote, decode_text]
  decodes_iff := decode_node_iff

/-- Forty bytes that are thirty-nine characters: the byte that is told of is the first of two. -/
example : ofText "0X00000000000000000000000000000000000000é" = .error (.digit 0xC3 38) := by
  decide +kernel

end Address
end Rollout
