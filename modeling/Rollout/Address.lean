/-
# Account addresses

An address is a number below `2 ^ 160`: twenty bytes, or forty hexadecimal digits. It is
written as `0x` and the forty digits in lower case. It is read with or without one leading
`0x` or `0X`, digits of either case; `Address.ParseError` says what is wrong with other text.
-/

import Rollout.Text.Digits
import Rollout.Text.Hex
import Rollout.Text.Quoted
import Rollout.Document.Decoder

namespace Rollout

-- Powers are those of core, whatever is imported beside this module.
attribute [local instance (high)] instPowNat

/-- An account address. -/
structure Address where
  val : Nat
  isLt : val < 2 ^ (160 : Nat)
deriving DecidableEq

namespace Address

/-- The address of the low 160 bits of a number. -/
def ofNat (n : Nat) : Address := ⟨n % 2 ^ (160 : Nat), Nat.mod_lt _ (by decide)⟩

/-- The address that stands for "not set". -/
def zero : Address := ofNat 0

def isZero (a : Address) : Bool := a == zero

instance : Inhabited Address := ⟨zero⟩

instance : Ord Address := ⟨compareOn val⟩

/-- Addresses with the same number are the same. -/
theorem ext_val {a b : Address} (h : a.val = b.val) : a = b := by
  cases a; cases b; simp_all

instance : Std.TransOrd Address := inferInstanceAs (Std.TransCmp (compareOn val))

instance : Std.LawfulEqOrd Address where
  compare_self {a} := by
    show compare a.val a.val = .eq
    simp
  eq_of_compare {a b} h := by
    have h : compare a.val b.val = .eq := h
    exact ext_val (by simpa using h)

/-- The bytes, most significant first. -/
def bytes (a : Address) : List Nat := Digits.fixed 256 20 a.val

/-- The address of twenty bytes, most significant first. -/
def ofBytes (bs : List Nat) : Address := ofNat (Digits.value 256 bs)

/-- The forty lower-case digits. -/
def digits (a : Address) : List Char := (Digits.fixed 16 40 a.val).map Hex.digit

/-- The written form. -/
def text (a : Address) : String := "0x" ++ String.ofList a.digits

/-- The written form inside messages that spell values out. -/
def spelled (a : Address) : String := "Address(" ++ a.text ++ ")"

/-- What is wrong with text that is no address. -/
inductive ParseError
  /-- The count of bytes after the prefix is not forty. -/
  | length (actual : Nat)
  /-- The first byte that is no digit, and where it stands. -/
  | digit (byte : Nat) (position : Nat)
deriving DecidableEq, Repr

def ParseError.message : ParseError → String
  | length actual => "expected 40 hex digits, got " ++ toString actual
  | digit byte position =>
    "invalid hex: Invalid character " ++ Text.quotedChar (Char.ofNat byte)
      ++ " at position " ++ toString position

/-- The text after one leading `0x` or `0X`. -/
def afterMark : List Char → List Char
  | '0' :: 'x' :: r => r
  | '0' :: 'X' :: r => r
  | cs => cs

/-- The first byte of a character in UTF-8. -/
def leadByte (c : Char) : Nat :=
  match String.utf8EncodeChar c with
  | [] => 0
  | b :: _ => b.toNat

/-- The first character that is no hexadecimal digit, and how many stand before it. -/
def firstBad? : List Char → Option (Char × Nat)
  | [] => none
  | c :: r =>
    if (Hex.digitValue? c).isNone then some (c, 0)
    else (firstBad? r).map fun b => (b.1, b.2 + 1)

/-- The count of bytes of a text in UTF-8. -/
def byteLength : List Char → Nat
  | [] => 0
  | c :: r => c.utf8Size + byteLength r

/-- Reads an address. -/
def ofText (s : String) : Except ParseError Address :=
  let ds := afterMark s.toList
  let length := byteLength ds
  if length ≠ 40 then .error (.length length)
  else
    match firstBad? ds with
    | some (c, position) => .error (.digit (leadByte c) position)
    | none => .ok (ofNat (Digits.value 16 (ds.filterMap Hex.digitValue?)))

/-- Reads an address off a document. -/
def decode : Decoder Address := fun dialect n => do (ofText (← Decoder.text dialect n)).toOption

def document (a : Address) : Document := .text a.text

def toValue (a : Address) : Value := .text a.text

end Address
end Rollout
