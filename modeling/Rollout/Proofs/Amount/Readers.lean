/-
# Amounts in values

An amount may stand in a free value, where the argument of a call is looked for, or in a document
that is decoded. Each has a reader of its own, and both take the same values for the same amounts:

| value | as a call's argument and in a document |
| --- | --- |
| whole number from `0` to below `2 ^ 64` | the amount of that number |
| text in the format of amounts | the amount that it is written for |
| any other number, doubles that are whole included | refused |
| other text, null, truth values, lists, objects | refused |

So what can be stored as an amount can be passed as one, and the other way round
(`Amount.readAlike`). It makes no difference either whether a text is first read as a free value,
whatever its format (`Amount.decode_eq`).
-/

import Rollout.Chain.Method
import Rollout.Proofs.Amount.Format
import Rollout.Proofs.Document.Reading

namespace Rollout

-- Powers are those of core, whatever is imported beside this module.
attribute [local instance (high)] instPowNat

namespace Amount

/-- The value is one way to say an amount. -/
inductive Said : Value → Amount → Prop
  | number {n : Nat} {a : Amount} (small : n < 2 ^ (64 : Nat)) (units : a.units = n) :
      Said (.number (.int n)) a
  | text {s : String} {a : Amount} (read : ofText s = .ok a) : Said (.text s) a

/-- Values that say no amount whatever is in them. -/
inductive Foreign : Value → Prop
  | null : Foreign .null
  | bool (b : Bool) : Foreign (.bool b)
  | negative {i : Int} (h : i < 0) : Foreign (.number (.int i))
  | large {n : Nat} (h : 2 ^ (64 : Nat) ≤ n) : Foreign (.number (.int n))
  | double (x : Double) : Foreign (.number (.double x))
  | list (items : List Value) : Foreign (.list items)
  | object (fields : List (String × Value)) : Foreign (.object fields)

/-- Two readers of amounts, that of a call's argument at a place and that of documents, take the same
values for the same amounts. -/
structure ReadAlike (argument : Call → Nat → Except ChainError Amount) (document : Decoder Amount) :
    Prop where
  agree : ∀ v call index dialect, call.arguments[index]? = some v →
    ∀ a, argument call index = .ok a ↔ document dialect v.document.node = some a
  /-- What both accept. -/
  accepts_iff : ∀ v dialect a, document dialect v.document.node = some a ↔ Said v a
  /-- What is no amount is refused with the place where it stands. -/
  refuses : ∀ v call index dialect, call.arguments[index]? = some v → (¬ ∃ a, Said v a) →
    argument call index = .error (.invalidArgument call.method (.notAmount index)) ∧
      document dialect v.document.node = none
  foreign : ∀ v, Foreign v → ¬ ∃ a, Said v a
  /-- What a text is read as is decoded as the amount that its free value says. -/
  of_node : ∀ n dialect a,
    document dialect n = some a ↔ ∃ v, n.value? = some v ∧ Said v a

variable {v : Value} {a : Amount}

/-! ## Free values -/

/-- A number that is written without a sign is a word exactly if it fits in 64 bits. -/
theorem word?_natCast (n : Nat) :
    (Number.int n).word? = if n < 2 ^ (64 : Nat) then some n else none := by
  rw [Number.word?]
  refine if_congr ?_ rfl rfl
  omega

/-- No negative number is a word. -/
theorem word?_of_negative {i : Int} (h : i < 0) : (Number.int i).word? = none :=
  if_neg fun range => absurd h (Int.not_lt.2 range.1)

/-- **A value is taken for an amount exactly if it says the amount.** -/
theorem ofValue?_eq_some_iff : ofValue? v = some a ↔ Said v a := by
  constructor
  · intro read
    cases v with
    | number n =>
      rw [ofValue?] at read
      cases n with
      | int i =>
        rcases Int.lt_or_le i 0 with negative | nonnegative
        · rw [word?_of_negative negative] at read
          cases read
        · obtain ⟨n, rfl⟩ := Int.eq_ofNat_of_zero_le nonnegative
          rw [word?_natCast] at read
          split at read
          · next small => exact .number small (ofNat?_eq_some_iff.1 read)
          · cases read
      | double x => cases read
    | text s => exact .text (ofText_eq_ok_iff.2 read)
    | _ => cases read
  · intro said
    cases said with
    | number small units =>
      rw [ofValue?, word?_natCast, if_pos small]
      exact ofNat?_eq_some_iff.2 units
    | text read => exact ofText_eq_ok_iff.1 read

/-- What is foreign says no amount. -/
theorem not_said_of_foreign (h : Foreign v) : ¬ ∃ a, Said v a := by
  rintro ⟨a, said⟩
  have read := ofValue?_eq_some_iff.2 said
  cases h with
  | negative h => rw [ofValue?, word?_of_negative h] at read; cases read
  | large h => rw [ofValue?, word?_natCast, if_neg (Nat.not_lt.2 h)] at read; cases read
  | _ => cases read

/-! ## Nodes -/

/-- A number says an amount as a word or not at all. -/
theorem ofValue?_ofNumber (n : Number) : ofValue? (.ofNumber n) = n.word?.bind ofNat? := by
  cases n with
  | int i => rfl
  | double x =>
    rw [Value.ofNumber]
    split <;> rfl

/-- A node is decoded as what its free value says, be there one or not. -/
theorem decode_eq (dialect : Dialect) (n : Node) : decode dialect n = n.value?.bind ofValue? := by
  cases n with
  | number n => exact (ofValue?_ofNumber n).symm
  | scalar s =>
    rw [decode, Decoder.settled, Node.settle, Node.value?]
    cases s.meaning with
    | none => rfl
    | some p =>
      cases p with
      | number n => exact (ofValue?_ofNumber n).symm
      | _ => rfl
  | list items =>
    rw [decode, Decoder.settled, Node.settle, Node.value?]
    cases Node.settleItems items <;> cases Node.values? items <;> rfl
  | map entries =>
    rw [decode, Decoder.settled, Node.settle, Node.value?]
    cases Node.settleEntries entries <;> cases Node.fields? entries <;> rfl
  | _ => rfl

/-- A free value that is written down is decoded as what it says. -/
theorem decode_node (dialect : Dialect) (v : Value) :
    decode dialect v.document.node = ofValue? v := by
  rw [decode, Decoder.settled, Document.settle_node]
  cases v <;> rfl

/-! ## Arguments -/

/-- An argument that is there is taken for an amount or refused as none. -/
theorem amountArgument_eq {call : Call} {index : Nat} (h : call.arguments[index]? = some v) :
    call.amountArgument index = match ofValue? v with
      | some a => .ok a
      | none => .error (.invalidArgument call.method (.notAmount index)) := by
  rw [Call.amountArgument, Call.argument, h]
  rfl

/-- An argument is taken for an amount exactly if it says the amount. -/
theorem amountArgument_eq_ok_iff {call : Call} {index : Nat}
    (h : call.arguments[index]? = some v) : call.amountArgument index = .ok a ↔ Said v a := by
  rw [amountArgument_eq h, ← ofValue?_eq_some_iff]
  cases ofValue? v with
  | none => exact ⟨nofun, nofun⟩
  | some b => rw [Except.ok.injEq, Option.some.injEq]

/-- **Amounts are read alike** as arguments of calls and in documents. -/
theorem readAlike : ReadAlike Call.amountArgument decode where
  agree v call index dialect given a := by
    rw [amountArgument_eq_ok_iff given, decode_node, ofValue?_eq_some_iff]
  accepts_iff v dialect a := by rw [decode_node, ofValue?_eq_some_iff]
  refuses v call index dialect given unsaid := by
    have unread : ofValue? v = none :=
      Option.eq_none_iff_forall_ne_some.2 fun a read => unsaid ⟨a, ofValue?_eq_some_iff.1 read⟩
    rw [amountArgument_eq given, decode_node, unread]
    exact ⟨rfl, rfl⟩
  foreign v := not_said_of_foreign
  of_node n dialect a := by
    rw [decode_eq, Option.bind_eq_some_iff]
    exact exists_congr fun v => and_congr_right fun _ => ofValue?_eq_some_iff

end Amount
end Rollout
