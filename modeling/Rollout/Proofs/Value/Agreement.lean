/-
# Values that agree

Free values are compared with the two double zeros taken as one. So two values agree exactly if
they are the same once the zeros inside have lost their sign (`Value.agrees_iff`), and agreement is
an equality: nothing but that sign is overlooked.
-/

import Rollout.Value

namespace Rollout

/-- The double, a zero without its sign. -/
def Double.unsigned (x : Double) : Double := if x.isZero then ⟨false, x.code⟩ else x

/-- Doubles agree if they are the same but for the sign of zero. -/
theorem Double.agrees_iff (x y : Double) : x.agrees y = true ↔ x.unsigned = y.unsigned := by
  obtain ⟨negative, code⟩ := x
  obtain ⟨negative', code'⟩ := y
  rw [agrees, Bool.or_eq_true, Bool.and_eq_true, unsigned, unsigned]
  cases zero : Double.isZero ⟨negative, code⟩ with
  | true =>
    have first : code = 0 := by simpa [isZero] using zero
    cases zero' : Double.isZero ⟨negative', code'⟩ with
    | true =>
      have second : code' = 0 := by simpa [isZero] using zero'
      simp [first, second]
    | false =>
      have second : code' ≠ 0 := by simpa [isZero] using zero'
      simp [first, Ne.symm second]
  | false =>
    have first : code ≠ 0 := by simpa [isZero] using zero
    cases zero' : Double.isZero ⟨negative', code'⟩ with
    | true =>
      have second : code' = 0 := by simpa [isZero] using zero'
      simp [first, second]
    | false => simp

/-- The number, a zero without its sign. -/
def Number.unsigned : Number → Number
  | int i => int i
  | double x => double x.unsigned

/-- Numbers agree if they are the same but for the sign of zero. -/
theorem Number.agrees_iff (m n : Number) : m.agrees n = true ↔ m.unsigned = n.unsigned := by
  cases m <;> cases n <;> simp [agrees, unsigned, Double.agrees_iff]

namespace Value

mutual

/-- The value, all zeros inside without their sign. -/
def unsigned : Value → Value
  | number n => number n.unsigned
  | list items => list (unsignedItems items)
  | object fields => object (unsignedFields fields)
  | v => v

/-- The same of items. -/
def unsignedItems : List Value → List Value
  | [] => []
  | v :: items => unsigned v :: unsignedItems items

/-- The same of fields. -/
def unsignedFields : List (String × Value) → List (String × Value)
  | [] => []
  | (k, v) :: fields => (k, unsigned v) :: unsignedFields fields

end

mutual

/-- **Values agree if they are the same but for the sign of zeros.** -/
theorem agrees_iff (v w : Value) : v.agrees w = true ↔ v.unsigned = w.unsigned := by
  cases v <;> cases w <;> simp [agrees, unsigned]
  · exact Number.agrees_iff _ _
  · exact agreesList_iff _ _
  · exact agreesFields_iff _ _

/-- Items agree one by one. -/
theorem agreesList_iff (vs ws : List Value) :
    agreesList vs ws = true ↔ unsignedItems vs = unsignedItems ws := by
  cases vs <;> cases ws <;> simp [agreesList, unsignedItems]
  next v vs w ws => rw [agrees_iff v w, agreesList_iff vs ws]

/-- Fields agree one by one. -/
theorem agreesFields_iff (vs ws : List (String × Value)) :
    agreesFields vs ws = true ↔ unsignedFields vs = unsignedFields ws := by
  cases vs <;> cases ws <;> simp [agreesFields, unsignedFields]
  next e vs f ws =>
    obtain ⟨j, v⟩ := e
    obtain ⟨k, w⟩ := f
    simp [agrees_iff v w, agreesFields_iff vs ws]

end

end Value
end Rollout
