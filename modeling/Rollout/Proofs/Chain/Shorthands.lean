/-
# Methods that name their role

Five roles have methods of their own, by which they are given and taken. What such a method's name
fixes, the methods for all roles take as their first argument:

| call | is the same as |
| --- | --- |
| `grantGovernor a`, `revokeGovernor a` | `grantRole "GOVERN_ROLE" a`, `revokeRole "GOVERN_ROLE" a` |
| `grantMinter a`, `revokeMinter a` | `grantRole "MINTER_ROLE" a`, `revokeRole "MINTER_ROLE" a` |
| and so on for `Guardian`, `Burner` and `PCVController` | |

Both are accepted on the same chains and from the same senders, and then do the same. Any other name
that begins like these is the name of no method (`Chain.shorthands`).
-/

import Rollout.Proofs.Chain.Access

namespace Rollout

/-- The roles that have methods of their own, by what these methods are called after. -/
def Role.titles : List (String × String) :=
  [("Governor", "GOVERN_ROLE"), ("Guardian", "GUARDIAN_ROLE"), ("Minter", "MINTER_ROLE"),
    ("Burner", "BURNER_ROLE"), ("PCVController", "PCV_CONTROLLER_ROLE")]

/-- How the name of a method begins that gives (`true`) or takes roles. -/
def Method.verb (grant : Bool) : String := if grant then "grant" else "revoke"

/-- A call of a method whose name begins so. -/
def Call.onRoles (target : Address) (value : Amount) (grant : Bool) (noun : String)
    (arguments : List Value) : Call :=
  { target, method := Method.verb grant ++ noun, arguments, value }

namespace Method

/-! ## Names -/

/-- The verb of a name is told by its first letter. -/
theorem head?_verb_append (grant : Bool) (noun : String) :
    (verb grant ++ noun).toList.head? = some (if grant then 'g' else 'r') := by
  rw [String.toList_append]
  cases grant <;> rfl

/-- A name is made in one way of a beginning and what follows it. -/
theorem verb_append_inj {grant grant' : Bool} {noun noun' : String} :
    verb grant ++ noun = verb grant' ++ noun' ↔ grant = grant' ∧ noun = noun' := by
  constructor
  · intro same
    have heads := congrArg (fun s : String => s.toList.head?) same
    simp only [head?_verb_append] at heads
    obtain rfl : grant = grant' := by cases grant <;> cases grant' <;> simp_all
    exact ⟨rfl, (String.append_right_inj _).1 same⟩
  · rintro ⟨rfl, rfl⟩
    rfl

/-- The verb and a title are the name of the change of its role. -/
theorem ofName_title {noun role : String} (h : (noun, role) ∈ Role.titles) (grant : Bool) :
    ofName (verb grant ++ noun) = .changeFixedRole role grant := by
  have all : ∀ x ∈ Role.titles, ∀ grant,
      ofName (verb grant ++ x.1) = .changeFixedRole x.2 grant := by decide
  exact all _ h grant

/-- The verb and the word role are the name of the change of any role. -/
theorem ofName_role (grant : Bool) : ofName (verb grant ++ "Role") = .changeRole grant := by
  cases grant <;> decide

/-- A noun that is no title names no role. -/
theorem find?_verb_eq_none {noun : String} (h : noun ∉ Role.titles.map (·.1))
    (grant grant' : Bool) :
    fixedRoles.find? (fun r => verb grant' ++ r.1 == verb grant ++ noun) = none := by
  rw [List.find?_eq_none]
  intro r hr same
  have named : r.1 = noun := (verb_append_inj.1 (eq_of_beq same)).2
  exact h (named ▸ List.mem_map_of_mem hr)

/-- Every other name that begins so is the name of no method. -/
theorem ofName_verb_append {noun : String} (other : noun ≠ "Role")
    (untitled : noun ∉ Role.titles.map (·.1)) (grant : Bool) :
    ofName (verb grant ++ noun) = .unknown := by
  have granting : fixedRoles.find? (fun r => "grant" ++ r.1 == verb grant ++ noun) = none :=
    find?_verb_eq_none untitled grant true
  have revoking : fixedRoles.find? (fun r => "revoke" ++ r.1 == verb grant ++ noun) = none :=
    find?_verb_eq_none untitled grant false
  have role : ∀ grant', verb grant ++ noun ≠ verb grant' ++ "Role" := fun grant' same =>
    other (verb_append_inj.1 same).2
  have head := head?_verb_append grant noun
  -- All other methods begin with another letter.
  have letter : ∀ s : String, s.toList.head? ≠ some 'g' → s.toList.head? ≠ some 'r' →
      verb grant ++ noun ≠ s := by
    rintro s notG notR rfl
    cases grant
    · exact notR head
    · exact notG head
  unfold ofName
  rw [granting]
  dsimp only
  rw [revoking]
  dsimp only
  split
  case h_1 same => exact absurd same (role true)
  case h_2 same => exact absurd same (role false)
  case h_10 => rfl
  all_goals
    next same => exact absurd same (letter _ (by decide) (by decide))

end Method

namespace Call

/-! ## Arguments -/

variable {call : Call} {i : Nat}

/-- An argument is had exactly if it is there. -/
theorem argument_eq_ok_iff {v : Value} :
    call.argument i = .ok v ↔ call.arguments[i]? = some v := by
  rw [argument]
  cases call.arguments[i]? <;> simp

/-- An argument is had as text exactly if it is text. -/
theorem textArgument_eq_ok_iff {s : String} :
    call.textArgument i = .ok s ↔ call.arguments[i]? = some (.text s) := by
  simp only [textArgument, bind_eq_ok_iff, argument_eq_ok_iff]
  constructor
  · rintro ⟨v, found, read⟩
    cases v with
    | text s' =>
      cases read
      exact found
    | _ => cases read
  · exact fun found => ⟨_, found, rfl⟩

/-- An argument is an address if it is text that is read as one. -/
theorem addressArgument_eq_ok_iff {a : Address} :
    call.addressArgument i = .ok a ↔
      ∃ s, call.arguments[i]? = some (.text s) ∧ Address.ofText s = .ok a := by
  simp only [addressArgument, bind_eq_ok_iff, textArgument_eq_ok_iff]
  refine exists_congr fun s => and_congr_right fun _ => ?_
  cases Address.ofText s with
  | error e => exact iff_of_false nofun nofun
  | ok b => simp [pure, Except.pure]

end Call

namespace Chain

variable {c c' : Chain} {sender target : Address} {value : Amount} {grant : Bool}
  {noun role : String} {args : List Value} {e : Event}

/-! ## One call -/

/-- A method that names its role gives it to its first argument, or takes it. -/
theorem perform_title (h : (noun, role) ∈ Role.titles) :
    c.perform sender (.onRoles target value grant noun args) = .ok (e, c') ↔
      ∃ s a, args[0]? = some (.text s) ∧ Address.ofText s = .ok a ∧
        c.requireRole [Role.govern] sender = .ok () ∧ c.changeRole role a grant = (e, c') := by
  have method : Method.ofName (Call.onRoles target value grant noun args).method
      = .changeFixedRole role grant := Method.ofName_title h grant
  simp only [perform, method, bind_eq_ok_iff, Call.addressArgument_eq_ok_iff]
  constructor
  · rintro ⟨a, ⟨s, text, read⟩, ⟨⟩, asked, done⟩
    exact ⟨s, a, text, read, asked, Except.ok.inj done⟩
  · rintro ⟨s, a, text, read, asked, done⟩
    exact ⟨a, ⟨s, text, read⟩, (), asked, congrArg Except.ok done⟩

/-- The methods for all roles do so with the role that is their first argument. -/
theorem perform_role :
    c.perform sender (.onRoles target value grant "Role" (.text role :: args)) = .ok (e, c') ↔
      ∃ s a, args[0]? = some (.text s) ∧ Address.ofText s = .ok a ∧
        c.requireRole [Role.govern] sender = .ok () ∧ c.changeRole role a grant = (e, c') := by
  have method : Method.ofName
      (Call.onRoles target value grant "Role" (.text role :: args)).method = .changeRole grant :=
    Method.ofName_role grant
  simp only [perform, method, bind_eq_ok_iff, Call.textArgument_eq_ok_iff,
    Call.addressArgument_eq_ok_iff]
  constructor
  · rintro ⟨role', named, a, ⟨s, text, read⟩, ⟨⟩, asked, done⟩
    cases named
    exact ⟨s, a, text, read, asked, Except.ok.inj done⟩
  · rintro ⟨s, a, text, read, asked, done⟩
    exact ⟨role, rfl, a, ⟨s, text, read⟩, (), asked, congrArg Except.ok done⟩

/-- The currency is attached before the method is looked at. -/
theorem apply_onRoles (c : Chain) (sender target : Address) (value : Amount) (grant : Bool)
    (noun : String) (args : List Value) :
    c.apply sender (.onRoles target value grant noun args) = (do
      let _ ← c.contract target
      let c ← c.attach sender { target, method := "", value }
      c.perform sender (.onRoles target value grant noun args)) := rfl

/-- **A shorthand does what the long form does with the role as its argument.** -/
theorem apply_title_iff (h : (noun, role) ∈ Role.titles) :
    c.apply sender (.onRoles target value grant noun args) = .ok (e, c') ↔
      c.apply sender (.onRoles target value grant "Role" (.text role :: args)) = .ok (e, c') := by
  simp only [apply_onRoles, bind_eq_ok_iff, perform_title h, perform_role]

/-- **Methods that name their role** are the methods for all roles with that role in front of the
arguments, whatever the arguments, and no other name begins like theirs. -/
theorem shorthands (c : Chain) (sender target : Address) (value : Amount) (grant : Bool)
    (args : List Value) :
    (∀ noun role, (noun, role) ∈ Role.titles → ∀ receipt c',
      c.call sender (.onRoles target value grant noun args) = .ok (receipt, c') ↔
        c.call sender (.onRoles target value grant "Role" (.text role :: args))
          = .ok (receipt, c')) ∧
    ∀ noun, noun ≠ "Role" → noun ∉ Role.titles.map (·.1) →
      ∃ e, c.submit sender (.onRoles target value grant noun args) = (.error e, c) := by
  constructor
  · intro noun role titled receipt c'
    rw [Chain.call, Chain.call, bind_eq_ok_iff, bind_eq_ok_iff]
    refine exists_congr fun x => and_congr_left fun _ => ?_
    exact apply_title_iff titled
  · intro noun other untitled
    have method : Method.ofName (Call.onRoles target value grant noun args).method = .unknown :=
      Method.ofName_verb_append other untitled grant
    have refused : ∀ c₁ : Chain, c₁.perform sender (.onRoles target value grant noun args)
        = .error (.unknownMethod (Method.verb grant ++ noun)) := by
      intro c₁
      rw [perform, method]
      rfl
    cases applied : c.apply sender (.onRoles target value grant noun args) with
    | error e => exact ⟨e, submit_of_error applied⟩
    | ok x =>
      simp only [apply_onRoles, bind_eq_ok_iff, refused] at applied
      obtain ⟨_, -, c₁, -, ⟨⟩⟩ := applied

/-- The governor of the bank makes a minter by either call, and no method is called after minters in
the plural. -/
theorem shorthands_bank :
    ("Minter", "MINTER_ROLE") ∈ Role.titles ∧
      (Drill.bank.call (.ofNat 7)
        (.onRoles Drill.coin .zero true "Minter" [(Address.ofNat 4).toValue])).isOk = true ∧
      (∀ receipt c', Drill.bank.call (.ofNat 7)
          (.onRoles Drill.coin .zero true "Minter" [(Address.ofNat 4).toValue])
            = .ok (receipt, c') ↔
        Drill.bank.call (.ofNat 7)
          (.onRoles Drill.coin .zero true "Role" [.text "MINTER_ROLE", (Address.ofNat 4).toValue])
            = .ok (receipt, c')) ∧
      "Minters" ≠ "Role" ∧ "Minters" ∉ Role.titles.map (·.1) ∧
      ∃ e, Drill.bank.submit (.ofNat 7)
        (.onRoles Drill.coin .zero true "Minters" [(Address.ofNat 4).toValue])
          = (.error e, Drill.bank) := by
  have titled : ("Minter", "MINTER_ROLE") ∈ Role.titles := by decide
  have other : "Minters" ≠ "Role" := by decide
  have untitled : "Minters" ∉ Role.titles.map (·.1) := by decide
  obtain ⟨same, none⟩ := shorthands Drill.bank (.ofNat 7) Drill.coin .zero true
    [(Address.ofNat 4).toValue]
  exact ⟨titled, by decide +kernel, same _ _ titled, other, untitled, none _ other untitled⟩

end Chain
end Rollout
