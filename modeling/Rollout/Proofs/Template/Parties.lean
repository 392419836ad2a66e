/-
# What a reference is read as

A reference should be read as the first of these that it is (`Template.Reading`), which is one
thing in every case (`Template.Reading.unique`):

| reference | stands for |
| --- | --- |
| an address with its mark | that address |
| a placeholder for a name | the live resource of the name |
| any other text | the live resource of that name |

The address is also read where the mark is missing. So forty digits are never read as a name: they
are read as they should be exactly if the resource of that name has the address that they spell
(`Template.reading_party_iff`), and a resource whose name they are is found in braces only
(`Template.party_bare_digits`).
-/

import Rollout.Proofs.Registry.Entries
import Rollout.Proofs.Template.Placeholders

namespace Rollout

/-! ## A name of digits -/

namespace Drill

/-- A resource whose name spells the address 171. -/
def cipher : Handle :=
  { name := "00000000000000000000000000000000000000ab", address := .ofNat 1 }

/-- The registry of that resource. -/
def cellar : Snapshot := .ofHandles [cipher]

end Drill

namespace Template

variable {s : Snapshot} {t n : String} {a : Address} {h : Handle}

/-! ## What should be read -/

/-- The text is an address with its mark. -/
def Literal (t : String) (a : Address) : Prop :=
  Address.Marked t.toList ∧ Address.ofText t = .ok a

/-- What a reference should be read as. -/
inductive Reading (s : Snapshot) (t : String) : Except LookupError Address → Prop
  | literal {a : Address} (read : Literal t a) : Reading s t (.ok a)
  | placeholder {n : String} (unread : ∀ a, ¬ Literal t a) (ph : Placeholder t n) :
      Reading s t (s.address n)
  | name (unread : ∀ a, ¬ Literal t a) (bare : ∀ n, ¬ Placeholder t n) : Reading s t (s.address t)

/-- There is one thing that a text should be read as. -/
theorem Reading.unique {x y : Except LookupError Address} (hx : Reading s t x)
    (hy : Reading s t y) : x = y := by
  cases hx with
  | literal read =>
    cases hy with
    | literal read' => rw [Except.ok.inj (read.2.symm.trans read'.2)]
    | placeholder unread => exact absurd read (unread _)
    | name unread => exact absurd read (unread _)
  | placeholder unread ph =>
    cases hy with
    | literal read => exact absurd read (unread _)
    | placeholder _ ph' => rw [ph.unique ph']
    | name _ bare => exact absurd ph (bare _)
  | name unread bare =>
    cases hy with
    | literal read => exact absurd read (unread _)
    | placeholder _ ph => exact absurd ph (bare _)
    | name => rfl

/-! ## What is read -/

/-- Text that is read as an address is that address. -/
theorem party_of_address (read : Address.ofText t = .ok a) : party s t = .ok a := by
  rw [party, read]

/-- A placeholder is the address of its name. -/
theorem party_of_placeholder (ph : Placeholder t n) : party s t = s.address n := by
  rw [party, placeholder?_eq_some_iff.2 ph]
  cases read : Address.ofText t with
  | ok a => exact absurd read (ph.not_address a)
  | error e => rfl

/-- Text that is neither is the address of the name that it is. -/
theorem party_of_name (unread : ∀ a, Address.ofText t ≠ .ok a) (bare : ∀ n, ¬ Placeholder t n) :
    party s t = s.address t := by
  rw [party, placeholder?_eq_none_iff.2 bare]
  cases read : Address.ofText t with
  | ok a => exact absurd read (unread a)
  | error e => rfl

/-- **A reference is read as it should be** exactly if it is not digits alone, or else the resource
of that name has the address that they spell. -/
theorem reading_party_iff (s : Snapshot) (t : String) :
    Reading s t (party s t) ↔ ∀ a, Address.Spelled t.toList a → s.address t = .ok a := by
  constructor
  · intro reading a spelled
    have read := Address.ofText_of_spelled spelled
    generalize result : party s t = r at reading
    cases reading with
    | literal literal => exact absurd literal.1 spelled.not_marked
    | placeholder _ ph => exact absurd read (ph.not_address a)
    | name => rw [← result, party_of_address read]
  · intro digits
    cases read : Address.ofText t with
    | ok a =>
      rw [party_of_address read]
      by_cases marked : Address.Marked t.toList
      · exact .literal ⟨marked, read⟩
      · rw [← digits a (Address.spelled_of_not_marked read marked)]
        exact .name (fun _ literal => marked literal.1) fun _ ph => ph.not_address a read
    | error e =>
      have unread (a : Address) : Address.ofText t ≠ .ok a := by simp [read]
      cases found : placeholder? t with
      | some n =>
        have ph := placeholder?_eq_some_iff.1 found
        rw [party_of_placeholder ph]
        exact .placeholder (fun a literal => unread a literal.2) ph
      | none =>
        have bare := placeholder?_eq_none_iff.1 found
        rw [party_of_name unread bare]
        exact .name (fun a literal => unread a literal.2) bare

/-! ## Several references -/

/-- Several references can be read if each of them can. -/
theorem exists_parties_eq_ok_iff {ts : List String} :
    (∃ as, parties s ts = .ok as) ↔ ∀ t ∈ ts, ∃ a, party s t = .ok a := by
  induction ts with
  | nil => exact ⟨fun _ => List.forall_mem_nil _, fun _ => ⟨[], rfl⟩⟩
  | cons t ts ih =>
    rw [List.forall_mem_cons, ← ih, parties]
    cases party s t with
    | error e => exact ⟨nofun, nofun⟩
    | ok a =>
      cases parties s ts with
      | error e => exact ⟨nofun, nofun⟩
      | ok as => exact ⟨fun _ => ⟨⟨a, rfl⟩, ⟨as, rfl⟩⟩, fun _ => ⟨a :: as, rfl⟩⟩

/-- What they stand for are the accounts that one of them stands for. -/
theorem mem_of_parties {ts : List String} {as : List Address} (read : parties s ts = .ok as) :
    a ∈ as ↔ ∃ t ∈ ts, party s t = .ok a := by
  induction ts generalizing as with
  | nil =>
    cases read
    simp
  | cons t ts ih =>
    rw [parties] at read
    cases here : party s t with
    | error e =>
      rw [here] at read
      cases read
    | ok b =>
      cases there : parties s ts with
      | error e =>
        rw [here, there] at read
        cases read
      | ok bs =>
        rw [here, there] at read
        cases read
        have first : a = b ↔ party s t = .ok a := by rw [here, Except.ok.injEq, eq_comm]
        simp only [List.mem_cons, ih there, first, exists_eq_or_imp]

/-! ## Live names -/

/-- The name is that of a live resource and can stand in braces. -/
structure Callable (s : Snapshot) (n : String) (h : Handle) : Prop where
  live : s.get n = .ok h
  nonempty : n ≠ ""
  unopened : opening ∉ n.toList
  unclosed : closing ∉ n.toList

namespace Callable

/-- A name that can be called on has the address of its handle. -/
theorem address (c : Callable s n h) : s.address n = .ok h.address := by
  rw [Snapshot.address, c.live]
  rfl

/-- In braces the name is read as its own resource. -/
theorem party_braced (c : Callable s n h) : party s ("\x7b" ++ n ++ "\x7d") = .ok h.address := by
  have ph : Placeholder ("\x7b" ++ n ++ "\x7d") n := ⟨rfl, c.nonempty, c.unopened, c.unclosed⟩
  rw [party_of_placeholder ph, c.address]

/-- A name that can be called on is no placeholder. -/
theorem not_placeholder (c : Callable s n h) (m : String) : ¬ Placeholder n m := by
  intro ph
  have braced : opening ∈ n.toList := by
    rw [ph.form, toList_braced]
    exact List.mem_cons_self
  exact c.unopened braced

/-- Bare it is so exactly if it does not spell another address. -/
theorem party_bare_iff (c : Callable s n h) (unmarked : ¬ Address.Marked n.toList) :
    party s n = .ok h.address ↔ ∀ a, Address.Spelled n.toList a → a = h.address := by
  constructor
  · intro found a spelled
    rw [party_of_address (Address.ofText_of_spelled spelled)] at found
    exact Except.ok.inj found
  · intro own
    cases read : Address.ofText n with
    | ok a => rw [party_of_address read, own a (Address.spelled_of_not_marked read unmarked)]
    | error e =>
      have unread (a : Address) : Address.ofText n ≠ .ok a := by simp [read]
      rw [party_of_name unread c.not_placeholder, c.address]

end Callable

/-- How references are read. -/
structure Parties (s : Snapshot) : Prop where
  /-- They are read as they should be, but for digits alone. -/
  reading : ∀ t, Reading s t (party s t) ↔
    ∀ a, Address.Spelled t.toList a → s.address t = .ok a
  /-- A live name in braces stands for its own resource. -/
  braced : ∀ n h, Callable s n h → party s ("\x7b" ++ n ++ "\x7d") = .ok h.address
  /-- So does a bare one without a mark, but for one that spells another address. -/
  bare : ∀ n h, Callable s n h → ¬ Address.Marked n.toList →
    (party s n = .ok h.address ↔ ∀ a, Address.Spelled n.toList a → a = h.address)

/-- **How references are read in every registry.** -/
theorem parties_read (s : Snapshot) : Parties s where
  reading := reading_party_iff s
  braced _ _ c := c.party_braced
  bare _ _ c := c.party_bare_iff

/-- **A live name without braces and without a mark may be read as an address that is not that of
its resource.** -/
theorem party_bare_digits :
    Callable Drill.cellar Drill.cipher.name Drill.cipher ∧
      ¬ Address.Marked Drill.cipher.name.toList ∧
      Reading Drill.cellar Drill.cipher.name (.ok (.ofNat 1)) ∧
      party Drill.cellar Drill.cipher.name = .ok (.ofNat 171) ∧
      ¬ Reading Drill.cellar Drill.cipher.name (party Drill.cellar Drill.cipher.name) ∧
      party Drill.cellar ("\x7b" ++ Drill.cipher.name ++ "\x7d") = .ok (.ofNat 1) := by
  have read : Address.ofText Drill.cipher.name = .ok (.ofNat 171) := by decide +kernel
  have unmarked : ¬ Address.Marked Drill.cipher.name.toList := by decide +kernel
  have callable : Callable Drill.cellar Drill.cipher.name Drill.cipher :=
    ⟨by decide +kernel, by decide +kernel, by decide +kernel, by decide +kernel⟩
  have proper : Reading Drill.cellar Drill.cipher.name (.ok (.ofNat 1)) :=
    callable.address ▸ .name (fun _ literal => unmarked literal.1) callable.not_placeholder
  have found : party Drill.cellar Drill.cipher.name = .ok (.ofNat 171) := party_of_address read
  refine ⟨callable, unmarked, proper, found, ?_, callable.party_braced⟩
  intro reading
  rw [found] at reading
  exact absurd (reading.unique proper) (by decide)

end Template
end Rollout
