/-
# What a merge calls revived

A merge notes a name as revived if it finds a deprecated entry under it and puts another entry in
its place. It does not ask whether that other entry is live:

| before | incoming | noted as | afterwards |
| --- | --- | --- | --- |
| deprecated | live | revived | live |
| deprecated | the same | unchanged | deprecated |
| deprecated | deprecated, another resource | revived | deprecated |

So every name that comes back into use is noted, and besides exactly those that are out of use on
both sides for different resources (`Registry.mem_revived_iff`). The list is right about all names
but these (`Registry.revived_iff`), and there can be some (`Registry.revived_still_deprecated`).
-/

import Rollout.Proofs.Registry.Merging

namespace Rollout

/-! ## Two small registries -/

namespace Drill

/-- The resource of one name at an address. -/
def lens (n : Nat) : Handle := { name := "lens", address := .ofNat n }

/-- A registry in which it is out of use. -/
def shelved (n : Nat) : Registry := ⟨(Snapshot.ofHandles [lens n]).retire "lens", []⟩

end Drill

namespace Registry

variable {a b : Registry} {n : String}

/-- A name that is out of use in `a` is in use once `b` is merged into it. -/
def ComesBack (a b : Registry) (n : String) : Prop :=
  a.current.isDeprecated n = true ∧ (a.merge b).2.current.isLive n = true

/-- A name is out of use on both sides, but for different resources. -/
def TwiceRetired (a b : Registry) (n : String) : Prop :=
  ∃ h h', a.current.entries.find? n = some ⟨h, .deprecated⟩ ∧
    b.current.entries.find? n = some ⟨h', .deprecated⟩ ∧ h ≠ h'

/-- A name comes back by a live entry that is put over a deprecated one. -/
theorem comesBack_iff :
    ComesBack a b n ↔ ∃ h h', a.current.entries.find? n = some ⟨h, .deprecated⟩ ∧
      b.current.entries.find? n = some (.live h') := by
  rw [ComesBack, Snapshot.isDeprecated_iff, Snapshot.isLive_iff]
  simp only [Snapshot.get_eq_ok_iff, entry_merge]
  constructor
  · rintro ⟨⟨h, before⟩, h', after⟩
    refine ⟨h, h', before, ?_⟩
    cases incoming : b.current.entries.find? n with
    | none =>
      rw [incoming, Option.none_or, before] at after
      cases after
    | some e =>
      rw [incoming, Option.some_or] at after
      exact after
  · rintro ⟨h, h', before, incoming⟩
    exact ⟨⟨h, before⟩, h', by rw [incoming, Option.some_or]⟩

/-- What is out of use on both sides stays out of use. -/
theorem ComesBack.not_twiceRetired (back : ComesBack a b n) : ¬ TwiceRetired a b n := by
  obtain ⟨-, k, -, live⟩ := comesBack_iff.1 back
  rintro ⟨h, h', -, dead, -⟩
  rw [live] at dead
  cases dead

/-- **What is noted as revived**: the names that come back, and those that are retired twice. -/
theorem mem_revived_iff :
    n ∈ (a.merge b).1.revived ↔ ComesBack a b n ∨ TwiceRetired a b n := by
  have noted : n ∈ (a.merge b).1.revived ↔ ∃ e, b.current.entries.find? n = some e ∧
      ∃ p, a.current.entries.find? n = some p ∧ p ≠ e ∧ p.isLive = false := by
    simp only [merge, mergeSummary, mem_namesWhere, Option.any_eq_true, Bool.and_eq_true,
      decide_eq_true_eq, Bool.not_eq_true']
  rw [noted, comesBack_iff]
  constructor
  · rintro ⟨⟨h', status⟩, incoming, ⟨h, status'⟩, before, other, dead⟩
    cases status' with
    | live => cases dead
    | deprecated =>
      cases status with
      | live => exact .inl ⟨h, h', before, incoming⟩
      | deprecated =>
        refine .inr ⟨h, h', before, incoming, ?_⟩
        rintro rfl
        exact other rfl
  · rintro (⟨h, h', before, incoming⟩ | ⟨h, h', before, incoming, differ⟩)
    · have other : (⟨h, .deprecated⟩ : Entry) ≠ .live h' := by simp [Entry.live]
      exact ⟨_, incoming, _, before, other, rfl⟩
    · have other : (⟨h, .deprecated⟩ : Entry) ≠ ⟨h', .deprecated⟩ := fun same =>
        differ (congrArg Entry.handle same)
      exact ⟨_, incoming, _, before, other, rfl⟩

/-- **A name is noted as revived exactly if it came back**, for those names that are not retired on
both sides for different resources, and for no others. -/
theorem revived_iff (a b : Registry) (n : String) :
    (n ∈ (a.merge b).1.revived ↔ ComesBack a b n) ↔ ¬ TwiceRetired a b n := by
  rw [mem_revived_iff]
  constructor
  · intro exact twice
    exact (exact.1 (.inr twice)).not_twiceRetired twice
  · exact fun once => or_iff_left once

/-- **A name may be noted as revived though it is still out of use.** Both registries have retired
the name, each for a resource of its own. -/
theorem revived_still_deprecated :
    (∃ h, (ofHandles [Drill.lens 1]).markDeprecated "lens" = .ok (h, Drill.shelved 1)) ∧
    (∃ h, (ofHandles [Drill.lens 4]).markDeprecated "lens" = .ok (h, Drill.shelved 4)) ∧
      (Drill.shelved 1).current.isDeprecated "lens" = true ∧
      ((Drill.shelved 1).merge (Drill.shelved 4)).2.current.isLive "lens" = false ∧
      ((Drill.shelved 1).merge (Drill.shelved 4)).1.revived = ["lens"] ∧
      ¬ ∀ n, n ∈ ((Drill.shelved 1).merge (Drill.shelved 4)).1.revived ↔
        ComesBack (Drill.shelved 1) (Drill.shelved 4) n := by
  have revived : ((Drill.shelved 1).merge (Drill.shelved 4)).1.revived = ["lens"] := by
    decide +kernel
  have dead : ((Drill.shelved 1).merge (Drill.shelved 4)).2.current.isLive "lens" = false := by
    decide +kernel
  refine ⟨⟨Drill.lens 1, rfl⟩, ⟨Drill.lens 4, rfl⟩, by decide +kernel, dead, revived, ?_⟩
  intro exact
  have back := (exact "lens").1 (revived ▸ List.mem_singleton_self _)
  rw [ComesBack, dead] at back
  cases back.2

end Registry
end Rollout
