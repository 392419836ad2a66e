/-
# Whose hooks the notes tell of

Scripts note the calls of their hooks in one log, as `id:hook`, and the hooks of an id are read back
by taking off the id and the colon after it. A hook's name has no colon, so what a note is read as
depends on where the id of its script stands to the other (`HookCall.behind_mark`):

| id of the script | read under `id` as |
| --- | --- |
| `id` | the hook |
| `id:rest` | `rest:hook` |
| any other | nothing |

An id may hold colons itself. So the hooks of an id are those called on it exactly if no call was on
an id that goes on behind it with a colon (`HookLog.hooksOf_afterCalls`), and there can be such
calls (`HookLog.hooksOf_nested`).
-/

import Rollout.Lifecycle.Scripted

namespace Rollout

/-! ## Calls -/

/-- A hook with what it is handed. -/
inductive Hook
  | deploy (ctx : DeployContext)
  | setup (ctx : PhaseContext)
  | validate (ctx : ValidateContext) (set : AssertionSet)
  | teardown (ctx : PhaseContext)

/-- The name of a hook. -/
def Hook.name : Hook → String
  | deploy _ => "deploy"
  | setup _ => "setup"
  | validate _ _ => "validate"
  | teardown _ => "teardown"

/-- The world after a hook of a lifecycle was called in it. -/
def Lifecycle.call {σ : Type} (l : Lifecycle σ) (w : World σ) : Hook → World σ
  | .deploy ctx => (l.deploy ctx w).2
  | .setup ctx => (l.setup ctx w).2
  | .validate ctx set => { w with rest := (l.validate ctx set w.rest).2.2 }
  | .teardown ctx => (l.teardown ctx w).2

/-- A call of a hook of a script, with the world that it finds, the log in it aside. -/
structure HookCall where
  script : Script
  hook : Hook
  world : LoggedWorld

namespace HookCall

/-- What the call notes. -/
def mark (c : HookCall) : String := c.script.mark c.hook.name

/-- The log after the call, if it finds this one. -/
def after (c : HookCall) (log : HookLog) : HookLog :=
  (c.script.lifecycle.call { c.world with rest := { c.world.rest with own := log } } c.hook).rest.own

end HookCall

/-- The functions of the script leave the log alone: nothing but the calls is noted. -/
structure Script.Quiet (s : Script) : Prop where
  deploy : ∀ hook, s.deploy = some hook → ∀ ctx w, (hook ctx w).2.rest.own = w.rest.own
  setup : ∀ hook, s.setup = some hook → ∀ ctx w, (hook ctx w).2.rest.own = w.rest.own
  validate : ∀ hook, s.validate = some hook → ∀ ctx set rest, (hook ctx set rest).2.2.own = rest.own
  teardown : ∀ hook, s.teardown = some hook → ∀ ctx w, (hook ctx w).2.rest.own = w.rest.own

namespace HookLog

/-- The log that calls leave, one after another, of scripts that share it. -/
def afterCalls (calls : List HookCall) : HookLog := calls.foldl (fun log c => c.after log) []

/-- The hooks that were called on the scripts with an id, in order. -/
def called (calls : List HookCall) (id : String) : List String :=
  (calls.filter (·.script.id = id)).map (·.hook.name)

/-- An id goes on behind another one, after a colon. -/
def GoesOn (id other : String) : Prop := ∃ rest, other = id ++ ":" ++ rest

/-- What stands in a text behind an id and a colon. -/
def behind (id e : String) : Option String :=
  let start := (id ++ ":").toList
  if start.isPrefixOf e.toList then some (String.ofList (e.toList.drop start.length)) else none

end HookLog

/-- What the note of a call is read as under an id. -/
def HookCall.readAs (c : HookCall) (id : String) : Option String :=
  if c.script.id = id then some c.hook.name
  else (HookLog.behind id c.script.id).map (· ++ ":" ++ c.hook.name)

/-! ## What a call notes -/

/-- A script whose hooks are not written is quiet. -/
theorem Script.quiet_blank (id : String) : ({ id } : Script).Quiet :=
  ⟨nofun, nofun, nofun, nofun⟩

/-- A quiet script stays quiet when the resources that it deploys are set. -/
theorem Script.Quiet.deploying {s : Script} (h : s.Quiet) (handles : List Handle) :
    (s.deploying handles).Quiet where
  deploy hook same ctx w := by
    obtain rfl := Option.some.inj same
    rfl
  setup := h.setup
  validate := h.validate
  teardown := h.teardown

/-- A call adds its note to the log, and nothing else. -/
theorem HookCall.after_eq {c : HookCall} (quiet : c.script.Quiet) (log : HookLog) :
    c.after log = log ++ [c.mark] := by
  obtain ⟨⟨id, deploy, setup, validate, teardown⟩, hook, world⟩ := c
  cases hook with
  | deploy ctx =>
    cases deploy with
    | none => rfl
    | some f => exact quiet.deploy f rfl ctx _
  | setup ctx =>
    cases setup with
    | none => rfl
    | some f => exact quiet.setup f rfl ctx _
  | validate ctx set =>
    cases validate with
    | none => rfl
    | some f => exact quiet.validate f rfl ctx set _
  | teardown ctx =>
    cases teardown with
    | none => rfl
    | some f => exact quiet.teardown f rfl ctx _

namespace HookLog

variable {calls : List HookCall} {id e t : String}

/-- Calls on quiet scripts add one entry each to a log, in order. -/
theorem foldl_after (quiet : ∀ c ∈ calls, c.script.Quiet) (log : HookLog) :
    calls.foldl (fun log c => c.after log) log = log ++ calls.map HookCall.mark := by
  induction calls generalizing log with
  | nil => exact (List.append_nil log).symm
  | cons c calls ih =>
    rw [List.foldl_cons, HookCall.after_eq (quiet c List.mem_cons_self),
      ih fun c' h => quiet c' (List.mem_cons_of_mem c h), List.append_assoc, List.map_cons,
      List.singleton_append]

/-- The log holds one note of each call, in order. -/
theorem afterCalls_eq (quiet : ∀ c ∈ calls, c.script.Quiet) :
    afterCalls calls = calls.map HookCall.mark := foldl_after quiet []

/-! ## What is read under an id -/

/-- The hooks of an id are what is behind it in the entries of the log. -/
theorem hooksOf_eq (log : HookLog) (id : String) : log.hooksOf id = log.filterMap (behind id) := rfl

/-- What is behind an id in an entry is all that follows the colon behind it. -/
theorem behind_eq_some_iff : behind id e = some t ↔ e = id ++ ":" ++ t := by
  have whole : (id ++ ":" ++ t).toList = (id ++ ":").toList ++ t.toList := String.toList_append
  rw [behind, ← String.toList_inj, whole]
  split
  · next starts =>
    obtain ⟨rest, split⟩ := List.isPrefixOf_iff_prefix.1 starts
    rw [← split, List.drop_left, Option.some.injEq, List.append_cancel_left_eq,
      ← String.toList_inj, String.toList_ofList]
  · next other =>
    refine ⟨nofun, fun same => absurd ?_ other⟩
    rw [same]
    exact List.isPrefixOf_iff_prefix.2 (List.prefix_append _ _)

/-- Nothing is behind an id in an entry that does not go on behind it. -/
theorem behind_eq_none_iff : behind id e = none ↔ ¬ GoesOn id e := by
  simp only [GoesOn, ← behind_eq_some_iff, Option.eq_none_iff_forall_ne_some, not_exists, ne_eq]

/-- Text with a colon in it, as characters. -/
theorem toList_append_colon (s t : String) :
    (s ++ ":" ++ t).toList = s.toList ++ ':' :: t.toList := by
  rw [String.toList_append, String.toList_append, List.append_assoc]
  rfl

/-- An id does not go on behind itself: it would be longer than it is. -/
theorem not_goesOn_self (id : String) : ¬ GoesOn id id := by
  rintro ⟨rest, same⟩
  have longer := congrArg (·.toList.length) same
  simp only [toList_append_colon, List.length_append, List.length_cons] at longer
  omega

end HookLog

/-- No hook has a colon in its name. -/
theorem Hook.colon_not_mem_name (h : Hook) : ':' ∉ h.name.toList := by
  cases h <;> simp [name]

/-- Texts with a colon in them are the same if both parts are, or else if the part before the colon
holds a colon too; that after it does not. -/
theorem append_colon_eq_iff {i h id t : List Char} (plain : ':' ∉ h) :
    i ++ ':' :: h = id ++ ':' :: t ↔
      (i = id ∧ h = t) ∨ ∃ rest, i = id ++ ':' :: rest ∧ t = rest ++ ':' :: h := by
  constructor
  · intro same
    rcases List.append_eq_append_iff.1 same with ⟨more, rfl, tail⟩ | ⟨rest, rfl, tail⟩
    · cases more with
      | nil => exact .inl ⟨(List.append_nil i).symm, (List.cons.inj tail).2⟩
      | cons c more =>
        refine absurd ?_ plain
        rw [(List.cons.inj tail).2]
        exact List.mem_append_right _ List.mem_cons_self
    · cases rest with
      | nil => exact .inl ⟨List.append_nil id, (List.cons.inj tail).2.symm⟩
      | cons c rest =>
        obtain ⟨rfl, back⟩ := List.cons.inj tail
        exact .inr ⟨rest, rfl, back⟩
  · rintro (⟨rfl, rfl⟩ | ⟨rest, rfl, rfl⟩)
    · rfl
    · rw [List.append_assoc, List.cons_append]

namespace HookCall

open HookLog

variable {c : HookCall} {id t : String}

/-- A note begins with an id and a colon if the script has that id, or one that goes on behind it. -/
theorem mark_eq_iff : c.mark = id ++ ":" ++ t ↔ (c.script.id = id ∧ c.hook.name = t) ∨
    ∃ rest, c.script.id = id ++ ":" ++ rest ∧ t = rest ++ ":" ++ c.hook.name := by
  rw [mark, Script.mark, ← String.toList_inj, toList_append_colon, toList_append_colon,
    append_colon_eq_iff c.hook.colon_not_mem_name, String.toList_inj, String.toList_inj]
  refine or_congr_right ⟨?_, ?_⟩
  · rintro ⟨rest, front, back⟩
    refine ⟨String.ofList rest, ?_, ?_⟩
    · rw [← String.toList_inj, toList_append_colon, String.toList_ofList, front]
    · rw [← String.toList_inj, toList_append_colon, String.toList_ofList, back]
  · rintro ⟨rest, front, back⟩
    refine ⟨rest.toList, ?_, ?_⟩
    · rw [front, toList_append_colon]
    · rw [back, toList_append_colon]

/-- A note is read under an id by where the script's id stands to it. -/
theorem behind_mark (c : HookCall) (id : String) : behind id c.mark = c.readAs id := by
  ext t
  rw [behind_eq_some_iff, mark_eq_iff, readAs]
  split
  · next same =>
    rw [same, Option.some.injEq, and_iff_right rfl]
    exact or_iff_left fun ⟨rest, longer, _⟩ => not_goesOn_self id ⟨rest, longer⟩
  · next other =>
    simp only [other, false_and, false_or, Option.map_eq_some_iff, behind_eq_some_iff]
    exact exists_congr fun rest => and_congr_right fun _ => eq_comm

end HookCall

/-! ## All that is read under an id -/

section

variable {α β : Type} {f g : α → Option β}

/-- Where one function has all values of another, all that the other gives along a list is there. -/
theorem filterMap_sublist_filterMap (le : ∀ a b, g a = some b → f a = some b) (as : List α) :
    (as.filterMap g).Sublist (as.filterMap f) := by
  induction as with
  | nil => exact .slnil
  | cons a as ih =>
    rw [List.filterMap_cons, List.filterMap_cons]
    cases hg : g a with
    | some b => rw [le a b hg]; exact ih.cons_cons b
    | none =>
      cases f a with
      | some b => exact ih.cons b
      | none => exact ih

/-- Where one function has all values of another, they give the same list only if they have the same
values along it. -/
theorem filterMap_eq_filterMap_iff (le : ∀ a b, g a = some b → f a = some b) (as : List α) :
    as.filterMap f = as.filterMap g ↔ ∀ a ∈ as, f a = g a := by
  induction as with
  | nil => exact ⟨nofun, fun _ => rfl⟩
  | cons a as ih =>
    rw [List.filterMap_cons, List.filterMap_cons, List.forall_mem_cons, ← ih]
    cases hg : g a with
    | some b => simp [le a b hg]
    | none =>
      cases f a with
      | none => simp
      | some b =>
        refine ⟨fun same => ?_, nofun⟩
        -- The list of `f` is longer by this value, and not shorter in what follows.
        have longer : (b :: as.filterMap f).length = (as.filterMap g).length :=
          congrArg List.length same
        have shorter := (filterMap_sublist_filterMap le as).length_le
        rw [List.length_cons] at longer
        omega

end

namespace HookLog

variable {calls : List HookCall} {id : String}

/-- The hooks that were called on an id, entry by entry. -/
theorem called_eq (calls : List HookCall) (id : String) :
    called calls id
      = calls.filterMap fun c => if c.script.id = id then some c.hook.name else none := by
  rw [called, ← List.filterMap_eq_map', List.filterMap_filter]
  simp only [decide_eq_true_eq]

/-- A hook called on a script of the id is read back as itself. -/
theorem readAs_eq_some (c : HookCall) (hook : String)
    (h : (if c.script.id = id then some c.hook.name else none) = some hook) :
    c.readAs id = some hook := by
  split at h
  · next same => rw [HookCall.readAs, if_pos same, h]
  · cases h

/-- An entry is read as its hook exactly if its id does not go on behind the other one. -/
theorem readAs_eq_iff (c : HookCall) (id : String) :
    c.readAs id = (if c.script.id = id then some c.hook.name else none) ↔
      ¬ GoesOn id c.script.id := by
  rw [HookCall.readAs]
  split
  · next same =>
    rw [same]
    exact ⟨fun _ => not_goesOn_self id, fun _ => rfl⟩
  · rw [Option.map_eq_none_iff, behind_eq_none_iff]

/-- **What the notes of calls are read back as.** Under an id come the hooks called on the scripts
of that id, in order, and beside them something for every call on a script whose id goes on behind
it with a colon. So they are the hooks of that id exactly if there is no such call. -/
theorem hooksOf_afterCalls (quiet : ∀ c ∈ calls, c.script.Quiet) (id : String) :
    (afterCalls calls).hooksOf id = calls.filterMap (·.readAs id) ∧
      (called calls id).Sublist ((afterCalls calls).hooksOf id) ∧
      ((afterCalls calls).hooksOf id = called calls id ↔
        ∀ c ∈ calls, ¬ GoesOn id c.script.id) := by
  have read : (afterCalls calls).hooksOf id = calls.filterMap (·.readAs id) := by
    rw [afterCalls_eq quiet, hooksOf_eq, List.filterMap_map]
    exact congrArg (List.filterMap · calls) (funext fun c => c.behind_mark id)
  refine ⟨read, ?_, ?_⟩
  · rw [read, called_eq]
    exact filterMap_sublist_filterMap readAs_eq_some calls
  · rw [read, called_eq, filterMap_eq_filterMap_iff readAs_eq_some]
    exact forall_congr' fun c => forall_congr' fun _ => readAs_eq_iff c id

end HookLog

/-! ## Nested ids -/

namespace Drill

/-- A script that deploys a pool. -/
def pooling : Script := ({ id := "a" } : Script).deploying [{ name := "pool", address := .ofNat 2 }]

/-- What the hooks are called with, which they do not look at. -/
def phase : PhaseContext where
  deployer := .ofNat 9
  registry := .empty
  previous := .empty
  resources := []
  outputs := .empty
  logging := false

/-- A call that finds an empty chain. -/
def calling (script : Script) (hook : Hook) : HookCall :=
  { script, hook, world := { chain := .empty, rest := { own := [] } } }

/-- Calls on three scripts by turns, the id of one of them going on behind that of another. -/
def nested : List HookCall :=
  [calling pooling (.deploy { deployer := .ofNat 9, registry := .empty, logging := false }),
    calling { id := "a:b" } (.setup phase), calling { id := "c" } (.setup phase),
    calling pooling (.setup phase), calling { id := "a:b" } (.teardown phase)]

/-- The two scripts are quiet. -/
theorem quiet_nested : ∀ c ∈ nested, c.script.Quiet := by
  have pooling : pooling.Quiet := (Script.quiet_blank "a").deploying _
  simp only [nested, calling, List.forall_mem_cons]
  exact ⟨pooling, Script.quiet_blank _, Script.quiet_blank _, pooling, Script.quiet_blank _,
    List.forall_mem_nil _⟩

end Drill

namespace HookLog

/-- Nothing goes on behind the longer id or the one apart, and their hooks are told from all others. -/
theorem hooksOf_afterCalls_drill : (∀ c ∈ Drill.nested, c.script.Quiet) ∧
    (afterCalls Drill.nested).hooksOf "a:b" = called Drill.nested "a:b" ∧
      called Drill.nested "a:b" = ["setup", "teardown"] ∧
        (afterCalls Drill.nested).hooksOf "c" = called Drill.nested "c" := by
  have read := fun id => (hooksOf_afterCalls Drill.quiet_nested id).1
  rw [read, read]
  exact ⟨Drill.quiet_nested, by decide +kernel⟩

/-- **Calls on another script may be read under an id**, as hooks that no lifecycle has. -/
theorem hooksOf_nested : (∀ c ∈ Drill.nested, c.script.Quiet) ∧
    (afterCalls Drill.nested).hooksOf "a" = ["deploy", "b:setup", "setup", "b:teardown"] ∧
      called Drill.nested "a" = ["deploy", "setup"] :=
  ⟨Drill.quiet_nested, by decide +kernel⟩

end HookLog

end Rollout
