/-
# The trail of a result

A result is asked to move on to one state after another, in any order. A request is granted if the
state can follow, and is then the last of the trail; a refused one leaves all as it was:

| state | what is granted |
| --- | --- |
| before the teardown | the next milestone, and the teardown |
| torn down | nothing |

So whatever is asked for, the trail of a new result consists of the milestones up to one of them,
each once and in order, and perhaps of the teardown behind them (`ProposalResult.Stands`). All else
is read off that shape (`ProposalResult.forward_requestAll`).
-/

import Rollout.Proofs.Run.Verdict
import Mathlib.Data.List.Induction

namespace Rollout

namespace ProposalState

/-- What a proposal goes through before its teardown. -/
def milestones : List ProposalState := [pending, deployed, configured, validated]

/-- The states up to one, and the teardown after them or not. -/
def trailTo (s : ProposalState) (down : Bool) : List ProposalState :=
  all.take (s.index + 1) ++ if down then [tornDown] else []

/-- A trail that is not torn down is the full trail up to the state. -/
theorem trailTo_false (s : ProposalState) : s.trailTo false = all.take (s.index + 1) :=
  List.append_nil _

/-- A trail that is torn down is the full trail up to the state with the last state behind it. -/
theorem trailTo_true (s : ProposalState) : s.trailTo true = all.take (s.index + 1) ++ [tornDown] :=
  rfl

/-- A milestone more. -/
theorem trailTo_append_next {s target : ProposalState} (h : target ≠ tornDown)
    (next : target.index = s.index + 1) : s.trailTo false ++ [target] = target.trailTo false := by
  revert h next
  cases s <;> cases target <;> decide

/-- What follows a state that is not the last: the teardown, and the state after it. -/
theorem mem_next_iff {s target : ProposalState} :
    target ∈ s.next ↔ s ≠ tornDown ∧ (target = tornDown ∨ target.index = s.index + 1) := by
  cases s <;> cases target <;> decide

end ProposalState

namespace ProposalResult

variable {x : ProposalResult} {s target : ProposalState} {down : Bool}

/-- What a request to move on to a state is answered, and the result from then on. -/
def request (x : ProposalResult) (target : ProposalState) :
    Except IllegalTransition Unit × ProposalResult :=
  match x.enter target with
  | .ok y => (.ok (), y)
  | .error e => (.error e, x)

/-- The result after requests one after another, be they granted or refused. -/
def requestAll (x : ProposalResult) (targets : List ProposalState) : ProposalResult :=
  targets.foldl (fun x target => (x.request target).2) x

/-- A request is granted. -/
def Grants (x : ProposalResult) (target : ProposalState) : Prop := (x.request target).1 = .ok ()

/-- A request for the teardown was granted on the way. -/
def TornBy (x : ProposalResult) (targets : List ProposalState) : Prop :=
  ∃ before after, targets = before ++ .tornDown :: after ∧ (x.requestAll before).Grants .tornDown

/-- What requests for `targets`, one after another, make of a result `x`: they come to `y`, whose
trail has only moved forward. -/
structure Forward (x : ProposalResult) (targets : List ProposalState) (y : ProposalResult) :
    Prop where
  starts : y.trail.head? = some .pending
  ascending : y.trail.Pairwise fun s t => s.index < t.index
  /-- The teardown aside, no state is left out. -/
  gapless : y.trail.filter (· ≠ .tornDown) <+: ProposalState.milestones
  /-- Nothing comes after the teardown. -/
  last : ∀ before after, y.trail = before ++ .tornDown :: after → after = []
  closed : .tornDown ∈ y.trail → ∀ target, ¬ y.Grants target
  granted_iff : ∀ target,
    y.Grants target ↔ y.state ≠ .tornDown ∧ (target = .tornDown ∨ target.index = y.state.index + 1)
  granted : ∀ target, y.Grants target →
    (y.request target).2 = { y with trail := y.trail ++ [target] }
  /-- A refusal names both states and leaves the whole result as it is. -/
  refused : ∀ target, ¬ y.Grants target →
    y.request target = (.error { source := y.state, target }, y)
  /-- The furthest state is the greatest of the trail, the teardown aside. -/
  furthest : y.terminal ∈ y.trail ∧ y.terminal ≠ .tornDown ∧
    ∀ s ∈ y.trail, s ≠ .tornDown → s.index ≤ y.terminal.index
  tornDown_iff : y.tornDown = true ↔ x.TornBy targets
  /-- Nothing but the trail changes. -/
  rest : { y with trail := x.trail } = x

/-! ## One request -/

/-- A request adds the state to the trail if it may come next, and is refused otherwise. -/
theorem request_eq (x : ProposalResult) (target : ProposalState) :
    x.request target = if target ∈ x.state.next then
        (.ok (), { x with trail := x.trail ++ [target] })
      else (.error { source := x.state, target }, x) := by
  rw [request, enter, ProposalState.step]
  by_cases follows : target ∈ x.state.next
  · rw [if_pos follows, if_pos follows]
    rfl
  · rw [if_neg follows, if_neg follows]
    rfl

/-- A request is granted exactly if the state may come next. -/
theorem grants_iff : x.Grants target ↔ target ∈ x.state.next := by
  rw [Grants, request_eq]
  split
  · next follows => exact ⟨fun _ => follows, fun _ => rfl⟩
  · next stays => exact ⟨nofun, fun follows => absurd follows stays⟩

/-- A granted request adds the state to the trail. -/
theorem request_of_grants (h : x.Grants target) :
    x.request target = (.ok (), { x with trail := x.trail ++ [target] }) := by
  rw [request_eq, if_pos (grants_iff.1 h)]

/-- A refused request is answered with both states and changes nothing. -/
theorem request_of_not_grants (h : ¬ x.Grants target) :
    x.request target = (.error { source := x.state, target }, x) := by
  rw [request_eq, if_neg (mt grants_iff.2 h)]

/-- Nothing but the trail changes. -/
theorem rest_request (x : ProposalResult) (target : ProposalState) :
    { (x.request target).2 with trail := x.trail } = x := by
  rw [request_eq]
  split <;> rfl

/-! ## The shape of a trail -/

/-- The trail goes up to a milestone, and the teardown follows it or not. -/
structure Stands (x : ProposalResult) (s : ProposalState) (down : Bool) : Prop where
  milestone : s ≠ .tornDown
  trail : x.trail = s.trailTo down

namespace Stands

/-- The state of a result tells how far it stands, or that it is torn down. -/
theorem state (h : x.Stands s down) : x.state = if down then .tornDown else s := by
  rw [ProposalResult.state, h.trail]
  cases s <;> cases down <;> rfl

/-- The furthest state of a result does not depend on whether it is torn down. -/
theorem terminal (h : x.Stands s down) : x.terminal = s := by
  refine terminal_of_trail h.milestone ?_
  cases down with
  | false => exact .inl (h.trail.trans (List.append_nil _))
  | true => exact .inr h.trail

/-- A result is torn down if its trail says so. -/
theorem tornDown (h : x.Stands s down) : x.tornDown = down := by
  rw [ProposalResult.tornDown, h.state]
  cases down with
  | false => exact decide_eq_false h.milestone
  | true => rfl

/-- A request that is granted leads to the next milestone or to the teardown, which alone ends the
trail. -/
theorem request (h : x.Stands s down) (target : ProposalState) :
    ∃ s' down', (x.request target).2.Stands s' down' ∧
      (down' = true ↔ down = true ∨ target = .tornDown ∧ x.Grants target) := by
  by_cases granted : x.Grants target
  · have follows := grants_iff.1 granted
    rw [h.state] at follows
    cases down with
    | true => exact absurd follows List.not_mem_nil
    | false =>
      rw [request_of_grants granted, h.trail]
      by_cases torn : target = .tornDown
      · subst torn
        refine ⟨s, true, ⟨h.milestone, ?_⟩, by simp [granted]⟩
        rw [ProposalState.trailTo_false, ProposalState.trailTo_true]
      · have next := (ProposalState.mem_next_iff.1 follows).2.resolve_left torn
        exact ⟨target, false, ⟨torn, ProposalState.trailTo_append_next torn next⟩, by simp [torn]⟩
  · rw [request_of_not_grants granted]
    exact ⟨s, down, h, by simp [granted]⟩

end Stands

/-! ## Requests one after another -/

variable {targets : List ProposalState}

/-- The last of several requests is made of what the others left. -/
theorem requestAll_concat (x : ProposalResult) (targets : List ProposalState)
    (target : ProposalState) :
    x.requestAll (targets ++ [target]) = ((x.requestAll targets).request target).2 := by
  rw [requestAll, List.foldl_append]
  rfl

/-- However many requests there are, nothing but the trail changes. -/
theorem rest_requestAll (x : ProposalResult) (targets : List ProposalState) :
    { x.requestAll targets with trail := x.trail } = x := by
  induction targets generalizing x with
  | nil => rfl
  | cons target targets ih =>
    have later := congrArg ({ · with trail := x.trail }) (ih (x.request target).2)
    exact later.trans (rest_request x target)

/-- One request more is granted the teardown, or an earlier one was. -/
theorem tornBy_concat : x.TornBy (targets ++ [target]) ↔
    x.TornBy targets ∨ target = .tornDown ∧ (x.requestAll targets).Grants target := by
  constructor
  · rintro ⟨before, after, split, granted⟩
    rcases after.eq_nil_or_concat with rfl | ⟨after, final, rfl⟩
    · obtain ⟨rfl, same⟩ := List.append_inj' split rfl
      obtain rfl := List.singleton_inj.1 same
      exact .inr ⟨rfl, granted⟩
    · rw [List.concat_eq_append, ← List.cons_append, ← List.append_assoc] at split
      exact .inl ⟨before, after, (List.append_inj' split rfl).1, granted⟩
  · rintro (⟨before, after, rfl, granted⟩ | ⟨rfl, granted⟩)
    · exact ⟨before, after ++ [target], by rw [List.append_assoc, List.cons_append], granted⟩
    · exact ⟨targets, [], rfl, granted⟩

/-- Whatever is asked for, the trail keeps its shape, and it ends with the teardown exactly if a
request for that was granted. -/
theorem stands_requestAll (new : x.trail = [.pending]) (targets : List ProposalState) :
    ∃ s down, (x.requestAll targets).Stands s down ∧ (down = true ↔ x.TornBy targets) := by
  -- By the last request, which meets a result that stands somewhere already.
  induction targets using List.reverseRecOn with
  | nil =>
    refine ⟨.pending, false, ⟨nofun, new⟩, nofun, ?_⟩
    rintro ⟨before, after, split, -⟩
    exact absurd split.symm (List.append_ne_nil_of_right_ne_nil _ (List.cons_ne_nil _ _))
  | append_singleton targets target ih =>
    obtain ⟨s, down, stands, torn⟩ := ih
    obtain ⟨s', down', stands', torn'⟩ := stands.request target
    rw [requestAll_concat, tornBy_concat]
    exact ⟨s', down', stands', torn'.trans (or_congr_left torn)⟩

namespace Stands

/-- Every trail begins with the first state. -/
theorem starts (h : x.Stands s down) : x.trail.head? = some .pending := by
  rw [h.trail]
  rfl

/-- States come in the order of their indices. -/
theorem ascending (h : x.Stands s down) : x.trail.Pairwise fun s t => s.index < t.index := by
  have milestone := h.milestone
  rw [h.trail]
  revert milestone
  cases s <;> cases down <;> decide

/-- But for the last state the trail is the milestones up to where it stands. -/
theorem filter_trail (h : x.Stands s down) :
    x.trail.filter (· ≠ .tornDown) = ProposalState.milestones.take (s.index + 1) := by
  have milestone := h.milestone
  rw [h.trail]
  revert milestone
  cases s <;> cases down <;> decide

/-- No state comes above the teardown, so in a trail that ascends it is the last. -/
theorem last (h : x.Stands s down) {before after : List ProposalState}
    (split : x.trail = before ++ .tornDown :: after) : after = [] := by
  have ascending := h.ascending
  rw [split, List.pairwise_append] at ascending
  cases after with
  | nil => rfl
  | cons t after =>
    have above := List.rel_of_pairwise_cons ascending.2.1 List.mem_cons_self
    cases t <;> exact absurd above (by decide)

/-- The trail holds the states up to where it stands, and the last one if it is torn down. -/
theorem mem_trail_iff (h : x.Stands s down) (t : ProposalState) :
    t ∈ x.trail ↔ if t = .tornDown then down = true else t.index ≤ s.index := by
  have milestone := h.milestone
  rw [h.trail]
  revert milestone
  cases s <;> cases down <;> cases t <;> decide

end Stands

/-- **Trails only move forward.** Whatever a new result is asked for, one state after another, its
trail goes up milestone by milestone and ends with the teardown, after which nothing is granted. -/
theorem forward_requestAll (id : String) (category : Category) (targets : List ProposalState) :
    Forward { id, category } targets (requestAll { id, category } targets) := by
  obtain ⟨s, down, stands, torn⟩ := stands_requestAll (x := { id, category }) rfl targets
  refine
    { starts := stands.starts
      ascending := stands.ascending
      gapless := by
        rw [stands.filter_trail]
        exact List.take_prefix _ _
      last := fun before after => stands.last
      closed := fun mem target => ?_
      granted_iff := fun target => grants_iff.trans ProposalState.mem_next_iff
      granted := fun target granted => congrArg Prod.snd (request_of_grants granted)
      refused := fun target => request_of_not_grants
      furthest := ?_
      tornDown_iff := by rw [stands.tornDown, torn]
      rest := rest_requestAll _ targets }
  · have down := (stands.mem_trail_iff _).1 mem
    rw [if_pos rfl] at down
    rw [grants_iff, stands.state, if_pos down]
    exact List.not_mem_nil
  · rw [stands.terminal]
    have reached : if s = .tornDown then down = true else s.index ≤ s.index :=
      (if_neg stands.milestone).mpr (Nat.le_refl _)
    refine ⟨(stands.mem_trail_iff s).2 reached, stands.milestone, fun t mem ht => ?_⟩
    have least := (stands.mem_trail_iff t).1 mem
    rwa [if_neg ht] at least

/-- A state may be skipped over only by the teardown. -/
example : ((requestAll { id := "a", category := .dao }
    [.configured, .deployed, .pending, .validated, .configured, .tornDown, .validated]).trail)
      = [.pending, .deployed, .configured, .tornDown] := by
  decide

end ProposalResult
end Rollout
