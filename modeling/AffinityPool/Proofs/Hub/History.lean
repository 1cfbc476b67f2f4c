/-
Module: AffinityPool.Proofs.Hub.History
Purpose: Runs of a hub a moment at a time, so that facts about a whole run follow by induction
  from what one step preserves.
Main exports:
  Moment, effectsOf, Hub.History, Hub.History.run_eq, Hub.exists_history_of_run,
  Hub.reachable_iff_exists_history, Hub.History.split
-/
import AffinityPool.Hub.Action
import Mathlib.Data.List.Induction

namespace AffinityPool

/-- One action of a run, with what it made known. -/
structure Moment where
  action : Action
  effects : List Effect

/-- What a run made known, in order. -/
def effectsOf (past : List Moment) : List Effect := past.flatMap (·.effects)

@[simp] theorem effectsOf_nil : effectsOf [] = [] := rfl

@[simp] theorem effectsOf_append (before after : List Moment) :
    effectsOf (before ++ after) = effectsOf before ++ effectsOf after := by
  simp [effectsOf]

@[simp] theorem effectsOf_cons (moment : Moment) (after : List Moment) :
    effectsOf (moment :: after) = moment.effects ++ effectsOf after := by
  simp [effectsOf]

namespace Hub

/-- The runs from one state to another.  A run grows at its end, so an
induction along it goes from a state to the next. -/
inductive History (start : Hub) : List Moment → Hub → Prop where
  | begin : History start [] start
  | next {past : List Moment} {hub after : Hub} {action : Action} {effects : List Effect}
      (earlier : History start past hub) (stepped : hub.step action = some (after, effects)) :
      History start (past ++ [⟨action, effects⟩]) after

theorem run_append (hub : Hub) (before after : List Action) :
    hub.run (before ++ after) =
      (hub.run before).bind fun outcome =>
        (outcome.1.run after).map fun rest => (rest.1, outcome.2 ++ rest.2) := by
  induction before generalizing hub with
  | nil => simp [run]
  | cons action rest ih =>
      simp only [List.cons_append, run]
      cases stepped : hub.step action with
      | none => simp
      | some outcome =>
          cases ran : outcome.1.run rest with
          | none => simp [ih, ran]
          | some later => cases onward : later.1.run after <;> simp [ih, ran, onward]

namespace History

variable {start middle hub : Hub}

/-- A run made of moments is the run of its actions. -/
theorem run_eq {past : List Moment} (ran : History start past hub) :
    start.run (past.map (·.action)) = some (hub, effectsOf past) := by
  induction ran with
  | begin => rfl
  | next earlier stepped ih =>
      rw [List.map_append, run_append, ih]
      simp [run, stepped]

/-- The moments of a run decide where it leads. -/
theorem unique {other : Hub} {past : List Moment} (ran : History start past hub)
    (same : History start past other) : hub = other := by
  have runs := ran.run_eq
  rw [same.run_eq] at runs
  cases runs
  rfl

theorem append {before after : List Moment} (first : History start before middle)
    (second : History middle after hub) : History start (before ++ after) hub := by
  induction second with
  | begin => simpa using first
  | next earlier stepped ih =>
      rw [← List.append_assoc]
      exact ih.next stepped

/-- A run can be taken apart at any moment. -/
theorem split {before after : List Moment} (ran : History start (before ++ after) hub) :
    ∃ middle, History start before middle ∧ History middle after hub := by
  induction after using List.reverseRecOn generalizing hub with
  | nil => exact ⟨hub, by simpa using ran, .begin⟩
  | append_singleton rest moment ih =>
      rw [← List.append_assoc] at ran
      generalize whole : before ++ rest ++ [moment] = past at ran
      cases ran with
      | begin => simp at whole
      | @next past earlierHub _ action effects earlier stepped =>
          obtain ⟨rfl, last⟩ := List.append_inj' whole rfl
          obtain ⟨middle, first, second⟩ := ih earlier
          cases last
          exact ⟨middle, first, second.next stepped⟩

/-- A run without moments goes nowhere. -/
theorem eq_of_nil (ran : History start [] hub) : hub = start := by
  generalize none : ([] : List Moment) = past at ran
  cases ran with
  | begin => rfl
  | next earlier stepped => simp at none

/-- The first moment of a run is a step from its start. -/
theorem uncons {moment : Moment} {after : List Moment}
    (ran : History start (moment :: after) hub) :
    ∃ middle, start.step moment.action = some (middle, moment.effects) ∧
      History middle after hub := by
  obtain ⟨middle, first, second⟩ : ∃ middle, History start [moment] middle ∧
      History middle after hub := split ran
  refine ⟨middle, ?_, second⟩
  generalize whole : [moment] = past at first
  cases first with
  | begin => simp at whole
  | @next past _ _ action effects earlier stepped =>
      obtain ⟨none, last⟩ : [] = past ∧ [moment] = [⟨action, effects⟩] :=
        List.append_inj' (by simpa using whole) rfl
      cases last
      subst none
      rw [eq_of_nil earlier] at stepped
      exact stepped

end History

/-- The run of some actions is made of moments. -/
theorem exists_history_of_run {start hub : Hub} {actions : List Action} {effects : List Effect}
    (ran : start.run actions = some (hub, effects)) :
    ∃ past, History start past hub ∧ past.map (·.action) = actions ∧ effectsOf past = effects := by
  induction actions generalizing start effects with
  | nil =>
      simp only [run, Option.some.injEq, Prod.mk.injEq] at ran
      obtain ⟨rfl, rfl⟩ := ran
      exact ⟨[], .begin, rfl, rfl⟩
  | cons action rest ih =>
      simp only [run, Option.bind_eq_bind, Option.bind_eq_some_iff, Option.some.injEq,
        Prod.mk.injEq, Prod.exists] at ran
      obtain ⟨middle, first, stepped, last, more, onward, rfl, rfl⟩ := ran
      obtain ⟨past, later, rfl, rfl⟩ := ih onward
      have here : History start [⟨action, first⟩] middle := .next .begin stepped
      exact ⟨⟨action, first⟩ :: past, here.append later, rfl, by simp⟩

/-- The reachable states are those at the end of the runs of a fresh hub. -/
theorem reachable_iff_exists_history {hub : Hub} :
    hub.Reachable ↔ ∃ rules limits past, History (fresh rules limits) past hub := by
  constructor
  · rintro ⟨rules, limits, actions, effects, ran⟩
    obtain ⟨past, history, -, -⟩ := exists_history_of_run ran
    exact ⟨rules, limits, past, history⟩
  · rintro ⟨rules, limits, past, history⟩
    exact ⟨rules, limits, _, _, history.run_eq⟩

end Hub

end AffinityPool
