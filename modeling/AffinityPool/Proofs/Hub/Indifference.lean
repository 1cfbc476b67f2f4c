/-
Module: AffinityPool.Proofs.Hub.Indifference
Purpose: A hub is indifferent to what its calls carry, up to the keys that it reads there: two runs
  that differ in nothing else are alike, step by step.
Main exports:
  Hub.step_withCalls, Action.Alike, Hub.Alike.step, Hub.Twins, Hub.Twins.alike, Hub.Indifferent,
  Hub.Twins.indifferent
-/
import AffinityPool.Hub.Stats
import AffinityPool.Proofs.Hub.Likeness
import AffinityPool.Proofs.Hub.Register

namespace AffinityPool

namespace Hub

/-! ### The background

The background does not look at the live calls: with others it does the same. -/

section Background

variable (hub : Hub) (calls : List (CallId × Call))

@[simp] theorem pool_withCalls : (hub.withCalls calls).pool = hub.pool := rfl

@[simp] theorem drained_withCalls : (hub.withCalls calls).drained = hub.drained := rfl

@[simp] theorem drain_withCalls : (hub.withCalls calls).drain = hub.drain := rfl

@[simp] theorem teardown_withCalls : (hub.withCalls calls).teardown = hub.teardown := rfl

@[simp] theorem waiters_withCalls : (hub.withCalls calls).waiters = hub.waiters := rfl

@[simp] theorem clock_withCalls : (hub.withCalls calls).clock = hub.clock := rfl

@[simp] theorem isOver_withCalls (waiter : Waiter) :
    (hub.withCalls calls).isOver waiter = hub.isOver waiter := by
  cases waiter <;> rfl

@[simp] theorem abort?_withCalls (waiter : Waiter) :
    (hub.withCalls calls).abort? waiter = hub.abort? waiter := by
  cases waiter <;> rfl

@[simp] theorem startDrain_withCalls (grace : Option Grace) :
    (hub.withCalls calls).startDrain grace = hub.startDrain grace := rfl

/-- An outcome with other live calls. -/
def outcomeWithCalls (calls : List (CallId × Call)) (outcome : Hub × List Effect) :
    Hub × List Effect :=
  (outcome.1.withCalls calls, outcome.2)

theorem requestTeardown_withCalls :
    (hub.withCalls calls).requestTeardown = hub.requestTeardown.withCalls calls := by
  cases asked : hub.teardown <;> simp only [requestTeardown, withCalls, asked]

theorem closeNext_withCalls (later : List Nat) :
    (hub.withCalls calls).closeNext later = outcomeWithCalls calls (hub.closeNext later) := by
  cases later <;> rfl

/-- The drain goes on without a look at the live calls. -/
theorem resumeDrain_withCalls (expired : Option String) :
    (hub.withCalls calls).resumeDrain expired =
      outcomeWithCalls calls (hub.resumeDrain expired) := by
  unfold resumeDrain outcomeWithCalls
  rw [← requestTeardown_withCalls]
  rfl

/-- A close returns without a look at the live calls. -/
theorem closeReturns_withCalls (slot : Nat) (later : List Nat) (failure : Option Failure) :
    (hub.withCalls calls).closeReturns slot later failure =
      outcomeWithCalls calls (hub.closeReturns slot later failure) := by
  unfold closeReturns
  rw [closeNext_withCalls]
  split <;> rfl

/-- A shutdown begins without a look at the live calls. -/
theorem shutdown_withCalls (id : CallId) (grace : Option Grace) :
    (hub.withCalls calls).shutdown id grace = outcomeWithCalls calls (hub.shutdown id grace) := by
  cases asked : hub.drain <;> simp only [shutdown, withCalls, outcomeWithCalls, asked]

/-- A shutdown without patience happens without a look at the live calls. -/
theorem shutdownNow_withCalls (id : CallId) :
    (hub.withCalls calls).shutdownNow id = outcomeWithCalls calls (hub.shutdownNow id) := by
  unfold shutdownNow outcomeWithCalls
  rw [← requestTeardown_withCalls]
  rfl

/-- What is about no call is done without a look at the live calls. -/
theorem step_withCalls {action : Action} (silent : action.call? = none) :
    (hub.withCalls calls).step action = (hub.step action).map (outcomeWithCalls calls) := by
  cases action with
  | shutdown id grace =>
      simp only [step, shutdown_withCalls, waiters_withCalls]
      split <;> rfl
  | shutdownNow id =>
      simp only [step, shutdownNow_withCalls, waiters_withCalls]
      split <;> rfl
  | cancelWaiter id =>
      simp only [step]
      rw [waiters_withCalls]
      split <;> rfl
  | tick seconds =>
      simp only [step]
      split <;> rfl
  | drainStarts =>
      simp only [step, startDrain_withCalls, drain_withCalls]
      split <;> rfl
  | drainWakes =>
      simp only [step]
      rw [drain_withCalls, drained_withCalls]
      split
      · split <;> rfl
      · rfl
  | drainExpires =>
      simp only [step]
      rw [drain_withCalls, drained_withCalls, clock_withCalls]
      split
      · split <;> rfl
      · rfl
  | drainGoesOn =>
      simp only [step, resumeDrain_withCalls, drain_withCalls]
      split <;> rfl
  | drainReturns =>
      simp only [step, drain_withCalls, teardown_withCalls]
      split <;> rfl
  | teardownStarts =>
      simp only [step, startTeardown, closeNext_withCalls, teardown_withCalls, pool_withCalls]
      split <;> rfl
  | closeReturns failure =>
      simp only [step, closeReturns_withCalls, teardown_withCalls]
      split <;> rfl
  | waiterReturns id =>
      simp only [step, waiters_withCalls]
      split
      · rw [isOver_withCalls, abort?_withCalls]
        split
        · rfl
        · cases hub.abort? _ <;> rfl
      · rfl
  | _ => cases silent

end Background

end Hub

/-! ### Actions -/

variable {κ : Type} {kind : Failure → κ}

/-- Two actions differ at most in what a call carries, and the hub reads the same there.
What the transport and the callers do is the same, up to the kind of their failures. -/
inductive Action.Alike (kind : Failure → κ) (hub : Hub) : Action → Action → Prop where
  | same {action : Action} : Alike kind hub action action
  | begins {id : CallId} {shape : Shape} {method : String} {request first : Message}
      {supply offer : Option Failure}
      (read : requestReading (hub.rules.ruleFor method) (some request) =
        requestReading (hub.rules.ruleFor method) (some first))
      (supplies : supply.map kind = offer.map kind) :
      Alike kind hub (.begin id shape method request supply) (.begin id shape method first offer)
  | beginsMany {id : CallId} {shape : Shape} {method : String} {supply offer : Option Failure}
      (supplies : supply.map kind = offer.map kind) :
      Alike kind hub (.beginMany id shape method supply) (.beginMany id shape method offer)
  | peeks {id : CallId} {request first : Message} {supply offer : Option Failure}
      (read : ∀ call, hub.call? id = some call →
        requestReading call.rule (some request) = requestReading call.rule (some first))
      (supplies : supply.map kind = offer.map kind) :
      Alike kind hub (.firstRequest id (.ok (some request)) supply)
        (.firstRequest id (.ok (some first)) offer)
  | peeksNothing {id : CallId} {supply offer : Option Failure}
      (supplies : supply.map kind = offer.map kind) :
      Alike kind hub (.firstRequest id (.ok none) supply) (.firstRequest id (.ok none) offer)
  | peeksInVain {id : CallId} {failure cause : Failure} {supply offer : Option Failure}
      (failures : kind failure = kind cause) :
      Alike kind hub (.firstRequest id (.error failure) supply)
        (.firstRequest id (.error cause) offer)
  | responds {id : CallId} {response answer : Message}
      (read : ∀ call, hub.call? id = some call →
        call.answerReading response = call.answerReading answer) :
      Alike kind hub (.respond id response) (.respond id answer)
  | fails {id : CallId} {failure cause : Failure} (failures : kind failure = kind cause) :
      Alike kind hub (.fail id failure) (.fail id cause)
  | abandonFails {id : CallId} {failure cause : Failure} (failures : kind failure = kind cause) :
      Alike kind hub (.abandonFails id failure) (.abandonFails id cause)

namespace Hub

/-! ### Steps -/

/-- What two hubs that are alike know of a call. -/
inductive SameCall (hub other : Hub) (id : CallId) : Prop where
  | dead (unknown : hub.call? id = none) (absent : other.call? id = none)
  | peeking {shape : Shape} {method : String} {rule : Option Rule}
      (live : hub.call? id = some ⟨shape, method, rule, .peeking⟩)
      (found : other.call? id = some ⟨shape, method, rule, .peeking⟩)
  | waiting {shape : Shape} {method : String} {rule : Option Rule} {slot : Nat}
      {opening first : Opening} {firstKey : Option String}
      (live : hub.call? id = some ⟨shape, method, rule, .waiting slot opening firstKey⟩)
      (found : other.call? id = some ⟨shape, method, rule, .waiting slot first firstKey⟩)
      (read : requestReading rule opening.keyRequest? = requestReading rule first.keyRequest?)
  | paused {shape : Shape} {method : String} {rule : Option Rule} {slot : Nat}
      {opening first : Opening} {firstKey : Option String}
      (live : hub.call? id = some ⟨shape, method, rule, .paused slot opening firstKey⟩)
      (found : other.call? id = some ⟨shape, method, rule, .paused slot first firstKey⟩)
      (read : requestReading rule opening.keyRequest? = requestReading rule first.keyRequest?)

namespace Alike

variable {hub other : Hub} {id : CallId}

/-- Hubs that are alike know a call both or neither, and in the same phase. -/
theorem sameCall (alike : Alike hub other) (id : CallId) : SameCall hub other id := by
  rcases alike.call? id with ⟨unknown, absent⟩ |
    ⟨⟨shape, method, rule, _⟩, ⟨_, _, _, _⟩, live, found, rfl, rfl, rfl, phases⟩
  · exact .dead unknown absent
  · cases phases with
    | peeking => exact .peeking live found
    | waiting read => exact .waiting live found read
    | paused read => exact .paused live found read

/-- A name is free in both hubs or in neither. -/
theorem isNone_call? (alike : Alike hub other) (id : CallId) :
    (other.call? id).isNone = (hub.call? id).isNone := by
  rcases alike.call? id with ⟨unknown, absent⟩ | ⟨call, changed, live, found, calls⟩
  · rw [unknown, absent]
  · rw [live, found]
    rfl

/-- A first request is taken in both hubs or in neither, with the same outcome if the calls take it
alike. -/
theorem step_firstRequest (alike : Alike hub other)
    {result outcome : Except Failure (Option Message)} {supply offer : Option Failure}
    (requests : ∀ call changed, hub.call? id = some call → call.Alike changed →
      SameResult kind (hub.firstRequest id call result supply)
        (other.firstRequest id changed outcome offer)) :
    Option.Rel (SameResult kind) (hub.step (.firstRequest id result supply))
      (other.step (.firstRequest id outcome offer)) := by
  cases alike.sameCall id with
  | dead live found | waiting live found | paused live found =>
      simp only [Hub.step, live, found]
      exact .none
  | peeking live found =>
      simp only [Hub.step, live, found]
      exact .some (requests _ _ live ⟨rfl, rfl, rfl, .peeking⟩)

theorem step_respond (alike : Alike hub other) {response answer : Message}
    (answers : ∀ call, hub.call? id = some call →
      call.answerReading response = call.answerReading answer) :
    Option.Rel (SameResult kind) (hub.step (.respond id response))
      (other.step (.respond id answer)) := by
  cases alike.sameCall id with
  | dead live found | peeking live found | paused live found =>
      simp only [Hub.step, live, found]
      exact .none
  | waiting live found read =>
      simp only [Hub.step, live, found]
      exact .some (alike.respond id rfl rfl rfl rfl read (answers _ live))

/-- The end of a stream is taken in both hubs or in neither. -/
theorem step_finish (alike : Alike hub other) (id : CallId) :
    Option.Rel (SameResult kind) (hub.step (.finish id)) (other.step (.finish id)) := by
  cases alike.sameCall id with
  | dead live found | peeking live found | paused live found =>
      simp only [Hub.step, live, found]
      exact .none
  | @waiting shape method rule slot opening first firstKey live found read =>
      simp only [Hub.step, live, found]
      cases shape.streamsResponses with
      | false => exact .none
      | true => exact .some (alike.succeed id slot (streamEffect_alike read firstKey) .ended)

/-- A failure from outside ends the call in both hubs or in neither. -/
theorem step_fail (alike : Alike hub other) (id : CallId) {failure cause : Failure}
    (failures : kind failure = kind cause) :
    Option.Rel (SameResult kind) (hub.step (.fail id failure)) (other.step (.fail id cause)) := by
  cases alike.sameCall id with
  | dead live found | peeking live found | paused live found =>
      simp only [Hub.step, live, found]
      exact .none
  | waiting live found read =>
      simp only [Hub.step, live, found]
      exact .some (alike.exitPlaced id _ (.failed failures))

/-- A stream is read on in both hubs or in neither. -/
theorem step_read (alike : Alike hub other) (id : CallId) :
    Option.Rel (SameResult kind) (hub.step (.read id)) (other.step (.read id)) := by
  cases alike.sameCall id with
  | dead live found | peeking live found | waiting live found =>
      simp only [Hub.step, live, found]
      exact .none
  | paused live found read =>
      simp only [Hub.step, live, found]
      exact .some ⟨alike.setCall id ⟨rfl, rfl, rfl, .waiting read⟩, .nil⟩

/-- A stream is left in both hubs or in neither. -/
theorem step_abandon (alike : Alike hub other) (id : CallId) :
    Option.Rel (SameResult kind) (hub.step (.abandon id)) (other.step (.abandon id)) := by
  cases alike.sameCall id with
  | dead live found | peeking live found | waiting live found =>
      simp only [Hub.step, live, found]
      exact .none
  | paused live found read =>
      simp only [Hub.step, live, found]
      exact .some (alike.exitPlaced id _ .abandoned)

/-- A stream that is left and fails to close fails so in both hubs or in neither. -/
theorem step_abandonFails (alike : Alike hub other) (id : CallId) {failure cause : Failure}
    (failures : kind failure = kind cause) :
    Option.Rel (SameResult kind) (hub.step (.abandonFails id failure))
      (other.step (.abandonFails id cause)) := by
  cases alike.sameCall id with
  | dead live found | peeking live found | waiting live found =>
      simp only [Hub.step, live, found]
      exact .none
  | paused live found read =>
      simp only [Hub.step, live, found]
      exact .some (alike.exitPlaced id _ (.failed failures))

/-- A call is cancelled in both hubs or in neither. -/
theorem step_cancel (alike : Alike hub other) (id : CallId) :
    Option.Rel (SameResult kind) (hub.step (.cancel id)) (other.step (.cancel id)) := by
  cases alike.sameCall id with
  | dead live found | paused live found =>
      simp only [Hub.step, live, found]
      exact .none
  | peeking live found =>
      simp only [Hub.step, live, found]
      exact .some (alike.exitUnplaced id (.failed rfl))
  | waiting live found read =>
      simp only [Hub.step, live, found]
      exact .some (alike.exitPlaced id _ (.failed rfl))

/-- Calls start in both hubs or in none. -/
theorem step_begin (alike : Alike hub other) {shape : Shape} {method : String}
    {request first : Message} {supply offer : Option Failure}
    (read : requestReading (hub.rules.ruleFor method) (some request) =
      requestReading (hub.rules.ruleFor method) (some first))
    (supplies : supply.map kind = offer.map kind) :
    Option.Rel (SameResult kind) (hub.step (.begin id shape method request supply))
      (other.step (.begin id shape method first offer)) := by
  have known := alike.isNone_call? id
  simp only [Hub.step, known]
  split
  · exact .some (alike.begin id shape method read supplies)
  · exact .none

/-- A call with a stream of requests begins in both hubs or in neither. -/
theorem step_beginMany (alike : Alike hub other) {shape : Shape} {method : String}
    {supply offer : Option Failure} (supplies : supply.map kind = offer.map kind) :
    Option.Rel (SameResult kind) (hub.step (.beginMany id shape method supply))
      (other.step (.beginMany id shape method offer)) := by
  have known := alike.isNone_call? id
  simp only [Hub.step, known]
  split
  · exact .some (alike.beginMany id shape method supplies)
  · exact .none

/-- The background does the same in both hubs. -/
theorem step_background (alike : Alike hub other) {action : Action}
    (silent : action.call? = none) :
    Option.Rel (SameResult kind) (hub.step action) (other.step action) := by
  cases alike with
  | @intro calls agree =>
      rw [step_withCalls hub calls silent]
      cases stepped : hub.step action with
      | none => exact .none
      | some outcome =>
          obtain ⟨next, effects⟩ := outcome
          have kept : next.calls = hub.calls :=
            (background_of_step silent stepped).sameCalls.calls
          rw [← kept] at agree
          exact .some ⟨.intro agree, Effect.alike_refl _⟩

/-- Two actions that are alike are possible in both hubs or in none, and come to the
same. -/
theorem step (alike : Alike hub other) {action deed : Action}
    (actions : action.Alike kind hub deed) :
    Option.Rel (SameResult kind) (hub.step action) (other.step deed) := by
  cases actions with
  | begins read supplies => exact alike.step_begin read supplies
  | beginsMany supplies => exact alike.step_beginMany supplies
  | @peeks id request first supply offer read supplies =>
      apply alike.step_firstRequest
      intro call changed live calls
      have opened : requestReading call.rule (Opening.restored request).keyRequest? =
          requestReading call.rule (Opening.restored first).keyRequest? := read call live
      exact alike.dispatch _ calls.shape calls.method calls.rule opened supplies
  | peeksNothing supplies =>
      apply alike.step_firstRequest
      intro call changed live calls
      exact alike.dispatch _ calls.shape calls.method calls.rule rfl supplies
  | peeksInVain failures =>
      apply alike.step_firstRequest
      intro call changed live calls
      exact alike.exitUnplaced _ (.failed failures)
  | responds read => exact alike.step_respond read
  | fails failures => exact alike.step_fail _ failures
  | abandonFails failures => exact alike.step_abandonFails _ failures
  | same =>
      cases action with
      | begin id shape method request supply => exact alike.step_begin rfl rfl
      | beginMany id shape method supply => exact alike.step_beginMany rfl
      | firstRequest id result supply =>
          apply alike.step_firstRequest
          intro call changed live calls
          cases result with
          | error failure => exact alike.exitUnplaced _ (.failed rfl)
          | ok request =>
              cases request with
              | none => exact alike.dispatch _ calls.shape calls.method calls.rule rfl rfl
              | some request => exact alike.dispatch _ calls.shape calls.method calls.rule rfl rfl
      | respond id response => exact alike.step_respond fun call live => rfl
      | finish id => exact alike.step_finish id
      | fail id failure => exact alike.step_fail id rfl
      | read id => exact alike.step_read id
      | abandon id => exact alike.step_abandon id
      | abandonFails id failure => exact alike.step_abandonFails id rfl
      | cancel id => exact alike.step_cancel id
      | _ => exact alike.step_background rfl

end Alike

/-! ### Runs -/

/-- Two runs from one hub that take actions in the same order, each like the other. -/
inductive Twins (kind : Failure → κ) (start : Hub) :
    List Moment → Hub → List Moment → Hub → Prop where
  | begin : Twins kind start [] start [] start
  | next {past course : List Moment} {hub other next further : Hub} {action deed : Action}
      {effects told : List Effect} (earlier : Twins kind start past hub course other)
      (stepped : hub.step action = some (next, effects))
      (taken : other.step deed = some (further, told))
      (actions : action.Alike kind hub deed) :
      Twins kind start (past ++ [⟨action, effects⟩]) next (course ++ [⟨deed, told⟩]) further

end Hub

/-- The same becomes known in two moments, up to what calls carry. -/
def Moment.Alike (kind : Failure → κ) (moment other : Moment) : Prop :=
  List.Forall₂ (Effect.Alike kind) (withoutNotes moment.effects) (withoutNotes other.effects)

/-- The slot on which a call is served. -/
def Effect.served? : Effect → Option (CallId × Nat)
  | .dispatched id slot .. => some (id, slot)
  | _ => none

/-- The exit of a call, with the kind of its failure if it fails. -/
def Effect.exit? (kind : Failure → κ) : Effect → Option (CallId × Option κ)
  | .exited id (.failed failure) => some (id, some (kind failure))
  | .exited id _ => some (id, none)
  | _ => none

/-- Effects that are alike place the same call on the same channel. -/
theorem Effect.Alike.served? {effect other : Effect} (alike : effect.Alike kind other) :
    other.served? = effect.served? := by
  cases alike <;> rfl

/-- Effects that are alike end the same call with the same kind of outcome. -/
theorem Effect.Alike.exit? {effect other : Effect} (alike : effect.Alike kind other) :
    other.exit? kind = effect.exit? kind := by
  cases alike with
  | exited outcomes =>
      cases outcomes with
      | failed same => simp only [Effect.exit?, same]
      | _ => rfl
  | _ => rfl

/-- Lists have one image if the members of each pair have. -/
theorem map_eq_of_pairs {α β : Type} {related : α → α → Prop} {image : α → β}
    {one other : List α} (pairs : List.Forall₂ related one other)
    (same : ∀ {here there : α}, related here there → image there = image here) :
    other.map image = one.map image := by
  induction pairs with
  | nil => rfl
  | cons here rest ih => rw [List.map_cons, List.map_cons, same here, ih]

/-- What is picked in the same way from effects that are alike is picked in the same way
from moments that are alike. -/
theorem Moment.Alike.picked {α : Type} {pick : Effect → Option α}
    (notes : ∀ note, pick (.note note) = none)
    (picks : ∀ {effect other : Effect}, effect.Alike kind other → pick other = pick effect)
    {moment other : Moment} (alike : moment.Alike kind other) :
    other.effects.filterMap pick = moment.effects.filterMap pick := by
  rw [← filterMap_withoutNotes notes, ← filterMap_withoutNotes notes moment.effects]
  unfold Moment.Alike at alike
  generalize withoutNotes moment.effects = shown at alike ⊢
  generalize withoutNotes other.effects = known at alike ⊢
  induction alike with
  | nil => rfl
  | cons here rest ih => rw [List.filterMap_cons, List.filterMap_cons, picks here, ih]

namespace Hub

namespace Twins

variable {start hub other : Hub} {past course : List Moment}

/-- The first of two runs is a run. -/
theorem first (twins : Twins kind start past hub course other) : History start past hub := by
  induction twins with
  | begin => exact .begin
  | next earlier stepped taken actions ih => exact ih.next stepped

/-- Two runs lead to hubs that are alike, and their moments are alike. -/
theorem alike (twins : Twins kind start past hub course other) :
    Alike hub other ∧ List.Forall₂ (Moment.Alike kind) past course := by
  induction twins with
  | begin => exact ⟨.refl start, .nil⟩
  | @next past course hub other next further action deed effects told earlier stepped taken actions
      ih =>
      obtain ⟨hubs, moments⟩ := ih
      have steps := hubs.step actions
      rw [stepped, taken] at steps
      cases steps with
      | some same => exact ⟨same.hubs, List.rel_append moments (.cons same.effects .nil)⟩

end Twins

/-! ### What callers can rely on -/

/-- Two runs that differ in what calls carry, and not in the keys that are read there. -/
structure Indifferent (kind : Failure → κ) (past : List Moment) (hub : Hub)
    (course : List Moment) (other : Hub) : Prop where
  /-- The pool, its counters, the index, the number of calls in flight and the life of the hub
  are the same: at most the live calls differ. -/
  rest : other = hub.withCalls other.calls
  stats : other.stats = hub.stats
  /-- The same calls are live, on the same channels. -/
  live : other.calls.map (fun entry => (entry.1, entry.2.phase.slot?)) =
    hub.calls.map fun entry => (entry.1, entry.2.phase.slot?)
  /-- In each step the same calls are served, by the same channels. -/
  served : course.map (·.effects.filterMap Effect.served?) =
    past.map (·.effects.filterMap Effect.served?)
  /-- In each step the same calls exit, and they fail in the same way if they fail. -/
  exits : course.map (·.effects.filterMap (Effect.exit? kind)) =
    past.map (·.effects.filterMap (Effect.exit? kind))
  /-- What can happen next in one run can happen in the other. -/
  goesOn : ∀ action deed, action.Alike kind hub deed →
    (other.step deed).isSome = (hub.step action).isSome
  /-- The requests of methods without a rule, and those of binds, may be any. -/
  requests : ∀ id shape method request first supply,
    (∀ rule, hub.rules.ruleFor method = some rule → rule.command = .bind) →
      Action.Alike kind hub (.begin id shape method request supply)
        (.begin id shape method first supply)
  /-- The responses to methods without a rule, and to calls that do not bind, may be any. -/
  responses : ∀ id response answer,
    (∀ call rule, hub.call? id = some call → hub.rules.ruleFor call.method = some rule →
      rule.command ≠ .bind) →
        Action.Alike kind hub (.respond id response) (.respond id answer)

/-- A hub is indifferent to what calls carry, up to the keys that it reads there.  This is so for
each classification of failures, and after each step, as two runs are twins after each of
their steps. -/
theorem Twins.indifferent {rules : RuleTable} {limits : Limits} {past course : List Moment}
    {hub other : Hub} (twins : Twins kind (fresh rules limits) past hub course other) :
    Indifferent kind past hub course other := by
  obtain ⟨hubs, moments⟩ := twins.alike
  have known := twins.first.registered
  constructor
  · cases hubs
    rfl
  · cases hubs
    rfl
  · cases hubs with
    | intro agree =>
        apply map_eq_of_pairs agree
        intro here there calls
        rw [calls.1, calls.2.phase.slot?]
  · exact map_eq_of_pairs moments fun alike => alike.picked (fun _ => rfl) Effect.Alike.served?
  · exact map_eq_of_pairs moments fun alike => alike.picked (fun _ => rfl) Effect.Alike.exit?
  · intro action deed actions
    have steps := hubs.step actions
    generalize hub.step action = result at steps
    generalize other.step deed = outcome at steps
    cases steps <;> rfl
  · intro id shape method request first supply unread
    apply Action.Alike.begins
    · rw [requestReading_of_unread unread, requestReading_of_unread unread]
    · rfl
  · intro id response answer unread
    apply Action.Alike.responds
    intro call live
    have passive : ∀ rule, call.rule = some rule → rule.command ≠ .bind := by
      intro rule ruled
      rw [known.ruled live] at ruled
      exact unread call rule live ruled
    rw [Call.answerReading_of_unread passive, Call.answerReading_of_unread passive]

/-- Two runs with other payloads of a call without a rule, another request of a bind and
another response with the same key. -/
theorem indifferent_payloads :
    ∃ rules limits past hub course other,
      Twins (fun failure => failure) (fresh rules limits) past hub course other ∧
        hub.entries = [⟨"k", 0, 1⟩] ∧
        Indifferent (fun failure => failure) past hub course other := by
  have twins : Twins (fun failure => failure)
      (fresh ⟨[⟨"open", .bind, "id"⟩]⟩ ⟨1, 1, by decide, by decide⟩)
      ([] ++ [⟨.begin "a" .unaryUnary "open" .null none, _⟩] ++
        [⟨.begin "b" .unaryUnary "plain" .null none, _⟩] ++
        [⟨.respond "a" (.dict [("id", .text "k")]), _⟩] ++ [⟨.respond "b" .null, _⟩]) _
      ([] ++ [⟨.begin "a" .unaryUnary "open" (.text "x") none, _⟩] ++
        [⟨.begin "b" .unaryUnary "plain" (.text "y") none, _⟩] ++
        [⟨.respond "a" (.dict [("size", .null), ("id", .text "k")]), _⟩] ++
        [⟨.respond "b" (.text "z"), _⟩]) _ :=
    .next (.next (.next (.next .begin rfl rfl (.begins rfl rfl)) rfl rfl (.begins rfl rfl)) rfl rfl
      (.responds fun call live => by cases live; rfl)) rfl rfl
      (.responds fun call live => by cases live; rfl)
  exact ⟨_, _, _, _, _, _, twins, rfl, twins.indifferent⟩

end Hub

end AffinityPool
