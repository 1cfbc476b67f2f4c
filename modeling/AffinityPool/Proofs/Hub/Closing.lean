/-
Module: AffinityPool.Proofs.Hub.Closing
Purpose: Which channels of a closed hub have been closed: all but those that a call made after the
  teardown had taken its list.
Main exports:
  creations, Hub.Stepped.creations, Hub.History.created_of_closing, Hub.MadeTooLate,
  Hub.leaked_iff_madeTooLate
-/
import AffinityPool.Proofs.Hub.Index
import AffinityPool.Proofs.Hub.Life

namespace AffinityPool

/-! ### Channels that are made -/

/-- The channel that is made with an effect. -/
def Effect.created? : Effect → Option Nat
  | .created slot => some slot
  | _ => none

/-- The channels that were made, in order. -/
def creations (effects : List Effect) : List Nat := effects.filterMap Effect.created?

@[simp] theorem creations_nil : creations [] = [] := rfl

@[simp] theorem creations_append (before after : List Effect) :
    creations (before ++ after) = creations before ++ creations after := List.filterMap_append

/-- A channel is among those that were made if it was made. -/
theorem mem_creations {effects : List Effect} {slot : Nat} :
    slot ∈ creations effects ↔ .created slot ∈ effects := by
  unfold creations
  rw [List.mem_filterMap]
  constructor
  · rintro ⟨effect, member, shown⟩
    cases effect with
    | created other =>
        cases shown
        exact member
    | _ => cases shown
  · intro member
    exact ⟨.created slot, member, rfl⟩

@[simp] theorem creations_withoutNotes (effects : List Effect) :
    creations (withoutNotes effects) = creations effects :=
  filterMap_withoutNotes (fun _ => rfl) effects

namespace Hub

@[simp] theorem size_applyEffect (hub : Hub) (slot : Nat) (effect : IndexEffect) :
    (hub.applyEffect slot effect).2.1.pool.size = hub.pool.size := by
  cases effect with
  | nothing => rfl
  | bind key => exact (hub.affinity.sameLoad_bind key slot).length
  | unbind key => exact (hub.affinity.sameLoad_unbind key).length

/-- A call that exits makes no channel. -/
theorem creations_exitPlaced (hub : Hub) (id : CallId) (slot : Nat) (outcome : Outcome) :
    creations (hub.exitPlaced id slot outcome).2 = [] := by
  obtain ⟨shown, told⟩ := exitPlaced_effects hub id slot outcome
  rw [told]
  rfl

/-- A call that asks for a channel makes those that the pool has gained. -/
theorem Dispatching.creations {hub next : Hub} {id : CallId} {call : Call} {opening : Opening}
    {supply : Option Failure} {effects : List Effect}
    (dispatching : Dispatching hub id call opening supply next effects) :
    List.range hub.pool.size ++ creations effects = List.range next.pool.size := by
  cases dispatching with
  | unreadable unread => exact List.append_nil _
  | unsupplied read unbound saturated supplied => exact List.append_nil _
  | placed read placing =>
      cases placing with
      | bound keyed found => simp [AffinityPool.creations, Effect.created?]
      | reused unbound reusable => simp [AffinityPool.creations, Effect.created?]
      | made unbound saturated supplied =>
          simp [AffinityPool.creations, Effect.created?, List.range_succ]

/-- A step makes the channels by which the pool grows, and no others. -/
theorem Stepped.creations {hub next : Hub} {action : Action} {effects : List Effect}
    (stepped : Stepped hub action next effects) :
    List.range hub.pool.size ++ creations effects = List.range next.pool.size := by
  cases stepped with
  | begins fresh unclosed starts dispatching => exact dispatching.creations
  | peeked live peeking dispatching => exact dispatching.creations
  | completed live waiting completes => simp [creations_exitPlaced]
  | left live leaves => simp [creations_exitPlaced]
  | background background =>
      have silent : AffinityPool.creations effects = [] := by
        apply List.eq_nil_iff_forall_not_mem.mpr
        intro slot member
        cases background.effects _ (mem_creations.mp member)
      rw [silent, List.append_nil, background.sameCalls.pool]
  | _ => exact List.append_nil _

/-- A run makes the channels that the pool has gained, in the order of their numbers. -/
theorem History.creations {start hub : Hub} {past : List Moment} (ran : History start past hub) :
    List.range start.pool.size ++ creations (effectsOf past) = List.range hub.pool.size := by
  induction ran with
  | begin => simp
  | next earlier stepped ih =>
      have onward := (stepped_of_step stepped).creations
      rw [creations_withoutNotes, ← ih] at onward
      simpa using onward

/-- The channels that a run makes are behind those there were. -/
theorem History.bounds_of_created {start hub : Hub} {past : List Moment}
    (ran : History start past hub) {slot : Nat} (made : .created slot ∈ effectsOf past) :
    start.pool.size ≤ slot ∧ slot < hub.pool.size := by
  have grown := ran.creations
  have member := mem_creations.mpr made
  constructor
  · have distinct : (List.range hub.pool.size).Nodup := List.nodup_range
    rw [← grown, List.nodup_append] at distinct
    by_contra inside
    have early := List.mem_range.mpr (Nat.lt_of_not_le inside)
    exact distinct.2.2 slot early slot member rfl
  · rw [← List.mem_range, ← grown]
    exact List.mem_append_right _ member

/-! ### Calls after closing has begun -/

/-- A call that is live after another was forgotten was live before. -/
theorem call?_of_drop {hub next : Hub} {dropped id : CallId} {call : Call}
    (calls : next.calls = Ledger.drop hub.calls dropped) (live : next.call? id = some call) :
    hub.call? id = some call := by
  rw [call?_eq, calls, Ledger.get?_drop] at live
  split at live
  · cases live
  · exact live

/-- A call that is live after another was written was live before. -/
theorem call?_of_put {hub next : Hub} {written id : CallId} {call changed : Call}
    (calls : next.calls = Ledger.put hub.calls written changed)
    (live : next.call? id = some call) (differs : changed ≠ call) : hub.call? id = some call := by
  rw [call?_eq, calls, Ledger.get?_put] at live
  split at live
  · cases live
    exact absurd rfl differs
  · exact live

/-- No call begins to wait for its first request because another asks for a channel. -/
theorem Dispatching.peeking {hub next : Hub} {dispatched id : CallId} {asking call : Call}
    {opening : Opening} {supply : Option Failure} {effects : List Effect}
    (dispatching : Dispatching hub dispatched asking opening supply next effects)
    (live : next.call? id = some call) (peeking : call.phase = .peeking) :
    hub.call? id = some call := by
  cases dispatching with
  | unreadable unread => exact call?_of_drop rfl live
  | unsupplied read unbound saturated supplied => exact call?_of_drop rfl live
  | placed read placing =>
      apply call?_of_put rfl live
      rintro rfl
      cases peeking

/-- A call that still waits for its first request in a hub that is closing has
waited all the time. -/
theorem Stepped.peeking_of_closing {hub next : Hub} {action : Action} {effects : List Effect}
    (stepped : Stepped hub action next effects) (closing : hub.closing = true) {id : CallId}
    {call : Call} (live : next.call? id = some call) (peeking : call.phase = .peeking) :
    hub.call? id = some call := by
  cases stepped with
  | refused begins fresh shut => exact live
  | waits fresh unclosed many reads =>
      rw [closing] at unclosed
      cases unclosed
  | begins fresh unclosed starts dispatching =>
      rw [closing] at unclosed
      cases unclosed
  | peeked asking waits dispatching => exact dispatching.peeking live peeking
  | gaveUp asking waits givesUp => exact call?_of_drop rfl live
  | delivered asking waiting streams read =>
      apply call?_of_put rfl live
      rintro rfl
      cases peeking
  | resumed asking paused =>
      apply call?_of_put rfl live
      rintro rfl
      cases peeking
  | @completed _ caller _ slot _ _ effect _ success asking waiting completes =>
      have calls := calls_exitPlaced (hub.applyEffect slot effect).2.1 caller slot
        (success.afterEffect (hub.applyEffect slot effect).1)
      rw [calls_applyEffect] at calls
      exact call?_of_drop calls live
  | left asking leaves => exact call?_of_drop (calls_exitPlaced ..) live
  | background background =>
      rw [call?_eq, background.sameCalls.calls] at live
      exact live

/-- Only a call that has waited for its first request makes a channel in a hub
that is closing. -/
theorem Stepped.created_of_closing {hub next : Hub} {action : Action} {effects : List Effect}
    (stepped : Stepped hub action next effects) (closing : hub.closing = true) {slot : Nat}
    (made : .created slot ∈ effects) :
    ∃ id first call, action = .firstRequest id (.ok first) none ∧
      hub.call? id = some call ∧ call.phase = .peeking := by
  have member := mem_creations.mpr made
  cases stepped with
  | begins fresh unclosed starts dispatching =>
      rw [closing] at unclosed
      cases unclosed
  | @peeked id call first supply _ _ live peeking dispatching =>
      cases dispatching with
      | unreadable unread => simp at made
      | unsupplied read unbound saturated supplied => simp at made
      | placed read placing =>
          cases placing with
          | bound keyed found => simp at made
          | reused unbound reusable => simp at made
          | made unbound saturated supplied =>
              subst supplied
              exact ⟨id, first, call, rfl, live, peeking⟩
  | completed live waiting completes =>
      rw [creations_exitPlaced] at member
      cases member
  | left live leaves =>
      rw [creations_exitPlaced] at member
      cases member
  | background background =>
      cases background.effects _ made
  | _ => cases member

namespace History

variable {start hub : Hub} {past : List Moment}

/-- In a hub that is closing nobody begins to wait for a first request. -/
theorem peeking_of_closing (ran : History start past hub) (closing : start.closing = true)
    {id : CallId} {call : Call} (live : hub.call? id = some call)
    (peeking : call.phase = .peeking) : start.call? id = some call := by
  induction ran with
  | begin => exact live
  | next earlier stepped ih =>
      have closed := earlier.closing closing
      exact ih ((stepped_of_step stepped).peeking_of_closing closed live peeking)

/-- A channel that is made while a hub is closing is made by a call that was
waiting for its first request at the start. -/
theorem created_of_closing (ran : History start past hub) (closing : start.closing = true)
    {slot : Nat} (made : .created slot ∈ effectsOf past) :
    ∃ id first call effects, ⟨.firstRequest id (.ok first) none, effects⟩ ∈ past ∧
      .created slot ∈ effects ∧ start.call? id = some call ∧ call.phase = .peeking := by
  induction ran with
  | begin => cases made
  | @next past hub after action effects earlier stepped ih =>
      rw [effectsOf_append, List.mem_append] at made
      rcases made with before | now
      · obtain ⟨id, first, call, told, member, rest⟩ := ih before
        exact ⟨id, first, call, told, List.mem_append_left _ member, rest⟩
      · have here : .created slot ∈ effects := by simpa using now
        have told := (mem_withoutNotes rfl).mpr here
        have closed := earlier.closing closing
        obtain ⟨id, first, call, rfl, live, peeking⟩ :=
          (stepped_of_step stepped).created_of_closing closed told
        exact ⟨id, first, call, effects, by simp, here,
          earlier.peeking_of_closing closing live peeking, peeking⟩

end History

/-! ### Closed hubs -/

/-- A channel is made too late: by a call that was still waiting for its first
request when the teardown took its list of channels. -/
inductive MadeTooLate (start : Hub) (past : List Moment) (slot : Nat) : Prop where
  | late {before after : List Moment} {taken effects : List Effect} {middle : Hub} {id : CallId}
      {first : Option Message} {call : Call}
      (split : past = before ++ ⟨.teardownStarts, taken⟩ :: after)
      (earlier : History start before middle) (live : middle.call? id = some call)
      (peeking : call.phase = .peeking)
      (dispatched : ⟨.firstRequest id (.ok first) none, effects⟩ ∈ after)
      (made : .created slot ∈ effects)

/-- When the teardown starts it has been asked for, and the hub is closing. -/
theorem scheduled_of_split {rules : RuleTable} {limits : Limits} {before after : List Moment}
    {taken : List Effect} {middle hub : Hub} (earlier : History (fresh rules limits) before middle)
    (later : History middle (⟨.teardownStarts, taken⟩ :: after) hub) :
    middle.teardown = .scheduled ∧ middle.closing = true := by
  obtain ⟨next, stepped, -⟩ := later.uncons
  obtain ⟨scheduled, -, -⟩ := starts_of_step stepped
  refine ⟨scheduled, earlier.orderly.tearing ?_⟩
  rw [scheduled]
  simp

/-- The teardown of a closed hub has gone through the channels there were when it
started. -/
theorem closing_iff_of_split {rules : RuleTable} {limits : Limits} {before after : List Moment}
    {taken : List Effect} {middle hub : Hub} (earlier : History (fresh rules limits) before middle)
    (later : History middle (⟨.teardownStarts, taken⟩ :: after) hub) (closed : hub.closed = true)
    (slot : Nat) :
    .closing slot ∈ effectsOf (before ++ ⟨.teardownStarts, taken⟩ :: after) ↔
      slot < middle.pool.size := by
  obtain ⟨scheduled, -⟩ := scheduled_of_split earlier later
  have none := earlier.closings_of_unbegun (by rw [scheduled]; rfl)
  obtain ⟨-, all⟩ := later.closings_of_started
  have finished : hub.teardown = .done := (earlier.append later).orderly.closed.mp closed
  rw [finished] at all
  rw [← mem_closings, effectsOf_append, closings_append, none, List.nil_append, effectsOf_cons,
    ← List.mem_range, ← all]
  simp [Teardown.remaining]

/-- A channel of a closed hub has been left open exactly if it was made too
late. -/
theorem leaked_iff_madeTooLate {rules : RuleTable} {limits : Limits} {past : List Moment}
    {hub : Hub} (ran : History (fresh rules limits) past hub) (closed : hub.lifecycle = .closed)
    (slot : Nat) :
    (.created slot ∈ effectsOf past ∧ .closing slot ∉ effectsOf past) ↔
      MadeTooLate (fresh rules limits) past slot := by
  have finished : hub.closed = true := lifecycle_eq_closed_iff.mp closed
  constructor
  · rintro ⟨made, unclosed⟩
    have done : hub.teardown = .done := ran.orderly.closed.mp finished
    obtain ⟨before, taken, after, middle, rfl, earlier, later⟩ :=
      ran.exists_start rfl (by rw [done]; rfl)
    obtain ⟨-, closing⟩ := scheduled_of_split earlier later
    rw [closing_iff_of_split earlier later finished] at unclosed
    -- A channel that is not on the list was made behind the start of the teardown.
    have late : .created slot ∈ effectsOf (⟨.teardownStarts, taken⟩ :: after) := by
      rw [effectsOf_append, List.mem_append] at made
      rcases made with early | late
      · exact absurd (earlier.bounds_of_created early).2 unclosed
      · exact late
    obtain ⟨id, first, call, effects, member, told, live, peeking⟩ :=
      later.created_of_closing closing late
    have dispatched : ⟨.firstRequest id (.ok first) none, effects⟩ ∈ after := by
      simpa using member
    exact .late rfl earlier live peeking dispatched told
  · rintro (@⟨before, after, taken, effects, _, id, first, call, split, earlier, live, peeking,
      dispatched, made⟩)
    subst split
    -- The run passes through the one state that the moments before lead to.
    obtain ⟨middle, again, later⟩ := ran.split
    cases again.unique earlier
    have told : .created slot ∈ effectsOf (⟨.teardownStarts, taken⟩ :: after) :=
      List.mem_flatMap.mpr ⟨_, List.mem_cons_of_mem _ dispatched, made⟩
    constructor
    · rw [effectsOf_append]
      exact List.mem_append_right _ told
    · rw [closing_iff_of_split earlier later finished]
      exact Nat.not_lt.mpr (later.bounds_of_created told).1

/-- Closed means closed, exactly if no channel was made too late. -/
theorem allClosed_iff_noneTooLate {rules : RuleTable} {limits : Limits} {past : List Moment}
    {hub : Hub} (ran : History (fresh rules limits) past hub)
    (closed : hub.lifecycle = .closed) :
    (∀ slot, .created slot ∈ effectsOf past → .closing slot ∈ effectsOf past) ↔
      ∀ slot, ¬MadeTooLate (fresh rules limits) past slot := by
  constructor
  · intro all slot late
    obtain ⟨made, unclosed⟩ := (leaked_iff_madeTooLate ran closed slot).mpr late
    exact unclosed (all slot made)
  · intro none slot made
    by_contra unclosed
    exact none slot ((leaked_iff_madeTooLate ran closed slot).mp ⟨made, unclosed⟩)

/-- A hub that is closed after its one call has closed its one channel. -/
theorem allClosed_after_answered_call :
    ∃ rules limits past hub,
      History (fresh rules limits) past hub ∧ hub.lifecycle = .closed ∧
        .created 0 ∈ effectsOf past ∧
        ((∀ slot, .created slot ∈ effectsOf past → .closing slot ∈ effectsOf past) ↔
          ∀ slot, ¬MadeTooLate (fresh rules limits) past slot) := by
  have ran : History (fresh .empty ⟨1, 1, by decide, by decide⟩)
      ([] ++ [⟨.begin "a" .unaryUnary "get" .null none, _⟩] ++ [⟨.respond "a" .null, _⟩] ++
        [⟨.shutdownNow "b", _⟩] ++ [⟨.teardownStarts, _⟩] ++ [⟨.closeReturns none, _⟩]) _ :=
    .next (.next (.next (.next (.next .begin rfl) rfl) rfl) rfl) rfl
  exact ⟨_, _, _, _, ran, rfl, mem_creations.mp (List.mem_singleton.mpr rfl),
    allClosed_iff_noneTooLate ran rfl⟩

/-- A call that is admitted, waits for its first request while the hub is closed,
and then gets one, is placed on a new channel that nobody closes. -/
theorem closed_with_open_channel :
    ∃ hub effects,
      (fresh ⟨[⟨"watch", .bound, "id"⟩]⟩ ⟨1, 1, by decide, by decide⟩).run
          [.beginMany "a" .streamUnary "watch" none, .shutdownNow "b", .teardownStarts,
            .firstRequest "a" (.ok none) none] = some (hub, effects) ∧
        hub.lifecycle = .closed ∧ .created 0 ∈ effects ∧ .closing 0 ∉ effects := by
  refine ⟨_, _, rfl, rfl, ?_, ?_⟩
  · exact mem_creations.mp (List.mem_singleton.mpr rfl)
  · intro closing
    exact List.not_mem_nil (mem_closings.mpr closing)

end Hub

end AffinityPool
