/-
Module: AffinityPool.Proofs.Hub.Stage
Purpose: The stages of a call that nobody disturbs: it waits for its first request, it is in
  service, or it has exited as the transport has it.
Main exports:
  Moment.Undisturbed, Hub.BindsElsewhere, Hub.Conflicted, Hub.Stage, Hub.Stage.once,
  Hub.Stage.handsOver, Hub.Stage.faithful, Hub.Stage.step, Hub.Stepped.stage_of_admitted
-/
import AffinityPool.Proofs.Hub.Account
import AffinityPool.Proofs.Hub.Traffic
import AffinityPool.Proofs.Message.Candid

namespace AffinityPool

/-! ### Calls that are left alone -/

/-- Whether a caller gives up with an action, or its sequence fails before the call
is handed over. -/
def Action.breaksOff : Action → Bool
  | .cancel _ | .abandon _ | .abandonFails .. | .firstRequest _ (.error _) _ => true
  | _ => false

/-- The messages that pass with an action. -/
def Action.messages : Action → List Message
  | .begin _ _ _ request _ => [request]
  | .firstRequest _ (.ok (some request)) _ => [request]
  | .respond _ response => [response]
  | _ => []

/-- A moment in which nobody disturbs the call it is about: the caller goes on, a
channel can be made if one is needed, and the messages answer for their fields. -/
structure Moment.Undisturbed (moment : Moment) : Prop where
  patient : moment.action.breaksOff = false
  supplied : .creationFailed ∉ moment.effects
  candid : ∀ message ∈ moment.action.messages, message.Candid

theorem Moment.Undisturbed.withoutNotes {action : Action} {effects : List Effect}
    (undisturbed : Moment.Undisturbed ⟨action, effects⟩) :
    Moment.Undisturbed ⟨action, withoutNotes effects⟩ where
  patient := undisturbed.patient
  supplied := fun failed => undisturbed.supplied ((mem_withoutNotes rfl).mp failed)
  candid := undisturbed.candid

/-! ### Keys that another channel holds -/

theorem Affinity.Shows.conflict?_of_lookup {state : Affinity} {account : Account}
    (agrees : state.Shows account) {key : String} {bound serving : Nat}
    (held : state.lookup key = some bound) (other : bound ≠ serving) :
    account.conflict? (.bind key serving) = some (.bindingConflict key bound serving) := by
  obtain ⟨entry, found, rfl⟩ := Option.map_eq_some_iff.mp held
  obtain ⟨count, holding, -⟩ := agrees.held found
  simp [Account.conflict?, holding, other]

/-- Only a bind of a key that another channel holds is a conflict. -/
theorem Affinity.Shows.lookup_of_conflict {state : Affinity} {account : Account}
    (agrees : state.Shows account) {event : BindingEvent} {failure : Failure}
    (conflict : account.conflict? event = some failure) :
    ∃ key bound serving, event = .bind key serving ∧ state.lookup key = some bound ∧
      bound ≠ serving := by
  cases event with
  | bind key serving =>
      have shown := agrees key
      simp only [Account.conflict?] at conflict
      split at conflict
      · cases conflict
      · rename_i held holding
        rw [holding] at shown
        obtain ⟨entry, found, same⟩ := Option.map_eq_some_iff.mp shown
        split at conflict
        · cases conflict
        · rename_i apart
          have here : entry.slot = held.slot := congrArg Prod.fst same
          exact ⟨key, held.slot, serving, rfl, by simp [Affinity.lookup, found, here], apart⟩
  | unbind key => cases conflict

/-- The start of a call is no event. -/
theorem Action.Sends.eventless {id : CallId} {shape : Shape} {method : String} {action : Action}
    {requests : Requests} (sends : action.Sends id shape method requests) (register : Register)
    (rules : RuleTable) : register.event? rules action = none := by
  cases sends <;> rfl

namespace Hub

/-- The exchange of a call is completed with a bind, and the key is bound to another
channel than the one that served the call. -/
structure BindsElsewhere (rules : RuleTable) (limits : Limits) (past : List Moment)
    (action : Action) (id : CallId) (key : String) (bound serving : Nat) : Prop where
  about : action.call? = some id
  binds : (registerOf (effectsOf past)).event? rules action = some (.bind key serving)
  held : ∃ hub, History (fresh rules limits) past hub ∧ hub.affinity.lookup key = some bound
  other : bound ≠ serving

/-- Somewhere in a course of moments a call binds a key that another channel holds. -/
inductive Conflicted (rules : RuleTable) (limits : Limits) (before : List Moment) (id : CallId) :
    List Moment → Prop where
  | conflict {during after : List Moment} {moment : Moment} {key : String} {bound serving : Nat}
      (binds : BindsElsewhere rules limits (before ++ during) moment.action id key bound serving) :
      Conflicted rules limits before id (during ++ moment :: after)

theorem Conflicted.extend {rules : RuleTable} {limits : Limits} {before course : List Moment}
    {id : CallId} (conflicted : Conflicted rules limits before id course) (moment : Moment) :
    Conflicted rules limits before id (course ++ [moment]) := by
  cases conflicted with
  | conflict binds =>
      rw [List.append_assoc, List.cons_append]
      exact .conflict binds

/-! ### How a call exits -/

section Exit

variable {rules : RuleTable} {limits : Limits} {past : List Moment} {hub : Hub} {id : CallId}
  {call : Call} {slot : Nat}

/-- A call that occupies a slot exits with its outcome. -/
theorem History.exit_occupied (ran : History (fresh rules limits) past hub)
    (live : hub.call? id = some call) (occupies : call.phase.slot? = some slot)
    (outcome : Outcome) : (hub.exitPlaced id slot outcome).2 = [.exited id outcome] := by
  obtain ⟨service, found, rfl⟩ := ran.registered.occupied live occupies
  exact (ran.balanced.exit ran.registered.distinct found outcome).1

/-- A call whose exchange succeeds exits with success, unless it binds a key that
another channel holds. -/
theorem History.exit_completed (ran : History (fresh rules limits) past hub)
    {opening : Opening} {firstKey : Option String} {action : Action} {effect : IndexEffect}
    {notes : List Note} {success : Outcome} (live : hub.call? id = some call)
    (waiting : call.phase = .waiting slot opening firstKey)
    (completes : Completes call opening firstKey id action (.ok (effect, notes)) success) :
    ((hub.applyEffect slot effect).2.1.exitPlaced id slot
        (success.afterEffect (hub.applyEffect slot effect).1)).2 = [.exited id success] ∨
      ∃ key bound serving, BindsElsewhere rules limits past action id key bound serving := by
  obtain ⟨service, found, rfl, -⟩ := ran.registered.placed live (Or.inl waiting)
  have inside := ran.indexed.waiting_lt live waiting
  have result := (ran.indexed.shows_applyEffect ran.shows inside effect).2
  have told := ran.registered.completion live waiting completes
  rw [ran.rules] at told
  have exits := ((ran.balanced.applyEffect service.slot effect).exit ran.registered.distinct found
    (success.afterEffect (hub.applyEffect service.slot effect).1)).1
  rw [exits, result, Outcome.afterEffect_elim]
  cases conflict : (effect.event? service.slot).bind (replay (journal rules past)).conflict? with
  | none => exact Or.inl rfl
  | some failure =>
      obtain ⟨event, posts, conflicts⟩ := Option.bind_eq_some_iff.mp conflict
      obtain ⟨key, bound, serving, rfl, held, other⟩ := ran.shows.lookup_of_conflict conflicts
      refine Or.inr ⟨key, bound, serving, completes.about, ?_, ⟨hub, ran, held⟩, other⟩
      exact told.trans posts

end Exit

/-! ### The stages of a call -/

/-- How far a call has come that is left alone, with the traffic so far. -/
inductive Stage (opener : Action) (id : CallId) (shape : Shape) (method : String)
    (conflicted : Prop) (hub : Hub) : Traffic → Prop where
  /-- The first request has been asked for. -/
  | asking {call : Call} {supply : Option Failure} (live : hub.call? id = some call)
      (peeking : call.phase = .peeking) (asked : call.shape = shape ∧ call.method = method)
      (many : opener = .beginMany id shape method supply) :
      Stage opener id shape method conflicted hub .none
  /-- The transport has been called. -/
  | serving {call : Call} {slot : Nat} {opening : Opening} {firstKey : Option String}
      {taken : List (Option Message)} {arrivals : List Arrival}
      (live : hub.call? id = some call)
      (stands : call.phase = .waiting slot opening firstKey ∨
        call.phase = .paused slot opening firstKey)
      (asked : call.shape = shape ∧ call.method = method)
      (hands : opener.HandsOver id shape method taken opening)
      (readable : ∀ request, opening.keyRequest? = some request → request.Candid) :
      Stage opener id shape method conflicted hub
        ⟨taken, [(⟨slot, shape, method⟩, opening)], arrivals, arrivals⟩
  /-- The call has exited. -/
  | gone {slot : Nat} {opening : Opening} {taken : List (Option Message)}
      {brought shown : List Arrival} (dead : hub.call? id = none)
      (hands : opener.HandsOver id shape method taken opening)
      (faithful : ¬conflicted → shown = brought) :
      Stage opener id shape method conflicted hub
        ⟨taken, [(⟨slot, shape, method⟩, opening)], brought, shown⟩

section Stages

variable {rules : RuleTable} {limits : Limits} {past : List Moment} {hub next : Hub}
  {action opener : Action} {effects : List Effect} {id : CallId} {shape : Shape}
  {method : String} {call : Call} {slot : Nat} {opening : Opening} {firstKey : Option String}
  {taken : List (Option Message)} {arrivals : List Arrival} {conflicted conflicting : Prop}

/-- A call that is handed over comes into service. -/
theorem Dispatching.stage {supply : Option Failure}
    (dispatching : Dispatching hub id call opening supply next effects)
    (asked : call.shape = shape ∧ call.method = method)
    (hands : opener.HandsOver id shape method taken opening)
    (readable : ∀ request, opening.keyRequest? = some request → request.Candid)
    (supplied : .creationFailed ∉ effects) :
    Stage opener id shape method conflicted next
      ⟨taken, effects.filterMap (Effect.handover? id), [],
        effects.filterMap (Effect.arrival? id)⟩ := by
  cases dispatching with
  | unreadable unread =>
      obtain ⟨key, notes, read⟩ := exists_requestKey readable call.rule
      rw [read] at unread
      cases unread
  | unsupplied read unbound saturated failed => exact absurd List.mem_cons_self supplied
  | @placed key notes slot pool creation read placing =>
      have silent : creation.filterMap (Effect.handover? id) = [] ∧
          creation.filterMap (Effect.arrival? id) = [] := by
        cases placing <;> exact ⟨rfl, rfl⟩
      obtain ⟨rfl, rfl⟩ := asked
      rw [List.filterMap_append, List.filterMap_append, silent.1, silent.2]
      have handed : [Effect.dispatched id slot call.shape call.method opening].filterMap
          (Effect.handover? id) = [(⟨slot, call.shape, call.method⟩, opening)] := by
        simp [Effect.handover?]
      rw [handed]
      exact .serving (call?_of_put_self rfl) (Or.inl rfl) ⟨rfl, rfl⟩ hands readable

/-- A call that waits for its first request gets it, and is handed over. -/
theorem Proceeds.stage_of_asking (proceeds : Proceeds hub id call action next effects)
    (peeking : call.phase = .peeking) (asked : call.shape = shape ∧ call.method = method)
    {offer : Option Failure} (many : opener = .beginMany id shape method offer)
    (undisturbed : Moment.Undisturbed ⟨action, effects⟩) :
    Stage opener id shape method conflicted next (Moment.traffic id ⟨action, effects⟩) := by
  cases proceeds with
  | @peeked first supply _ _ waits dispatching =>
      subst many
      have readable : ∀ request, (Opening.ofFirst first).keyRequest? = some request →
          request.Candid := by
        intro request asked
        cases first with
        | none => cases asked
        | some first =>
            cases asked
            exact undisturbed.candid _ List.mem_cons_self
      have stage : Stage (.beginMany id shape method offer) id shape method conflicted next _ :=
        dispatching.stage asked .ofFirst readable undisturbed.supplied
      simpa [Moment.traffic, Action.taken?, Action.arrival?] using stage
  | gaveUp waits givesUp =>
      have goesOn := undisturbed.patient
      cases givesUp <;> cases goesOn
  | delivered waiting read =>
      rw [peeking] at waiting
      cases waiting
  | resumed paused =>
      rw [peeking] at paused
      cases paused
  | completed waiting completes =>
      rw [peeking] at waiting
      cases waiting
  | left leaves =>
      have occupies := leaves.occupies
      rw [peeking] at occupies
      cases occupies

/-- What passes for a call in service. -/
theorem traffic_join_exchange (handed : List (Dispatch × Opening)) (brought shown : List Arrival)
    {moment : Moment} (untaken : moment.action.taken? id = none)
    (unhanded : moment.effects.filterMap (Effect.handover? id) = []) :
    (⟨taken, handed, brought, shown⟩ : Traffic).join (moment.traffic id) =
      ⟨taken, handed, brought ++ (moment.action.arrival? id).toList,
        shown ++ moment.effects.filterMap (Effect.arrival? id)⟩ := by
  simp [Traffic.join, Moment.traffic, untaken, unhanded]

/-- The exit of a call in service. -/
theorem stage_of_exit {outcome : Outcome} (dead : next.call? id = none)
    (hands : opener.HandsOver id shape method taken opening)
    (untaken : action.taken? id = none)
    (faithful : ¬conflicting → outcome.arrival? = action.arrival? id) :
    Stage opener id shape method conflicting next
      ((⟨taken, [(⟨slot, shape, method⟩, opening)], arrivals, arrivals⟩ : Traffic).join
        (Moment.traffic id ⟨action, [.exited id outcome]⟩)) := by
  rw [traffic_join_exchange _ _ _ untaken rfl]
  refine .gone dead hands ?_
  intro quiet
  rw [← faithful quiet]
  cases outcome <;> simp [Effect.arrival?, Outcome.arrival?]

theorem of_waiting {phase : Phase} {position : Nat} {others : Opening} {other : Option String}
    (stands : phase = .waiting slot opening firstKey ∨ phase = .paused slot opening firstKey)
    (waiting : phase = .waiting position others other) : position = slot ∧ others = opening := by
  rcases stands with here | there
  · rw [here] at waiting
    cases waiting
    exact ⟨rfl, rfl⟩
  · rw [there] at waiting
    cases waiting

theorem of_paused {phase : Phase} {position : Nat} {others : Opening} {other : Option String}
    (stands : phase = .waiting slot opening firstKey ∨ phase = .paused slot opening firstKey)
    (paused : phase = .paused position others other) : position = slot ∧ others = opening := by
  rcases stands with here | there
  · rw [here] at paused
    cases paused
  · rw [there] at paused
    cases paused
    exact ⟨rfl, rfl⟩

theorem Completes.untaken {told : Except Failure (IndexEffect × List Note)} {success : Outcome}
    (completes : Completes call opening firstKey id action told success) :
    action.taken? id = none := by
  cases completes <;> rfl

theorem Completes.arrival {told : Except Failure (IndexEffect × List Note)} {success : Outcome}
    (completes : Completes call opening firstKey id action told success) :
    success.arrival? = action.arrival? id := by
  cases completes <;> simp [Action.arrival?, Outcome.arrival?]

/-- What a completed exchange does to the index can be told. -/
theorem Completes.readable {told : Except Failure (IndexEffect × List Note)} {success : Outcome}
    (completes : Completes call opening firstKey id action told success)
    (asked : ∀ request, opening.keyRequest? = some request → request.Candid)
    (candid : ∀ message ∈ action.messages, message.Candid) :
    ∃ effect notes, told = .ok (effect, notes) := by
  cases completes with
  | replied single => exact exists_unaryEffect asked (candid _ List.mem_cons_self) call.rule
  | ended streams => exact exists_streamEffect asked call.rule firstKey

/-- A call in service that is left alone leaves it only by a failure of the
transport. -/
theorem Leaves.failed_of_undisturbed {position : Nat} {outcome : Outcome}
    (leaves : Leaves call id position action outcome)
    (stands : call.phase = .waiting slot opening firstKey ∨
      call.phase = .paused slot opening firstKey)
    (readable : ∀ request, opening.keyRequest? = some request → request.Candid)
    (undisturbed : Moment.Undisturbed ⟨action, effects⟩) :
    ∃ failure, action = .fail id failure ∧ outcome = .failed failure := by
  have patient := undisturbed.patient
  cases leaves with
  | failed waiting => exact ⟨_, rfl, rfl⟩
  | cancelled waiting => cases patient
  | abandoned paused => cases patient
  | abandonFailed paused => cases patient
  | @unreadable others first response failure waiting streams unread =>
      obtain ⟨key, read⟩ :=
        exists_keyAfter (undisturbed.candid response List.mem_cons_self) call.rule first
      rw [read] at unread
      cases unread
  | unanswered waiting completes =>
      obtain ⟨rfl, rfl⟩ := of_waiting stands waiting
      obtain ⟨effect, notes, told⟩ := completes.readable readable undisturbed.candid
      cases told

/-- A call in service goes on, or exits as the transport has it. -/
theorem Proceeds.stage_of_serving (ran : History (fresh rules limits) past hub)
    (proceeds : Proceeds hub id call action next effects) (live : hub.call? id = some call)
    (stands : call.phase = .waiting slot opening firstKey ∨
      call.phase = .paused slot opening firstKey)
    (asked : call.shape = shape ∧ call.method = method)
    (hands : opener.HandsOver id shape method taken opening)
    (readable : ∀ request, opening.keyRequest? = some request → request.Candid)
    (undisturbed : Moment.Undisturbed ⟨action, effects⟩)
    (conflicts : ∀ key bound serving,
      BindsElsewhere rules limits past action id key bound serving → conflicting) :
    Stage opener id shape method conflicting next
      ((⟨taken, [(⟨slot, shape, method⟩, opening)], arrivals, arrivals⟩ : Traffic).join
        (Moment.traffic id ⟨action, effects⟩)) := by
  cases proceeds with
  | peeked peeking dispatching =>
      rw [peeking] at stands
      rcases stands with waiting | paused
      · cases waiting
      · cases paused
  | gaveUp peeking givesUp =>
      have goesOn := undisturbed.patient
      cases givesUp <;> cases goesOn
  | @delivered position others first key response waiting read =>
      obtain ⟨rfl, rfl⟩ := of_waiting stands waiting
      rw [traffic_join_exchange _ _ _ rfl rfl]
      have here : [Effect.delivered id response].filterMap (Effect.arrival? id) =
          [.response response] := by
        simp [Effect.arrival?]
      have came : ((Action.respond id response).arrival? id).toList = [.response response] := by
        simp [Action.arrival?]
      rw [here, came]
      exact .serving (call?_of_put_self rfl) (Or.inr rfl) asked hands readable
  | resumed paused =>
      obtain ⟨rfl, rfl⟩ := of_paused stands paused
      rw [traffic_join_exchange _ _ _ rfl rfl]
      simp only [Action.arrival?, Option.toList_none, List.filterMap_nil, List.append_nil]
      exact .serving (call?_of_put_self rfl) (Or.inl rfl) asked hands readable
  | @completed _ position others first effect notes success waiting completes =>
      obtain ⟨rfl, rfl⟩ := of_waiting stands waiting
      have dead := call?_of_drop_self (calls_completed hub id position effect
        (success.afterEffect (hub.applyEffect position effect).1))
      obtain ⟨shown, exits⟩ := exitPlaced_effects (hub.applyEffect position effect).2.1 id
        position (success.afterEffect (hub.applyEffect position effect).1)
      rw [exits]
      refine stage_of_exit dead hands completes.untaken ?_
      intro quiet
      rcases ran.exit_completed live waiting completes with succeeds | ⟨key, bound, serving, binds⟩
      · rw [exits] at succeeds
        cases succeeds
        exact completes.arrival
      · exact absurd (conflicts key bound serving binds) quiet
  | @left _ position outcome leaves =>
      have exits := ran.exit_occupied live leaves.occupies outcome
      have dead := call?_of_drop_self (calls_exitPlaced hub id position outcome)
      obtain ⟨failure, rfl, rfl⟩ := leaves.failed_of_undisturbed stands readable undisturbed
      rw [exits]
      exact stage_of_exit dead hands rfl fun _ => by simp [Action.arrival?, Outcome.arrival?]

/-- A moment about other calls only. -/
theorem Stage.carry {passed : Traffic}
    (stage : Stage opener id shape method conflicted hub passed)
    (same : next.call? id = hub.call? id) (grows : conflicted → conflicting) :
    Stage opener id shape method conflicting next passed := by
  cases stage with
  | asking live peeking asked many => exact .asking (same.trans live) peeking asked many
  | serving live stands asked hands readable =>
      exact .serving (same.trans live) stands asked hands readable
  | gone dead hands faithful =>
      exact .gone (same.trans dead) hands fun quiet => faithful fun before => quiet (grows before)

theorem Stage.shape_eq {passed : Traffic}
    (stage : Stage opener id shape method conflicted hub passed) (live : hub.call? id = some call) :
    call.shape = shape := by
  cases stage with
  | asking known peeking asked many =>
      rw [live] at known
      cases known
      exact asked.1
  | serving known stands asked hands readable =>
      rw [live] at known
      cases known
      exact asked.1
  | gone dead hands faithful =>
      rw [live] at dead
      cases dead

/-- Up to its exit, a caller has seen what the transport brought. -/
theorem Stage.shown_eq_brought {passed : Traffic}
    (stage : Stage opener id shape method conflicted hub passed) (live : hub.call? id = some call) :
    passed.shown = passed.brought := by
  cases stage with
  | asking known peeking asked many => rfl
  | serving known stands asked hands readable => rfl
  | gone dead hands faithful =>
      rw [live] at dead
      cases dead

/-- A call that is left alone is handed over once, unless it waits for its first
request. -/
theorem Stage.once {passed : Traffic}
    (stage : Stage opener id shape method conflicted hub passed) :
    (passed.handed = [] ∧ ∃ call, hub.call? id = some call ∧ call.phase = .peeking) ∨
      ∃ slot opening, passed.handed = [(⟨slot, shape, method⟩, opening)] ∧
        ∀ call, hub.call? id = some call → call.phase.slot? = some slot := by
  cases stage with
  | asking live peeking asked many => exact Or.inl ⟨rfl, _, live, peeking⟩
  | serving live stands asked hands readable =>
      refine Or.inr ⟨_, _, rfl, ?_⟩
      intro call known
      rw [live] at known
      cases known
      rcases stands with waiting | paused
      · rw [waiting]
        rfl
      · rw [paused]
        rfl
  | gone dead hands faithful =>
      refine Or.inr ⟨_, _, rfl, ?_⟩
      intro call known
      rw [dead] at known
      cases known

/-- Its requests are handed over as they were taken. -/
theorem Stage.handsOver {passed : Traffic}
    (stage : Stage opener id shape method conflicted hub passed) {dispatch : Dispatch}
    (handed : (dispatch, opening) ∈ passed.handed) :
    opener.HandsOver id shape method passed.taken opening := by
  cases stage with
  | asking live peeking asked many => cases handed
  | serving live stands asked hands readable =>
      cases List.mem_singleton.mp handed
      exact hands
  | gone dead hands faithful =>
      cases List.mem_singleton.mp handed
      exact hands

/-- Without a conflict its caller has seen what the transport brought. -/
theorem Stage.faithful {passed : Traffic}
    (stage : Stage opener id shape method conflicted hub passed) (quiet : ¬conflicted) :
    passed.shown = passed.brought := by
  cases stage with
  | asking live peeking asked many => rfl
  | serving live stands asked hands readable => rfl
  | gone dead hands faithful => exact faithful quiet

/-- One step takes a call that is left alone from stage to stage. -/
theorem Stage.step {passed : Traffic}
    (stage : Stage opener id shape method conflicted hub passed)
    (ran : History (fresh rules limits) past hub)
    (stepped : hub.step action = some (next, effects)) (alone : action.begins? ≠ some id)
    (undisturbed : action.call? = some id → Moment.Undisturbed ⟨action, effects⟩)
    (grows : conflicted → conflicting)
    (conflicts : ∀ key bound serving,
      BindsElsewhere rules limits past action id key bound serving → conflicting) :
    Stage opener id shape method conflicting next
      (passed.join (Moment.traffic id ⟨action, effects⟩)) := by
  by_cases about : action.call? = some id
  · have calm := (undisturbed about).withoutNotes
    rw [← traffic_withoutNotes]
    cases stage with
    | asking live peeking asked many =>
        rw [Traffic.none_join]
        have proceeds := (stepped_of_step stepped).proceeds live about
        exact proceeds.stage_of_asking peeking asked many calm
    | serving live stands asked hands readable =>
        have proceeds := (stepped_of_step stepped).proceeds live about
        exact proceeds.stage_of_serving ran live stands asked hands readable calm conflicts
    | gone dead hands faithful =>
        exact absurd ((stepped_of_step stepped).begins_of_fresh dead about) alone
  · rw [traffic_of_other stepped about, Traffic.join_none]
    exact stage.carry ((stepped_of_step stepped).call?_of_other about) grows

/-- A call that is admitted waits for its first request, or is in service. -/
theorem Stepped.stage_of_admitted {requests : Requests}
    (stepped : Stepped hub action next effects) (sends : action.Sends id shape method requests)
    (admitted : .admitted id ∈ effects) (undisturbed : Moment.Undisturbed ⟨action, effects⟩) :
    Stage action id shape method conflicted next (Moment.traffic id ⟨action, effects⟩) := by
  have begins := sends.begins
  cases stepped with
  | refused starts fresh closing => simp at admitted
  | waits fresh unclosed many reads =>
      cases sends
      exact .asking (call?_of_put_self (calls_withAdmitted ..)) rfl ⟨rfl, rfl⟩ rfl
  | begins fresh unclosed starts dispatching =>
      have supplied := fun failed => undisturbed.supplied (List.mem_cons_of_mem _ failed)
      cases starts with
      | single one =>
          cases sends
          refine dispatching.stage ⟨rfl, rfl⟩ .single ?_ supplied
          intro request asked
          cases asked
          exact undisturbed.candid _ List.mem_cons_self
      | untouched many unread =>
          cases sends
          refine dispatching.stage ⟨rfl, rfl⟩ .untouched ?_ supplied
          intro request asked
          cases asked
  | peeked live peeking dispatching => cases begins
  | gaveUp live peeking givesUp => cases givesUp <;> cases begins
  | delivered live waiting streams read => cases begins
  | resumed live paused => cases begins
  | completed live waiting completes =>
      rw [completes.begins] at begins
      cases begins
  | left live leaves =>
      rw [leaves.begins] at begins
      cases begins
  | background background =>
      rw [background.begins] at begins
      cases begins

end Stages

end Hub

end AffinityPool
