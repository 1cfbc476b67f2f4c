/-
Module: AffinityPool.Proofs.Hub.Streaming
Purpose: A call that brings a stream of responses touches the index once, at the end of the stream,
  and not at all if the stream does not come to its end.
Main exports:
  RuleTable.endEffect, Hub.Passes, Hub.Relay, Hub.Relay.step, Hub.History.relay, Hub.Streaming,
  Hub.History.streaming
-/
import AffinityPool.Proofs.Hub.Confinement
import AffinityPool.Proofs.Hub.Stage

namespace AffinityPool

/-- What a stream of responses does to the index when it has come to its end.  A bind
takes the first key that a response has, an unbind the key of the request. -/
def RuleTable.endEffect (rules : RuleTable) (method : String) (opening : Opening)
    (responses : List Message) : IndexEffect :=
  match rules.ruleFor method with
  | none => .nothing
  | some rule =>
      match rule.command with
      | .bound => .nothing
      | .bind => .binding (responses.findSome? rule.keyIn?)
      | .unbind => .unbinding (opening.keyRequest?.bind rule.keyIn?)

/-- A call whose request could be asked for its key can be told what it does to the
index at the end of the stream. -/
theorem streamEffect_of_read {rules : RuleTable} {method : String} (service : Service)
    {key : Option String} {notes : List Note}
    (read : requestKey (rules.ruleFor method) service.opening.keyRequest? = .ok (key, notes)) :
    ∃ others, streamEffect (rules.ruleFor method) service.opening.keyRequest?
        (service.bindKey? (rules.ruleFor method)) =
      .ok (rules.endEffect method service.opening service.responses, others) := by
  have routing := RuleTable.routingKey?_of_read read
  unfold RuleTable.routingKey? at routing
  unfold streamEffect Service.bindKey? RuleTable.endEffect
  cases ruled : rules.ruleFor method with
  | none => exact ⟨[], rfl⟩
  | some rule =>
      rw [ruled] at read routing
      cases command : rule.command with
      | bound => simp [command]
      | bind =>
          simp only [command, if_true]
          cases service.responses.findSome? rule.keyIn? with
          | none => exact ⟨[.noKeyInAnyResponse rule.method], rfl⟩
          | some first => exact ⟨[], rfl⟩
      | unbind =>
          simp only [command] at routing ⊢
          rw [read, routing]
          exact ⟨notes, rfl⟩

namespace Hub

/-! ### The moments of a course -/

/-- A moment of a course, with what came before it and what came after it, and the
states before it and after it. -/
structure Passes (start : Hub) (course during : List Moment) (here : Hub) (moment : Moment)
    (next : Hub) (after : List Moment) : Prop where
  parted : course = during ++ moment :: after
  reached : History start during here
  stepped : here.step moment.action = some (next, moment.effects)

/-- What has passed for a call in service. -/
structure Conveyed (opener : Action) (id : CallId) (shape : Shape) (method : String) (call : Call)
    (service : Service) (passed : Traffic) : Prop where
  asked : call.shape = shape ∧ call.method = method
  hands : opener.HandsOver id shape method passed.taken service.opening
  handed : passed.handed = [(⟨service.slot, shape, method⟩, service.opening)]
  brought : passed.brought = service.responses.map .response
  /-- The request could be asked for its key. -/
  read : ∃ key notes, requestKey call.rule service.opening.keyRequest? = .ok (key, notes)

/-- How far a call has come, with the traffic so far. -/
inductive Relay (opener : Action) (id : CallId) (shape : Shape) (method : String) (hub : Hub)
    (passed : Traffic) : Prop where
  /-- The first request has been asked for. -/
  | asking {call : Call} {supply : Option Failure} (live : hub.call? id = some call)
      (peeking : call.phase = .peeking) (asked : call.shape = shape ∧ call.method = method)
      (many : opener = .beginMany id shape method supply) (idle : passed = .none)
  /-- The transport has been called, and its responses are passed on. -/
  | serving {call : Call} {service : Service} (live : hub.call? id = some call)
      (stands : call.phase = .waiting service.slot service.opening (service.bindKey? call.rule) ∨
        call.phase = .paused service.slot service.opening (service.bindKey? call.rule))
      (conveyed : Conveyed opener id shape method call service passed) :
      Relay opener id shape method hub passed
  /-- The call has exited, or it was never admitted. -/
  | gone (dead : hub.call? id = none)

section Relays

variable {hub next : Hub} {register : Register} {action opener : Action} {effects : List Effect}
  {id : CallId} {shape : Shape} {method : String} {call : Call} {service : Service}
  {passed : Traffic}

/-- A call that asks for a channel comes into service, or it exits. -/
theorem Dispatching.relay {opening : Opening} {supply : Option Failure}
    (dispatching : Dispatching hub id call opening supply next effects)
    (asked : call.shape = shape ∧ call.method = method)
    (hands : opener.HandsOver id shape method passed.taken opening)
    (handed : passed.handed = effects.filterMap (Effect.handover? id))
    (unbrought : passed.brought = []) : Relay opener id shape method next passed := by
  cases dispatching with
  | unreadable unread => exact .gone (call?_of_drop_self rfl)
  | unsupplied read unbound saturated failed => exact .gone (call?_of_drop_self rfl)
  | @placed key notes slot pool creation read placing =>
      have silent : creation.filterMap (Effect.handover? id) = [] := by
        cases placing <;> rfl
      have told : passed.handed = [(⟨slot, shape, method⟩, opening)] := by
        rw [handed, List.filterMap_append, silent, asked.1, asked.2]
        simp [Effect.handover?]
      have unkeyed : Service.bindKey? call.rule ⟨slot, shape, method, opening, []⟩ = none := by
        unfold Service.bindKey?
        split
        · split <;> rfl
        · rfl
      have conveyed : Conveyed opener id shape method
          { call with phase := .waiting slot opening none }
          ⟨slot, shape, method, opening, []⟩ passed :=
        ⟨asked, hands, told, unbrought, key, notes, read⟩
      refine .serving (call?_of_put_self rfl) ?_ conveyed
      rw [unkeyed]
      exact Or.inl rfl

/-- One step of a call that waits for its first request. -/
theorem Proceeds.relay_of_asking (proceeds : Proceeds hub id call action next effects)
    (peeking : call.phase = .peeking) (asked : call.shape = shape ∧ call.method = method)
    {offer : Option Failure} (many : opener = .beginMany id shape method offer) :
    Relay opener id shape method next (Moment.traffic id ⟨action, effects⟩) := by
  cases proceeds with
  | @peeked first supply _ _ waits dispatching =>
      subst many
      apply dispatching.relay asked
      · simp only [Moment.traffic, Action.taken?, if_true, Option.toList_some]
        exact .ofFirst
      · rfl
      · rfl
  | gaveUp waits givesUp => exact .gone (call?_of_drop_self rfl)
  | delivered waiting read =>
      rw [peeking] at waiting
      cases waiting
  | resumed paused =>
      rw [peeking] at paused
      cases paused
  | completed waiting completes => exact .gone (call?_of_drop_self (calls_completed ..))
  | left leaves => exact .gone (call?_of_drop_self (calls_exitPlaced ..))

/-- One step of a call in service. -/
theorem Proceeds.relay_of_serving (proceeds : Proceeds hub id call action next effects)
    (stands : call.phase = .waiting service.slot service.opening (service.bindKey? call.rule) ∨
      call.phase = .paused service.slot service.opening (service.bindKey? call.rule))
    (conveyed : Conveyed opener id shape method call service passed) :
    Relay opener id shape method next (passed.join (Moment.traffic id ⟨action, effects⟩)) := by
  obtain ⟨asked, hands, handed, brought, read⟩ := conveyed
  cases proceeds with
  | peeked peeking dispatching => simp [peeking] at stands
  | gaveUp peeking givesUp => exact .gone (call?_of_drop_self rfl)
  | @delivered slot opening firstKey key response waiting told =>
      rcases stands with here | there
      · rw [here] at waiting
        cases waiting
        obtain rfl := Service.bindKey?_deliver told
        let more : Service := { service with responses := service.responses ++ [response] }
        have onward : Conveyed opener id shape method
            { call with phase := .paused service.slot service.opening (more.bindKey? call.rule) }
            more (passed.join (Moment.traffic id ⟨.respond id response,
              [.delivered id response]⟩)) := by
          refine ⟨asked, ?_, ?_, ?_, read⟩
          · simpa [Traffic.join, Moment.traffic, Action.taken?] using hands
          · simp [Traffic.join, Moment.traffic, Effect.handover?, handed, more]
          · simp [Traffic.join, Moment.traffic, Action.arrival?, brought, more]
        exact .serving (call?_of_put_self rfl) (Or.inr rfl) onward
      · rw [there] at waiting
        cases waiting
  | resumed paused =>
      rcases stands with here | there
      · rw [here] at paused
        cases paused
      · rw [there] at paused
        cases paused
        refine .serving (call?_of_put_self rfl) (Or.inl rfl) ⟨asked, ?_, ?_, ?_, read⟩
        · simpa [Traffic.join, Moment.traffic, Action.taken?] using hands
        · simp [Traffic.join, Moment.traffic, handed]
        · simp [Traffic.join, Moment.traffic, Action.arrival?, brought]
  | completed waiting completes => exact .gone (call?_of_drop_self (calls_completed ..))
  | left leaves => exact .gone (call?_of_drop_self (calls_exitPlaced ..))

/-- One step takes a call on, if it does not start anew. -/
theorem Relay.step (relay : Relay opener id shape method hub passed)
    (stepped : hub.step action = some (next, effects)) (alone : action.begins? ≠ some id) :
    Relay opener id shape method next (passed.join (Moment.traffic id ⟨action, effects⟩)) := by
  by_cases about : action.call? = some id
  · rw [← traffic_withoutNotes]
    cases relay with
    | asking live peeking asked many idle =>
        rw [idle, Traffic.none_join]
        exact ((stepped_of_step stepped).proceeds live about).relay_of_asking peeking asked many
    | serving live stands conveyed =>
        exact ((stepped_of_step stepped).proceeds live about).relay_of_serving stands conveyed
    | gone dead => exact absurd ((stepped_of_step stepped).begins_of_fresh dead about) alone
  · have same := (stepped_of_step stepped).call?_of_other about
    rw [traffic_of_other stepped about, Traffic.join_none]
    cases relay with
    | asking live peeking asked many idle => exact .asking (same.trans live) peeking asked many idle
    | serving live stands conveyed => exact .serving (same.trans live) stands conveyed
    | gone dead => exact .gone (same.trans dead)

/-- The start of a call. -/
theorem Stepped.relay_of_sends {requests : Requests} (stepped : Stepped hub action next effects)
    (sends : action.Sends id shape method requests) :
    Relay action id shape method next (Moment.traffic id ⟨action, effects⟩) := by
  have begins := sends.begins
  cases stepped with
  | refused starts fresh closing =>
      rw [begins] at starts
      cases starts
      exact .gone fresh
  | waits fresh unclosed many reads =>
      cases sends
      exact .asking (call?_of_put_self (calls_withAdmitted ..)) rfl ⟨rfl, rfl⟩ rfl rfl
  | begins fresh unclosed starts dispatching =>
      cases starts with
      | single one =>
          cases sends
          exact dispatching.relay ⟨rfl, rfl⟩ .single rfl rfl
      | untouched many unread =>
          cases sends
          exact dispatching.relay ⟨rfl, rfl⟩ .untouched rfl rfl
  | peeked live peeking dispatching => cases begins
  | gaveUp live peeking givesUp => cases givesUp <;> cases begins
  | delivered live waiting streams read => cases begins
  | resumed live paused => cases begins
  | completed live waiting completes =>
      rw [completes.begins] at begins
      cases begins
  | left live leaves =>
      rw [leaves.begins] at begins
      cases begins
  | background background =>
      rw [background.begins] at begins
      cases begins

theorem Completes.told_of_finish {opening : Opening} {firstKey : Option String}
    {told : Except Failure (IndexEffect × List Note)} {success : Outcome}
    (completes : Completes call opening firstKey id (.finish id) told success) :
    told = streamEffect call.rule opening.keyRequest? firstKey ∧ success = .ended := by
  cases completes
  exact ⟨rfl, rfl⟩

/-- The end of the stream: the call is in service, its effect happens, and it
exits. -/
theorem Relay.finish (relay : Relay opener id shape method hub passed)
    (known : Registered hub register) (stepped : Stepped hub (.finish id) next effects) :
    ∃ service : Service, opener.HandsOver id shape method passed.taken service.opening ∧
      passed.handed = [(⟨service.slot, shape, method⟩, service.opening)] ∧
      passed.brought = service.responses.map .response ∧
      (∃ call, hub.call? id = some call ∧ call.phase.slot? = some service.slot) ∧
      (next, effects) =
        (hub.applyEffect service.slot
          (hub.rules.endEffect method service.opening service.responses)).2.1.exitPlaced id
            service.slot (Outcome.ended.afterEffect (hub.applyEffect service.slot
              (hub.rules.endEffect method service.opening service.responses)).1) := by
  cases relay with
  | gone dead => cases stepped.begins_of_fresh dead rfl
  | asking live peeking asked many idle =>
      cases stepped.proceeds live rfl with
      | gaveUp waits givesUp => cases givesUp
      | completed waiting completes =>
          rw [peeking] at waiting
          cases waiting
      | left leaves =>
          have occupies := leaves.occupies
          rw [peeking] at occupies
          cases occupies
  | @serving call service live stands conveyed =>
      obtain ⟨asked, hands, handed, brought, key, notes, read⟩ := conveyed
      have ruled := known.ruled live
      rw [asked.2] at ruled
      rw [ruled] at stands read
      obtain ⟨others, told⟩ := streamEffect_of_read service read
      refine ⟨service, hands, handed, brought, ⟨call, live, ?_⟩, ?_⟩
      · rcases stands with waiting | paused
        · rw [waiting]
          rfl
        · rw [paused]
          rfl
      · cases stepped.proceeds live rfl with
        | gaveUp waits givesUp => cases givesUp
        | @completed _ slot opening firstKey effect notes success waiting completes =>
            rcases stands with here | there
            · rw [here] at waiting
              cases waiting
              obtain ⟨effective, rfl⟩ := completes.told_of_finish
              rw [ruled, told] at effective
              cases effective
              rfl
            · rw [there] at waiting
              cases waiting
        | left leaves =>
            cases leaves with
            | unanswered waiting completes =>
                rcases stands with here | there
                · rw [here] at waiting
                  cases waiting
                  obtain ⟨untold, -⟩ := completes.told_of_finish
                  rw [ruled, told] at untold
                  cases untold
                · rw [there] at waiting
                  cases waiting

theorem Completes.finish_of_streams {opening : Opening} {firstKey : Option String}
    {told : Except Failure (IndexEffect × List Note)} {success : Outcome}
    (completes : Completes call opening firstKey id action told success)
    (streams : call.shape.streamsResponses = true) : action = .finish id := by
  cases completes with
  | replied single =>
      rw [streams] at single
      cases single
  | ended again => rfl

theorem Relay.shape_eq (relay : Relay opener id shape method hub passed)
    (live : hub.call? id = some call) : call.shape = shape := by
  cases relay with
  | asking known peeking asked many idle =>
      rw [live] at known
      cases known
      exact asked.1
  | serving known stands conveyed =>
      rw [live] at known
      cases known
      exact conveyed.asked.1
  | gone dead =>
      rw [live] at dead
      cases dead

/-- Before the end of its stream a call leaves the index alone. -/
theorem Relay.quiet (relay : Relay opener id shape method hub passed)
    (known : Registered hub register) (streams : shape.streamsResponses = true)
    (stepped : Stepped hub action next effects) (about : action.call? = some id)
    (unfinished : action ≠ .finish id) : next.entries = hub.entries := by
  rcases known.eventless_or_completed stepped with
    ⟨-, entries⟩ | ⟨asking, call, slot, opening, firstKey, effect, notes, success, live, waiting,
      completes, -⟩
  · exact entries
  · have same := completes.about
    rw [about] at same
    cases same
    rw [← relay.shape_eq live] at streams
    exact absurd (completes.finish_of_streams streams) unfinished

end Relays

/-- The start of a call leaves the index alone. -/
theorem Registered.entries_of_begins {hub next : Hub} {register : Register}
    (known : Registered hub register) {action : Action} {effects : List Effect} {id : CallId}
    (stepped : Stepped hub action next effects) (begins : action.begins? = some id) :
    next.entries = hub.entries := by
  rcases known.eventless_or_completed stepped with
    ⟨-, entries⟩ | ⟨asking, call, slot, opening, firstKey, effect, notes, success, live, waiting,
      completes, -⟩
  · exact entries
  · rw [completes.begins] at begins
    cases begins

/-- How far a call has come after a course of moments that it starts. -/
theorem History.relay {hub last : Hub} {start : Moment} {later : List Moment} {id : CallId}
    {shape : Shape} {method : String} {requests : Requests}
    (onward : History hub (start :: later) last)
    (sends : start.action.Sends id shape method requests)
    (alone : ∀ moment ∈ later, moment.action.begins? ≠ some id) :
    Relay start.action id shape method last (traffic id (start :: later)) := by
  obtain ⟨middle, stepped, afterwards⟩ := onward.uncons
  induction afterwards with
  | begin =>
      rw [traffic_singleton, ← traffic_withoutNotes]
      exact (stepped_of_step stepped).relay_of_sends sends
  | @next past here after action effects earlier further ih =>
      have reached : History hub (start :: past) here :=
        (History.next .begin stepped : History hub [start] middle).append earlier
      have relay := ih reached fun moment member => alone moment (List.mem_append_left _ member)
      rw [← List.cons_append, traffic_append, traffic_singleton]
      exact relay.step further (alone ⟨action, effects⟩ (by simp))

/-! ### What callers can rely on -/

/-- What a call that brings a stream of responses does to the index in the course of
its life. -/
structure Streaming (rules : RuleTable) (opener : Action) (id : CallId) (shape : Shape)
    (method : String) (hub : Hub) (course : List Moment) : Prop where
  /-- Nothing but the end of the stream, as its reader sees it, has to do with the
  index.  Starts, responses, failures, cancellations and early closes leave it and the
  counters of keys alone. -/
  quiet : ∀ during here moment next after, Passes hub course during here moment next after →
    moment.action.call? = some id → moment.action ≠ .finish id → SameBindings here next
  /-- With the end of the stream the effect of the call happens: that of the responses
  that came before, or that of the request with which the call was handed over. -/
  applied : ∀ during here moment next after, Passes hub course during here moment next after →
    moment.action = .finish id →
      ∃ slot opening responses,
        opener.HandsOver id shape method (traffic id during).taken opening ∧
        (traffic id during).handed = [(⟨slot, shape, method⟩, opening)] ∧
        (traffic id during).brought = responses.map .response ∧
        SameBindings (here.applyEffect slot (rules.endEffect method opening responses)).2.1 next ∧
        withoutNotes moment.effects =
          [.exited id (Outcome.ended.afterEffect
            (here.applyEffect slot (rules.endEffect method opening responses)).1)]
  /-- The end of the stream comes once, and is the last that is heard of the call. -/
  once : ∀ during here moment next after, Passes hub course during here moment next after →
    moment.action = .finish id → ∀ passing ∈ after, passing.action.call? ≠ some id

/-- A course goes on after each of its moments. -/
theorem Passes.onward {course during after : List Moment} {hub here next last : Hub}
    {moment : Moment} (passes : Passes hub course during here moment next after)
    (onward : History hub course last) : History next after last := by
  obtain ⟨rfl, reached, stepped⟩ := passes
  obtain ⟨middle, first, rest⟩ := onward.split
  cases first.unique reached
  obtain ⟨following, again, afterwards⟩ := rest.uncons
  rw [stepped] at again
  cases again
  exact afterwards

theorem Passes.later {start moment other : Moment} {later during after : List Moment}
    {hub here next : Hub} (passes : Passes hub (start :: later) during here moment next after)
    (among : other ∈ after) : other ∈ later := by
  have parted := passes.parted
  cases during with
  | nil =>
      cases parted
      exact among
  | cons first rest =>
      cases parted
      exact List.mem_append_right _ (List.mem_cons_of_mem _ among)

theorem sameBindings_exitPlaced (hub : Hub) (id : CallId) (slot : Nat) (outcome : Outcome) :
    SameBindings hub (hub.exitPlaced id slot outcome).1 where
  entries := entries_exitPlaced ..
  counted := by
    intro channel
    exact boundKeys_exitPlaced ..

/-- How far a call has come before a moment of its course. -/
theorem Passes.relay {start moment : Moment} {later during after : List Moment}
    {hub here next : Hub} {id : CallId} {shape : Shape} {method : String} {requests : Requests}
    (passes : Passes hub (start :: later) during here moment next after)
    (sends : start.action.Sends id shape method requests)
    (alone : ∀ moment ∈ later, moment.action.begins? ≠ some id)
    (startless : moment.action.begins? ≠ some id) :
    Relay start.action id shape method here (traffic id during) := by
  obtain ⟨parted, reached, -⟩ := passes
  cases during with
  | nil =>
      cases parted
      exact absurd sends.begins startless
  | cons first rest =>
      cases parted
      apply reached.relay sends
      intro moment member
      exact alone moment (List.mem_append_left _ member)

/-- Calls that bring a stream of responses touch the index at the end of the stream
only. -/
theorem History.streaming {rules : RuleTable} {limits : Limits} {before later : List Moment}
    {start : Moment} {hub last : Hub} {id : CallId} {shape : Shape} {method : String}
    {requests : Requests} (ran : History (fresh rules limits) before hub)
    (onward : History hub (start :: later) last)
    (sends : start.action.Sends id shape method requests)
    (streams : shape.streamsResponses = true)
    (alone : ∀ moment ∈ later, moment.action.begins? ≠ some id) :
    Streaming rules start.action id shape method hub (start :: later) := by
  constructor
  · intro during here moment next after passes about unfinished
    have sofar := ran.append passes.reached
    have stepped := stepped_of_step passes.stepped
    have entries : next.entries = here.entries := by
      by_cases begins : moment.action.begins? = some id
      · exact sofar.registered.entries_of_begins stepped begins
      · have relay := passes.relay sends alone begins
        exact relay.quiet sofar.registered streams stepped about unfinished
    exact sofar.indexed.sameBindings (sofar.indexed.step stepped) entries
  · intro during here moment next after passes finishes
    have sofar := ran.append passes.reached
    have stepped := stepped_of_step passes.stepped
    have relay := passes.relay sends alone (by simp [finishes, Action.begins?])
    rw [finishes] at stepped
    obtain ⟨service, hands, handed, brought, ⟨call, live, occupies⟩, outcome⟩ :=
      relay.finish sofar.registered stepped
    rw [show here.rules = rules from sofar.rules] at outcome
    obtain ⟨after, told⟩ := Prod.mk.inj outcome
    refine ⟨service.slot, service.opening, service.responses, hands, handed, brought, ?_, ?_⟩
    · rw [after]
      exact sameBindings_exitPlaced ..
    · rw [told]
      exact sofar.balanced.exit_after_effect sofar.registered live occupies _ _
  · intro during here moment next after passes finishes passing member
    have sofar := ran.append passes.reached
    have stepped := stepped_of_step passes.stepped
    have relay := passes.relay sends alone (by simp [finishes, Action.begins?])
    rw [finishes] at stepped
    obtain ⟨service, -, -, -, -, outcome⟩ := relay.finish sofar.registered stepped
    have dead : next.call? id = none := by
      rw [(Prod.mk.inj outcome).1]
      exact call?_of_drop_self (calls_completed ..)
    apply ((passes.onward onward).silent_of_dead dead ?_).2 passing member
    intro other among
    exact alone other (passes.later among)

/-- The first response has no key, and the key of the third is not looked at: the
stream binds the key of the second. -/
theorem streaming_first_key :
    ∃ rules limits start later hub last,
      History (fresh rules limits) [] hub ∧ History hub (start :: later) last ∧
        last.entries = [⟨"k", 0, 1⟩] ∧
        Streaming rules start.action "a" .unaryStream "watch" hub (start :: later) := by
  have onward : History (fresh ⟨[⟨"watch", .bind, "id"⟩]⟩ ⟨1, 1, by decide, by decide⟩)
      ([] ++ [⟨.begin "a" .unaryStream "watch" .null none, _⟩] ++
        [⟨.respond "a" .null, _⟩] ++ [⟨.read "a", _⟩] ++
        [⟨.respond "a" (.dict [("id", .text "k")]), _⟩] ++ [⟨.read "a", _⟩] ++
        [⟨.respond "a" (.dict [("id", .text "z")]), _⟩] ++ [⟨.read "a", _⟩] ++
        [⟨.finish "a", _⟩]) _ :=
    .next (.next (.next (.next (.next (.next (.next (.next .begin rfl) rfl) rfl) rfl) rfl) rfl)
      rfl) rfl
  refine ⟨_, _, _, _, _, _, .begin, onward, rfl, History.streaming .begin onward .one rfl ?_⟩
  decide

end Hub

end AffinityPool
