/-
Module: AffinityPool.Proofs.Session.Course
Purpose: How a call with a sequence of requests goes through a session, whatever else happens there,
  and where its requests are meanwhile.
Main exports:
  Session.Course, Session.Course.settle, Session.Opens, Session.Carries, Session.Stands,
  Session.Departs, Session.Begins, Session.begins_begin, Session.Breaks, Session.Peeks,
  Session.peeks_peekTurn, Session.stands_callTurn, Session.Course.stands
-/
import AffinityPool.Proofs.Session.Apart
import AffinityPool.Proofs.Session.Taking

namespace AffinityPool

/-- How a placed call was opened. -/
def Phase.opening? : Phase → Option Opening
  | .peeking => none
  | .waiting _ opening _ | .paused _ opening _ => some opening

/-- A call that has been opened is on a channel. -/
theorem Phase.exists_slot {phase : Phase} {opening : Opening}
    (opened : phase.opening? = some opening) : ∃ slot, phase.slot? = some slot := by
  cases phase with
  | peeking => cases opened
  | waiting slot opening firstKey => exact ⟨slot, rfl⟩
  | paused slot opening firstKey => exact ⟨slot, rfl⟩

namespace Session

variable {σ : Type} {start now next : Session σ} {id : CallId} {fed more : List Requests.Fed}

/-! ### Courses -/

/-- What happens in a session while a call goes its way: its caller adds to its sequence,
the call has its turns, its caller leaves it, and anything else that leaves it alone.
The list is what its caller has added. -/
inductive Course (id : CallId) (start : Session σ) : List Requests.Fed → Session σ → Prop where
  | begin : Course id start [] start
  | elsewhere {fed : List Requests.Fed} {now next : Session σ} (earlier : Course id start fed now)
      (apart : Apart id now next) : Course id start fed next
  | feeds {fed : List Requests.Fed} {now : Session σ} {exchange : Exchange}
      (more : List Requests.Fed) (earlier : Course id start fed now)
      (held : now.exchanges.get? id = some exchange) :
      Course id start (fed ++ more)
        { now with exchanges := now.exchanges.put id (exchange.feed more) }
  | turn {fed : List Requests.Fed} {now next : Session σ} {call : Call}
      (earlier : Course id start fed now) (live : now.hub.call? id = some call)
      (turn : now.callTurn? id call.phase = some next) : Course id start fed next
  | leaves {fed : List Requests.Fed} {now : Session σ} {action : Action}
      (earlier : Course id start fed now) (left : action = .cancel id ∨ action = .abandon id) :
      Course id start fed (now.act action)

/-- Whatever turn a session takes, the course of a call goes on. -/
theorem Course.onward (course : Course id start fed now)
    (distinct : Ledger.Distinct now.hub.calls) (turn : now.turn? = some next) :
    Course id start fed next := by
  rcases ownTurn_or_apart distinct turn id with ⟨call, live, own⟩ | apart
  · exact .turn course live own
  · exact .elsewhere course apart

/-- The course of a call goes on until everybody waits. -/
theorem Course.settle (course : Course id start fed now)
    (distinct : Ledger.Distinct now.hub.calls) : Course id start fed now.settle := by
  have taken : ∀ fuel, ∀ now : Session σ, Course id start fed now →
      Ledger.Distinct now.hub.calls → Course id start fed (takeTurns fuel now) := by
    intro fuel
    induction fuel with
    | zero => exact fun now course distinct => course
    | succ fuel ih =>
        intro now course distinct
        unfold takeTurns
        split
        · rename_i next turn
          exact ih next (course.onward distinct turn) (distinct_turn distinct turn)
        · exact course
  exact taken now.effort now course distinct

/-! ### Where the requests of a call are -/

/-- How a call opens whose caller's sequence gives `given`, of which nothing is lost. -/
inductive Opens (rule : Option Rule) (given : Requests) : Opening → Prop where
  | untouched (unread : Hub.mustPeek rule = false) : Opens rule given .untouched
  | restored {first : Message} {rest : Requests} (reads : Hub.mustPeek rule = true)
      (pulled : given.pull = (.request first, rest)) : Opens rule given (.restored first)
  | exhausted (reads : Hub.mustPeek rule = true) (spent : given = .empty) :
      Opens rule given .exhausted

/-- The requests `given` are on their way to the transport, or all with it. -/
inductive Carries (transport : Transport σ) (dispatch : Dispatch) (given : Requests) :
    Exchange → Prop where
  | collecting {seen taken : List Message} {rest : Handover}
      (prepared : transport.Prepared seen taken) (whole : given = rest.requests.prepend seen) :
      Carries transport dispatch given (.collecting dispatch taken rest)
  | answering {seen : List Message} (whole : given = Requests.empty.prepend seen) :
      Carries transport dispatch given .answering

/-- Where a call stands whose caller's sequence has been `given` so far. -/
inductive Stands (transport : Transport σ) (rule : Option Rule) (shape : Shape) (method : String)
    (given : Requests) : Option Call → Option Exchange → Prop where
  | peeking {manner : Manner} (reads : Hub.mustPeek rule = true) :
      Stands transport rule shape method given (some ⟨shape, method, rule, .peeking⟩)
        (some (.holding manner given))
  | placed {phase : Phase} {slot : Nat} {opening : Opening} {exchange : Exchange}
      (slotted : phase.slot? = some slot) (opened : phase.opening? = some opening)
      (opens : Opens rule given opening)
      (carries : Carries transport ⟨slot, shape, method⟩ given exchange) :
      Stands transport rule shape method given (some ⟨shape, method, rule, phase⟩) (some exchange)
  | gone : Stands transport rule shape method given none none

variable {transport : Transport σ} {rule : Option Rule} {shape : Shape} {method : String}
  {given : Requests} {call : Call}

/-- Where a call stands in a session. -/
abbrev StandsIn (session : Session σ) (id : CallId) (rule : Option Rule) (shape : Shape)
    (method : String) (given : Requests) : Prop :=
  Stands session.transport rule shape method given (session.hub.call? id)
    (session.exchanges.get? id)

/-- A call stands as it stood when only other calls were moved. -/
theorem StandsIn.apart (stands : StandsIn now id rule shape method given)
    (apart : Apart id now next) : StandsIn next id rule shape method given := by
  unfold StandsIn
  rw [apart.call, apart.exchange, apart.transport]
  exact stands

/-! ### What the caller adds -/

/-- What opens a call does not depend on requests that come later. -/
theorem Opens.feed {opening : Opening} (opens : Opens rule given opening)
    (more : List Requests.Fed) : Opens rule (given.feed more) opening := by
  cases opens with
  | untouched unread => exact .untouched unread
  | @restored first rest reads pulled =>
      have onward : (given.feed more).pull = (.request first, rest.feed more) := by
        rw [Requests.eq_prepend_of_pull pulled, Requests.feed_prepend]
        rfl
      exact .restored reads onward
  | exhausted reads spent =>
      refine .exhausted reads ?_
      rw [spent, Requests.feed_empty]

/-- An exchange that carries the requests so far carries those that come later too. -/
theorem Carries.feed {dispatch : Dispatch} {exchange : Exchange}
    (carries : Carries transport dispatch given exchange) (more : List Requests.Fed) :
    Carries transport dispatch (given.feed more) (exchange.feed more) := by
  cases carries with
  | collecting prepared whole =>
      refine .collecting prepared ?_
      rw [whole, Requests.feed_prepend, Handover.feed_requests]
  | answering whole =>
      rw [whole, Requests.feed_prepend, Requests.feed_empty]
      exact .answering rfl

/-- A call stands as it stood when more requests are fed to it. -/
theorem StandsIn.feed {exchange : Exchange} (stands : StandsIn now id rule shape method given)
    (held : now.exchanges.get? id = some exchange) (more : List Requests.Fed) :
    StandsIn { now with exchanges := now.exchanges.put id (exchange.feed more) } id rule shape
      method (given.feed more) := by
  unfold StandsIn at stands ⊢
  rw [held] at stands
  rw [Ledger.get?_put_self]
  change Stands _ _ _ _ _ (now.hub.call? id) _
  generalize now.hub.call? id = found at stands ⊢
  cases stands with
  | peeking reads => exact .peeking reads
  | placed slotted opened opens carries =>
      exact .placed slotted opened (opens.feed more) (carries.feed more)

/-! ### Being handed over -/

/-- What becomes of a call and its exchange when the call asks for a channel: the transport is
handed `handover`, or the call is gone because its key cannot be read or no channel can be
made. -/
inductive Departs (hub : Hub) (rule : Option Rule) (shape : Shape) (method : String)
    (opening : Opening) (supply : Option Failure) (handover : Handover) :
    Option Call → Option Exchange → Prop where
  | placed {key : Option String} {notes : List Note} {slot : Nat} {pool : Pool}
      {creation : List Effect} (read : requestKey rule opening.keyRequest? = .ok (key, notes))
      (placing : Hub.Placing hub key supply slot pool creation) :
      Departs hub rule shape method opening supply handover
        (some ⟨shape, method, rule, .waiting slot opening none⟩)
        (some (.collecting ⟨slot, shape, method⟩ [] handover))
  | unreadable {failure : Failure} (unread : requestKey rule opening.keyRequest? = .error failure) :
      Departs hub rule shape method opening supply handover none none
  | unsupplied {failure : Failure} (saturated : hub.pool.reusable? = none)
      (supplied : supply = some failure) :
      Departs hub rule shape method opening supply handover none none

theorem departs_of_dispatching {hub next : Hub} {opening : Opening} {supply : Option Failure}
    {effects : List Effect}
    (dispatching : Hub.Dispatching hub id ⟨shape, method, rule, .peeking⟩ opening supply next
      effects)
    (several : ∀ request, opening ≠ .single request) (manner : Manner) (rest : Requests) :
    Departs hub rule shape method opening supply (.of manner rest opening) (next.call? id)
      (effects.foldl (Effect.exchange id) (some (.holding manner rest))) := by
  cases dispatching with
  | unreadable unread =>
      rw [Hub.call?_of_drop_self rfl]
      simpa [Effect.exchange] using Departs.unreadable unread
  | unsupplied read unbound saturated supplied =>
      rw [Hub.call?_of_drop_self rfl]
      simpa [Effect.exchange] using Departs.unsupplied saturated supplied
  | @placed key notes slot pool creation read placing =>
      rw [Hub.call?_of_put_self rfl, List.foldl_append, placing.foldl_exchange]
      have handed : Effect.exchange id (some (.holding manner rest))
          (.dispatched id slot shape method opening) =
            some (.collecting ⟨slot, shape, method⟩ [] (.of manner rest opening)) := by
        cases opening with
        | single request => exact absurd rfl (several request)
        | untouched => simp [Effect.exchange, Exchange.opened]
        | restored first => simp [Effect.exchange, Exchange.opened]
        | exhausted => simp [Effect.exchange, Exchange.opened]
      rw [List.foldl_cons, handed]
      exact .placed read placing

/-- A call that asks for a channel takes its requests along. -/
theorem Departs.stands {hub : Hub} {opening : Opening} {supply : Option Failure}
    {handover : Handover} {call : Option Call} {exchange : Option Exchange}
    (departs : Departs hub rule shape method opening supply handover call exchange)
    (opens : Opens rule given opening) (whole : given = handover.requests) :
    Stands transport rule shape method given call exchange := by
  cases departs with
  | placed read placing => exact .placed rfl rfl opens (.collecting .nil whole)
  | unreadable unread => exact .gone
  | unsupplied saturated supplied => exact .gone

/-- How a call with a sequence of requests begins. -/
inductive Begins (hub : Hub) (id : CallId) (rule : Option Rule) (shape : Shape) (method : String)
    (supply : Option Failure) (manner : Manner) (requests : Requests) :
    Option Call → Option Exchange → Prop where
  | refused (closing : hub.closing = true) :
      Begins hub id rule shape method supply manner requests none none
  | waits (reads : Hub.mustPeek rule = true) :
      Begins hub id rule shape method supply manner requests
        (some ⟨shape, method, rule, .peeking⟩) (some (.holding manner requests))
  | departs {call : Option Call} {exchange : Option Exchange}
      (unread : Hub.mustPeek rule = false)
      (departs : Departs (hub.withAdmitted id (hub.newCall shape method)) rule shape method
        .untouched supply (.asGiven requests) call exchange) :
      Begins hub id rule shape method supply manner requests call exchange

/-- A call with a stream of requests begins as its rule says. -/
theorem begins_begin {plan : Plan} {manner : Manner} {requests : Requests}
    (sending : plan.sending = .many manner requests) (fresh : start.hub.call? id = none)
    (many : plan.shape.streamsRequests = true) :
    Begins start.hub id (start.hub.rules.ruleFor plan.method) plan.shape plan.method start.supply
      manner requests ((start.begin id plan).hub.call? id)
      ((start.begin id plan).exchanges.get? id) := by
  unfold Session.begin
  simp only [sending]
  generalize prior : { start with exchanges := start.exchanges.put id (.holding manner requests) } =
    session
  have hubs : session.hub = start.hub := by rw [← prior]
  have holds : session.exchanges.get? id = some (.holding manner requests) := by
    rw [← prior]
    exact Ledger.get?_put_self _ _ _
  cases stepped : session.hub.step (.beginMany id plan.shape plan.method start.supply) with
  | none =>
      rw [hubs] at stepped
      simp [Hub.step, fresh, many] at stepped
  | some outcome =>
      obtain ⟨hub, effects⟩ := outcome
      rw [hub_act stepped, exchange_act stepped, holds]
      have step := Hub.stepped_of_step stepped
      rw [hubs] at step
      generalize withoutNotes effects = told at step ⊢
      cases step with
      | refused begins unknown closing =>
          cases begins
          rw [unknown]
          simpa [Effect.exchange] using Begins.refused closing
      | waits unknown unclosed streams reads =>
          rw [Hub.call?_of_put_self (Hub.calls_withAdmitted ..)]
          exact .waits reads
      | begins unknown unclosed starts dispatching =>
          cases starts with
          | untouched streams unread =>
              have several : ∀ request, Opening.untouched ≠ .single request := by
                intro request same
                cases same
              rw [List.foldl_cons]
              exact .departs unread (departs_of_dispatching dispatching several _ _)
      | gaveUp live peeking givesUp => cases givesUp
      | completed live waiting completes => cases completes
      | left live leaves =>
          cases leaves with
          | unanswered waiting completes => cases completes
      | background background => cases background

/-- A call starts with its requests in its caller's hands, or hands them over untouched. -/
theorem stands_begin {plan : Plan} {manner : Manner} {requests : Requests}
    (sending : plan.sending = .many manner requests) (fresh : start.hub.call? id = none)
    (many : plan.shape.streamsRequests = true) :
    StandsIn (start.begin id plan) id (start.hub.rules.ruleFor plan.method) plan.shape plan.method
      requests := by
  have begins := begins_begin sending fresh many
  unfold StandsIn
  generalize (start.begin id plan).hub.call? id = call at begins ⊢
  generalize (start.begin id plan).exchanges.get? id = exchange at begins ⊢
  cases begins with
  | refused closing => exact .gone
  | waits reads => exact .peeking reads
  | departs unread departs => exact departs.stands (.untouched unread) rfl

/-! ### Turns of the call -/

/-- What a call asks the hub for that has taken from its caller's sequence. -/
inductive Asks : Requests.Pull → Except Failure (Option Message) → Prop where
  | request {request : Message} : Asks (.request request) (.ok (some request))
  | failure {failure : Failure} : Asks (.failure failure) (.error failure)
  | ended : Asks .ended (.ok none)

/-- A call that waits for its first request goes on with what is pulled. -/
theorem peekTurn_elim {manner : Manner} (turn : now.peekTurn? id manner given = some next) :
    ∃ pulled rest result, given.pull = (pulled, rest) ∧ Asks pulled result ∧
      next = { now with exchanges := now.exchanges.put id (.holding manner rest) }.act
        (.firstRequest id result now.supply) := by
  unfold peekTurn? at turn
  cases took : given.pull with
  | mk pulled rest =>
      rw [took] at turn
      cases pulled with
      | request request => exact ⟨_, rest, _, rfl, .request, (Option.some.inj turn).symm⟩
      | failure failure => exact ⟨_, rest, _, rfl, .failure, (Option.some.inj turn).symm⟩
      | ended => exact ⟨_, rest, _, rfl, .ended, (Option.some.inj turn).symm⟩
      | waiting => cases turn

/-- The first request of a waiting call can always be taken. -/
theorem step_firstRequest {hub : Hub} (live : hub.call? id = some call)
    (peeking : call.phase = .peeking) (result : Except Failure (Option Message))
    (supply : Option Failure) :
    hub.step (.firstRequest id result supply) = some (hub.firstRequest id call result supply) := by
  have same : (Phase.peeking == Phase.peeking) = true := rfl
  simp [Hub.step, live, peeking, same]

/-- A call exits with its caller's failure before anything is done for it. -/
structure Breaks (now : Session σ) (id : CallId) (failure : Failure) (next : Session σ) : Prop where
  hub : next.hub = (now.hub.dropCall id).endCall
  state : next.state = now.transport.stop now.state id
  exchange : next.exchanges.get? id = none
  completions : next.completions =
    now.completions ++ [(id, completionOf (now.readers.get? id) (.failed failure))]

/-- What the turn of a call does that waits for its first request. -/
inductive Peeks (now : Session σ) (id : CallId) (rule : Option Rule) (shape : Shape)
    (method : String) (manner : Manner) (given : Requests) (next : Session σ) : Prop where
  | breaks {failure : Failure} {rest : Requests} (took : given.pull = (.failure failure, rest))
      (breaks : Breaks now id failure next)
  | departs {pulled : Requests.Pull} {rest : Requests} {first : Option Message}
      (took : given.pull = (pulled, rest)) (asks : Asks pulled (.ok first))
      (departs : Departs now.hub rule shape method (.ofFirst first) now.supply
        (.of manner rest (.ofFirst first)) (next.hub.call? id) (next.exchanges.get? id))

/-- A turn of a call that waits for its first request does one of the things that it can do. -/
theorem peeks_peekTurn {manner : Manner}
    (live : now.hub.call? id = some ⟨shape, method, rule, .peeking⟩)
    (turn : now.peekTurn? id manner given = some next) :
    Peeks now id rule shape method manner given next := by
  obtain ⟨pulled, rest, result, took, asks, rfl⟩ := peekTurn_elim turn
  generalize prior : { now with exchanges := now.exchanges.put id (.holding manner rest) } = session
  have hubs : session.hub = now.hub := by rw [← prior]
  have stepped := step_firstRequest live rfl result now.supply
  rw [← hubs] at stepped
  cases result with
  | error failure =>
      cases asks with
      | failure =>
          refine .breaks took ?_
          have acted := act_of_step stepped
          rw [acted, ← prior]
          refine ⟨rfl, rfl, ?_, rfl⟩
          exact (Ledger.get?_drop ..).trans (if_pos rfl)
  | ok first =>
      refine .departs took asks ?_
      have holds : session.exchanges.get? id = some (.holding manner rest) := by
        rw [← prior]
        exact Ledger.get?_put_self _ _ _
      cases outcome : session.hub.firstRequest id ⟨shape, method, rule, .peeking⟩ (.ok first)
          now.supply with
      | mk hub effects =>
          rw [outcome] at stepped
          rw [hub_act stepped, exchange_act stepped, holds]
          have step := Hub.stepped_of_step stepped
          rw [hubs] at step
          generalize withoutNotes effects = told at step ⊢
          cases step.proceeds live rfl with
          | peeked peeking dispatching =>
              apply departs_of_dispatching dispatching
              intro request
              cases first <;> exact nofun
          | gaveUp peeking givesUp => cases givesUp
          | completed waiting completes => cases waiting
          | left leaves => cases leaves.occupies

/-- The turn of a call that waits for its first request takes it along, or the call exits. -/
theorem stands_peekTurn {manner : Manner}
    (live : now.hub.call? id = some ⟨shape, method, rule, .peeking⟩)
    (reads : Hub.mustPeek rule = true) (turn : now.peekTurn? id manner given = some next) :
    StandsIn next id rule shape method given := by
  cases peeks_peekTurn live turn with
  | breaks took breaks =>
      unfold StandsIn
      rw [breaks.hub, Hub.call?_of_drop_self rfl, breaks.exchange]
      exact .gone
  | departs took asks departs =>
      cases asks with
      | request =>
          exact departs.stands (.restored reads took) (Requests.eq_prepend_of_pull took)
      | ended =>
          obtain ⟨spent, left⟩ := Requests.eq_empty_of_pull took
          refine departs.stands (.exhausted reads spent) ?_
          rw [spent, left]
          cases manner <;> rfl

/-- An action about a placed call leaves its requests where they are, or ends it. -/
theorem stands_act {action : Action} {slot : Nat}
    (stands : StandsIn now id rule shape method given) (live : now.hub.call? id = some call)
    (slotted : call.phase.slot? = some slot) (about : action.call? = some id) :
    StandsIn (now.act action) id rule shape method given := by
  cases stepped : now.hub.step action with
  | none =>
      rw [act_of_impossible stepped]
      exact stands
  | some outcome =>
      obtain ⟨hub, effects⟩ := outcome
      unfold StandsIn at stands ⊢
      rw [hub_act stepped, exchange_act stepped, transport_act]
      rw [live] at stands
      have step := Hub.stepped_of_step stepped
      generalize withoutNotes effects = told at step ⊢
      generalize now.exchanges.get? id = held at stands ⊢
      have exits : ∀ hub position outcome,
          (Hub.exitPlaced hub id position outcome).2.foldl (Effect.exchange id) held = none := by
        intro hub position outcome
        obtain ⟨shown, told⟩ := Hub.exitPlaced_effects hub id position outcome
        rw [told]
        simp [Effect.exchange]
      cases step.proceeds live about with
      | peeked peeking dispatching =>
          rw [peeking] at slotted
          cases slotted
      | gaveUp peeking givesUp =>
          rw [peeking] at slotted
          cases slotted
      | delivered waiting read =>
          rw [Hub.call?_of_put_self rfl]
          cases stands with
          | peeking reads => cases slotted
          | placed here opened opens carries =>
              cases waiting
              cases here
              cases opened
              exact .placed rfl rfl opens carries
      | resumed paused =>
          rw [Hub.call?_of_put_self rfl]
          cases stands with
          | peeking reads => cases slotted
          | placed here opened opens carries =>
              cases paused
              cases here
              cases opened
              exact .placed rfl rfl opens carries
      | completed waiting completes =>
          rw [Hub.call?_of_drop_self (Hub.calls_completed ..), exits]
          exact .gone
      | left leaves =>
          rw [Hub.call?_of_drop_self (Hub.calls_exitPlaced ..), exits]
          exact .gone

/-- A call that fails is gone. -/
theorem stands_fail {slot : Nat} {opening : Opening} {firstKey : Option String}
    (live : now.hub.call? id = some call) (waiting : call.phase = .waiting slot opening firstKey)
    (failure : Failure) : StandsIn (now.act (.fail id failure)) id rule shape method given := by
  have stepped : now.hub.step (.fail id failure) =
      some (now.hub.exitPlaced id slot (.failed failure)) := by
    simp only [Hub.step, live, waiting]
  have calls := Hub.calls_exitPlaced now.hub id slot (.failed failure)
  obtain ⟨shown, told⟩ := Hub.exitPlaced_effects now.hub id slot (.failed failure)
  cases left : now.hub.exitPlaced id slot (.failed failure) with
  | mk hub effects =>
      rw [left] at stepped calls told
      simp only at calls told
      unfold StandsIn
      rw [hub_act stepped, exchange_act stepped, told, Hub.call?_of_drop_self calls]
      simpa [Effect.exchange, withoutNotes, Effect.isNote] using Stands.gone

/-- What is collected is kept, until the transport has all of it or the call fails. -/
theorem Carries.advance {dispatch : Dispatch} {exchange : Exchange} {state : σ}
    {advance : Transport.Advance σ} (carries : Carries transport dispatch given exchange)
    (advanced : transport.advance state id exchange = some advance) :
    Carries transport dispatch given advance.exchange ∨
      ∃ failure, advance.arrival = some (.failed failure) := by
  cases carries with
  | answering whole =>
      obtain ⟨arrived, -, rfl⟩ := Option.map_eq_some_iff.mp advanced
      exact Or.inl (.answering whole)
  | @collecting seen taken rest prepared whole =>
      have pulled := rest.pull_requests
      cases taking : rest.pull with
      | mk next others =>
          simp only [Transport.advance, taking] at advanced
          rw [taking] at pulled
          cases next with
          | waiting => cases advanced
          | failure failure =>
              cases advanced
              exact Or.inr ⟨failure, rfl⟩
          | ended =>
              cases advanced
              rw [(Requests.eq_empty_of_pull pulled).1] at whole
              unfold Transport.begin
              split
              · exact Or.inl (.answering whole)
              · exact Or.inl (.answering whole)
          | request request =>
              cases sending : transport.prepare request with
              | error failure =>
                  simp only [sending, Option.some.injEq] at advanced
                  subst advanced
                  exact Or.inr ⟨failure, rfl⟩
              | ok sent =>
                  simp only [sending, Option.some.injEq] at advanced
                  subst advanced
                  refine Or.inl (.collecting (List.rel_append prepared (.cons sending .nil)) ?_)
                  rw [whole, Requests.eq_prepend_of_pull pulled, Requests.prepend_prepend]

/-- A call that waits for its first request still holds all its requests. -/
theorem StandsIn.of_peeking (stands : StandsIn now id rule shape method given)
    (live : now.hub.call? id = some call) (peeking : call.phase = .peeking) :
    call = ⟨shape, method, rule, .peeking⟩ ∧ Hub.mustPeek rule = true ∧
      ∃ manner, now.exchanges.get? id = some (.holding manner given) := by
  unfold StandsIn at stands
  rw [live] at stands
  generalize now.exchanges.get? id = held at stands ⊢
  cases stands with
  | @peeking manner reads => exact ⟨rfl, reads, manner, rfl⟩
  | placed slotted opened opens carries =>
      simp only at peeking
      rw [peeking] at slotted
      cases slotted

/-- A call on a channel was opened with its requests, and its exchange carries them. -/
theorem StandsIn.of_slot {slot : Nat} (stands : StandsIn now id rule shape method given)
    (live : now.hub.call? id = some call) (slotted : call.phase.slot? = some slot) :
    call = ⟨shape, method, rule, call.phase⟩ ∧
      (∃ opening, call.phase.opening? = some opening ∧ Opens rule given opening) ∧
      ∃ exchange, now.exchanges.get? id = some exchange ∧
        Carries now.transport ⟨slot, shape, method⟩ given exchange := by
  unfold StandsIn at stands
  rw [live] at stands
  generalize now.exchanges.get? id = held at stands ⊢
  cases stands with
  | peeking reads => cases slotted
  | @placed phase here opening exchange occupied opened opens carries =>
      simp only at slotted
      rw [occupied] at slotted
      cases slotted
      exact ⟨rfl, ⟨opening, opened, opens⟩, exchange, rfl, carries⟩

/-- The turn of a call leaves its requests on their way. -/
theorem stands_callTurn (stands : StandsIn now id rule shape method given)
    (live : now.hub.call? id = some call) (turn : now.callTurn? id call.phase = some next) :
    StandsIn next id rule shape method given := by
  cases phase : call.phase with
  | peeking =>
      obtain ⟨rfl, reads, manner, held⟩ := stands.of_peeking live phase
      simp only [callTurn?, held] at turn
      exact stands_peekTurn live reads turn
  | paused slot opening firstKey =>
      have slotted : call.phase.slot? = some slot := by rw [phase]; rfl
      rw [phase] at turn
      unfold callTurn? at turn
      simp only at turn
      split at turn
      · cases turn
        exact stands_act stands live slotted rfl
      · cases turn
        exact stands_act stands live slotted rfl
      · cases turn
  | waiting slot opening firstKey =>
      have slotted : call.phase.slot? = some slot := by rw [phase]; rfl
      obtain ⟨same, ⟨first, opened, opens⟩, exchange, held, carries⟩ :=
        stands.of_slot live slotted
      rw [phase] at turn
      simp only [callTurn?, held] at turn
      obtain ⟨advance, advanced, rfl⟩ := Option.map_eq_some_iff.mp turn
      generalize prior : { now with
        state := advance.state, exchanges := now.exchanges.put id advance.exchange } = session
      have found : session.hub.call? id = some call := by
        rw [← prior]
        exact live
      rcases carries.advance advanced with onward | ⟨failure, failing⟩
      · have moved : StandsIn session id rule shape method given := by
          unfold StandsIn
          rw [found, ← prior, Ledger.get?_put_self, same]
          exact .placed slotted opened opens onward
        split
        · exact stands_act moved found slotted (call?_actionOf id _)
        · exact moved
      · rw [failing]
        exact stands_fail found phase failure

/-- A caller that leaves takes its requests along, or finds the call where it was. -/
theorem stands_leave {action : Action} (stands : StandsIn now id rule shape method given)
    (left : action = .cancel id ∨ action = .abandon id) :
    StandsIn (now.act action) id rule shape method given := by
  have about : action.call? = some id := by rcases left with rfl | rfl <;> rfl
  cases live : now.hub.call? id with
  | none =>
      have impossible : now.hub.step action = none := by
        rcases left with rfl | rfl <;> simp only [Hub.step, live]
      rw [act_of_impossible impossible]
      exact stands
  | some call =>
      cases slotted : call.phase.slot? with
      | some slot => exact stands_act stands live slotted about
      | none =>
          have peeking : call.phase = .peeking := by
            cases phase : call.phase with
            | peeking => rfl
            | waiting slot opening firstKey => rw [phase] at slotted; cases slotted
            | paused slot opening firstKey => rw [phase] at slotted; cases slotted
          rcases left with rfl | rfl
          · have stepped : now.hub.step (.cancel id) =
                some ((now.hub.dropCall id).endCall, [.exited id (.failed .cancelled)]) := by
              simp only [Hub.step, live, peeking, Hub.exitUnplaced]
            unfold StandsIn
            rw [hub_act stepped, exchange_act stepped, Hub.call?_of_drop_self rfl]
            simpa [Effect.exchange, withoutNotes, Effect.isNote] using Stands.gone
          · have impossible : now.hub.step (.abandon id) = none := by
              simp only [Hub.step, live, peeking]
            rw [act_of_impossible impossible]
            exact stands

/-- Wherever a call is on its way, none of its requests is lost. -/
theorem Course.stands {requests : Requests}
    (first : StandsIn start id rule shape method requests) (course : Course id start fed now) :
    StandsIn now id rule shape method (requests.feed fed) := by
  induction course with
  | begin => exact first
  | elsewhere earlier apart ih => exact ih.apart apart
  | feeds more earlier held ih =>
      rw [Requests.feed_append]
      exact ih.feed held more
  | turn earlier live turn ih => exact stands_callTurn ih live turn
  | leaves earlier left ih => exact stands_leave ih left

end Session

end AffinityPool
