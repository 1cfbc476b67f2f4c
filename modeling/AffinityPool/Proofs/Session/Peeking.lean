/-
Module: AffinityPool.Proofs.Session.Peeking
Purpose: Looking at the first request of a call loses nothing: the transport can take every request
  that the caller gives, once and in order, whatever the rule is and however the sequence is given.
Main exports:
  Session.Intact, Session.Lossless, Session.lossless
-/
import AffinityPool.Proofs.Session.Course
import AffinityPool.Transport.Scripted

namespace AffinityPool

/-- A rule that does not read requests has no key for any of them. -/
theorem requestKey_of_unread {rule : Option Rule} (unread : Hub.mustPeek rule = false)
    (request : Option Message) : requestKey rule request = .ok (none, []) := by
  cases rule with
  | none => rfl
  | some rule =>
      cases request with
      | none => rfl
      | some request =>
          have unread : rule.command.readsRequest = false := unread
          simp [requestKey, unread]

namespace Session

variable {σ : Type} {start now next : Session σ} {id : CallId} {plan : Plan} {manner : Manner}
  {requests given : Requests} {fed later : List Requests.Fed} {rule : Option Rule}
  {items : List Message} {fault : Option Failure}

/-! ### Handing over -/

/-- A call asks for a channel.  The key that may choose it is read from the first of its
requests, and whoever takes all from what the transport is handed finds the requests
`items` and then the `fault`, if there is one. -/
def HandsOver (hub : Hub) (id : CallId) (rule : Option Rule) (plan : Plan)
    (supply : Option Failure) (later : List Requests.Fed) (items : List Message)
    (fault : Option Failure) (next : Session σ) : Prop :=
  ∃ opening handover,
    requestKey rule opening.keyRequest? = requestKey rule items.head? ∧
      Gives Handover.pull (handover.feed later) items fault ∧
        Departs hub rule plan.shape plan.method opening supply handover (next.hub.call? id)
          (next.exchanges.get? id)

/-- What was taken to look for a key is the first request, or there is none. -/
theorem Opens.key {opening : Opening} (opens : Opens rule given opening)
    (gives : Gives Requests.pull (given.feed later) items fault) :
    requestKey rule opening.keyRequest? = requestKey rule items.head? := by
  cases opens with
  | untouched unread => rw [requestKey_of_unread unread, requestKey_of_unread unread]
  | restored reads pulled =>
      obtain ⟨left, rfl, -⟩ := gives.of_request pulled
      rfl
  | exhausted reads spent =>
      rw [spent, Requests.feed_empty] at gives
      rw [(gives_empty_iff.mp gives).1]
      rfl

/-- A sequence that fails before it gives anything opens no call that must look at it. -/
theorem Opens.not_failed {opening : Opening} (opens : Opens rule given opening)
    (reads : Hub.mustPeek rule = true) (gives : Gives Requests.pull (given.feed later) [] fault) :
    fault = none := by
  cases opens with
  | untouched unread =>
      rw [unread] at reads
      cases reads
  | restored reads pulled =>
      obtain ⟨left, nothing, -⟩ := gives.of_request pulled
      cases nothing
  | exhausted reads spent =>
      rw [spent, Requests.feed_empty] at gives
      exact (gives_empty_iff.mp gives).2

/-- What is handed over gives all that the caller's sequence gives. -/
theorem gives_handover {handover : Handover} (whole : given = handover.requests)
    (gives : Gives Requests.pull (given.feed later) items fault) :
    Gives Handover.pull (handover.feed later) items fault := by
  rw [whole, ← Handover.feed_requests] at gives
  exact gives_requests_iff.mp gives

theorem handsOver_begin (sending : plan.sending = .many manner requests)
    (fresh : start.hub.call? id = none) (many : plan.shape.streamsRequests = true)
    (unclosed : start.hub.closing = false)
    (unread : Hub.mustPeek (start.hub.rules.ruleFor plan.method) = false)
    (gives : Gives Requests.pull (requests.feed later) items fault) :
    HandsOver (start.hub.withAdmitted id (start.hub.newCall plan.shape plan.method)) id
      (start.hub.rules.ruleFor plan.method) plan start.supply later items fault
      (start.begin id plan) := by
  have begins := begins_begin sending fresh many
  refine ⟨.untouched, .asGiven requests, (Opens.untouched unread).key gives,
    gives_handover rfl gives, ?_⟩
  generalize (start.begin id plan).hub.call? id = call at begins ⊢
  generalize (start.begin id plan).exchanges.get? id = exchange at begins ⊢
  cases begins with
  | refused closing =>
      rw [closing] at unclosed
      cases unclosed
  | waits reads =>
      rw [reads] at unread
      cases unread
  | departs unread departs => exact departs

theorem handsOver_peek {pulled : Requests.Pull} {rest : Requests} {first : Option Message}
    (reads : Hub.mustPeek rule = true) (took : given.pull = (pulled, rest))
    (asks : Asks pulled (.ok first))
    (departs : Departs now.hub rule plan.shape plan.method (.ofFirst first) now.supply
      (.of manner rest (.ofFirst first)) (next.hub.call? id) (next.exchanges.get? id))
    (gives : Gives Requests.pull (given.feed later) items fault) :
    HandsOver now.hub id rule plan now.supply later items fault next := by
  have opens : Opens rule given (.ofFirst first) ∧
      given = (Handover.of manner rest (.ofFirst first)).requests := by
    cases asks with
    | request => exact ⟨.restored reads took, Requests.eq_prepend_of_pull took⟩
    | ended =>
        obtain ⟨spent, left⟩ := Requests.eq_empty_of_pull took
        refine ⟨.exhausted reads spent, ?_⟩
        rw [spent, left]
        cases manner <;> rfl
  exact ⟨_, _, opens.1.key gives, gives_handover opens.2 gives, departs⟩

/-- A sequence that gives its end or a failure without more being added does not make
the one who asks wait. -/
theorem exists_peekTurn (gives : Gives Requests.pull given items fault) (manner : Manner)
    (now : Session σ) : ∃ next, now.peekTurn? id manner given = some next := by
  unfold peekTurn?
  cases gives with
  | ended pulled => rw [pulled]; exact ⟨_, rfl⟩
  | failed pulled => rw [pulled]; exact ⟨_, rfl⟩
  | request pulled onward => rw [pulled]; exact ⟨_, rfl⟩

/-! ### The whole course -/

/-- Where the requests of a call are at some moment, when its caller's sequence gives
`items` and then the `fault`, if there is one, of which `later` is still to be added. -/
structure Intact (id : CallId) (rule : Option Rule) (plan : Plan) (later : List Requests.Fed)
    (items : List Message) (fault : Option Failure) (now : Session σ) : Prop where
  /-- A call that waits for its first request can go on when there is something to take. -/
  ready : ∀ call, now.hub.call? id = some call → call.phase = .peeking → later = [] →
    ∃ next, now.callTurn? id call.phase = some next
  /-- It then is handed over whole; only if the sequence fails before it has given
  anything, the call fails with that before a channel is chosen. -/
  peeks : ∀ call next, now.hub.call? id = some call → call.phase = .peeking →
    now.callTurn? id call.phase = some next →
      (∃ failure, items = [] ∧ fault = some failure ∧ Breaks now id failure next) ∨
        (items = [] → fault = none) ∧
          HandsOver now.hub id rule plan now.supply later items fault next
  /-- A transport that collects the requests has taken them in order from the first on, and
  what it still can take are the others. -/
  collected : ∀ dispatch taken rest,
    now.exchanges.get? id = some (.collecting dispatch taken rest) →
      now.transport.Prepared (items.take taken.length) taken ∧
        Gives Handover.pull (rest.feed later) (items.drop taken.length) fault
  /-- So it goes on with the next one until the call starts with all of them, or until it
  has seen all of them and then the failure. -/
  collects : ∀ dispatch taken rest advance,
    now.exchanges.get? id = some (.collecting dispatch taken rest) →
      now.transport.advance now.state id (.collecting dispatch taken rest) = some advance →
        now.transport.Collects now.state id dispatch items fault taken advance
  /-- Whenever a key is read from the requests of the call, it is the key of the first. -/
  keyed : ∀ call opening, now.hub.call? id = some call → call.phase.opening? = some opening →
    requestKey call.rule opening.keyRequest? = requestKey call.rule items.head?
  /-- A call that must look at a sequence that only fails never has a channel. -/
  unplaced : Hub.mustPeek rule = true → items = [] → fault ≠ none →
    ∀ call, now.hub.call? id = some call → call.phase = .peeking

/-- A call with a sequence of requests loses none of them, in whatever session it starts
and whatever happens there. -/
structure Lossless (start : Session σ) (id : CallId) (plan : Plan) (requests : Requests) :
    Prop where
  /-- Without a rule that reads requests, the call is handed over at once. -/
  direct : start.hub.closing = false →
    Hub.mustPeek (start.hub.rules.ruleFor plan.method) = false →
      ∀ later items fault, Gives Requests.pull (requests.feed later) items fault →
        HandsOver (start.hub.withAdmitted id (start.hub.newCall plan.shape plan.method)) id
          (start.hub.rules.ruleFor plan.method) plan start.supply later items fault
          (start.begin id plan)
  /-- With one, the call waits for its first request. -/
  waits : start.hub.closing = false →
    Hub.mustPeek (start.hub.rules.ruleFor plan.method) = true →
      ∃ call, (start.begin id plan).hub.call? id = some call ∧ call.phase = .peeking
  intact : ∀ fed later items fault now, Course id (start.begin id plan) fed now →
    Gives Requests.pull (requests.feed (fed ++ later)) items fault →
      Intact id (start.hub.rules.ruleFor plan.method) plan later items fault now

theorem StandsIn.collected {dispatch : Dispatch} {taken : List Message} {rest : Handover}
    (stands : StandsIn now id rule plan.shape plan.method given)
    (gives : Gives Requests.pull (given.feed later) items fault)
    (held : now.exchanges.get? id = some (.collecting dispatch taken rest)) :
    ∃ seen left, items = seen ++ left ∧ now.transport.Prepared seen taken ∧
      Gives Requests.pull (rest.requests.feed later) left fault := by
  unfold StandsIn at stands
  rw [held] at stands
  generalize now.hub.call? id = found at stands
  cases stands with
  | placed slotted opened opens carries =>
      cases carries with
      | collecting prepared whole =>
          rw [whole, Requests.feed_prepend] at gives
          obtain ⟨left, parts, onward⟩ := gives_prepend_iff.mp gives
          exact ⟨_, left, parts, prepared, onward⟩

theorem StandsIn.intact (stands : StandsIn now id rule plan.shape plan.method given)
    (gives : Gives Requests.pull (given.feed later) items fault) :
    Intact id rule plan later items fault now where
  ready := by
    rintro call live peeking rfl
    obtain ⟨rfl, -, manner, held⟩ := stands.of_peeking live peeking
    obtain ⟨next, turn⟩ := exists_peekTurn gives manner now
    refine ⟨next, ?_⟩
    simp only [callTurn?, held]
    exact turn
  peeks := by
    intro call next live peeking turn
    obtain ⟨rfl, reads, manner, held⟩ := stands.of_peeking live peeking
    simp only [callTurn?, held] at turn
    cases peeks_peekTurn live turn with
    | breaks took breaks =>
        obtain ⟨nothing, fails⟩ := gives.of_failure took
        exact Or.inl ⟨_, nothing, fails, breaks⟩
    | departs took asks departs =>
        refine Or.inr ⟨?_, handsOver_peek reads took asks departs gives⟩
        rintro rfl
        cases asks with
        | request =>
            obtain ⟨left, nothing, -⟩ := gives.of_request took
            cases nothing
        | ended => exact (gives.of_ended took).2
  collected := by
    intro dispatch taken rest held
    obtain ⟨seen, left, rfl, prepared, onward⟩ := stands.collected gives held
    have length : seen.length = taken.length := prepared.length_eq
    rw [← Handover.feed_requests] at onward
    rw [← length, List.take_left, List.drop_left]
    exact ⟨prepared, gives_requests_iff.mp onward⟩
  collects := by
    intro dispatch taken rest advance held advanced
    obtain ⟨seen, left, rfl, prepared, onward⟩ := stands.collected gives held
    exact Transport.collects_of_advance prepared onward advanced
  keyed := by
    intro call opening live opened
    obtain ⟨slot, slotted⟩ := Phase.exists_slot opened
    obtain ⟨same, ⟨first, openedSo, opens⟩, -⟩ := stands.of_slot live slotted
    rw [opened] at openedSo
    cases openedSo
    rw [same]
    exact opens.key gives
  unplaced := by
    rintro reads rfl failed call live
    cases phase : call.phase with
    | peeking => rfl
    | waiting slot opening firstKey =>
        obtain ⟨-, ⟨first, -, opens⟩, -⟩ := stands.of_slot live (by rw [phase]; rfl)
        exact absurd (opens.not_failed reads gives) failed
    | paused slot opening firstKey =>
        obtain ⟨-, ⟨first, -, opens⟩, -⟩ := stands.of_slot live (by rw [phase]; rfl)
        exact absurd (opens.not_failed reads gives) failed

/-- Whether a sequence answers at once or over time, and whatever the rule of the method
reads: looking at the first request loses nothing. -/
theorem lossless (sending : plan.sending = .many manner requests)
    (many : plan.shape.streamsRequests = true) (fresh : start.hub.call? id = none) :
    Lossless start id plan requests where
  direct := fun unclosed unread later items fault gives =>
    handsOver_begin sending fresh many unclosed unread gives
  waits := by
    intro unclosed reads
    have begins := begins_begin sending fresh many
    generalize (start.begin id plan).hub.call? id = call at begins ⊢
    generalize (start.begin id plan).exchanges.get? id = exchange at begins
    cases begins with
    | refused closing =>
        rw [closing] at unclosed
        cases unclosed
    | waits reading => exact ⟨_, rfl, rfl⟩
    | departs unread departs =>
        rw [reads] at unread
        cases unread
  intact := by
    intro fed later items fault now course gives
    rw [Requests.feed_append] at gives
    exact (course.stands (stands_begin sending fresh many)).intact gives

/-- A call whose key is looked for in its first request: when everybody waits again, the
transport has taken that request and waits for the next one. -/
theorem lossless_after_peek :
    ∃ (start : Session Scripted) (id : CallId) (plan : Plan) (requests : Requests),
      plan.sending = .many .overTime requests ∧ plan.shape.streamsRequests = true ∧
        start.hub.call? id = none ∧ Course id (start.begin id plan) [] (start.call id plan) ∧
        (start.call id plan).exchanges.get? id = some (.collecting ⟨0, .streamUnary, "watch"⟩
          [.dict [("id", .text "k")]] (.replayed [] ⟨[], true⟩)) ∧
        Lossless start id plan requests := by
  have course : Course "a" _ []
      ((Session.fresh (.fresh ⟨[⟨"watch", .bound, "id"⟩]⟩ ⟨1, 1, by decide, by decide⟩)
        Scripted.transport (.fresh [] [])).call "a" ⟨.streamUnary, "watch",
          .many .overTime ⟨[.ok (.dict [("id", .text "k")])], true⟩⟩) :=
    Course.begin.settle (List.pairwise_singleton _ "a")
  exact ⟨_, _, _, _, rfl, rfl, rfl, course, rfl, lossless rfl rfl rfl⟩

example (manner : Manner) :
    ((Session.fresh (.fresh ⟨[⟨"watch", .unbind, "id"⟩]⟩ ⟨1, 1, by decide, by decide⟩)
        Scripted.transport (.fresh [] [])).call "a" ⟨.streamUnary, "watch",
          .many manner ⟨[.ok .null, .ok (.text "more")], false⟩⟩).state.events =
      [.created 0, .called 0 .streamUnary "watch" (.many [.null, .text "more"])] := by
  cases manner <;> rfl

end Session

end AffinityPool
