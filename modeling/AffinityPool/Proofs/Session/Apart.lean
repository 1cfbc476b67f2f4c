/-
Module: AffinityPool.Proofs.Session.Apart
Purpose: What happens in a session without touching a given call: its place in the hub and its way
  to the transport stay as they are unless the call itself has its turn.
Main exports:
  Effect.exchange, Session.exchange_act, Session.Apart, Session.apart_act, Session.apart_callTurn,
  Session.ownTurn_or_apart, Hub.Stepped.distinct, Session.distinct_turn
-/
import AffinityPool.Proofs.Hub.Separation
import AffinityPool.Session.Caller

namespace AffinityPool

/-- What an effect does to the exchange of a call. -/
def Effect.exchange (id : CallId) (exchange : Option Exchange) : Effect → Option Exchange
  | .dispatched asking slot shape method opening =>
      if asking = id then
        some ((exchange.getD (.holding .atOnce .empty)).opened ⟨slot, shape, method⟩ opening)
      else exchange
  | .exited asking _ => if asking = id then none else exchange
  | _ => exchange

/-- An effect on another call does nothing to the exchange of a call. -/
theorem Effect.exchange_of_other {id : CallId} {effect : Effect} (other : effect.call? ≠ some id)
    (exchange : Option Exchange) : effect.exchange id exchange = exchange := by
  cases effect with
  | dispatched asking slot shape method opening =>
      have apart : asking ≠ id := fun same => other (congrArg some same)
      simp only [Effect.exchange, if_neg apart]
  | exited asking outcome =>
      have apart : asking ≠ id := fun same => other (congrArg some same)
      simp only [Effect.exchange, if_neg apart]
  | _ => rfl

/-- Notes do nothing to exchanges. -/
theorem Effect.foldl_exchange_withoutNotes (id : CallId) (effects : List Effect)
    (exchange : Option Exchange) :
    (withoutNotes effects).foldl (Effect.exchange id) exchange =
      effects.foldl (Effect.exchange id) exchange := by
  induction effects generalizing exchange with
  | nil => rfl
  | cons effect later ih =>
      cases effect with
      | note note => exact ih exchange
      | _ => rw [withoutNotes_cons rfl, List.foldl_cons, List.foldl_cons, ih]

/-- Where a call is placed does not show in exchanges before it is dispatched. -/
theorem Hub.Placing.foldl_exchange {hub : Hub} {key : Option String} {supply : Option Failure}
    {slot : Nat} {pool : Pool} {creation : List Effect}
    (placing : Hub.Placing hub key supply slot pool creation) (id : CallId)
    (exchange : Option Exchange) : creation.foldl (Effect.exchange id) exchange = exchange := by
  cases placing with
  | bound keyed found => rfl
  | reused unbound reusable => rfl
  | made unbound saturated supplied => rfl

/-- No call is live twice. -/
theorem Hub.Stepped.distinct {hub next : Hub} {action : Action} {effects : List Effect}
    (stepped : Hub.Stepped hub action next effects) (distinct : Ledger.Distinct hub.calls) :
    Ledger.Distinct next.calls := by
  have placed : ∀ {hub next : Hub} {id call opening supply effects},
      Ledger.Distinct hub.calls →
        Hub.Dispatching hub id call opening supply next effects → Ledger.Distinct next.calls := by
    intro hub next id call opening supply effects distinct dispatching
    cases dispatching with
    | unreadable unread => exact Ledger.distinct_drop distinct id
    | unsupplied read unbound saturated supplied => exact Ledger.distinct_drop distinct id
    | placed read placing => exact Ledger.distinct_put distinct id _
  cases stepped with
  | refused begins fresh closing => exact distinct
  | waits fresh unclosed many reads => exact Ledger.distinct_put distinct _ _
  | begins fresh unclosed starts dispatching =>
      exact placed (Ledger.distinct_put distinct _ _) dispatching
  | peeked live peeking dispatching => exact placed distinct dispatching
  | gaveUp live peeking givesUp => exact Ledger.distinct_drop distinct _
  | delivered live waiting streams read => exact Ledger.distinct_put distinct _ _
  | resumed live paused => exact Ledger.distinct_put distinct _ _
  | completed live waiting completes =>
      rw [Hub.calls_completed]
      exact Ledger.distinct_drop distinct _
  | left live leaves =>
      rw [Hub.calls_exitPlaced]
      exact Ledger.distinct_drop distinct _
  | background background =>
      rw [background.sameCalls.calls]
      exact distinct

namespace Session

variable {σ : Type} {session other third : Session σ} {id asking : CallId} {action : Action}

/-! ### What an action does -/

/-- Taking in an effect leaves the hub alone. -/
theorem hub_absorb (session : Session σ) (effect : Effect) :
    (session.absorb effect).hub = session.hub := by
  cases effect with
  | delivered asking response =>
      simp only [absorb, delivered]
      split <;> rfl
  | returned asking =>
      simp only [absorb, returned]
      split <;> rfl
  | _ => rfl

/-- Taking in an effect leaves the transport alone. -/
theorem transport_absorb (session : Session σ) (effect : Effect) :
    (session.absorb effect).transport = session.transport := by
  cases effect with
  | delivered asking response =>
      simp only [absorb, delivered]
      split <;> rfl
  | returned asking =>
      simp only [absorb, returned]
      split <;> rfl
  | _ => rfl

/-- Taking in an effect does to the exchange of each call what the effect says. -/
theorem exchange_absorb (session : Session σ) (effect : Effect) (id : CallId) :
    (session.absorb effect).exchanges.get? id = effect.exchange id (session.exchanges.get? id) := by
  cases effect with
  | dispatched asking slot shape method opening =>
      by_cases same : asking = id
      · subst same
        simp only [absorb, Effect.exchange, Ledger.get?_put_self, if_true]
      · simp only [absorb, Effect.exchange, Ledger.get?_put, if_neg same, if_neg (Ne.symm same)]
  | exited asking outcome =>
      simp only [absorb, exited, complete, Effect.exchange, Ledger.get?_drop, eq_comm]
  | delivered asking response =>
      simp only [absorb, delivered]
      split <;> rfl
  | returned asking =>
      simp only [absorb, returned]
      split <;> rfl
  | _ => rfl

theorem hub_foldl_absorb (session : Session σ) (effects : List Effect) :
    (effects.foldl absorb session).hub = session.hub := by
  induction effects generalizing session with
  | nil => rfl
  | cons effect later ih => rw [List.foldl_cons, ih, hub_absorb]

theorem transport_foldl_absorb (session : Session σ) (effects : List Effect) :
    (effects.foldl absorb session).transport = session.transport := by
  induction effects generalizing session with
  | nil => rfl
  | cons effect later ih => rw [List.foldl_cons, ih, transport_absorb]

/-- Effects do to the exchange of each call what they say, one after the other. -/
theorem exchange_foldl_absorb (session : Session σ) (effects : List Effect) (id : CallId) :
    (effects.foldl absorb session).exchanges.get? id =
      effects.foldl (Effect.exchange id) (session.exchanges.get? id) := by
  induction effects generalizing session with
  | nil => rfl
  | cons effect later ih => rw [List.foldl_cons, List.foldl_cons, ih, exchange_absorb]

section

variable {hub : Hub} {effects : List Effect}

/-- An action that is possible moves the hub, and its effects are taken in. -/
theorem act_of_step (stepped : session.hub.step action = some (hub, effects)) :
    session.act action = effects.foldl absorb { session with hub } := by
  simp only [act, stepped]

/-- An action that is impossible changes nothing. -/
theorem act_of_impossible (impossible : session.hub.step action = none) :
    session.act action = session := by
  simp only [act, impossible]

theorem hub_act (stepped : session.hub.step action = some (hub, effects)) :
    (session.act action).hub = hub := by
  rw [act_of_step stepped, hub_foldl_absorb]

/-- The hub acts by itself; the transport is moved in turns of calls only. -/
theorem transport_act (session : Session σ) (action : Action) :
    (session.act action).transport = session.transport := by
  cases stepped : session.hub.step action with
  | none => rw [act_of_impossible stepped]
  | some outcome => rw [act_of_step stepped, transport_foldl_absorb]

/-- What an action does to the exchange of a call is told by its effects. -/
theorem exchange_act (stepped : session.hub.step action = some (hub, effects)) (id : CallId) :
    (session.act action).exchanges.get? id =
      (withoutNotes effects).foldl (Effect.exchange id) (session.exchanges.get? id) := by
  rw [act_of_step stepped, exchange_foldl_absorb, Effect.foldl_exchange_withoutNotes]

end

/-! ### What leaves a call alone -/

/-- One session comes out of another, and nothing has happened to a call. -/
structure Apart (id : CallId) (session other : Session σ) : Prop where
  call : other.hub.call? id = session.hub.call? id
  exchange : other.exchanges.get? id = session.exchanges.get? id
  transport : other.transport = session.transport

/-- Nothing has happened to a call if nothing has happened to it in two parts. -/
theorem Apart.trans (one : Apart id session other) (more : Apart id other third) :
    Apart id session third where
  call := more.call.trans one.call
  exchange := more.exchange.trans one.exchange
  transport := more.transport.trans one.transport

/-- An action about something else leaves a call alone. -/
theorem apart_act (session : Session σ) (apart : action.call? ≠ some id) :
    Apart id session (session.act action) := by
  cases stepped : session.hub.step action with
  | none =>
      rw [act_of_impossible stepped]
      exact ⟨rfl, rfl, rfl⟩
  | some outcome =>
      obtain ⟨hub, effects⟩ := outcome
      refine ⟨?_, ?_, transport_act session action⟩
      · rw [hub_act stepped]
        exact (Hub.stepped_of_step stepped).call?_of_other apart
      · rw [act_of_step stepped, exchange_foldl_absorb]
        have silent : ∀ effect ∈ effects, effect.call? ≠ some id := fun effect told about =>
          apart (Hub.about_of_step stepped told about)
        clear stepped
        induction effects with
        | nil => rfl
        | cons effect later ih =>
            rw [List.foldl_cons, Effect.exchange_of_other (silent effect List.mem_cons_self)]
            exact ih fun told member => silent told (List.mem_cons_of_mem _ member)

/-- What is written about one call happens to no other. -/
theorem apart_put (session : Session σ) (apart : asking ≠ id) (exchange : Exchange) :
    Apart id session { session with exchanges := session.exchanges.put asking exchange } where
  call := rfl
  exchange := by rw [Ledger.get?_put, if_neg (Ne.symm apart)]
  transport := rfl

/-- Waiting for the first request of one call does nothing to any other. -/
theorem apart_peekTurn {manner : Manner} {requests : Requests} (apart : asking ≠ id)
    (turn : session.peekTurn? asking manner requests = some other) : Apart id session other := by
  unfold peekTurn? at turn
  obtain ⟨result, -, rfl⟩ := Option.map_eq_some_iff.mp turn
  apply (apart_put session apart _).trans
  apply apart_act
  exact fun same => apart (Option.some.inj same)

/-- What arrives for a call leads to an action about that call. -/
theorem call?_actionOf (asking : CallId) (arrival : Arrival) :
    (actionOf asking arrival).call? = some asking := by
  cases arrival <;> rfl

/-- The turn of one call leaves every other call alone. -/
theorem apart_callTurn {phase : Phase} (apart : asking ≠ id)
    (turn : session.callTurn? asking phase = some other) : Apart id session other := by
  unfold callTurn? at turn
  split at turn
  · exact apart_peekTurn apart turn
  · obtain ⟨advance, -, rfl⟩ := Option.map_eq_some_iff.mp turn
    have moved : Apart id session { session with
        state := advance.state
        exchanges := session.exchanges.put asking advance.exchange } := by
      obtain ⟨call, exchange, transport⟩ := apart_put session apart advance.exchange
      exact ⟨call, exchange, transport⟩
    split
    · rename_i arrival arrived
      apply moved.trans
      apply apart_act
      rw [call?_actionOf]
      exact fun same => apart (Option.some.inj same)
    · exact moved
  · split at turn
    · cases turn
      apply apart_act
      exact fun same => apart (Option.some.inj same)
    · cases turn
      apply apart_act
      exact fun same => apart (Option.some.inj same)
    · cases turn
  · cases turn

/-- A close that returns does nothing to any call. -/
theorem apart_closeTurn (turn : session.closeTurn? = some other) : Apart id session other := by
  unfold closeTurn? at turn
  split at turn
  · obtain ⟨closing, -, rfl⟩ := Option.map_eq_some_iff.mp turn
    have closed : Apart id session
        { session with state := closing.state, notes := session.notes ++ closing.notes } :=
      ⟨rfl, rfl, rfl⟩
    apply closed.trans
    apply apart_act
    exact nofun
  · cases turn

/-- The actions of the background are about no call. -/
theorem call?_of_background {action : Action} (member : action ∈ session.backgroundActions) :
    action.call? = none := by
  rcases List.mem_append.mp member with own | waits
  · simp only [List.mem_cons, List.not_mem_nil, or_false] at own
    rcases own with rfl | rfl | rfl | rfl | rfl | rfl <;> rfl
  · obtain ⟨waiter, -, rfl⟩ := List.mem_map.mp waits
    rfl

/-- The background leaves every call alone. -/
theorem apart_backgroundTurn (turn : session.backgroundTurn? = some other) :
    Apart id session other := by
  unfold backgroundTurn? at turn
  split at turn
  · rename_i action found
    cases turn
    apply apart_act
    rw [call?_of_background (List.mem_of_find?_eq_some found)]
    exact nofun
  · exact apart_closeTurn turn

/-! ### Turns -/

/-- A turn belongs to a live call, or to the background. -/
theorem callTurn_or_backgroundTurn (turn : session.turn? = some other) :
    (∃ entry ∈ session.hub.calls, session.callTurn? entry.1 entry.2.phase = some other) ∨
      session.backgroundTurn? = some other := by
  unfold turn? at turn
  split at turn
  · rename_i next found
    cases turn
    exact Or.inl (List.exists_of_findSome?_eq_some found)
  · exact Or.inr turn

/-- A turn is the turn of a call or leaves it alone. -/
theorem ownTurn_or_apart (distinct : Ledger.Distinct session.hub.calls)
    (turn : session.turn? = some other) (id : CallId) :
    (∃ call, session.hub.call? id = some call ∧ session.callTurn? id call.phase = some other) ∨
      Apart id session other := by
  rcases callTurn_or_backgroundTurn turn with ⟨⟨asking, call⟩, member, own⟩ | background
  · by_cases same : asking = id
    · subst same
      exact Or.inl ⟨call, Ledger.get?_of_mem distinct member, own⟩
    · exact Or.inr (apart_callTurn same own)
  · exact Or.inr (apart_backgroundTurn background)

/-! ### Every live call has one place -/

/-- A turn moves the hub by one action, or not at all. -/
inductive Moves (session : Session σ) : Session σ → Prop where
  | still {other : Session σ} (same : other.hub = session.hub) : Moves session other
  | acted {prior : Session σ} {action : Action} (same : prior.hub = session.hub) :
      Moves session (prior.act action)

/-- The turn of a live call moves the hub by one action at most. -/
theorem moves_of_callTurn {phase : Phase} (turn : session.callTurn? asking phase = some other) :
    Moves session other := by
  unfold callTurn? at turn
  split at turn
  · unfold peekTurn? at turn
    obtain ⟨result, -, rfl⟩ := Option.map_eq_some_iff.mp turn
    exact .acted rfl
  · obtain ⟨advance, -, rfl⟩ := Option.map_eq_some_iff.mp turn
    split
    · exact .acted rfl
    · exact .still rfl
  · split at turn
    · cases turn
      exact .acted rfl
    · cases turn
      exact .acted rfl
    · cases turn
  · cases turn

/-- Every turn moves the hub by one action at most. -/
theorem moves_of_turn (turn : session.turn? = some other) : Moves session other := by
  rcases callTurn_or_backgroundTurn turn with ⟨entry, -, own⟩ | background
  · exact moves_of_callTurn own
  · unfold backgroundTurn? at background
    split at background
    · cases background
      exact .acted rfl
    · unfold closeTurn? at background
      split at background
      · obtain ⟨closing, -, rfl⟩ := Option.map_eq_some_iff.mp background
        exact .acted rfl
      · cases background

/-- No call is live twice after a turn if none was before it. -/
theorem distinct_turn (distinct : Ledger.Distinct session.hub.calls)
    (turn : session.turn? = some other) : Ledger.Distinct other.hub.calls := by
  cases moves_of_turn turn with
  | still same =>
      rw [same]
      exact distinct
  | @acted prior action same =>
      rw [← same] at distinct
      cases stepped : prior.hub.step action with
      | none =>
          rw [act_of_impossible stepped]
          exact distinct
      | some outcome =>
          rw [hub_act stepped]
          exact (Hub.stepped_of_step stepped).distinct distinct

end Session

end AffinityPool
