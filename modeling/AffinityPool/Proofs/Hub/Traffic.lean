/-
Module: AffinityPool.Proofs.Hub.Traffic
Purpose: What passes for one call between its caller, the hub and the transport, and what it means
  that the transport is handed what the caller sent.
Main exports:
  Traffic, traffic, traffic_of_other, Action.Sends, Requests.Yields, Action.HandsOver,
  Action.HandsOver.whole
-/
import AffinityPool.Proofs.Hub.Separation
import AffinityPool.Transport.Basic

namespace AffinityPool

/-! ### What passes between a caller, the hub and the transport -/

/-- What has passed so far for one call. -/
structure Traffic where
  /-- What was taken from the caller's sequence before the call was handed over:
  a request, or the end of the sequence. -/
  taken : List (Option Message)
  /-- The calls of the transport. -/
  handed : List (Dispatch × Opening)
  /-- What the transport brought. -/
  brought : List Arrival
  /-- What the caller was shown. -/
  shown : List Arrival

namespace Traffic

/-- No traffic. -/
def none : Traffic := ⟨[], [], [], []⟩

/-- Traffic and then more of it. -/
def join (earlier later : Traffic) : Traffic :=
  ⟨earlier.taken ++ later.taken, earlier.handed ++ later.handed,
    earlier.brought ++ later.brought, earlier.shown ++ later.shown⟩

@[simp] theorem join_none (earlier : Traffic) : earlier.join none = earlier := by
  simp [join, none]

@[simp] theorem none_join (later : Traffic) : none.join later = later := by
  simp [join, none]

end Traffic

/-- What is taken from a caller's sequence with an action. -/
def Action.taken? (id : CallId) : Action → Option (Option Message)
  | .firstRequest asking (.ok first) _ => if asking = id then some first else none
  | _ => none

/-- What the transport brings with an action. -/
def Action.arrival? (id : CallId) : Action → Option Arrival
  | .respond asking response => if asking = id then some (.response response) else none
  | .finish asking => if asking = id then some .ended else none
  | .fail asking failure => if asking = id then some (.failed failure) else none
  | _ => none

/-- What a caller sees of the exit of its call. -/
def Outcome.arrival? : Outcome → Option Arrival
  | .replied response => some (.response response)
  | .ended => some .ended
  | .failed failure => some (.failed failure)
  | .abandoned => none

/-- What a caller is shown with an effect. -/
def Effect.arrival? (id : CallId) : Effect → Option Arrival
  | .delivered asking response => if asking = id then some (.response response) else none
  | .exited asking outcome => if asking = id then outcome.arrival? else none
  | _ => none

/-- How a call is handed to the transport with an effect. -/
def Effect.handover? (id : CallId) : Effect → Option (Dispatch × Opening)
  | .dispatched asking slot shape method opening =>
      if asking = id then some (⟨slot, shape, method⟩, opening) else none
  | _ => none

/-- What passes for a call in a moment. -/
def Moment.traffic (id : CallId) (moment : Moment) : Traffic where
  taken := (moment.action.taken? id).toList
  handed := moment.effects.filterMap (Effect.handover? id)
  brought := (moment.action.arrival? id).toList
  shown := moment.effects.filterMap (Effect.arrival? id)

/-- What passes for a call over some moments. -/
def traffic (id : CallId) (course : List Moment) : Traffic where
  taken := course.filterMap (·.action.taken? id)
  handed := (effectsOf course).filterMap (Effect.handover? id)
  brought := course.filterMap (·.action.arrival? id)
  shown := (effectsOf course).filterMap (Effect.arrival? id)

/-- What passes between a call and its channel passes in one part of a course or in the other. -/
theorem traffic_append (id : CallId) (course later : List Moment) :
    traffic id (course ++ later) = (traffic id course).join (traffic id later) := by
  simp [traffic, Traffic.join]

theorem traffic_singleton (id : CallId) (moment : Moment) :
    traffic id [moment] = moment.traffic id := by
  simp only [traffic, Moment.traffic, effectsOf_cons, effectsOf_nil, List.append_nil,
    List.filterMap_cons, List.filterMap_nil]
  cases moment.action.taken? id <;> cases moment.action.arrival? id <;> rfl

/-- The traffic of a course begins with that of its first moment. -/
theorem traffic_cons (id : CallId) (moment : Moment) (later : List Moment) :
    traffic id (moment :: later) = (moment.traffic id).join (traffic id later) := by
  rw [← List.singleton_append, traffic_append, traffic_singleton]

/-- Notes are no traffic. -/
theorem traffic_withoutNotes (id : CallId) (action : Action) (effects : List Effect) :
    Moment.traffic id ⟨action, withoutNotes effects⟩ = Moment.traffic id ⟨action, effects⟩ := by
  simp only [Moment.traffic]
  rw [filterMap_withoutNotes (fun _ => rfl), filterMap_withoutNotes (fun _ => rfl)]

/-- An action about another call takes and brings nothing for this one. -/
theorem Action.silent_of_other {action : Action} {id : CallId} (other : action.call? ≠ some id) :
    action.taken? id = none ∧ action.arrival? id = none := by
  have apart (asking : CallId) (its : action.call? = some asking) : asking ≠ id := by
    rintro rfl
    exact other its
  cases action with
  | firstRequest asking result supply =>
      cases result <;> simp [taken?, arrival?, apart asking rfl]
  | respond asking response => simp [taken?, arrival?, apart asking rfl]
  | finish asking => simp [taken?, arrival?, apart asking rfl]
  | fail asking failure => simp [taken?, arrival?, apart asking rfl]
  | _ => exact ⟨rfl, rfl⟩

/-- What is handed over for a call is about that call. -/
theorem Effect.call?_of_handover {id : CallId} {effect : Effect}
    (hands : (effect.handover? id).isSome = true) : effect.call? = some id := by
  cases effect with
  | dispatched asking slot shape method opening =>
      by_cases same : asking = id
      · rw [same]
        rfl
      · simp [handover?, same] at hands
  | _ => cases hands

/-- What arrives for a call is about that call. -/
theorem Effect.call?_of_arrival {id : CallId} {effect : Effect}
    (shows : (effect.arrival? id).isSome = true) : effect.call? = some id := by
  cases effect with
  | delivered asking response =>
      by_cases same : asking = id
      · rw [same]
        rfl
      · simp [arrival?, same] at shows
  | exited asking outcome =>
      by_cases same : asking = id
      · rw [same]
        rfl
      · simp [arrival?, same] at shows
  | _ => cases shows

/-- A step about another call is no traffic. -/
theorem traffic_of_other {hub next : Hub} {action : Action} {effects : List Effect} {id : CallId}
    (stepped : hub.step action = some (next, effects)) (other : action.call? ≠ some id) :
    Moment.traffic id ⟨action, effects⟩ = .none := by
  obtain ⟨untaken, nothing⟩ := Action.silent_of_other other
  simp only [Moment.traffic, untaken, nothing,
    Hub.filterMap_of_other (fun _ => Effect.call?_of_handover) stepped other,
    Hub.filterMap_of_other (fun _ => Effect.call?_of_arrival) stepped other]
  rfl

/-! ### What a caller sends -/

/-- A call starts with an action, with the requests that its caller sends. -/
inductive Action.Sends (id : CallId) (shape : Shape) (method : String) : Action → Requests → Prop
  where
  | one {request : Message} {supply : Option Failure} :
      Sends id shape method (.begin id shape method request supply) ⟨[.ok request], false⟩
  | many {supply : Option Failure} {requests : Requests} :
      Sends id shape method (.beginMany id shape method supply) requests

/-- The action that sends the requests of a call begins that call. -/
theorem Action.Sends.begins {id : CallId} {shape : Shape} {method : String} {action : Action}
    {requests : Requests} (sends : action.Sends id shape method requests) :
    action.begins? = some id := by
  cases sends <;> rfl

/-- What a sequence gives when it is asked, and what is left of it. -/
inductive Requests.Yields : Requests → List (Option Message) → Requests → Prop where
  | nothing {requests : Requests} : Yields requests [] requests
  | request {requests next rest : Requests} {first : Message} {later : List (Option Message)}
      (pulled : requests.pull = (.request first, next)) (onward : Yields next later rest) :
      Yields requests (some first :: later) rest
  | ending {requests next rest : Requests} {later : List (Option Message)}
      (pulled : requests.pull = (.ended, next)) (onward : Yields next later rest) :
      Yields requests (none :: later) rest

/-- How a call is handed over that started with an action, when so much was taken
from its caller's sequence. -/
inductive Action.HandsOver (id : CallId) (shape : Shape) (method : String) :
    Action → List (Option Message) → Opening → Prop where
  | single {request : Message} {supply : Option Failure} :
      HandsOver id shape method (.begin id shape method request supply) [] (.single request)
  | untouched {supply : Option Failure} :
      HandsOver id shape method (.beginMany id shape method supply) [] .untouched
  | ofFirst {supply : Option Failure} {first : Option Message} :
      HandsOver id shape method (.beginMany id shape method supply) [first] (.ofFirst first)

/-- A sequence that has ended is empty. -/
theorem Requests.eq_empty_of_ended {requests rest : Requests}
    (pulled : requests.pull = (.ended, rest)) : requests = .empty := by
  obtain ⟨pending, isOpen⟩ := requests
  match pending with
  | .ok request :: others => simp [pull] at pulled
  | .error failure :: others => simp [pull] at pulled
  | [] =>
      cases isOpen with
      | true => simp [pull] at pulled
      | false => rfl

/-- Whatever was taken from a caller's sequence, the transport is handed all of
it. -/
theorem Action.HandsOver.whole {id : CallId} {shape : Shape} {method : String} {opener : Action}
    {taken : List (Option Message)} {opening : Opening} {requests rest : Requests}
    (hands : opener.HandsOver id shape method taken opening)
    (sends : opener.Sends id shape method requests) (yields : requests.Yields taken rest) :
    rest.handedOver opening = requests := by
  cases hands with
  | single =>
      cases sends
      rfl
  | untouched =>
      cases yields
      rfl
  | ofFirst =>
      cases yields with
      | request pulled onward =>
          cases onward
          exact Requests.restore_of_pull pulled
      | ending pulled onward =>
          cases onward
          exact (Requests.eq_empty_of_ended pulled).symm

end AffinityPool
