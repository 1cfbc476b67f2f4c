/-
Module: AffinityPool.Proofs.Http.Delivery
Purpose: What the events of a stream say, and what its reader makes of them one by one.
Main exports:
  Http.withData, Http.ResponseStream.Arrives, Http.ResponseStream.next_arrives, Http.Carries,
  Http.Spoils, Http.yielded, Http.yielded_cut, Http.carried_or_spoilt
-/
import AffinityPool.Http.ResponseStream
import AffinityPool.Proofs.Rpc.Response

namespace AffinityPool.Http

/-!
Which events a library delivers is its own affair.  A stream passes over those without data, looks
at the others in order, and stops at the first one that is no response of success.
-/

/-! ### Events with data -/

/-- The events that carry data. -/
def withData (events : List Event) : List Event := events.filter fun event => !event.data.isEmpty

/-- Whether an event has data is its own affair. -/
theorem withData_append (first second : List Event) :
    withData (first ++ second) = withData first ++ withData second := List.filter_append ..

/-- An event without data is passed over. -/
theorem withData_cons_of_bare {event : Event} (bare : event.data.isEmpty = true)
    (events : List Event) : withData (event :: events) = withData events := by
  simp [withData, bare]

/-- An event with data counts. -/
theorem withData_cons_of_data {event : Event} (data : event.data.isEmpty = false)
    (events : List Event) : withData (event :: events) = event :: withData events := by
  simp [withData, data]

theorem length_withData_le (events : List Event) : (withData events).length ≤ events.length :=
  List.length_filter_le ..

namespace ResponseStream

/-- What reading on gives when these events are left. -/
inductive Arrives (stream : ResponseStream) (left : List Event) : Next × ResponseStream → Prop where
  /-- The first event with data is looked at, and everything behind it is left. -/
  | event {event : Event} {behind : List Event}
      (first : withData left = event :: withData behind) :
      Arrives stream left (stream.resultOf event behind)
  /-- There is no event with data. -/
  | bare (dataless : withData left = []) : Arrives stream left (stream.atEnd, stream.afterEnd)

/-- Reading on passes over events without data until one has data, or until none is left. -/
theorem readOn_arrives (stream : ResponseStream) (left : List Event) :
    Arrives stream left (stream.readOn left) := by
  induction left with
  | nil => exact .bare rfl
  | cons event left ih =>
      unfold readOn
      cases bare : event.data.isEmpty with
      | false => exact .event (withData_cons_of_data bare left)
      | true =>
          rw [if_pos rfl]
          generalize stream.readOn left = arrival at ih
          have same := withData_cons_of_bare bare left
          cases ih with
          | event first => exact .event (same.trans first)
          | bare dataless => exact .bare (same.trans dataless)

/-- The next result of a stream comes of its first event with data. -/
theorem next_arrives (stream : ResponseStream) : Arrives stream stream.events stream.next :=
  stream.readOn_arrives stream.events

end ResponseStream

/-! ### What the data of an event says -/

/-- The data of an event is a response of success with this result. -/
inductive Carries (maxDepth : Nat) (event : Event) (result : Json) : Prop where
  | intro {members : Json.Members}
      (document : Json.readLetters (Rpc.dialect maxDepth) event.data.letters =
        .ok (.object members))
      (sound : Json.Members.get? members "error" = none)
      (given : Json.Members.get? members "result" = some result) : Carries maxDepth event result

/-- The data of an event is no document or no response of success, which is a failure. -/
inductive Spoils (maxDepth : Nat) (event : Event) : Failure → Prop where
  | illegible {error : Json.ReadError}
      (unread : Json.readLetters (Rpc.dialect maxDepth) event.data.letters = .error error) :
      Spoils maxDepth event (Rpc.readFailure error)
  | unsuccessful {response : Json} {failure : Failure}
      (document : Json.readLetters (Rpc.dialect maxDepth) event.data.letters = .ok response)
      (verdict : Rpc.Verdict response (.error failure)) : Spoils maxDepth event failure

variable {maxDepth : Nat}

section

variable {event : Event} {result : Json} {failure : Failure}

/-- A response is read with a result exactly if the data carries it. -/
theorem readResponse_eq_ok_iff :
    Rpc.readResponse maxDepth event.data.letters = .ok result ↔ Carries maxDepth event result := by
  unfold Rpc.readResponse
  constructor
  · intro read
    cases document : Json.readLetters (Rpc.dialect maxDepth) event.data.letters with
    | error error =>
        rw [document] at read
        cases read
    | ok response =>
        rw [document] at read
        cases Rpc.unwrap_eq_iff.mp read with
        | result object sound given =>
            rw [object] at document
            exact .intro document sound given
  · rintro ⟨document, sound, given⟩
    rw [document]
    apply Rpc.unwrap_eq_iff.mpr
    exact .result rfl sound given

/-- A response is read as a failure exactly if the data spoils the stream with it. -/
theorem readResponse_eq_error_iff :
    Rpc.readResponse maxDepth event.data.letters = .error failure ↔
      Spoils maxDepth event failure := by
  unfold Rpc.readResponse
  constructor
  · intro read
    cases document : Json.readLetters (Rpc.dialect maxDepth) event.data.letters with
    | error error =>
        rw [document] at read
        cases read
        exact .illegible document
    | ok response =>
        rw [document] at read
        exact .unsuccessful document (Rpc.unwrap_eq_iff.mp read)
  · intro spoils
    cases spoils with
    | illegible unread => rw [unread]
    | unsuccessful document verdict =>
        rw [document]
        exact Rpc.unwrap_eq_iff.mpr verdict

end

/-! ### What events yield -/

/-- What these events yield, all of which have data: results up to the first event that carries
none, and the failure that they end with, if they do. -/
def yielded (maxDepth : Nat) (atEnd : Option Failure) : List Event → List Json × Option Failure
  | [] => ([], atEnd)
  | event :: rest =>
      match Rpc.readResponse maxDepth event.data.letters with
      | .ok result =>
          (result :: (yielded maxDepth atEnd rest).1, (yielded maxDepth atEnd rest).2)
      | .error failure => ([], some failure)

section

variable {before rest : List Event} {atEnd : Option Failure} {event : Event} {result : Json}
  {results : List Json} {failure : Failure}

/-- An event that carries a result yields it in front of what comes behind. -/
theorem yielded_of_carries (carries : Carries maxDepth event result) :
    yielded maxDepth atEnd (event :: rest) =
      (result :: (yielded maxDepth atEnd rest).1, (yielded maxDepth atEnd rest).2) := by
  rw [yielded, readResponse_eq_ok_iff.mpr carries]

/-- A stream yields nothing from its first spoilt event on. -/
theorem yielded_of_spoils (spoils : Spoils maxDepth event failure) :
    yielded maxDepth atEnd (event :: rest) = ([], some failure) := by
  rw [yielded, readResponse_eq_error_iff.mpr spoils]

/-- Events that carry results yield them in front of whatever comes behind. -/
theorem yielded_append (each : List.Forall₂ (Carries maxDepth) before results) :
    yielded maxDepth atEnd (before ++ rest) =
      (results ++ (yielded maxDepth atEnd rest).1, (yielded maxDepth atEnd rest).2) := by
  induction each with
  | nil => rfl
  | cons carries each ih => rw [List.cons_append, yielded_of_carries carries, ih, List.cons_append]

/-- If all events carry results, these are yielded, and then the end comes. -/
theorem yielded_of_each (each : List.Forall₂ (Carries maxDepth) before results) :
    yielded maxDepth atEnd before = (results, atEnd) :=
  calc yielded maxDepth atEnd before
      = yielded maxDepth atEnd (before ++ []) := by rw [List.append_nil]
    _ = (results ++ [], atEnd) := yielded_append each
    _ = (results, atEnd) := by rw [List.append_nil]

/-- Nothing behind an event that carries no result has any influence. -/
theorem yielded_cut (spoils : Spoils maxDepth event failure) (later others : List Event)
    (atEnd otherEnd : Option Failure) :
    yielded maxDepth atEnd (before ++ event :: later) =
      yielded maxDepth otherEnd (before ++ event :: others) := by
  induction before with
  | nil => rw [List.nil_append, List.nil_append, yielded_of_spoils spoils, yielded_of_spoils spoils]
  | cons first before ih => simp only [List.cons_append, yielded, ih]

/-- Either every event carries a result, or there is a first one that carries none. -/
theorem carried_or_spoilt (maxDepth : Nat) (events : List Event) :
    (∃ results, List.Forall₂ (Carries maxDepth) events results) ∨
      ∃ before event later results failure, events = before ++ event :: later ∧
        List.Forall₂ (Carries maxDepth) before results ∧ Spoils maxDepth event failure := by
  induction events with
  | nil => exact Or.inl ⟨[], .nil⟩
  | cons event rest ih =>
      cases read : Rpc.readResponse maxDepth event.data.letters with
      | error failure =>
          have spoils := readResponse_eq_error_iff.mp read
          exact Or.inr ⟨[], event, rest, [], failure, rfl, .nil, spoils⟩
      | ok result =>
          have carries := readResponse_eq_ok_iff.mp read
          obtain ⟨results, each⟩ | ⟨before, spoilt, later, results, failure, cut, each, spoils⟩ :=
            ih
          · exact Or.inl ⟨result :: results, .cons carries each⟩
          · have front : event :: rest = (event :: before) ++ spoilt :: later := by
              rw [cut, List.cons_append]
            exact Or.inr ⟨_, spoilt, later, _, failure, front, .cons carries each, spoils⟩

end

end AffinityPool.Http
