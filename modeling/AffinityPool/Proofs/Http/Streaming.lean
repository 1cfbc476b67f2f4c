/-
Module: AffinityPool.Proofs.Http.Streaming
Purpose: What a caller gets that reads a stream of responses to its end.
Main exports:
  Http.Faces, Http.Faces.reads, Http.collect_of_faces, Http.Serves, Http.Serves.call,
  Http.Padded, Http.Decoded, Http.Serves.decodes
-/
import AffinityPool.Http.Remote
import AffinityPool.Http.Transport
import AffinityPool.Proofs.Http.Delivery
import AffinityPool.Proofs.Session.Direct

namespace AffinityPool.Http

/-!
The library behind a channel may deliver any events and end them in any way.  A caller that reads to
the end gets one item after the other, and each item that is read uses up one event with data, so
what is there when the stream has been opened bounds how often there is something to read.
-/

variable {κ : Type} {client : Client κ}

/-! ### Reading on -/

/-- The failure that an ending is for the reader of a stream.  A connection that fails is told
as such. -/
def Ending.failure? (endpoint method : String) : Ending → Option Failure
  | .clean => none
  | .broken fault => some (streamFailure endpoint method fault)

/-- The failure with which the events of a stream end, if they end with one. -/
def failureAtEnd (stream : ResponseStream) : Option Failure :=
  stream.ending.failure? stream.endpoint stream.method

/-- What the events of a stream yield. -/
def told (stream : ResponseStream) : List Json × Option Failure :=
  yielded stream.maxDepth (failureAtEnd stream) (withData stream.events)

/-- How the task of a caller ends that has read a stream up to its end or a failure, behind
what it had before. -/
def readUp (taken : List Json) (told : List Json × Option Failure) : Completion Json :=
  match told.2 with
  | none => .collected (taken ++ told.1)
  | some failure => .interrupted (taken ++ told.1) failure

/-- Taking one more result and telling it first come to the same. -/
theorem readUp_cons (taken : List Json) (result : Json) (told : List Json × Option Failure) :
    readUp (taken ++ [result]) told = readUp taken (result :: told.1, told.2) := by
  obtain ⟨results, failure?⟩ := told
  cases failure? <;> simp [readUp]

/-- What a caller reads next when a stream stands behind the call. -/
def readNext (direct : Direct (Web κ) Json) (id : CallId) (stream : ResponseStream) :
    Option (Completion Json) × Direct (Web κ) Json :=
  let direct := { direct with state := direct.state.keep id (.stream stream.next.2) }
  match stream.next.1 with
  | .result result =>
      (some (.item result), { direct with streams := direct.streams.put id (.reading .answering) })
  | .ended => (some .ended, direct.stop id)
  | .failed failure => (some (.failed failure), direct.stop id)

/-- A caller has a stream in its hands and reads from it next. -/
structure Faces (client : Client κ) (direct : Direct (Web κ) Json) (id : CallId)
    (stream : ResponseStream) : Prop where
  web : direct.transport = Web.transport client
  known : (direct.streams.get? id).isSome = true
  next : ∃ state, direct.next id = readNext { direct with state := state } id stream

section

variable {direct : Direct (Web κ) Json} {id : CallId} {stream : ResponseStream}

/-- The answer that is kept for a call is found for it. -/
theorem lookup_keep (web : Web κ) (id : CallId) (answering : Answering) :
    (web.keep id answering).answering.lookup id = some answering := by
  simp [Web.keep]

/-- What a channel can still bring is at least what a stream that it keeps has left. -/
theorem length_le_backlog (client : Client κ) (web : Web κ) (id : CallId)
    (stream : ResponseStream) :
    stream.events.length ≤ Web.backlog client (web.keep id (.stream stream)) := by
  have grows (entries : List (CallId × Answering)) (start : Nat) :
      start ≤ entries.foldl (fun total entry => total + Web.answerBacklog entry.2) start := by
    induction entries generalizing start with
    | nil => exact Nat.le_refl start
    | cons entry rest ih => exact Nat.le_trans (Nat.le_add_right start _) (ih _)
  have first : stream.events.length ≤
      client.backlog web.remote + 1 + (stream.events.length + 1) := by omega
  exact Nat.le_trans first (grows _ _)

/-- Once an answer is there, waiting brings what comes next of it. -/
theorem await_answering (web : direct.transport = Web.transport client)
    (answering : direct.state.answering.lookup id = some (.stream stream)) (fuel : Nat) :
    direct.await id (fuel + 1) .answering =
      (some (Web.arrivalOf stream.next.1, .answering),
        { direct with state := direct.state.keep id (.stream stream.next.2) }) := by
  have comes : direct.transport.arrival direct.state id =
      some (Web.arrivalOf stream.next.1, direct.state.keep id (.stream stream.next.2)) := by
    rw [web]
    simp only [Web.transport, Web.arrival, answering]
  simp only [Direct.await, Transport.advance, comes, Option.map_some]

/-- Whoever reads a stream that has begun has it in front of him. -/
theorem faces_of_reading (web : direct.transport = Web.transport client)
    (reading : direct.streams.get? id = some (.reading .answering))
    (answering : direct.state.answering.lookup id = some (.stream stream)) :
    Faces client direct id stream := by
  refine ⟨web, by rw [reading]; rfl, direct.state, ?_⟩
  unfold Direct.next readNext
  simp only [reading, Direct.effort]
  rw [await_answering web answering]
  cases stream.next.1 <;> rfl

/-- What comes of reading one item of a stream. -/
inductive Reads (client : Client κ) (id : CallId) (stream : ResponseStream) :
    Option (Completion Json) × Direct (Web κ) Json → Prop where
  | item {event : Event} {result : Json} {later : Direct (Web κ) Json} {behind : List Event}
      (first : withData stream.events = event :: withData behind)
      (carries : Carries stream.maxDepth event result)
      (onward : Faces client later id { stream with events := behind })
      (room : behind.length ≤ later.transport.backlog later.state) :
      Reads client id stream (some (.item result), later)
  | spoilt {event : Event} {failure : Failure} {others : List Event}
      {later : Direct (Web κ) Json} (first : withData stream.events = event :: others)
      (spoils : Spoils stream.maxDepth event failure) (isOver : later.Over id) :
      Reads client id stream (some (.failed failure), later)
  | broken {failure : Failure} {later : Direct (Web κ) Json} (bare : withData stream.events = [])
      (failing : failureAtEnd stream = some failure) (isOver : later.Over id) :
      Reads client id stream (some (.failed failure), later)
  | ended {later : Direct (Web κ) Json} (bare : withData stream.events = [])
      (clean : failureAtEnd stream = none) (isOver : later.Over id) :
      Reads client id stream (some .ended, later)

/-- Reading on gives what the first event with data says, and leaves what stands behind it. -/
theorem Faces.reads (faces : Faces client direct id stream) :
    Reads client id stream (direct.next id) := by
  obtain ⟨web, known, state, next⟩ := faces
  rw [next]
  unfold readNext
  have arrives := stream.next_arrives
  generalize stream.next = arrival at arrives ⊢
  have isOver (web : Web κ) : ({ direct with state := web }.stop id).Over id :=
    Direct.over_stop known
  cases arrives with
  | @event event behind first =>
      unfold ResponseStream.resultOf
      cases read : Rpc.readResponse stream.maxDepth event.data.letters with
      | ok result =>
          refine .item first (readResponse_eq_ok_iff.mp read) (faces_of_reading web ?_ ?_) ?_
          · exact direct.streams.get?_put_self id _
          · exact lookup_keep state id _
          · simp only [web]
            exact length_le_backlog client state id { stream with events := behind }
      | error failure => exact .spoilt first (readResponse_eq_error_iff.mp read) (isOver _)
  | bare dataless =>
      unfold ResponseStream.atEnd
      cases ending : stream.ending with
      | clean => exact .ended dataless (by rw [failureAtEnd, ending]; rfl) (isOver _)
      | broken fault => exact .broken dataless (by rw [failureAtEnd, ending]; rfl) (isOver _)

/-- A stream tells the result of its first event with data, and then the rest. -/
theorem told_of_carries {event : Event} {result : Json} {behind : List Event}
    (first : withData stream.events = event :: withData behind)
    (carries : Carries stream.maxDepth event result) :
    told stream = (result :: (told { stream with events := behind }).1,
      (told { stream with events := behind }).2) := by
  rw [told, first, yielded_of_carries carries]
  rfl

/-- A stream whose first event with data is spoilt tells that failure alone. -/
theorem told_of_spoils {event : Event} {failure : Failure} {others : List Event}
    (first : withData stream.events = event :: others)
    (spoils : Spoils stream.maxDepth event failure) : told stream = ([], some failure) := by
  rw [told, first, yielded_of_spoils spoils]

/-- A stream without data tells its end. -/
theorem told_of_bare (bare : withData stream.events = []) :
    told stream = ([], failureAtEnd stream) := by
  rw [told, bare]
  rfl

/-- Reading to the end yields what the events yield, behind what was read before. -/
theorem collectFrom_of_faces (faces : Faces client direct id stream) {fuel : Nat}
    (enough : (withData stream.events).length < fuel) (taken : List Json) :
    ∃ later, direct.collectFrom id fuel taken = (some (readUp taken (told stream)), later) ∧
      later.Over id := by
  -- Each item that is read uses up one event with data, so the fuel outlasts the events.
  induction fuel generalizing direct stream taken with
  | zero => exact absurd enough (Nat.not_lt_zero _)
  | succ fuel ih =>
      have reads := faces.reads
      unfold Direct.collectFrom
      generalize direct.next id = read at reads ⊢
      cases reads with
      | @item event result later behind first carries onward room =>
          rw [first, List.length_cons, Nat.succ_lt_succ_iff] at enough
          obtain ⟨last, collected, isOver⟩ := ih onward enough (taken ++ [result])
          refine ⟨last, ?_, isOver⟩
          rw [told_of_carries first carries, ← readUp_cons]
          exact collected
      | spoilt first spoils isOver =>
          rw [told_of_spoils first spoils]
          exact ⟨_, by simp [readUp], isOver⟩
      | broken bare failing isOver =>
          rw [told_of_bare bare, failing]
          exact ⟨_, by simp [readUp], isOver⟩
      | ended bare clean isOver =>
          rw [told_of_bare bare, clean]
          exact ⟨_, by simp [readUp], isOver⟩

/-- What is there when the stream has been opened is enough to read it to its end. -/
theorem collect_of_faces (faces : Faces client direct id stream) :
    ∃ later, direct.collect id = (some (readUp [] (told stream)), later) ∧ later.Over id := by
  have reads := faces.reads
  unfold Direct.collect
  simp only [Direct.collectFrom]
  generalize direct.next id = read at reads ⊢
  cases reads with
  | @item event result later behind first carries onward room =>
      have enough : (withData behind).length < later.transport.backlog later.state + 1 :=
        Nat.lt_succ_of_le (Nat.le_trans (length_withData_le behind) room)
      obtain ⟨last, collected, isOver⟩ := collectFrom_of_faces onward enough [result]
      refine ⟨last, ?_, isOver⟩
      rw [told_of_carries first carries, ← readUp_cons]
      exact collected
  | spoilt first spoils isOver =>
      rw [told_of_spoils first spoils]
      exact ⟨_, rfl, isOver⟩
  | broken bare failing isOver =>
      rw [told_of_bare bare, failing]
      exact ⟨_, rfl, isOver⟩
  | ended bare clean isOver =>
      rw [told_of_bare bare, clean]
      exact ⟨_, rfl, isOver⟩

end

/-! ### From the call to the stream -/

/-- An open channel gets a connection with a status of success for a call for a stream, and the
connection delivers these events and then ends in this way. -/
inductive Serves (client : Client κ) (direct : Direct (Web κ) Json) (plan : Plan)
    (endpoint : String) (maxDepth : Nat) (events : List Event) (ending : Ending) : Prop where
  | intro {payload : Payload} {link sent : Link} {outgoing : Outgoing} {status : Int} {remote : κ}
      (web : direct.transport = Web.transport client)
      (streams : plan.shape.streamsResponses = true)
      (offers : Offers direct.transport plan.sending payload)
      (linked : direct.state.links[0]? = some link) (named : link.endpoint = endpoint)
      (depth : direct.state.profile.maxDepth = maxDepth)
      (leaves : link.outgoing 0 true plan.method payload = (.ok outgoing, sent))
      (connects : client.connect direct.state.remote outgoing =
        (.ok ⟨status, events, ending⟩, remote))
      (success : isSuccess status = true) :
      Serves client direct plan endpoint maxDepth events ending

section

variable {direct : Direct (Web κ) Json} {plan : Plan} {endpoint : String} {maxDepth : Nat}
  {events : List Event} {ending : Ending}

/-- The call starts, and its answer is the stream with the events of the connection. -/
theorem Serves.starts (serves : Serves client direct plan endpoint maxDepth events ending)
    (id : CallId) :
    ∃ payload begun, Offers direct.transport plan.sending payload ∧
      direct.transport.start direct.state id ⟨0, plan.shape, plan.method⟩ payload =
        (none, begun) ∧
      begun.answering.lookup id =
        some (.stream ⟨endpoint, plan.method, maxDepth, events, ending⟩) := by
  obtain ⟨web, streams, offers, linked, named, depth, leaves, connects, success⟩ := serves
  rename_i payload link sent outgoing status remote
  subst named depth
  have starts : ∃ begun, direct.transport.start direct.state id
      ⟨0, plan.shape, plan.method⟩ payload = (none, begun) ∧ begun.answering.lookup id =
        some (.stream ⟨link.endpoint, plan.method, direct.state.profile.maxDepth, events,
          ending⟩) := by
    rw [web]
    simp only [Web.transport, Web.start, linked, streams, leaves, Web.setLink, connects,
      Web.beginStream, ResponseStream.start, success, if_true, Except.map]
    exact ⟨_, rfl, lookup_keep _ id _⟩
  obtain ⟨begun, started, answering⟩ := starts
  exact ⟨payload, begun, offers, started, answering⟩

/-- A stream that is prepared is read from its call's start. -/
theorem Serves.faces (serves : Serves client direct plan endpoint maxDepth events ending)
    (id : CallId) :
    Faces client (direct.prepareStream id plan) id
      ⟨endpoint, plan.method, maxDepth, events, ending⟩ := by
  obtain ⟨payload, begun, offers, starts, answering⟩ := serves.starts id
  obtain ⟨web⟩ := serves
  have unread : (direct.prepareStream id plan).streams.get? id = some (.unread plan) :=
    direct.streams.get?_put_self id _
  refine ⟨web, by rw [unread]; rfl, begun, ?_⟩
  obtain ⟨fuel, awaits⟩ : ∃ fuel, (direct.prepareStream id plan).await id _ _ = _ :=
    Direct.await_exchangeOf offers starts
  have brings := @await_answering _ client { direct.prepareStream id plan with state := begun } id _
    web answering fuel
  unfold Direct.next readNext
  simp only [unread]
  rw [awaits, brings]
  cases ResponseStream.next _ |>.1 <;> rfl

/-- A call for a stream comes to its end with what the events yield. -/
theorem Serves.call (serves : Serves client direct plan endpoint maxDepth events ending)
    (id : CallId) :
    ∃ later, direct.call id plan = (some (readUp [] (yielded maxDepth
      (ending.failure? endpoint plan.method) (withData events))), later) ∧ later.Over id := by
  have collected := collect_of_faces (serves.faces id)
  obtain ⟨web, streams⟩ := serves
  unfold Direct.call
  rw [if_pos streams]
  exact collected

end

/-! ### What a caller gets -/

/-- Events with others inserted that have no data. -/
inductive Padded : List Event → List Event → Prop where
  | done : Padded [] []
  | same (event : Event) {events padded : List Event} (onward : Padded events padded) :
      Padded (event :: events) (event :: padded)
  | inserted {event : Event} {events padded : List Event} (bare : event.data = "")
      (onward : Padded events padded) : Padded events (event :: padded)

/-- Events without data are passed over wherever they were inserted. -/
theorem Padded.withData_eq {events padded : List Event} (fills : Padded events padded) :
    withData padded = withData events := by
  induction fills with
  | done => rfl
  | same event onward ih =>
      cases data : event.data.isEmpty with
      | true => rw [withData_cons_of_bare data, withData_cons_of_bare data, ih]
      | false => rw [withData_cons_of_data data, withData_cons_of_data data, ih]
  | inserted bare onward ih => rw [withData_cons_of_bare (by rw [bare]; rfl), ih]

/-- What a caller gets that reads a stream with these events to its end. -/
structure Decoded (direct : Direct (Web κ) Json) (id : CallId) (plan : Plan) (endpoint : String)
    (maxDepth : Nat) (events : List Event) (ending : Ending) : Prop where
  /-- Without a fault there are the results of all events with data, and then the end. -/
  complete : ∀ results, List.Forall₂ (Carries maxDepth) (withData events) results →
    ending = .clean → (direct.call id plan).1 = some (.collected results)
  /-- A connection that fails behind the last event is told as such, behind the results. -/
  connection : ∀ results cause, List.Forall₂ (Carries maxDepth) (withData events) results →
    ending = .broken (.connection cause) → (direct.call id plan).1 =
      some (.interrupted results (.streamFailed endpoint plan.method cause))
  /-- Whatever else is raised there is passed on as it is. -/
  passed : ∀ results failure, List.Forall₂ (Carries maxDepth) (withData events) results →
    ending = .broken (.other failure) →
    (direct.call id plan).1 = some (.interrupted results failure)
  /-- The first event that is no response of success is the last one that counts: the results
  before it are there, and its own failure. -/
  spoilt : ∀ before event later results failure, withData events = before ++ event :: later →
    List.Forall₂ (Carries maxDepth) before results → Spoils maxDepth event failure →
    (direct.call id plan).1 = some (.interrupted results failure)
  /-- There is such an event, or there is none. -/
  covered : (∃ results, List.Forall₂ (Carries maxDepth) (withData events) results) ∨
    ∃ before event later results failure, withData events = before ++ event :: later ∧
      List.Forall₂ (Carries maxDepth) before results ∧ Spoils maxDepth event failure
  /-- Events without data make no difference, wherever they stand and whatever library delivers
  them. -/
  padded : ∀ {κ' : Type} (otherClient : Client κ') (other : Direct (Web κ') Json)
    (otherId : CallId) (otherPlan : Plan) (padded : List Event),
    Serves otherClient other otherPlan endpoint maxDepth padded ending →
    otherPlan.method = plan.method → Padded events padded →
    (other.call otherId otherPlan).1 = (direct.call id plan).1
  /-- What would come behind an event that is no response of success, and how it would end,
  makes no difference either. -/
  unread : ∀ {κ' : Type} (otherClient : Client κ') (other : Direct (Web κ') Json)
    (otherId : CallId) (otherPlan : Plan) (otherEndpoint : String)
    (before later others : List Event) (event : Event) (failure : Failure) (otherEnding : Ending),
    events = before ++ event :: later → event.data ≠ "" → Spoils maxDepth event failure →
    Serves otherClient other otherPlan otherEndpoint maxDepth (before ++ event :: others)
      otherEnding →
    (other.call otherId otherPlan).1 = (direct.call id plan).1
  /-- Behind the end and behind a failure there is nothing more to read. -/
  spent : ((direct.call id plan).2.next id).1 = some .ended

section

variable {direct : Direct (Web κ) Json} {plan : Plan} {endpoint : String} {maxDepth : Nat}
  {events : List Event} {ending : Ending}

/-- The caller gets what the events with data yield. -/
theorem Serves.call_eq (serves : Serves client direct plan endpoint maxDepth events ending)
    (id : CallId) : (direct.call id plan).1 = some (readUp []
      (yielded maxDepth (ending.failure? endpoint plan.method) (withData events))) := by
  obtain ⟨later, called, -⟩ := serves.call id
  rw [called]

theorem isEmpty_eq_false {event : Event} (filled : event.data ≠ "") :
    event.data.isEmpty = false := by
  rw [← Bool.not_eq_true]
  intro empty
  refine filled ?_
  obtain ⟨⟨letters⟩⟩ := event
  obtain rfl : letters = [] := List.isEmpty_iff.mp empty
  rfl

/-- Every stream of events is read to its end as it should be, whatever library delivers it. -/
theorem Serves.decodes (serves : Serves client direct plan endpoint maxDepth events ending)
    (id : CallId) : Decoded direct id plan endpoint maxDepth events ending where
  complete results each clean := by
    rw [serves.call_eq, yielded_of_each each, clean]
    rfl
  connection results cause each broken := by
    rw [serves.call_eq, yielded_of_each each, broken]
    rfl
  passed results failure each raised := by
    rw [serves.call_eq, yielded_of_each each, raised]
    rfl
  spoilt before event later results failure cut each spoils := by
    rw [serves.call_eq, cut, yielded_append each, yielded_of_spoils spoils, List.append_nil]
    rfl
  covered := carried_or_spoilt maxDepth (withData events)
  padded otherClient other otherId otherPlan padded also method fills := by
    rw [serves.call_eq, also.call_eq, fills.withData_eq, method]
  unread otherClient other otherId otherPlan otherEndpoint before later others event failure
      otherEnding cut filled spoils also := by
    have front (tail : List Event) : withData (before ++ event :: tail) =
        withData before ++ event :: withData tail := by
      rw [withData_append, withData_cons_of_data (isEmpty_eq_false filled)]
    rw [serves.call_eq, also.call_eq, cut, front, front]
    congr 2
    exact yielded_cut spoils _ _ _ _
  spent := by
    obtain ⟨later, called, isOver⟩ := serves.call id
    rw [called, isOver.next]

end

/-! ### A stream of the library in use

An answer with a result in two pieces, a sign of life and a result that is half of a surrogate pair,
until the connection is gone. -/

/-- An answer of success sends nobody elsewhere, so it is received as it is. -/
theorem receive_of_success {remote : Remote} {slot : Nat} {request : Request} {response : Response}
    {reception : Reception} (replies : remote.reply = .response response)
    (hosted : request.address.host.isEmpty = false)
    (taken : Reception.ofResponse response = .ok reception)
    (success : isSuccess reception.status = true) :
    (remote.receive slot request).1 = .ok reception := by
  have other : reception.status ∉ ([301, 302, 303, 307, 308] : List Int) := by
    simp only [isSuccess, Bool.and_eq_true, decide_eq_true_eq] at success
    intro elsewhere
    simp only [List.mem_cons, List.not_mem_nil, or_false] at elsewhere
    omega
  have stays : reception.isRedirect = false := by
    unfold Reception.isRedirect
    rw [List.contains_eq_mem, decide_eq_false other, Bool.false_and]
  unfold Remote.receive
  simp [replies, taken, hosted, Reception.checkRedirect, stays, Except.map]

def tickerHeaders : Headers := [("content-type", "text/event-stream")]

def tickerPieces : List Piece :=
  let octets (text : String) : List UInt8 := text.toList.map fun c => UInt8.ofNat c.toNat
  [.ok (octets "data: \x7b\"res"), .ok (octets "ult\":\"a\"\x7d\n\nevent: alive\ndata:\n\n"),
    .ok (octets "data: \x7b\"result\":\"\\ud800\"\x7d\n\n"), .error (.connection "gone")]

def tickerResponse : Response :=
  ⟨200, [("content-type", .text "text/event-stream")], .pieces tickerPieces⟩

def tickerRemote : Remote := { Remote.fresh 0 with reply := .response tickerResponse }

def tickerLink : Link :=
  { endpoint := "http://h"
    headers := []
    timeout := .unlimited
    nextId := 1
    isClosed := false }

def ticker : Direct (Web Remote) Json :=
  { transport := Web.transport Remote.client
    state :=
      { profile := ⟨.text "http://h", [], .unlimited, 9⟩
        links := [tickerLink]
        remote := tickerRemote
        answering := [] }
    streams := []
    notes := [] }

def tickerPlan : Plan :=
  { shape := .streamStream
    method := "watch"
    sending := .many .overTime ⟨[.ok (.text "x"), .ok (.text "y")], false⟩ }

def tickerOutgoing : Outgoing :=
  { slot := 0
    endpoint := "http://h"
    headers := [("Content-Type", .text "application/json"), ("Accept", .text "text/event-stream")]
    id := 1
    method := "watch"
    payload := .many [.text "x", .text "y"]
    timeout := .unlimited }

def tickerEvents : List Event :=
  [⟨"\x7b\"result\":\"a\"\x7d"⟩, ⟨""⟩, ⟨"\x7b\"result\":\"\\ud800\"\x7d"⟩]

theorem ofResponse_ticker :
    Reception.ofResponse tickerResponse = .ok ⟨200, tickerHeaders, ⟨[], tickerPieces⟩⟩ := by
  have written : GivenHeaders.written tickerResponse.headers = .ok tickerHeaders := rfl
  have plain : Decoders.ofHeaders tickerHeaders = [] := by decide +kernel
  unfold Reception.ofResponse
  rw [written]
  change Except.ok (⟨200, tickerHeaders, ⟨Decoders.ofHeaders tickerHeaders, tickerPieces⟩⟩ :
    Reception) = _
  rw [plain]

theorem connection_ticker : Reception.connection ⟨200, tickerHeaders, ⟨[], tickerPieces⟩⟩ =
    ⟨200, tickerEvents, .broken (.connection "gone")⟩ := by
  have content : tickerHeaders.value "content-type" = "text/event-stream" := by decide +kernel
  have kind : Reception.holds Reception.eventContent.toList
      (ContentType.kind "text/event-stream".toList) = true := by decide +kernel
  have charset : Reception.decoderOf "text/event-stream" = .ok (.utf8 .between) := rfl
  have delivers : Reception.delivered (.fresh (.utf8 .between)) [] tickerPieces =
      (tickerEvents, .broken (.connection "gone")) := by cbv
  simp only [Reception.connection, content, kind, charset, delivers, Bool.not_true,
    Bool.false_eq_true, if_false]

theorem connects_ticker : ∃ remote, Remote.client.connect tickerRemote tickerOutgoing =
    (.ok ⟨200, tickerEvents, .broken (.connection "gone")⟩, remote) := by
  let outgoing := { tickerOutgoing with headers := tickerOutgoing.headers.forEvents }
  have leaves : (match tickerRemote.request outgoing with
      | .ok request => !request.address.host.isEmpty
      | .error _ => false) = true := by decide +kernel
  have received : (tickerRemote.exchange outgoing).1 =
      .ok ⟨200, tickerHeaders, ⟨[], tickerPieces⟩⟩ := by
    unfold Remote.exchange
    cases sends : tickerRemote.request outgoing with
    | error failure =>
        rw [sends] at leaves
        cases leaves
    | ok request =>
        rw [sends] at leaves
        exact receive_of_success rfl (by simpa using leaves) ofResponse_ticker rfl
  refine ⟨(tickerRemote.exchange outgoing).2, ?_⟩
  have split : Remote.client.connect tickerRemote tickerOutgoing =
      ((tickerRemote.exchange outgoing).1.map Reception.connection,
        (tickerRemote.exchange outgoing).2) := rfl
  rw [split, received, Except.map, connection_ticker]

/-- The call of the ticker is answered with these events, until the connection is gone. -/
theorem serves_ticker : Serves Remote.client ticker tickerPlan "http://h" 9 tickerEvents
    (.broken (.connection "gone")) := by
  have offers : Offers ticker.transport tickerPlan.sending tickerOutgoing.payload :=
    .many (.cons rfl (.cons rfl .nil))
  obtain ⟨remote, connects⟩ := connects_ticker
  exact .intro rfl rfl offers rfl rfl rfl rfl connects rfl

/-- Both results come, the half as it is, and then the failure of the connection. -/
theorem ticker_interrupted :
    Serves Remote.client ticker tickerPlan "http://h" 9 tickerEvents
        (.broken (.connection "gone")) ∧
      (ticker.call "c" tickerPlan).1 =
        some (.interrupted [.text "a", .text ⟨[.half 0xD800]⟩]
          (.streamFailed "http://h" "watch" "gone")) := by
  have data : withData tickerEvents = [⟨"\x7b\"result\":\"a\"\x7d"⟩,
      ⟨"\x7b\"result\":\"\\ud800\"\x7d"⟩] := rfl
  have each : List.Forall₂ (Carries 9) (withData tickerEvents)
      [.text "a", .text ⟨[.half 0xD800]⟩] := by
    rw [data]
    apply List.Forall₂.cons
    · apply Carries.intro
      · cbv
      · rfl
      · rfl
    · apply List.Forall₂.cons _ .nil
      apply Carries.intro
      · cbv
      · rfl
      · rfl
  have decoded := Serves.decodes serves_ticker "c"
  exact ⟨serves_ticker, decoded.connection _ "gone" each rfl⟩

end AffinityPool.Http
