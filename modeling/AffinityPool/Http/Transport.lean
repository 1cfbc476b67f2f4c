/-
Module: AffinityPool.Http.Transport
Purpose: HTTP channels as a transport.
Main exports:
  Web, Web.fresh, Web.transport
-/
import AffinityPool.Http.Link
import AffinityPool.Http.ResponseStream

namespace AffinityPool.Http

/-- How far the answer to a call has come. -/
inductive Answering where
  /-- The one response is there. -/
  | result (result : Except Failure Json)
  | stream (stream : ResponseStream)

/-- Channels to one endpoint, with what their library remembers. -/
structure Web (κ : Type) where
  profile : Profile
  links : List Link
  remote : κ
  answering : List (CallId × Answering)

namespace Web

variable {κ : Type}

/-- No channel yet. -/
def fresh (profile : Profile) (remote : κ) : Web κ :=
  { profile := profile
    links := []
    remote := remote
    answering := [] }

/-- Open one more channel, if that is possible. -/
def create (web : Web κ) : Web κ :=
  match Link.make web.profile with
  | .ok link => { web with links := web.links ++ [link] }
  | .error _ => web

/-- Put a channel in place. -/
def setLink (web : Web κ) (slot : Nat) (link : Link) : Web κ :=
  { web with links := web.links.set slot link }

/-- Keep the answer to a call. -/
def keep (web : Web κ) (id : CallId) (answering : Answering) : Web κ :=
  { web with answering := (id, answering) :: web.answering.filter (·.1 ≠ id) }

/-- The answer to a call for a stream, or the failure that it ends with. -/
def beginStream (endpoint method : String) (maxDepth : Nat)
    (opened : Except Fault Connection) : Except Failure Answering :=
  match opened with
  | .ok connection =>
      (ResponseStream.start endpoint method maxDepth connection).map .stream
  | .error fault => .error (streamFailure endpoint method fault)

/-- The answer to a call for one response. -/
def resultOf (endpoint method : String) (maxDepth : Nat) (answer : Except Fault Answer) :
    Except Failure Json :=
  match answer with
  | .ok answer => answer.result maxDepth
  | .error fault => .error (requestFailure endpoint method fault)

/-- Start a call: let it leave its channel and look at how the answer begins. -/
def start (client : Client κ) (web : Web κ) (id : CallId) (dispatch : Dispatch)
    (payload : Payload) : Option Failure × Web κ :=
  match web.links[dispatch.slot]? with
  | none => (some (.raised .connection "Channel closed"), web)
  | some link =>
      let streaming := dispatch.shape.streamsResponses
      let (outgoing, sent) := link.outgoing dispatch.slot streaming dispatch.method payload
      let web := web.setLink dispatch.slot sent
      match outgoing with
      | .error failure => (some failure, web)
      | .ok outgoing =>
          if streaming then
            let (opened, remote) := client.connect web.remote outgoing
            let web := { web with remote }
            match beginStream link.endpoint dispatch.method web.profile.maxDepth opened with
            | .ok answering => (none, web.keep id answering)
            | .error failure => (some failure, web)
          else
            let (answer, remote) := client.post web.remote outgoing
            let result := resultOf link.endpoint dispatch.method web.profile.maxDepth answer
            (none, { web with remote }.keep id (.result result))

/-- What the next result of a stream is to its reader. -/
def arrivalOf : ResponseStream.Next → Arrival Json
  | .result result => .response result
  | .ended => .ended
  | .failed failure => .failed failure

/-- What comes next for a call. -/
def arrival (web : Web κ) (id : CallId) : Option (Arrival Json × Web κ) :=
  match web.answering.lookup id with
  | none => none
  | some (.result (.ok result)) => some (.response result, web)
  | some (.result (.error failure)) => some (.failed failure, web)
  | some (.stream stream) =>
      let (next, stream) := stream.next
      some (arrivalOf next, web.keep id (.stream stream))

/-- Forget the answer to a call. -/
def stop (web : Web κ) (id : CallId) : Web κ :=
  { web with answering := web.answering.filter (·.1 ≠ id) }

/-- Close a channel.  This takes no time and cannot fail. -/
def endClose (web : Web κ) (slot : Nat) : Option (Closing (Web κ)) :=
  match web.links[slot]? with
  | none => some { failure := none, notes := [], state := web }
  | some link =>
      let (notes, link) := link.close
      some { failure := none, notes := notes, state := web.setLink slot link }

/-- A bound on what the answer to a call still brings. -/
def answerBacklog : Answering → Nat
  | .result _ => 1
  | .stream stream => stream.events.length + 1

/-- A bound on what still comes. -/
def backlog (client : Client κ) (web : Web κ) : Nat :=
  web.answering.foldl (fun total entry => total + answerBacklog entry.2)
    (client.backlog web.remote + 1)

/-- HTTP channels as a transport.  Records are sent as their documents. -/
def transport (client : Client κ) : Transport (Web κ) Json :=
  { supply := fun web =>
      match Link.make web.profile with
      | .ok _ => none
      | .error failure => some failure
    create := create
    creationFailed := id
    prepare := Message.sendable
    start := start client
    arrival := arrival
    stop := stop
    beginClose := fun web _ => web
    endClose := endClose
    backlog := backlog client }

/-- HTTP channels as the transport of a hub, which takes results for messages.
Halves of surrogate pairs have no place in messages. -/
def messages (client : Client κ) : Transport (Web κ) := (transport client).map Message.ofJson

end Web

end AffinityPool.Http
