/-
Module: AffinityPool.Http.ResponseStream
Purpose: The stream of responses that a connection carries as server-sent events.
Main exports:
  ResponseStream, ResponseStream.start, ResponseStream.Next, ResponseStream.next
-/
import AffinityPool.Http.Client

namespace AffinityPool.Http

/-!
Each event with data carries one response.  Reading goes on event by event, only
as far as is needed for the next response, so a response is delivered before
anything that comes behind it.
-/

/-- A stream of responses that is being read. -/
structure ResponseStream where
  endpoint : String
  method : String
  /-- How deep responses may nest. -/
  maxDepth : Nat
  /-- The events that are still to be looked at. -/
  events : List Event
  ending : Ending

namespace ResponseStream

/-- Begin to read the answer to a call for a stream, if it tells of success. -/
def start (endpoint method : String) (maxDepth : Nat) (connection : Connection) :
    Except Failure ResponseStream :=
  if isSuccess connection.status then
    .ok
      { endpoint := endpoint
        method := method
        maxDepth := maxDepth
        events := connection.events
        ending := connection.ending }
  else .error (.badStatus connection.status)

/-- What reading on gives. -/
inductive Next where
  | result (result : Json)
  | ended
  | failed (failure : Failure)

/-- The stream behind its end or a failure. -/
def afterEnd (stream : ResponseStream) : ResponseStream :=
  { stream with events := [], ending := .clean }

/-- The result that an event carries, when these events are left behind it. -/
def resultOf (stream : ResponseStream) (event : Event) (left : List Event) :
    Next × ResponseStream :=
  match Rpc.readResponse stream.maxDepth event.data.letters with
  | .ok result => (.result result, { stream with events := left })
  | .error failure => (.failed failure, stream.afterEnd)

/-- What comes when no event is left. -/
def atEnd (stream : ResponseStream) : Next :=
  match stream.ending with
  | .clean => .ended
  | .broken fault => .failed (streamFailure stream.endpoint stream.method fault)

/-- Read on through events up to the first one with data. -/
def readOn (stream : ResponseStream) : List Event → Next × ResponseStream
  | [] => (stream.atEnd, stream.afterEnd)
  | event :: left =>
      if event.data.isEmpty then stream.readOn left else stream.resultOf event left

/-- The next result of a stream.  Events without data are passed over, and a
failure is the end. -/
def next (stream : ResponseStream) : Next × ResponseStream := stream.readOn stream.events

end ResponseStream

end AffinityPool.Http
