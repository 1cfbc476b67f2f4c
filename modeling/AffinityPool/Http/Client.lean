/-
Module: AffinityPool.Http.Client
Purpose: What channels ask of a library that makes HTTP requests, and what they get from it.
Main exports:
  Fault, Timeout, Outgoing, Outgoing.document, Answer, Event, Ending, Connection, Client, isSuccess
-/
import AffinityPool.Decimal.Binary64
import AffinityPool.Http.Header
import AffinityPool.Message.Document
import AffinityPool.Rpc.Call
import AffinityPool.Transport.Basic

namespace AffinityPool.Http

/-!
A library posts a document and comes back with an answer as a whole, or with a
connection that delivers server-sent events.  How requests are written, how
answers are taken in, what becomes of cookies and which octets make an event are
its own affair.  Only failures of the connection are told as such; whatever else
is raised on the way is passed on as it came.
-/

/-- What goes wrong between the two sides. -/
inductive Fault where
  /-- The connection fails. -/
  | connection (cause : String)
  /-- Anything else, which is passed on as it is. -/
  | other (failure : Failure)
deriving Repr, BEq

/-- The failure of a call for one response that a fault stands for. -/
def requestFailure (endpoint method : String) : Fault → Failure
  | .connection cause => .requestFailed endpoint method cause
  | .other failure => failure

/-- The failure of a stream that a fault stands for. -/
def streamFailure (endpoint method : String) : Fault → Failure
  | .connection cause => .streamFailed endpoint method cause
  | .other failure => failure

/-- How long a request may take, in seconds, as it was given. -/
inductive Timeout where
  | unlimited
  | whole (seconds : Int)
  | fractional (seconds : Binary64)
deriving Repr, DecidableEq

/-- The time a request may take if nothing else is said: thirty seconds. -/
def Timeout.standard : Timeout := .fractional (.ofDecimal false 30 0)

/-! ### What is asked -/

/-- A call as it is handed to the library. -/
structure Outgoing where
  /-- The channel that makes the call. -/
  slot : Nat
  endpoint : String
  headers : GivenHeaders
  /-- The id of the call on its channel. -/
  id : Nat
  method : String
  payload : Payload
  timeout : Timeout

/-- The document of a call's parameters. -/
def params (payload : Payload) : Except Failure Json :=
  match payload with
  | .one request => request.document
  | .many requests => (Message.documentItems requests).map .array

/-- The document that a call posts. -/
def Outgoing.document (outgoing : Outgoing) : Except Failure Json :=
  (params outgoing.payload).map (Rpc.request outgoing.id outgoing.method)

/-! ### What comes back -/

/-- An answer as a whole. -/
structure Answer where
  status : Int
  octets : List UInt8

/-- A server-sent event.  Its data is all that a channel looks at. -/
structure Event where
  data : Text.LooseText
deriving Repr, DecidableEq

/-- How events come to their end. -/
inductive Ending where
  | clean
  /-- Something goes wrong between the two sides. -/
  | broken (fault : Fault)

/-- A connection that delivers events to whoever reads it. -/
structure Connection where
  status : Int
  events : List Event
  ending : Ending

/-- A library that remembers a value of the type `κ`. -/
structure Client (κ : Type) where
  /-- Post a document and take in the answer as a whole. -/
  post : κ → Outgoing → Except Fault Answer × κ
  /-- Post a document and open the connection that the answer is read from. -/
  connect : κ → Outgoing → Except Fault Connection × κ
  /-- A bound on the events of a connection that is opened now. -/
  backlog : κ → Nat

/-- Whether a status tells of success. -/
def isSuccess (status : Int) : Bool := 200 ≤ status && status ≤ 299

/-- The result of a call for one response.  The status is looked at first. -/
def Answer.result (maxDepth : Nat) (answer : Answer) : Except Failure Json :=
  if isSuccess answer.status then
    match Text.decodeBody? answer.octets with
    | none => .error .undecodableText
    | some letters => Rpc.readResponse maxDepth letters
  else .error (.badStatus answer.status)

end AffinityPool.Http
