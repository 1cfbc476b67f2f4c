/-
Module: AffinityPool.Session.Basic
Purpose: A hub together with its transport and the callers that use it.
Main exports:
  Plan, Completion, StreamState, Reader, Session, Session.fresh
-/
import AffinityPool.Session.Ledger
import AffinityPool.Transport.Exchange

namespace AffinityPool

/-!
The hub says what may happen; a session makes it happen.  It keeps what the hub
does not: the requests on their way, the streams that callers hold, and who
waits for what.
-/

/-- The requests of a call. -/
inductive Sending where
  | one (request : Message)
  | many (manner : Manner) (requests : Requests)

/-- A call that is prepared and not yet begun. -/
structure Plan where
  shape : Shape
  method : String
  sending : Sending

/-- How a caller's task ends. -/
inductive Completion (ρ : Type := Message) where
  /-- A call brought its one response. -/
  | replied (response : ρ)
  /-- Something without a value is done. -/
  | finished
  | item (response : ρ)
  | ended
  /-- A stream was read to its end. -/
  | collected (responses : List ρ)
  /-- A stream failed while it was read to its end. -/
  | interrupted (responses : List ρ) (failure : Failure)
  | failed (failure : Failure)
deriving Repr, BEq

/-- A stream of responses in a caller's hands. -/
inductive StreamState where
  /-- Nothing has been read, so the call has not begun. -/
  | unread (plan : Plan)
  | begun
  | finished

/-- A caller's task that reads a stream or closes it. -/
inductive Reader where
  | next
  | all (responses : List Message)
  | closing

/-- A hub in use. -/
structure Session (σ : Type) where
  hub : Hub
  transport : Transport σ
  state : σ
  exchanges : Ledger Exchange
  streams : Ledger StreamState
  readers : Ledger Reader
  /-- Failures that callers raise once their shutdown has returned. -/
  reraised : Ledger Failure
  /-- What has been noted, oldest first. -/
  notes : List Note
  /-- The tasks that have ended, oldest first. -/
  completions : List (CallId × Completion)

namespace Session

variable {σ : Type}

/-- A session before anything happens. -/
def fresh (hub : Hub) (transport : Transport σ) (state : σ) : Session σ :=
  { hub := hub
    transport := transport
    state := state
    exchanges := []
    streams := []
    readers := []
    reraised := []
    notes := []
    completions := [] }

/-- What making a channel yields at this moment. -/
def supply (session : Session σ) : Option Failure := session.transport.supply session.state

/-- A caller's task ends. -/
def complete (session : Session σ) (id : CallId) (completion : Completion) : Session σ :=
  { session with completions := session.completions ++ [(id, completion)] }

/-- Forget the notes and the ended tasks, which have been seen. -/
def seen (session : Session σ) : Session σ := { session with notes := [], completions := [] }

end Session

end AffinityPool
