/-
Module: AffinityPool.Note
Purpose: What the pool reports about its work.
Main exports:
  Severity, Part, Note, Note.severity, Note.part, Note.text
-/
import AffinityPool.Failure

namespace AffinityPool

/-- How much attention a note deserves. -/
inductive Severity where
  | debug
  | info
  | warning
  | error
deriving Repr, DecidableEq

/-- The part of the pool that writes a note. -/
inductive Part where
  | index
  | pool
  | channel
  | http
deriving Repr, DecidableEq

/-- A note about one event. -/
inductive Note where
  | bound (key : String) (slot refcount : Int)
  | unbound (key : String) (slot refcount : Int)
  | conflict (failure : Failure)
  | created (slot : Int) (size maxSize : Nat)
  | closeFailed (slot : Int) (failure : Failure)
  | routedByKey (method : String) (slot : Int) (key : String)
  | keyNotBound (key method : String)
  | routedByLoad (method : String) (slot : Int)
  | noKey (method : String) (failure : Failure)
  | noKeyInAnyResponse (method : String)
  | shuttingDown (inFlight : Int)
  | closingNow (inFlight : Int)
  | graceExpired (grace : String) (inFlight : Int)
  | closed (size : Nat)
  | linkClosed (endpoint : String)
deriving Repr, BEq

namespace Note

/-- The severity of a note. -/
def severity : Note → Severity
  | .conflict _ => .error
  | .closeFailed .. | .graceExpired .. => .warning
  | .shuttingDown _ | .closingNow _ | .closed _ => .info
  | _ => .debug

/-- The part that writes a note. -/
def part : Note → Part
  | .bound .. | .unbound .. | .conflict _ => .index
  | .created .. | .closeFailed .. => .pool
  | .linkClosed _ => .http
  | _ => .channel

/-- The text of a note. -/
def text : Note → String
  | .bound key slot refcount => s!"Bound key '{key}' to channel {slot} (refcount={refcount})"
  | .unbound key slot refcount =>
      s!"Unbound key '{key}' from channel {slot} (refcount={refcount})"
  | .conflict failure => failure.message
  | .created slot size maxSize => s!"Created channel {slot} ({size}/{maxSize})"
  | .closeFailed slot failure =>
      let reason := failure.message
      s!"Error closing channel {slot}: {reason}"
  | .routedByKey method slot key => s!"Routing {method} to channel {slot} by key '{key}'"
  | .keyNotBound key method => s!"Key '{key}' for {method} is not bound, selecting by load"
  | .routedByLoad method slot => s!"Routing {method} to channel {slot} by load"
  | .noKey method failure =>
      let reason := failure.message
      s!"No affinity key for {method}: {reason}"
  | .noKeyInAnyResponse method => s!"No affinity key in any response of {method}"
  | .shuttingDown inFlight => s!"Shutting down managed channel ({inFlight} calls in flight)"
  | .closingNow inFlight => s!"Closing managed channel now ({inFlight} calls in flight)"
  | .graceExpired grace inFlight =>
      s!"Shutdown grace period of {grace}s expired with {inFlight} calls in flight"
  | .closed size => s!"Managed channel closed ({size} channels released)"
  | .linkClosed endpoint => s!"HTTP channel to {endpoint} closed"

end Note

end AffinityPool
