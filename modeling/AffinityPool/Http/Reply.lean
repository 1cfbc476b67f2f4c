/-
Module: AffinityPool.Http.Reply
Purpose: What HTTP requests are answered with.
Main exports:
  Piece, Body, Response, Reply
-/
import AffinityPool.Http.Client

namespace AffinityPool.Http

/-!
A body arrives as a whole or in pieces, and the connection may fail between two
of them.
-/

/-- A piece of a body, or what interrupts it. -/
abbrev Piece := Except Fault (List UInt8)

/-- A body. -/
inductive Body where
  /-- The body is there when the answer begins. -/
  | whole (octets : List UInt8)
  | pieces (pieces : List Piece)

/-- An answer to a request. -/
structure Response where
  status : Int
  headers : GivenHeaders
  body : Body

/-- What a request is answered with. -/
inductive Reply where
  | fault (fault : Fault)
  | response (response : Response)

end AffinityPool.Http
