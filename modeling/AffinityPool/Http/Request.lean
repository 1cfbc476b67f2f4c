/-
Module: AffinityPool.Http.Request
Purpose: HTTP requests as they leave.
Main exports:
  Request, Request.url, GivenHeaders.forEvents, Headers.asSent
-/
import AffinityPool.Http.Address
import AffinityPool.Http.Client

namespace AffinityPool.Http

/-- A request as it leaves. -/
structure Request where
  address : Address
  /-- Names in lower case, in order of name and value. -/
  headers : Headers
  body : Json
  timeout : Timeout

/-- Where a request goes, as text. -/
def Request.url (request : Request) : String := request.address.shown

/-- The headers that connections set for themselves. -/
def connectionHeaders : List String :=
  ["host", "connection", "accept-encoding", "user-agent", "content-length"]

/-- The headers of a call whose answer is read as events.  What that takes goes
over what was given. -/
def GivenHeaders.forEvents (given : GivenHeaders) : GivenHeaders :=
  let needed := [("Accept", Message.text "text/event-stream"), ("Cache-Control", .text "no-store")]
  needed.foldl set given

/-- Headers in the form in which they are sent, less those that connections
set. -/
def Headers.asSent (headers : Headers) : Headers :=
  let lower := headers.map fun header => (header.1.toLower, header.2)
  (lower.filter fun header => !connectionHeaders.contains header.1).mergeSort Headers.le

end AffinityPool.Http
