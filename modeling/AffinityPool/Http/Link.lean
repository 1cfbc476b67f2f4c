/-
Module: AffinityPool.Http.Link
Purpose: One channel to a JSON-RPC endpoint.
Main exports:
  Profile, Link, Link.make, Link.close, Link.outgoing
-/
import AffinityPool.Http.Client
import AffinityPool.Note

namespace AffinityPool.Http

/-!
A call is one POST request that carries a JSON-RPC document.  A call for one
response is answered with such a document; a call for a stream of responses is
answered with server-sent events, each of which carries one.
-/

/-- What all channels to one endpoint have in common. -/
structure Profile where
  /-- Where requests go; it must be a text that is an HTTP address. -/
  endpoint : Message
  /-- Headers that are sent with every request. -/
  headers : GivenHeaders
  timeout : Timeout
  /-- How deep responses may nest, which is as deep as the stack of their reader
  allows. -/
  maxDepth : Nat

/-- One channel to an endpoint. -/
structure Link where
  endpoint : String
  headers : GivenHeaders
  timeout : Timeout
  /-- The id of the next request. -/
  nextId : Nat
  isClosed : Bool

/-- Whether a text is an address of the kind that a channel takes: it starts
with one of the two schemes. -/
def isEndpoint (text : String) : Bool :=
  "http://".toList.isPrefixOf text.toList || "https://".toList.isPrefixOf text.toList

/-- Open a channel. -/
def Link.make (profile : Profile) : Except Failure Link :=
  match profile.endpoint with
  | .text endpoint =>
      if isEndpoint endpoint then
        .ok
          { endpoint := endpoint
            headers := profile.headers
            timeout := profile.timeout
            nextId := 1
            isClosed := false }
      else .error .notAnEndpoint
  | _ => .error .notAnEndpoint

/-- Close a channel.  The note is there only the first time. -/
def Link.close (link : Link) : List Note × Link :=
  if link.isClosed then ([], link)
  else ([.linkClosed link.endpoint], { link with isClosed := true })

/-- The headers of a call.  The caller's headers go over the standard ones. -/
def GivenHeaders.forCall (given : GivenHeaders) (streaming : Bool) : GivenHeaders :=
  let accept := if streaming then "text/event-stream" else "application/json"
  given.foldl set [("Content-Type", .text "application/json"), ("Accept", .text accept)]

/-- A call as it leaves a channel, and the channel afterwards.  A closed channel
lets no call leave. -/
def Link.outgoing (link : Link) (slot : Nat) (streaming : Bool) (method : String)
    (payload : Payload) : Except Failure Outgoing × Link :=
  if link.isClosed then (.error (.linkClosed link.endpoint), link)
  else
    (.ok
        { slot := slot
          endpoint := link.endpoint
          headers := link.headers.forCall streaming
          id := link.nextId
          method := method
          payload := payload
          timeout := link.timeout },
      { link with nextId := link.nextId + 1 })

end AffinityPool.Http
