/-
Module: AffinityPool.Http.Remote
Purpose: A library that makes HTTP requests, with the remote side that answers them.
Main exports:
  Remote, Remote.fresh, Remote.request, Remote.receive, Remote.client
-/
import AffinityPool.Http.CookieJar
import AffinityPool.Http.Credentials
import AffinityPool.Http.Reception
import AffinityPool.Http.Request

namespace AffinityPool.Http

/-!
The remote side gives one answer to every request until another one is put in
its place.  An answer belongs to a request from the moment the request is sent.
Every channel keeps the cookies of its answers and sends them along.
-/

/-- A library in use, with the remote side. -/
structure Remote where
  /-- The time of all calls, in seconds since the start of 1970. -/
  now : Int
  reply : Reply
  /-- The cookies of each channel. -/
  jars : List (Nat × CookieJar)
  /-- The requests that were sent, each with its channel, oldest first. -/
  sent : List (Nat × Request)

namespace Remote

/-- Nothing is sent yet.  The remote side answers with an empty body. -/
def fresh (now : Int) : Remote :=
  { now := now
    reply := .response ⟨200, [], .whole []⟩
    jars := []
    sent := [] }

/-- Forget the requests, which have been seen. -/
def seen (remote : Remote) : Remote := { remote with sent := [] }

/-- The cookies of a channel. -/
def jar (remote : Remote) (slot : Nat) : CookieJar := (remote.jars.lookup slot).getD .empty

/-- Keep the cookies of a channel. -/
def keepJar (remote : Remote) (slot : Nat) (jar : CookieJar) : Remote :=
  { remote with jars := (slot, jar) :: remote.jars.filter (·.1 ≠ slot) }

/-- The headers of a request.  Cookies give way to a header of the caller's, and
the user of the address goes over such a header. -/
def requestHeaders (jar : CookieJar) (address : Address) (headers : Headers) : Headers :=
  let headers := headers.asSent
  let headers := match jar.header? (.ofAddress address) with
    | some cookies =>
        if (headers.values "cookie").isEmpty then headers.put "cookie" cookies else headers
    | none => headers
  let headers := match Credentials.ofAddress? address with
    | some credentials => headers.put "authorization" credentials.header
    | none => headers
  headers.mergeSort Headers.le

/-- The request of a call. -/
def request (remote : Remote) (outgoing : Outgoing) : Except Failure Request := do
  let address ← match Address.read outgoing.endpoint with
    | .ok address => .ok address
    | .error _ => .error .unusableEndpoint
  let headers ← outgoing.headers.written
  let body ← outgoing.document
  .ok
    { address := address
      headers := requestHeaders (remote.jar outgoing.slot) address headers
      body := body
      timeout := outgoing.timeout }

/-- Take in what a request is answered with.  An answer without a host that it
came from cannot be filed; all others leave their cookies. -/
def receive (remote : Remote) (slot : Nat) (request : Request) :
    Except Fault Reception × Remote :=
  match remote.reply with
  | .fault fault => (.error fault, remote)
  | .response response =>
      match Reception.ofResponse response with
      | .error fault => (.error fault, remote)
      | .ok reception =>
          if request.address.host.isEmpty then
            let shown := Text.quoted request.url
            (.error (.other (.raised .value ("unknown url type: " ++ shown))), remote)
          else
            let settings := reception.headers.values "set-cookie"
            let jar := (remote.jar slot).absorb remote.now (.ofAddress request.address) settings
            ((reception.checkRedirect request.address).map fun _ => reception,
              remote.keepJar slot jar)

/-- Send the request of a call and take in what it is answered with. -/
def exchange (remote : Remote) (outgoing : Outgoing) : Except Fault Reception × Remote :=
  match remote.request outgoing with
  | .error failure => (.error (.other failure), remote)
  | .ok request =>
      { remote with sent := remote.sent ++ [(outgoing.slot, request)] }.receive outgoing.slot
        request

/-- A bound on the events that the answer which is given now delivers. -/
def backlog (remote : Remote) : Nat :=
  match remote.reply with
  | .fault _ => 0
  | .response response =>
      match Reception.ofResponse response with
      | .ok reception => reception.connection.events.length
      | .error _ => 0

/-- The library in use. -/
def client : Client Remote where
  post remote outgoing :=
    let received := remote.exchange outgoing
    (received.1 >>= Reception.answer, received.2)
  connect remote outgoing :=
    let received := remote.exchange { outgoing with headers := outgoing.headers.forEvents }
    (received.1.map Reception.connection, received.2)
  backlog := backlog

end Remote

end AffinityPool.Http
