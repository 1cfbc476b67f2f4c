/-
Module: AffinityPool.Session.Caller
Purpose: What callers of a session do.
Main exports:
  Session.issue, Session.next, Session.collect, Session.abandon, Session.feed,
  Session.cancel, Session.shutdown, Session.shutdownNow, Session.useBriefly, Session.pass,
  Session.outside
-/
import AffinityPool.Session.Turn

namespace AffinityPool.Session

/-!
Each of these is followed by turns until everybody waits again, so a caller sees
the session at rest only.
-/

variable {σ : Type}

/-- Begin a call. -/
def begin (session : Session σ) (id : CallId) (plan : Plan) : Session σ :=
  match plan.sending with
  | .one request =>
      session.act (.begin id plan.shape plan.method request session.supply)
  | .many manner requests =>
      { session with exchanges := session.exchanges.put id (.holding manner requests) }.act
        (.beginMany id plan.shape plan.method session.supply)

/-- Begin a call that brings one response. -/
def call (session : Session σ) (id : CallId) (plan : Plan) : Session σ :=
  (session.begin id plan).settle

/-- Prepare a call that brings a stream.  Nothing happens before it is read. -/
def prepareStream (session : Session σ) (id : CallId) (plan : Plan) : Session σ :=
  { session with streams := session.streams.put id (.unread plan) }

/-- Read a stream: one item of it, or all that is left. -/
def read (session : Session σ) (id : CallId) (reader : Reader) (atEnd : Completion) :
    Session σ :=
  match session.streams.get? id with
  | some (.unread plan) =>
      ({ session with
          streams := session.streams.put id .begun
          readers := session.readers.put id reader }.begin id plan).settle
  | some .begun => { session with readers := session.readers.put id reader }.settle
  | _ => session.complete id atEnd

/-- Read one item of a stream. -/
def next (session : Session σ) (id : CallId) : Session σ := session.read id .next .ended

/-- Read a stream to its end. -/
def collect (session : Session σ) (id : CallId) : Session σ :=
  session.read id (.all []) (.collected [])

/-- Close a stream.  One that was never read just ends. -/
def abandon (session : Session σ) (id : CallId) : Session σ :=
  match session.streams.get? id with
  | some .begun =>
      ({ session with readers := session.readers.put id .closing }.act (.abandon id)).settle
  | some _ =>
      { session with streams := session.streams.put id .finished }.complete id .finished
  | none => session.complete id .finished

/-- Prepare a call, and begin it unless it brings a stream. -/
def issue (session : Session σ) (id : CallId) (plan : Plan) : Session σ :=
  if plan.shape.streamsResponses then session.prepareStream id plan else session.call id plan

/-- Add to the requests of a call. -/
def feed (session : Session σ) (id : CallId) (fed : List Requests.Fed) : Session σ :=
  match session.exchanges.get? id, session.streams.get? id with
  | some exchange, _ =>
      { session with exchanges := session.exchanges.put id (exchange.feed fed) }.settle
  | none, some (.unread plan) =>
      match plan.sending with
      | .many manner requests =>
          let plan := { plan with sending := .many manner (requests.feed fed) }
          { session with streams := session.streams.put id (.unread plan) }
      | .one _ => session
  | none, _ => session

/-- Whether a task runs under a name. -/
def isRunning (session : Session σ) (id : CallId) : Bool :=
  (session.hub.step (.cancel id)).isSome || (session.hub.step (.cancelWaiter id)).isSome

/-- Cancel the task of a name. -/
def cancel (session : Session σ) (id : CallId) : Session σ :=
  if (session.hub.step (.cancel id)).isSome then (session.act (.cancel id)).settle
  else if (session.hub.step (.cancelWaiter id)).isSome then
    ({ session with reraised := session.reraised.drop id }.act
      (.cancelWaiter id)).complete id (.failed .cancelled) |>.settle
  else session

/-- Shut down, letting calls finish for a while. -/
def shutdown (session : Session σ) (id : CallId) (grace : Option Grace) : Session σ :=
  (session.act (.shutdown id grace)).settle

/-- Shut down without waiting for calls. -/
def shutdownNow (session : Session σ) (id : CallId) : Session σ :=
  (session.act (.shutdownNow id)).settle

/-- Use the hub for as long as a piece of work takes that does nothing, or
raises a failure.  Leaving shuts down and then raises the failure. -/
def useBriefly (session : Session σ) (id : CallId) (raised : Option Failure) : Session σ :=
  let reraised := match raised with
    | some failure => session.reraised.put id failure
    | none => session.reraised
  { session with reraised }.shutdown id none

/-- Time passes. -/
def pass (session : Session σ) (seconds : Rat) : Session σ :=
  (session.act (.tick seconds)).settle

/-- The transport's side changes. -/
def outside (session : Session σ) (change : σ → σ) : Session σ :=
  { session with state := change session.state }.settle

end AffinityPool.Session
