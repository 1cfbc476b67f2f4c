/-
Module: AffinityPool.Walkthrough.Sessions
Purpose: A program that uses a hub against a service of named sessions.
Main exports:
  Walkthrough.standardSettings, Walkthrough.Report, Walkthrough.run
-/
import AffinityPool.Hub.Construction
import AffinityPool.Hub.Stats
import AffinityPool.Message.Document
import AffinityPool.Session.Caller
import AffinityPool.Transport.Scripted

namespace AffinityPool.Walkthrough

/-!
The program creates six sessions at once, runs a query on each of them, deletes
them, and reports how they were spread over the channels.  The service answers
the creations when all of them have arrived, in the order of arrival, each with
the next name; it answers everything else at once with the name of the method.
-/

/-- A method of the service. -/
def method (name : String) : String := "sessions.v1.Sessions/" ++ name

/-- The settings of the program if none are given. -/
def standardSettings : Settings :=
  { bounds := ⟨3, 2⟩
    entries :=
      [⟨[method "CreateSession"], some ⟨.bind, "name"⟩⟩,
        ⟨[method "GetSession", method "ExecuteSql", method "ExecuteStreamingSql"],
          some ⟨.bound, "session"⟩⟩,
        ⟨[method "DeleteSession"], some ⟨.unbind, "name"⟩⟩] }

/-- What the program did. -/
structure Report where
  result : Except Failure Unit
  lines : List String
  events : List Scripted.Event

/-- The program on its way. -/
structure Progress where
  session : Session Scripted
  lines : List String

namespace Progress

/-- Report a line. -/
def say (progress : Progress) (line : String) : Progress :=
  { progress with lines := progress.lines ++ [line] }

/-- Report the stats of the hub. -/
def sayStats (progress : Progress) (moment : String) : Progress :=
  let stats := progress.session.hub.stats.shown
  progress.say s!"Pool after {moment}: {stats}"

/-- Send a request for one response. -/
def send (progress : Progress) (id : CallId) (name : String) (request : Message) : Progress :=
  { progress with
    session := progress.session.issue id ⟨.unaryUnary, method name, .one request⟩ }

/-- Let the service answer a call. -/
def answer (progress : Progress) (id : CallId) (response : Message) : Progress :=
  { progress with
    session := progress.session.outside fun state => state.addReplies id [.response response] }

/-- Send a request that the service answers at once. -/
def ask (progress : Progress) (id : CallId) (name : String) (request : Message) :
    Except Failure Message × Progress :=
  let response := Message.dict [("ok", .text (method name))]
  let progress := { progress with session := progress.session.seen }
  let progress := (progress.send id name request).answer id response
  match progress.session.completions.head? with
  | some (_, .replied response) => (.ok response, progress)
  | some (_, .failed failure) => (.error failure, progress)
  | _ => (.ok response, progress)

end Progress

/-- The first failure among tasks that have ended. -/
def firstFailure? : List (CallId × Completion) → Option Failure
  | [] => none
  | (_, .failed failure) :: _ => some failure
  | _ :: rest => firstFailure? rest

/-- The number of sessions. -/
def sessionCount : Nat := 6

/-- Create the sessions, all at once. -/
def create (names : List String) (progress : Progress) : Except Failure Unit × Progress :=
  let id (position : Nat) : CallId := toString position
  let sent := (List.range sessionCount).foldl (fun progress position =>
    progress.send (id position) "CreateSession"
      (.dict [("database", .text "example")])) progress
  let answered := (names.take sessionCount).zipIdx.foldl (fun progress entry =>
    progress.answer (id entry.2) (.dict [("name", .text entry.1)])) sent
  match firstFailure? answered.session.completions with
  | some failure => (.error failure, answered)
  | none => (.ok (), answered.sayStats "create")

/-- How a response is shown. -/
def shownResponse (response : Message) : String :=
  match response.document with
  | .ok document => document.shown
  | .error _ => response.kindName

/-- Run a query on each session in turn. -/
def query : List String → Progress → Except Failure Unit × Progress
  | [], progress => (.ok (), progress)
  | name :: rest, progress =>
      match progress.ask "query" "ExecuteSql"
          (.dict [("session", .text name), ("sql", .text "SELECT 1")]) with
      | (.error failure, progress) => (.error failure, progress)
      | (.ok response, progress) =>
          query rest (progress.say (name ++ ": " ++ shownResponse response))

/-- Delete each session in turn. -/
def delete : List String → Progress → Except Failure Unit × Progress
  | [], progress => (.ok (), progress.sayStats "delete")
  | name :: rest, progress =>
      match progress.ask "delete" "DeleteSession" (.dict [("name", .text name)]) with
      | (.error failure, progress) => (.error failure, progress)
      | (.ok _, progress) => delete rest progress

/-- The work of the program, up to the first failure. -/
def work (names : List String) (progress : Progress) : Except Failure Unit × Progress :=
  match create names progress with
  | (.error failure, progress) => (.error failure, progress)
  | (.ok _, progress) =>
      match query names progress with
      | (.error failure, progress) => (.error failure, progress)
      | (.ok _, progress) => delete names progress

/-- Run the program.  However the work ends, the hub is shut down after it. -/
def run (settings : Settings) (names : List String) : Report :=
  match Hub.ofSettings settings with
  | .error failure => ⟨.error failure, [], []⟩
  | .ok hub =>
      let (result, progress) := work names ⟨.fresh hub Scripted.transport (.fresh [] []), []⟩
      ⟨result, progress.lines, (progress.session.shutdown "program" none).state.events⟩

end AffinityPool.Walkthrough
