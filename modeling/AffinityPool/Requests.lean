/-
Module: AffinityPool.Requests
Purpose: A caller's sequence of requests, taken one at a time.
Main exports:
  Requests, Requests.Pull, Requests.pull, Requests.feed, Requests.handedOver
-/
import AffinityPool.Hub.State

namespace AffinityPool

/-!
A caller may give its requests all at once, one by one as they are asked for,
or over time.  Taking requests is the same in all three cases; only the last one
can make the taker wait.  A sequence that has raised a failure has nothing more
to give.
-/

/-- The rest of a sequence of requests. -/
structure Requests where
  /-- What the sequence gives next: requests, and failures that it raises. -/
  pending : List (Except Failure Message)
  /-- Whether something may be added. -/
  isOpen : Bool

/-- Something that a caller adds to an open sequence. -/
inductive Requests.Fed where
  | request (request : Message)
  | failure (failure : Failure)
  | ending

namespace Requests

/-- A sequence that gives nothing. -/
def empty : Requests := ⟨[], false⟩

/-- What one attempt to take a request gives. -/
inductive Pull where
  | request (request : Message)
  | failure (failure : Failure)
  | ended
  | waiting

/-- Take the next request. -/
def pull (requests : Requests) : Pull × Requests :=
  match requests.pending with
  | .ok request :: rest => (.request request, { requests with pending := rest })
  | .error failure :: _ => (.failure failure, empty)
  | [] => (if requests.isOpen then .waiting else .ended, requests)

/-- Add one thing at the end.  Nothing can be added behind the end. -/
def feedOne (requests : Requests) (fed : Fed) : Requests :=
  if requests.isOpen then
    match fed with
    | .request request => { requests with pending := requests.pending ++ [.ok request] }
    | .failure failure => { requests with pending := requests.pending ++ [.error failure] }
    | .ending => { requests with isOpen := false }
  else requests

/-- Add several things in order. -/
def feed (requests : Requests) (fed : List Fed) : Requests := fed.foldl feedOne requests

/-- Put a request that was taken back in front. -/
def restore (requests : Requests) (first : Message) : Requests :=
  { requests with pending := .ok first :: requests.pending }

/-- What the transport finds in what it is handed when a call opens in a given way
and these requests are left. -/
def handedOver (requests : Requests) : Opening → Requests
  | .single request => ⟨[.ok request], false⟩
  | .untouched => requests
  | .restored first => requests.restore first
  | .exhausted => empty

/-- Taking a request and putting it back changes nothing. -/
theorem restore_of_pull {requests rest : Requests} {first : Message}
    (taken : requests.pull = (.request first, rest)) : rest.restore first = requests := by
  obtain ⟨pending, isOpen⟩ := requests
  match pending with
  | .ok request :: others =>
      simp only [pull, Prod.mk.injEq, Pull.request.injEq] at taken
      obtain ⟨rfl, rfl⟩ := taken
      rfl
  | .error failure :: others => simp [pull] at taken
  | [] => cases isOpen <;> simp [pull] at taken

end Requests

end AffinityPool
