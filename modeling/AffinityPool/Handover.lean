/-
Module: AffinityPool.Handover
Purpose: What a transport is handed to take the requests of a call from.
Main exports:
  Manner, Handover, Handover.of, Handover.pull, Handover.feed, Handover.requests,
  Handover.pull_requests
-/
import AffinityPool.Requests

namespace AffinityPool

/-!
Taking a request from a caller's sequence uses it up.  When the first request was
taken to look for a key, the transport is handed something that gives this request
once more and then goes on with the sequence.  Whatever the transport is handed, it
finds there what `Requests.handedOver` says.
-/

/-- Requests that were taken, in front of what is left. -/
def Requests.prepend (requests : Requests) (head : List Message) : Requests :=
  { requests with pending := head.map .ok ++ requests.pending }

theorem Requests.feed_empty (fed : List Requests.Fed) : Requests.empty.feed fed = .empty := by
  induction fed with
  | nil => rfl
  | cons first later ih => exact ih

theorem Requests.feed_append (requests : Requests) (fed more : List Requests.Fed) :
    requests.feed (fed ++ more) = (requests.feed fed).feed more := List.foldl_append

/-- What is added comes behind everything, so it does not matter when it is added. -/
theorem Requests.feed_prepend (requests : Requests) (head : List Message)
    (fed : List Requests.Fed) :
    (requests.prepend head).feed fed = (requests.feed fed).prepend head := by
  induction fed generalizing requests with
  | nil => rfl
  | cons first later ih =>
      have one : (requests.prepend head).feedOne first = (requests.feedOne first).prepend head := by
        obtain ⟨pending, isOpen⟩ := requests
        cases isOpen <;> cases first <;> simp [feedOne, prepend]
      calc (requests.prepend head).feed (first :: later)
          = ((requests.prepend head).feedOne first).feed later := rfl
        _ = ((requests.feedOne first).feed later).prepend head := by rw [one, ih]

/-- How a caller gives its sequence. -/
inductive Manner where
  /-- It answers at once whenever it is asked. -/
  | atOnce
  /-- It may let the one who asks wait. -/
  | overTime
deriving Repr, DecidableEq

/-- What a transport takes requests from. -/
inductive Handover where
  /-- The caller's sequence itself. -/
  | asGiven (requests : Requests)
  /-- No requests, whatever the caller's sequence is. -/
  | nothing
  /-- Requests that were taken before, and then what is left of the caller's
  sequence. -/
  | replayed (head : List Message) (rest : Requests)

namespace Handover

/-- What is handed over when a call opens in a given way and these requests are
left.  A sequence that answers at once and has turned out to be empty is not asked
again. -/
def of (manner : Manner) (requests : Requests) : Opening → Handover
  | .single request => .replayed [request] .empty
  | .untouched => .asGiven requests
  | .restored first => .replayed [first] requests
  | .exhausted =>
      match manner with
      | .atOnce => .nothing
      | .overTime => .replayed [] requests

/-- Take the next request. -/
def pull : Handover → Requests.Pull × Handover
  | .asGiven requests =>
      let (pulled, rest) := requests.pull
      (pulled, .asGiven rest)
  | .nothing => (.ended, .nothing)
  | .replayed (first :: head) rest => (.request first, .replayed head rest)
  | .replayed [] rest =>
      let (pulled, rest) := rest.pull
      (pulled, .replayed [] rest)

/-- The caller adds to its sequence. -/
def feed (fed : List Requests.Fed) : Handover → Handover
  | .asGiven requests => .asGiven (requests.feed fed)
  | .nothing => .nothing
  | .replayed head rest => .replayed head (rest.feed fed)

/-- All that is still to be taken. -/
def requests : Handover → Requests
  | .asGiven requests => requests
  | .nothing => .empty
  | .replayed head rest => rest.prepend head

/-- Taking a request takes the next one of all that is left. -/
theorem pull_requests (handover : Handover) :
    handover.requests.pull = (handover.pull.1, handover.pull.2.requests) := by
  cases handover with
  | asGiven requests => rfl
  | nothing => rfl
  | replayed head rest =>
      cases head with
      | nil => rfl
      | cons first head => rfl

theorem feed_requests (handover : Handover) (fed : List Requests.Fed) :
    (handover.feed fed).requests = handover.requests.feed fed := by
  cases handover with
  | asGiven requests => rfl
  | nothing => exact (Requests.feed_empty fed).symm
  | replayed head rest => exact (rest.feed_prepend head fed).symm

end Handover

end AffinityPool
