/-
Module: AffinityPool.Proofs.Session.Direct
Purpose: How a call without a hub takes its requests and comes to its start.
Main exports:
  Offers, Direct.await_quiet, Direct.await_collecting, Direct.await_exchangeOf, Direct.Over
-/
import AffinityPool.Proofs.Ledger.Agreement
import AffinityPool.Proofs.Session.Taking
import AffinityPool.Session.Direct

namespace AffinityPool

variable {σ ρ : Type}

/-- What a transport is given of what a caller sends: one request, or all requests of a
sequence that comes to an end, each in the form in which it is sent. -/
inductive Offers (transport : Transport σ ρ) : Sending → Payload → Prop where
  | one {request sent : Message} (prepared : transport.prepare request = .ok sent) :
      Offers transport (.one request) (.one sent)
  | many {manner : Manner} {requests sent : List Message}
      (prepared : transport.Prepared requests sent) :
      Offers transport (.many manner ⟨requests.map .ok, false⟩) (.many sent)

namespace Transport

variable {transport : Transport σ ρ} {state begun : σ} {id : CallId} {dispatch : Dispatch}
  {request sent : Message} {taken : List Message} {payload : Payload}

/-- A call whose start does not fail waits for its answer. -/
theorem begin_of_start (starts : transport.start state id dispatch payload = (none, begun)) :
    transport.begin state id dispatch payload = .quiet .answering begun := by
  unfold begin
  rw [starts]

/-- A request that can be sent starts its call. -/
theorem advance_sending (prepared : transport.prepare request = .ok sent)
    (starts : transport.start state id dispatch (.one sent) = (none, begun)) :
    transport.advance state id (.sending dispatch request) = some (.quiet .answering begun) := by
  simp only [advance, prepared]
  rw [begin_of_start starts]

/-- A request that can be sent is kept behind those that were taken before. -/
theorem advance_request {left : List (Except Failure Message)} {isOpen : Bool}
    (prepared : transport.prepare request = .ok sent) :
    transport.advance state id
        (.collecting dispatch taken (.asGiven ⟨.ok request :: left, isOpen⟩)) =
      some (.quiet (.collecting dispatch (taken ++ [sent]) (.asGiven ⟨left, isOpen⟩)) state) := by
  simp only [advance, Handover.pull, Requests.pull, prepared]

/-- When no request is left to come, the call starts with all that were taken. -/
theorem advance_last (starts : transport.start state id dispatch (.many taken) = (none, begun)) :
    transport.advance state id (.collecting dispatch taken (.asGiven ⟨[], false⟩)) =
      some (.quiet .answering begun) := by
  have started := begin_of_start starts
  simpa [advance, Handover.pull, Requests.pull] using started

end Transport

namespace Direct

variable {direct : Direct σ ρ} {id : CallId}

/-- A step that brings nothing leads to the next one. -/
theorem await_quiet {exchange next : Exchange} {state : σ}
    (advanced : direct.transport.advance direct.state id exchange = some (.quiet next state))
    (fuel : Nat) :
    direct.await id (fuel + 1) exchange = { direct with state }.await id fuel next := by
  rw [await, advanced]
  rfl

/-- All requests are taken one after the other, and then the call starts. -/
theorem await_collecting {dispatch : Dispatch} {begun : σ} {requests sent : List Message}
    (prepared : direct.transport.Prepared requests sent) {taken : List Message}
    (starts : direct.transport.start direct.state id dispatch (.many (taken ++ sent)) =
      (none, begun)) (fuel : Nat) :
    direct.await id (requests.length + (fuel + 1))
        (.collecting dispatch taken (.asGiven ⟨requests.map .ok, false⟩)) =
      { direct with state := begun }.await id fuel .answering := by
  induction prepared generalizing taken with
  | nil =>
      rw [List.append_nil] at starts
      rw [List.length_nil, Nat.zero_add]
      exact await_quiet (Transport.advance_last starts) fuel
  | @cons request first requests sent prepared others ih =>
      rw [List.append_cons] at starts
      rw [List.length_cons, Nat.succ_add, List.map_cons]
      apply (await_quiet (Transport.advance_request prepared) _).trans
      exact ih starts

/-- Whatever a call sends, its efforts suffice for its start and what comes then. -/
theorem await_exchangeOf {plan : Plan} {payload : Payload} {begun : σ}
    (offers : Offers direct.transport plan.sending payload)
    (starts : direct.transport.start direct.state id ⟨0, plan.shape, plan.method⟩ payload =
      (none, begun)) :
    ∃ fuel, direct.await id (effort (exchangeOf plan)) (exchangeOf plan) =
      { direct with state := begun }.await id (fuel + 1) .answering := by
  obtain ⟨shape, method, sending⟩ := plan
  cases offers with
  | one prepared => exact ⟨2, await_quiet (Transport.advance_sending prepared starts) 3⟩
  | @many manner requests sent prepared =>
      refine ⟨1, ?_⟩
      have effort : effort (exchangeOf ⟨shape, method, .many manner ⟨requests.map .ok, false⟩⟩) =
          requests.length + (2 + 1) := by
        simp [Direct.effort, exchangeOf, Exchange.backlog, Handover.of, Handover.requests]
      rw [effort]
      exact await_collecting prepared starts 2

/-! ### The end of a stream -/

/-- There is nothing more to read. -/
def Over (direct : Direct σ ρ) (id : CallId) : Prop := direct.streams.get? id = some .finished

/-- Behind the end there is only the end. -/
theorem Over.next (isOver : direct.Over id) : direct.next id = (some .ended, direct) := by
  unfold Direct.next
  rw [isOver]

/-- A stream that is stopped is over. -/
theorem over_stop (known : (direct.streams.get? id).isSome = true) : (direct.stop id).Over id := by
  unfold Over stop
  simp only [known, if_true]
  exact direct.streams.get?_put_self id .finished

end Direct

end AffinityPool
