/-
Module: AffinityPool.Proofs.Hub.Frame
Purpose: What the small operations on a hub change, and what they leave as it was.
Main exports:
  Hub.calls_setCall, Hub.calls_dropCall, Hub.exitPlaced_of_active, Hub.SameLife,
  Hub.Stepped.rules, Hub.Carries, Hub.Stepped.carries_or_background
-/
import AffinityPool.Proofs.Hub.History
import AffinityPool.Proofs.Hub.Transition
import AffinityPool.Proofs.Pool.Counters
import AffinityPool.Session.Ledger

namespace AffinityPool.Hub

/-! ### The table of live calls -/

/-- A live call is looked up in the table of calls. -/
theorem call?_eq (hub : Hub) (id : CallId) : hub.call? id = Ledger.get? hub.calls id := rfl

@[simp] theorem calls_setCall (hub : Hub) (id : CallId) (call : Call) :
    (hub.setCall id call).calls = Ledger.put hub.calls id call := rfl

@[simp] theorem calls_dropCall (hub : Hub) (id : CallId) :
    (hub.dropCall id).calls = Ledger.drop hub.calls id := rfl

@[simp] theorem calls_withAdmitted (hub : Hub) (id : CallId) (call : Call) :
    (hub.withAdmitted id call).calls = Ledger.put hub.calls id call := rfl

@[simp] theorem calls_endCall (hub : Hub) : hub.endCall.calls = hub.calls := rfl

/-! ### The pool, the index and the number of calls -/

@[simp] theorem pool_setCall (hub : Hub) (id : CallId) (call : Call) :
    (hub.setCall id call).pool = hub.pool := rfl

@[simp] theorem entries_setCall (hub : Hub) (id : CallId) (call : Call) :
    (hub.setCall id call).entries = hub.entries := rfl

@[simp] theorem inFlight_setCall (hub : Hub) (id : CallId) (call : Call) :
    (hub.setCall id call).inFlight = hub.inFlight := rfl

@[simp] theorem pool_withAdmitted (hub : Hub) (id : CallId) (call : Call) :
    (hub.withAdmitted id call).pool = hub.pool := rfl

@[simp] theorem entries_withAdmitted (hub : Hub) (id : CallId) (call : Call) :
    (hub.withAdmitted id call).entries = hub.entries := rfl

@[simp] theorem inFlight_withAdmitted (hub : Hub) (id : CallId) (call : Call) :
    (hub.withAdmitted id call).inFlight = hub.inFlight + 1 := rfl

@[simp] theorem pool_dropCall (hub : Hub) (id : CallId) : (hub.dropCall id).pool = hub.pool := rfl

@[simp] theorem entries_dropCall (hub : Hub) (id : CallId) :
    (hub.dropCall id).entries = hub.entries := rfl

@[simp] theorem inFlight_dropCall (hub : Hub) (id : CallId) :
    (hub.dropCall id).inFlight = hub.inFlight := rfl

@[simp] theorem pool_endCall (hub : Hub) : hub.endCall.pool = hub.pool := rfl

@[simp] theorem entries_endCall (hub : Hub) : hub.endCall.entries = hub.entries := rfl

@[simp] theorem inFlight_endCall (hub : Hub) : hub.endCall.inFlight = hub.inFlight - 1 := rfl

/-! ### Exits -/

/-- A call whose slot carries a call exits with its outcome. -/
theorem exitPlaced_of_active {hub : Hub} {slot : Nat}
    (active : 0 < (hub.pool.slotAt slot).activeCalls) (id : CallId) (outcome : Outcome) :
    ∃ pool, hub.pool.release slot = .ok pool ∧
      hub.exitPlaced id slot outcome =
        (({ hub with pool }.dropCall id).endCall, [.exited id outcome]) := by
  have released := Pool.release_of_active active
  refine ⟨_, released, ?_⟩
  rw [exitPlaced, released]
  rfl

/-- A call that exits from its channel tells its outcome and nothing else. -/
theorem exitPlaced_effects (hub : Hub) (id : CallId) (slot : Nat) (outcome : Outcome) :
    ∃ shown, (hub.exitPlaced id slot outcome).2 = [.exited id shown] := by
  unfold exitPlaced
  split
  · exact ⟨_, rfl⟩
  · exact ⟨_, rfl⟩

/-- The call is no longer live, and all others are. -/
@[simp] theorem calls_exitPlaced (hub : Hub) (id : CallId) (slot : Nat) (outcome : Outcome) :
    (hub.exitPlaced id slot outcome).1.calls = Ledger.drop hub.calls id := by
  unfold exitPlaced
  split <;> rfl

/-- The index is none of an exit's business. -/
@[simp] theorem entries_exitPlaced (hub : Hub) (id : CallId) (slot : Nat) (outcome : Outcome) :
    (hub.exitPlaced id slot outcome).1.entries = hub.entries := by
  unfold exitPlaced
  split <;> rfl

@[simp] theorem rules_exitPlaced (hub : Hub) (id : CallId) (slot : Nat) (outcome : Outcome) :
    (hub.exitPlaced id slot outcome).1.rules = hub.rules := by
  unfold exitPlaced
  split <;> rfl

/-- A call that exits leaves its channel in the pool. -/
@[simp] theorem size_exitPlaced (hub : Hub) (id : CallId) (slot : Nat) (outcome : Outcome) :
    (hub.exitPlaced id slot outcome).1.pool.size = hub.pool.size := by
  unfold exitPlaced
  split
  · rename_i pool released
    exact Pool.size_release released
  · rfl

/-- Keys stay bound to channels that calls exit from. -/
@[simp] theorem boundKeys_exitPlaced (hub : Hub) (id : CallId) (position : Nat)
    (outcome : Outcome) (slot : Nat) :
    ((hub.exitPlaced id position outcome).1.pool.slotAt slot).boundKeys =
      (hub.pool.slotAt slot).boundKeys := by
  unfold exitPlaced
  split
  · rename_i pool released
    change (pool.slotAt slot).boundKeys = _
    rw [Pool.slotAt_release released]
    split <;> rfl
  · rfl

/-- Channels keep their numbers when a call exits. -/
theorem numbered_exitPlaced {hub : Hub} (numbered : hub.pool.Numbered) (id : CallId) (slot : Nat)
    (outcome : Outcome) : (hub.exitPlaced id slot outcome).1.pool.Numbered := by
  unfold exitPlaced
  split
  · rename_i pool released
    exact numbered.release released
  · exact numbered

/-! ### Effects on the index -/

/-- An effect on the index ends no call and begins none. -/
@[simp] theorem calls_applyEffect (hub : Hub) (slot : Nat) (effect : IndexEffect) :
    (hub.applyEffect slot effect).2.1.calls = hub.calls := by
  cases effect <;> rfl

@[simp] theorem rules_applyEffect (hub : Hub) (slot : Nat) (effect : IndexEffect) :
    (hub.applyEffect slot effect).2.1.rules = hub.rules := by
  cases effect <;> rfl

@[simp] theorem inFlight_applyEffect (hub : Hub) (slot : Nat) (effect : IndexEffect) :
    (hub.applyEffect slot effect).2.1.inFlight = hub.inFlight := by
  cases effect <;> rfl

/-! ### Rules and life -/

/-- A call that asks for a channel leaves the rules alone. -/
theorem Dispatching.rules {hub next : Hub} {id : CallId} {call : Call} {opening : Opening}
    {supply : Option Failure} {effects : List Effect}
    (dispatching : Dispatching hub id call opening supply next effects) :
    next.rules = hub.rules := by
  cases dispatching <;> rfl

/-- A call that asks for a channel binds no key and releases none. -/
theorem Dispatching.entries {hub next : Hub} {id : CallId} {call : Call} {opening : Opening}
    {supply : Option Failure} {effects : List Effect}
    (dispatching : Dispatching hub id call opening supply next effects) :
    next.entries = hub.entries := by
  cases dispatching <;> rfl

/-- The rules of a hub never change. -/
theorem Stepped.rules {hub next : Hub} {action : Action} {effects : List Effect}
    (stepped : Stepped hub action next effects) : next.rules = hub.rules := by
  cases stepped with
  | begins fresh unclosed starts dispatching => exact dispatching.rules
  | peeked live peeking dispatching => exact dispatching.rules
  | completed live waiting completes => simp
  | left live leaves => simp
  | background background => exact background.sameCalls.rules
  | _ => rfl

/-- The rules of a hub are those it started with, for ever. -/
theorem History.rules {start hub : Hub} {past : List Moment} (ran : History start past hub) :
    hub.rules = start.rules := by
  induction ran with
  | begin => rfl
  | next earlier stepped ih => rw [(stepped_of_step stepped).rules, ih]

/-- How far the life of a hub has come is as it was, up to the signal that no
call is in flight. -/
structure SameLife (hub next : Hub) : Prop where
  closing : next.closing = hub.closing
  closed : next.closed = hub.closed
  drain : next.drain = hub.drain
  teardown : next.teardown = hub.teardown
  waiters : next.waiters = hub.waiters
  clock : next.clock = hub.clock

/-- A call that exits moves no background job. -/
theorem sameLife_exitPlaced (hub : Hub) (id : CallId) (slot : Nat) (outcome : Outcome) :
    SameLife hub (hub.exitPlaced id slot outcome).1 := by
  unfold exitPlaced
  split <;> exact ⟨rfl, rfl, rfl, rfl, rfl, rfl⟩

/-- An effect on the index moves no background job. -/
theorem sameLife_applyEffect (hub : Hub) (slot : Nat) (effect : IndexEffect) :
    SameLife hub (hub.applyEffect slot effect).2.1 := by
  cases effect <;> exact ⟨rfl, rfl, rfl, rfl, rfl, rfl⟩

/-- What two steps leave alone one after the other, they leave alone together. -/
theorem SameLife.trans {first second third : Hub} (one : SameLife first second)
    (other : SameLife second third) : SameLife first third :=
  ⟨other.closing.trans one.closing, other.closed.trans one.closed, other.drain.trans one.drain,
    other.teardown.trans one.teardown, other.waiters.trans one.waiters,
    other.clock.trans one.clock⟩

/-- A call that asks for a channel moves no background job, whatever comes of it. -/
theorem Dispatching.sameLife {hub next : Hub} {id : CallId} {call : Call} {opening : Opening}
    {supply : Option Failure} {effects : List Effect}
    (dispatching : Dispatching hub id call opening supply next effects) : SameLife hub next := by
  cases dispatching <;> exact ⟨rfl, rfl, rfl, rfl, rfl, rfl⟩

/-- What a step about a call leaves alone: everything of the life of the hub but the
signal that no call is in flight any more. -/
structure Carries (hub next : Hub) (action : Action) : Prop where
  about : ∃ id, action.call? = some id
  life : SameLife hub next
  signal : next.drained = true →
    hub.drained = true ∨ next.closing = true ∧ next.inFlight = 0

/-- The end of a call gives the signal only if the hub is closing and this was the last call. -/
theorem signal_endCall {hub : Hub} (drained : hub.endCall.drained = true) :
    hub.drained = true ∨ hub.endCall.closing = true ∧ hub.endCall.inFlight = 0 := by
  simpa [endCall] using drained

/-- An exit gives the signal only if the hub is closing and this was the last call. -/
theorem signal_exitPlaced {hub : Hub} {id : CallId} {slot : Nat} {outcome : Outcome}
    (drained : (hub.exitPlaced id slot outcome).1.drained = true) :
    hub.drained = true ∨ (hub.exitPlaced id slot outcome).1.closing = true ∧
      (hub.exitPlaced id slot outcome).1.inFlight = 0 := by
  unfold exitPlaced at drained ⊢
  split at drained
  · exact signal_endCall drained
  · exact signal_endCall drained

/-- A call that asks for a channel gives the signal only by being refused as the last one of a
closing hub. -/
theorem Dispatching.signal {hub next : Hub} {id : CallId} {call : Call} {opening : Opening}
    {supply : Option Failure} {effects : List Effect}
    (dispatching : Dispatching hub id call opening supply next effects)
    (drained : next.drained = true) :
    hub.drained = true ∨ next.closing = true ∧ next.inFlight = 0 := by
  cases dispatching with
  | unreadable unread => exact signal_endCall drained
  | unsupplied read unbound saturated supplied => exact signal_endCall drained
  | placed read placing => exact Or.inl drained

/-- An effect on the index does not give the signal. -/
theorem drained_applyEffect (hub : Hub) (slot : Nat) (effect : IndexEffect) :
    (hub.applyEffect slot effect).2.1.drained = hub.drained := by
  cases effect <;> rfl

/-- Every step is one of a call, which moves no background job, or one in the background. -/
theorem Stepped.carries_or_background {hub next : Hub} {action : Action} {effects : List Effect}
    (stepped : Stepped hub action next effects) :
    Carries hub next action ∨ Background hub action next effects := by
  have same : SameLife hub hub := ⟨rfl, rfl, rfl, rfl, rfl, rfl⟩
  cases stepped with
  | refused begins fresh closing =>
      refine Or.inl ⟨?_, same, Or.inl⟩
      cases action <;> first | exact ⟨_, rfl⟩ | cases begins
  | waits fresh unclosed many reads =>
      exact Or.inl ⟨⟨_, rfl⟩, ⟨rfl, rfl, rfl, rfl, rfl, rfl⟩, Or.inl⟩
  | begins fresh unclosed starts dispatching =>
      obtain ⟨closing, closed, drain, teardown, waiters, clock⟩ := dispatching.sameLife
      refine Or.inl ⟨?_, ⟨closing, closed, drain, teardown, waiters, clock⟩, dispatching.signal⟩
      cases starts <;> exact ⟨_, rfl⟩
  | peeked live peeking dispatching =>
      exact Or.inl ⟨⟨_, rfl⟩, dispatching.sameLife, dispatching.signal⟩
  | gaveUp live peeking givesUp =>
      refine Or.inl ⟨?_, ⟨rfl, rfl, rfl, rfl, rfl, rfl⟩, signal_endCall⟩
      cases givesUp <;> exact ⟨_, rfl⟩
  | delivered live waiting streams read =>
      exact Or.inl ⟨⟨_, rfl⟩, ⟨rfl, rfl, rfl, rfl, rfl, rfl⟩, Or.inl⟩
  | resumed live paused => exact Or.inl ⟨⟨_, rfl⟩, ⟨rfl, rfl, rfl, rfl, rfl, rfl⟩, Or.inl⟩
  | completed live waiting completes =>
      refine Or.inl ⟨⟨_, completes.about⟩,
        (sameLife_applyEffect ..).trans (sameLife_exitPlaced ..), ?_⟩
      intro drained
      rcases signal_exitPlaced drained with before | now
      · rw [drained_applyEffect] at before
        exact Or.inl before
      · exact Or.inr now
  | left live leaves =>
      exact Or.inl ⟨⟨_, leaves.about⟩, sameLife_exitPlaced .., signal_exitPlaced⟩
  | background background => exact Or.inr background

/-- Only the background moves the life of a hub. -/
theorem Stepped.sameLife_or_background {hub next : Hub} {action : Action} {effects : List Effect}
    (stepped : Stepped hub action next effects) :
    SameLife hub next ∨ Background hub action next effects :=
  stepped.carries_or_background.imp_left Carries.life

end AffinityPool.Hub
