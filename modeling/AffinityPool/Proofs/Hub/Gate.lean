/-
Module: AffinityPool.Proofs.Hub.Gate
Purpose: The life of a hub goes one way, and a call that comes too late leaves no trace.
Main exports:
  Lifecycle.rank, Action.Opens, Hub.Gated, Hub.History.gated
-/
import AffinityPool.Proofs.Hub.Closing
import AffinityPool.Proofs.Hub.Separation

namespace AffinityPool

/-- The order in which a hub goes through its life. -/
def Lifecycle.rank : Lifecycle → Nat
  | .idle => 0
  | .active => 1
  | .shuttingDown => 2
  | .closed => 3

/-- A call of some kind starts, with one request or with a sequence of them. -/
inductive Action.Opens (id : CallId) : Action → Prop where
  | one {shape : Shape} {method : String} {request : Message} {supply : Option Failure}
      (single : shape.streamsRequests = false) : Opens id (.begin id shape method request supply)
  | many {shape : Shape} {method : String} {supply : Option Failure}
      (several : shape.streamsRequests = true) : Opens id (.beginMany id shape method supply)

/-- A moment in which a call is refused, and in which nothing else is made known. -/
structure Moment.Refuses (moment : Moment) (id : CallId) : Prop where
  opens : moment.action.Opens id
  told : moment.effects = [.exited id (.failed .poolClosed)]

namespace Hub

variable {hub next : Hub} {action : Action} {effects : List Effect} {id : CallId}

/-! ### The order of life -/

theorem lifecycle_of_closed (closed : hub.closed = true) : hub.lifecycle = .closed :=
  lifecycle_eq_closed_iff.mpr closed

theorem lifecycle_of_open (unclosed : hub.closed = false) (accepting : hub.closing = false) :
    hub.lifecycle = if hub.pool.size = 0 then .idle else .active := by
  simp [lifecycle, unclosed, accepting]

/-- Once a hub is closed it stays so. -/
theorem Stepped.closed (stepped : Stepped hub action next effects) (closed : hub.closed = true) :
    next.closed = true := by
  have goesOn : ∀ later, (hub.closeNext later).1.closed = true := by
    intro later
    cases later with
    | nil => rfl
    | cons slot later => exact closed
  rcases stepped.sameLife_or_background with same | background
  · rw [same.closed, closed]
  · cases background with
    | shutdownNow fresh => rw [closed_requestTeardown, closed]
    | drainWentOn => rw [closed_requestTeardown, closed]
    | teardownStarted scheduled => exact goesOn _
    | closeReturned closing => exact goesOn _
    | _ => exact closed

/-- No channel ever leaves the pool. -/
theorem Stepped.size_le (stepped : Stepped hub action next effects) :
    hub.pool.size ≤ next.pool.size := by
  have counted := congrArg List.length stepped.creations
  rw [List.length_append, List.length_range, List.length_range] at counted
  omega

/-- One step does not take a hub back. -/
theorem Stepped.rank_le (stepped : Stepped hub action next effects) :
    hub.lifecycle.rank ≤ next.lifecycle.rank := by
  cases closed : hub.closed with
  | true =>
      have after := lifecycle_of_closed (stepped.closed closed)
      exact Nat.le_of_eq (by rw [lifecycle_of_closed closed, after])
  | false =>
      cases onward : next.closed with
      | true =>
          rw [lifecycle_of_closed onward]
          cases hub.lifecycle <;> decide
      | false =>
          cases closing : hub.closing with
          | true =>
              have after := lifecycle_of_closing onward (stepped.closing closing)
              exact Nat.le_of_eq (by rw [lifecycle_of_closing closed closing, after])
          | false =>
              rw [lifecycle_of_open closed closing]
              cases shut : next.closing with
              | true =>
                  rw [lifecycle_of_closing onward shut]
                  split <;> decide
              | false =>
                  -- Both accept calls, and the pool has not shrunk.
                  have grown := stepped.size_le
                  rw [lifecycle_of_open onward shut]
                  split
                  · exact Nat.zero_le _
                  · exact Nat.le_of_eq (by rw [if_neg (by omega)])

theorem History.rank_le {start : Hub} {past : List Moment} (ran : History start past hub) :
    start.lifecycle.rank ≤ hub.lifecycle.rank := by
  induction ran with
  | begin => exact Nat.le_refl _
  | next earlier stepped ih => exact Nat.le_trans ih (stepped_of_step stepped).rank_le

/-! ### The gate -/

/-- A call is refused by a hub that is closing, and nothing else happens. -/
theorem refused_of_opens (closing : hub.closing = true) (opens : action.Opens id)
    (fresh : hub.call? id = none) :
    hub.step action = some (hub, [.exited id (.failed .poolClosed)]) := by
  cases opens with
  | one single => simp [step, fresh, single, begin, closing, refuse]
  | many several => simp [step, fresh, several, beginMany, closing, refuse]

/-- Only a call of some kind starts anything. -/
theorem opens_of_step (stepped : hub.step action = some (next, effects))
    (begins : action.begins? = some id) : action.Opens id := by
  cases action with
  | begin asking shape method request supply =>
      cases begins
      simp only [step, Option.ite_none_right_eq_some] at stepped
      exact .one (by simpa using stepped.1.2)
  | beginMany asking shape method supply =>
      cases begins
      simp only [step, Option.ite_none_right_eq_some] at stepped
      exact .many stepped.1.2
  | _ => cases begins

/-- What a hub that is closing makes of a call that is not live: nothing but to
refuse it. -/
theorem refuses_of_step (stepped : hub.step action = some (next, effects))
    (closing : hub.closing = true) (fresh : hub.call? id = none)
    (about : action.call? = some id) :
    next = hub ∧ Moment.Refuses ⟨action, effects⟩ id := by
  have begins := (stepped_of_step stepped).begins_of_fresh fresh about
  have opens := opens_of_step stepped begins
  have refused := refused_of_opens closing opens fresh
  rw [stepped] at refused
  cases refused
  exact ⟨rfl, opens, rfl⟩

/-- A call that is not live when a hub is closing never comes to life. -/
theorem History.traceless {start : Hub} {past : List Moment} (ran : History start past hub)
    (closing : start.closing = true) (fresh : start.call? id = none) :
    hub.call? id = none ∧
      ∀ moment ∈ past, moment.action.call? = some id → moment.Refuses id := by
  induction ran with
  | begin =>
      refine ⟨fresh, ?_⟩
      intro moment member
      cases member
  | @next past hub after action effects earlier stepped ih =>
      obtain ⟨still, before⟩ := ih
      have shut := earlier.closing closing
      by_cases about : action.call? = some id
      · obtain ⟨rfl, refuses⟩ := refuses_of_step stepped shut still about
        refine ⟨still, List.forall_mem_append.mpr ⟨before, ?_⟩⟩
        exact List.forall_mem_singleton.mpr fun _ => refuses
      · have other := (stepped_of_step stepped).call?_of_other about
        refine ⟨other.trans still, List.forall_mem_append.mpr ⟨before, ?_⟩⟩
        exact List.forall_mem_singleton.mpr fun same => absurd same about

/-! ### What callers can rely on -/

/-- A hub whose shutdown has begun, or is complete. -/
def IsShut (hub : Hub) : Prop := hub.lifecycle = .shuttingDown ∨ hub.lifecycle = .closed

theorem Orderly.closing_of_isShut (orderly : Orderly hub) (shut : hub.IsShut) :
    hub.closing = true := by
  rcases shut with shuttingDown | closed
  · by_contra accepting
    unfold lifecycle at shuttingDown
    rw [if_neg accepting] at shuttingDown
    split at shuttingDown
    · cases shuttingDown
    · split at shuttingDown <;> cases shuttingDown
  · apply orderly.tearing
    rw [orderly.closed.mp (lifecycle_eq_closed_iff.mp closed)]
    simp

/-- The life of a hub goes one way, and calls that come too late leave no trace. -/
structure Gated (hub : Hub) : Prop where
  /-- No run takes the hub back. -/
  forward : ∀ later last, History hub later last → hub.lifecycle.rank ≤ last.lifecycle.rank
  /-- A call of any kind is refused when a shutdown has begun, whatever calls and
  closes are outstanding, and the hub is as before. -/
  refused : hub.IsShut → ∀ action id, action.Opens id → hub.call? id = none →
    hub.step action = some (hub, [.exited id (.failed .poolClosed)])
  /-- From then on nothing happens to such a call, and nothing is made known of it, but
  that it is refused: it gets no channel, and none of its requests is asked for. -/
  traceless : hub.IsShut → ∀ later last id, hub.call? id = none → History hub later last →
    (∀ moment ∈ later, moment.action.call? = some id → moment.Refuses id) ∧
      ∀ effect ∈ effectsOf later, effect.call? = some id →
        effect = .exited id (.failed .poolClosed)

/-- Every hub is gated. -/
theorem History.gated {rules : RuleTable} {limits : Limits} {past : List Moment}
    (ran : History (fresh rules limits) past hub) : Gated hub := by
  refine ⟨?_, ?_, ?_⟩
  · intro later last onward
    exact onward.rank_le
  · intro shut action id opens fresh
    exact refused_of_opens (ran.orderly.closing_of_isShut shut) opens fresh
  · intro shut later last id fresh onward
    have closing := ran.orderly.closing_of_isShut shut
    have refuses := (onward.traceless closing fresh).2
    refine ⟨refuses, ?_⟩
    intro effect told about
    obtain ⟨moment, member, concerns, here⟩ := onward.about_of_effect told about
    rw [(refuses moment member concerns).2] at here
    exact List.mem_singleton.mp here

/-- A hub that shuts down refuses a call while an earlier one is in flight. -/
theorem gated_while_shuttingDown :
    ∃ rules limits past hub,
      History (fresh rules limits) past hub ∧ hub.lifecycle = .shuttingDown ∧
        hub.inFlight = 1 ∧ hub.call? "c" = none ∧ Gated hub := by
  have ran : History (fresh .empty ⟨1, 1, by decide, by decide⟩)
      ([] ++ [⟨.begin "a" .unaryUnary "get" .null none, _⟩] ++ [⟨.shutdown "b" none, _⟩]) _ :=
    .next (.next .begin rfl) rfl
  exact ⟨_, _, _, _, ran, rfl, rfl, rfl, ran.gated⟩

end Hub

end AffinityPool
