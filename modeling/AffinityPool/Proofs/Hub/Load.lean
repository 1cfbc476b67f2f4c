/-
Module: AffinityPool.Proofs.Hub.Load
Purpose: The load counters of a hub are balanced: every call is counted once while it is live and
  not at all after it has exited.
Main exports:
  servedBy, Hub.Balanced, Hub.Balanced.step, Hub.History.balanced, Hub.BalancedLoad
-/
import AffinityPool.Proofs.Hub.Index
import AffinityPool.Proofs.Hub.Register

namespace AffinityPool

/-- Whether a call is in service on a slot. -/
def servedBy (slot : Nat) : Option Service → Bool
  | some service => service.slot = slot
  | none => false

@[simp] theorem servedBy_none (slot : Nat) : servedBy slot none = false := rfl

@[simp] theorem servedBy_some (slot : Nat) (service : Service) :
    servedBy slot (some service) = decide (service.slot = slot) := rfl

namespace Hub

/-! ### The invariant -/

/-- The counters of a hub are the counts of the register: each admitted call
counts once for the hub, and each call in service once for its slot. -/
structure Balanced (hub : Hub) (register : Register) : Prop where
  inFlight : hub.inFlight = register.count fun _ => true
  active : ∀ slot, (hub.pool.slotAt slot).activeCalls = register.count (servedBy slot)

theorem balanced_fresh (rules : RuleTable) (limits : Limits) :
    Balanced (fresh rules limits) [] where
  inFlight := rfl
  active := fun _ => rfl

@[simp] theorem activeCalls_applyEffect (hub : Hub) (position : Nat) (effect : IndexEffect)
    (slot : Nat) :
    ((hub.applyEffect position effect).2.1.pool.slotAt slot).activeCalls =
      (hub.pool.slotAt slot).activeCalls := by
  cases effect with
  | nothing => rfl
  | bind key => exact (hub.affinity.sameLoad_bind key position).activeCalls slot
  | unbind key => exact (hub.affinity.sameLoad_unbind key).activeCalls slot

namespace Balanced

variable {hub next : Hub} {register : Register}

/-- The slot of a call in service counts at least that call. -/
theorem active_pos (balanced : Balanced hub register) (distinct : register.Distinct)
    {id : CallId} {service : Service} (known : register.get? id = some (some service)) :
    0 < (hub.pool.slotAt service.slot).activeCalls := by
  rw [balanced.active]
  exact Ledger.count_pos_of_get? known distinct (by simp)

/-! ### What one operation preserves -/

theorem enter (balanced : Balanced hub register) {id : CallId} (call : Call)
    (unknown : register.get? id = none) :
    Balanced (hub.withAdmitted id call) (register.put id none) where
  inFlight := by
    rw [Ledger.count_put_unknown _ _ unknown, inFlight_withAdmitted, balanced.inFlight]
    rfl
  active := fun slot => by
    rw [Ledger.count_put_unknown _ _ unknown, pool_withAdmitted, balanced.active]
    rfl

/-- A call is forgotten together with what it counted for. -/
private theorem drop (balanced : Balanced hub register) (distinct : register.Distinct)
    {id : CallId} {standing : Option Service} (known : register.get? id = some standing)
    (inFlight : next.inFlight = hub.inFlight - 1)
    (active : ∀ slot, (next.pool.slotAt slot).activeCalls +
      (if servedBy slot standing then 1 else 0) = (hub.pool.slotAt slot).activeCalls) :
    Balanced next (register.drop id) := by
  constructor
  · have dropped := Ledger.count_drop_known (fun _ => true) known distinct
    simp only [if_true] at dropped
    rw [inFlight, balanced.inFlight]
    omega
  · intro slot
    have dropped := Ledger.count_drop_known (servedBy slot) known distinct
    have counted := active slot
    rw [balanced.active] at counted
    omega

/-- A call that occupies no slot exits. -/
theorem forget (balanced : Balanced hub register) (distinct : register.Distinct) {id : CallId}
    (known : register.get? id = some none) :
    Balanced (hub.dropCall id).endCall (register.drop id) := by
  apply balanced.drop distinct known rfl
  intro slot
  rfl

/-- A call exits from its slot.  The slot counts the call, so releasing it goes
well and the call exits with its outcome. -/
theorem exit (balanced : Balanced hub register) (distinct : register.Distinct) {id : CallId}
    {service : Service} (known : register.get? id = some (some service)) (outcome : Outcome) :
    (hub.exitPlaced id service.slot outcome).2 = [.exited id outcome] ∧
      Balanced (hub.exitPlaced id service.slot outcome).1 (register.drop id) := by
  have busy := balanced.active_pos distinct known
  obtain ⟨pool, released, exits⟩ := exitPlaced_of_active busy id outcome
  rw [exits]
  refine ⟨rfl, balanced.drop distinct known rfl ?_⟩
  intro slot
  rw [pool_endCall, pool_dropCall, Pool.slotAt_release released]
  by_cases here : service.slot = slot
  · subst here
    simp only [servedBy_some, decide_true, if_true]
    omega
  · simp [here]

/-- A placed call is counted on its slot and nowhere else. -/
theorem placing (balanced : Balanced hub register) (indexed : Indexed hub) {key : Option String}
    {supply : Option Failure} {slot : Nat} {pool : Pool} {creation : List Effect}
    (placing : Placing hub key supply slot pool creation) (other : Nat) :
    (pool.slotAt other).activeCalls =
      register.count (servedBy other) + if slot = other then 1 else 0 := by
  cases placing with
  | bound keyed found =>
      rw [Pool.activeCalls_acquireAt _ (indexed.lookup_lt found), balanced.active]
  | reused unbound reusable =>
      rw [Pool.activeCalls_acquireAt _ (Pool.reusable?_lt reusable), balanced.active]
  | made unbound saturated supplied =>
      rw [Pool.activeCalls_acquireAt _ (by simp), Pool.activeCalls_grow, balanced.active]

theorem dispatching (balanced : Balanced hub register) (distinct : register.Distinct)
    (indexed : Indexed hub) {id : CallId} {call : Call} {opening : Opening}
    {supply : Option Failure} {effects : List Effect} (known : register.get? id = some none)
    (dispatching : Dispatching hub id call opening supply next effects) :
    Balanced next (effects.foldl Effect.register register) := by
  cases dispatching with
  | unreadable unread => exact balanced.forget distinct known
  | unsupplied read unbound saturated supplied => exact balanced.forget distinct known
  | @placed key notes slot pool creation read placing =>
      rw [List.foldl_append, placing.foldl_register]
      constructor
      · have written := Ledger.count_put_known (fun _ => true)
          (some ⟨slot, call.shape, call.method, opening, []⟩) known distinct
        simp only [if_true] at written
        have counted := balanced.inFlight
        simp only [inFlight_setCall, List.foldl_cons, List.foldl_nil, Effect.register]
        omega
      · intro other
        have written := Ledger.count_put_known (servedBy other)
          (some ⟨slot, call.shape, call.method, opening, []⟩) known distinct
        simp only [servedBy_none, servedBy_some, decide_eq_true_eq, Bool.false_eq_true,
          if_false, Nat.add_zero] at written
        simp only [pool_setCall, List.foldl_cons, List.foldl_nil, Effect.register]
        rw [written]
        exact balanced.placing indexed placing other

/-- Rewriting a call in service on its own slot changes no count. -/
theorem rewrite (balanced : Balanced hub register) (distinct : register.Distinct) {id : CallId}
    {service : Service} (known : register.get? id = some (some service)) (changed : Service)
    (same : changed.slot = service.slot) (call : Call) :
    Balanced (hub.setCall id call) (register.put id (some changed)) where
  inFlight := by
    have written := Ledger.count_put_known (fun _ => true) (some changed) known distinct
    simp only [if_true] at written
    have counted := balanced.inFlight
    rw [inFlight_setCall]
    omega
  active := fun slot => by
    have written := Ledger.count_put_known (servedBy slot) (some changed) known distinct
    rw [servedBy_some, servedBy_some, same] at written
    rw [pool_setCall, balanced.active]
    omega

/-- The effect of a call on the index touches no load counter. -/
theorem applyEffect (balanced : Balanced hub register) (slot : Nat) (effect : IndexEffect) :
    Balanced (hub.applyEffect slot effect).2.1 register where
  inFlight := by rw [inFlight_applyEffect, balanced.inFlight]
  active := fun other => by rw [activeCalls_applyEffect, balanced.active]

/-- A call exits from its slot with its outcome, whatever its effect on the index. -/
theorem exit_after_effect (balanced : Balanced hub register) (known : Registered hub register)
    {id : CallId} {call : Call} {slot : Nat} (live : hub.call? id = some call)
    (occupies : call.phase.slot? = some slot) (effect : IndexEffect) (outcome : Outcome) :
    ((hub.applyEffect slot effect).2.1.exitPlaced id slot outcome).2 =
      [.exited id outcome] := by
  obtain ⟨service, found, rfl⟩ := known.occupied live occupies
  exact ((balanced.applyEffect service.slot effect).exit known.distinct found outcome).1

/-! ### Steps -/

/-- One step keeps the counters balanced. -/
theorem step (balanced : Balanced hub register) (known : Registered hub register)
    (indexed : Indexed hub) {action : Action} {effects : List Effect}
    (stepped : Stepped hub action next effects) :
    Balanced next (effects.foldl Effect.register register) := by
  cases stepped with
  | @refused _ id begins fresh closing =>
      have absent := known.agree.get?_none fresh
      rw [List.foldl_cons, List.foldl_nil, Effect.register, Ledger.drop_of_unknown absent]
      exact balanced
  | waits fresh unclosed many reads => exact balanced.enter _ (known.agree.get?_none fresh)
  | @begins _ id call opening supply _ effects fresh unclosed starts dispatching =>
      have entered := balanced.enter call (known.agree.get?_none fresh)
      have distinct := Ledger.distinct_put known.distinct id none
      have waiting := Ledger.get?_put_self register id none
      exact entered.dispatching distinct (indexed.enter id starts.peeking) waiting dispatching
  | peeked live peeking dispatching =>
      exact balanced.dispatching known.distinct indexed (known.unplaced live peeking) dispatching
  | gaveUp live peeking givesUp =>
      exact balanced.forget known.distinct (known.unplaced live peeking)
  | @delivered id call slot opening firstKey key response live waiting streams read =>
      obtain ⟨service, found, rfl, -⟩ := known.placed live (Or.inl waiting)
      simp only [List.foldl_cons, List.foldl_nil, Effect.register, found]
      apply balanced.rewrite known.distinct found
      rfl
  | resumed live paused => exact ⟨balanced.inFlight, balanced.active⟩
  | @completed _ id call slot opening firstKey effect notes success live waiting completes =>
      obtain ⟨service, found, rfl, -⟩ := known.placed live (Or.inl waiting)
      obtain ⟨told, exited⟩ :=
        (balanced.applyEffect service.slot effect).exit known.distinct found
          (success.afterEffect (hub.applyEffect service.slot effect).1)
      rw [told]
      exact exited
  | @left _ id call slot outcome live leaves =>
      obtain ⟨service, found, rfl⟩ := known.occupied live leaves.occupies
      obtain ⟨told, exited⟩ := balanced.exit known.distinct found outcome
      rw [told]
      exact exited
  | background background =>
      obtain ⟨-, pool, -, inFlight, -⟩ := background.sameCalls
      rw [foldl_register_background register background.effects]
      constructor
      · rw [inFlight, balanced.inFlight]
      · intro slot
        rw [pool, balanced.active]

end Balanced

/-- The counters are balanced after every run. -/
theorem History.balanced {rules : RuleTable} {limits : Limits} {past : List Moment} {hub : Hub}
    (ran : History (fresh rules limits) past hub) :
    Balanced hub (registerOf (effectsOf past)) := by
  induction ran with
  | begin => exact balanced_fresh rules limits
  | next earlier stepped ih =>
      have onward := ih.step earlier.registered earlier.indexed (stepped_of_step stepped)
      rw [foldl_register_withoutNotes] at onward
      simpa [registerOf_append] using onward

/-! ### What callers can rely on -/

/-- The counters of a hub, against the calls that what was made known shows to
have been admitted and not to have exited. -/
structure BalancedLoad (hub : Hub) (effects : List Effect) : Prop where
  inFlight : hub.inFlight = (registerOf effects).length
  active : ∀ slot < hub.pool.size,
    (hub.pool.slotAt slot).activeCalls = (registerOf effects).count (servedBy slot)
  /-- A call that exits finds itself counted, whatever its effect on the index. -/
  releasable : ∀ id call slot, hub.call? id = some call → call.phase.slot? = some slot →
    ∀ effect, ∃ pool, (hub.applyEffect slot effect).2.1.pool.release slot = .ok pool
  idle : registerOf effects = [] →
    hub.inFlight = 0 ∧ ∀ slot < hub.pool.size, (hub.pool.slotAt slot).activeCalls = 0

/-- The load counters are balanced after every run. -/
theorem balancedLoad_of_run {rules : RuleTable} {limits : Limits} {actions : List Action}
    {hub : Hub} {effects : List Effect}
    (ran : (fresh rules limits).run actions = some (hub, effects)) :
    hub.BalancedLoad effects := by
  obtain ⟨past, history, -, rfl⟩ := exists_history_of_run ran
  have known := history.registered
  have balanced := history.balanced
  refine ⟨?_, fun slot _ => balanced.active slot, ?_, ?_⟩
  · rw [balanced.inFlight, Ledger.count_true]
  · intro id call slot live occupies effect
    obtain ⟨service, found, rfl⟩ := known.occupied live occupies
    have active := (balanced.applyEffect service.slot effect).active_pos known.distinct found
    exact ⟨_, Pool.release_of_active active⟩
  · intro none
    have inFlight := balanced.inFlight
    have active := balanced.active
    rw [none] at inFlight active
    exact ⟨inFlight, fun slot _ => active slot⟩

/-- A call that was dispatched and has not been answered is counted once. -/
theorem balancedLoad_while_waiting :
    ∃ hub effects,
      (fresh .empty ⟨1, 1, by decide, by decide⟩).run
          [.begin "a" .unaryUnary "get" .null none] = some (hub, effects) ∧
        hub.inFlight = 1 ∧ (hub.pool.slotAt 0).activeCalls = 1 ∧ hub.BalancedLoad effects := by
  refine ⟨_, _, rfl, rfl, rfl, ?_⟩
  apply balancedLoad_of_run
  exact (rfl : (fresh .empty ⟨1, 1, by decide, by decide⟩).run
    [.begin "a" .unaryUnary "get" .null none] = some (_, _))

end Hub

end AffinityPool
