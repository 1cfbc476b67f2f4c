/-
Module: AffinityPool.Proofs.Hub.Index
Purpose: The affinity index of a hub stays consistent with its pool, whatever happens.
Main exports:
  Hub.Indexed, Hub.Indexed.step, Hub.History.indexed, Hub.SoundIndex
-/
import AffinityPool.Hub.Stats
import AffinityPool.Proofs.Affinity.Consistent
import AffinityPool.Proofs.Hub.Frame
import AffinityPool.Proofs.Ledger.Agreement

namespace AffinityPool.Hub

/-! ### The invariant -/

/-- The index is consistent, slots have their positions as numbers, and every
placed call stands on a slot of the pool. -/
structure Indexed (hub : Hub) : Prop where
  consistent : hub.affinity.Consistent
  numbered : hub.pool.Numbered
  placed : ∀ id call slot, hub.call? id = some call → call.phase.slot? = some slot →
    slot < hub.pool.size

/-- The index of a fresh hub is empty, and in order. -/
theorem indexed_fresh (rules : RuleTable) (limits : Limits) : Indexed (fresh rules limits) where
  consistent :=
    { distinct := List.nodup_nil
      alive := by
        intro entry member
        cases member
      pooled := by
        intro entry member
        cases member
      counted := fun slot => rfl }
  numbered := Pool.numbered_empty limits
  placed := by
    intro id call slot live
    cases live

namespace Indexed

variable {hub next : Hub}

/-! ### Calls come and go -/

/-- Writing a call that stands on a slot of the pool. -/
private theorem placed_put (indexed : Indexed hub) {id : CallId} {call : Call}
    (calls : next.calls = Ledger.put hub.calls id call) (size : hub.pool.size ≤ next.pool.size)
    (inside : ∀ slot, call.phase.slot? = some slot → slot < next.pool.size) :
    ∀ other known slot, next.call? other = some known → known.phase.slot? = some slot →
      slot < next.pool.size := by
  intro other known slot live stands
  rw [call?_eq, calls, Ledger.get?_put] at live
  split at live
  · cases live
    exact inside slot stands
  · exact Nat.lt_of_lt_of_le (indexed.placed other known slot live stands) size

/-- Forgetting a call. -/
private theorem placed_drop (indexed : Indexed hub) {id : CallId}
    (calls : next.calls = Ledger.drop hub.calls id) (size : hub.pool.size ≤ next.pool.size) :
    ∀ other known slot, next.call? other = some known → known.phase.slot? = some slot →
      slot < next.pool.size := by
  intro other known slot live stands
  rw [call?_eq, calls, Ledger.get?_drop] at live
  split at live
  · cases live
  · exact Nat.lt_of_lt_of_le (indexed.placed other known slot live stands) size

/-- A call waits on a slot of the pool. -/
theorem waiting_lt (indexed : Indexed hub) {id : CallId} {call : Call} {slot : Nat}
    {opening : Opening} {firstKey : Option String} (live : hub.call? id = some call)
    (waiting : call.phase = .waiting slot opening firstKey) : slot < hub.pool.size := by
  apply indexed.placed id call slot live
  rw [waiting]
  rfl

/-- Rewriting a call that stays on its slot. -/
theorem rewrite (indexed : Indexed hub) {id : CallId} {call changed : Call}
    (live : hub.call? id = some call) (same : changed.phase.slot? = call.phase.slot?) :
    Indexed (hub.setCall id changed) where
  consistent := indexed.consistent
  numbered := indexed.numbered
  placed := by
    apply indexed.placed_put (calls_setCall ..) (Nat.le_refl _)
    intro slot stands
    rw [same] at stands
    exact indexed.placed id call slot live stands

/-- A call that is admitted leaves the index in order. -/
theorem enter (indexed : Indexed hub) (id : CallId) {call : Call}
    (peeking : call.phase = .peeking) : Indexed (hub.withAdmitted id call) where
  consistent := indexed.consistent
  numbered := indexed.numbered
  placed := by
    apply indexed.placed_put (calls_withAdmitted ..) (Nat.le_refl _)
    intro slot stands
    rw [peeking] at stands
    cases stands

/-- A call that exits without a channel leaves the index in order. -/
theorem forget (indexed : Indexed hub) (id : CallId) : Indexed (hub.dropCall id).endCall where
  consistent := indexed.consistent
  numbered := indexed.numbered
  placed := indexed.placed_drop rfl (Nat.le_refl _)

/-- A call that exits from its channel leaves the index in order. -/
theorem exit (indexed : Indexed hub) (id : CallId) (slot : Nat) (outcome : Outcome) :
    Indexed (hub.exitPlaced id slot outcome).1 where
  consistent := by
    rw [affinity, entries_exitPlaced]
    exact indexed.consistent.of_slots (Nat.le_of_eq (size_exitPlaced hub id slot outcome).symm)
      (boundKeys_exitPlaced hub id slot outcome)
  numbered := numbered_exitPlaced indexed.numbered id slot outcome
  placed := indexed.placed_drop (calls_exitPlaced ..)
    (Nat.le_of_eq (size_exitPlaced hub id slot outcome).symm)

/-! ### Calls are placed -/

/-- The channel of a bound key is in the pool. -/
theorem lookup_lt (indexed : Indexed hub) {key : String} {slot : Nat}
    (found : hub.affinity.lookup key = some slot) : slot < hub.pool.size := by
  obtain ⟨entry, entryFound, rfl⟩ := Option.map_eq_some_iff.mp found
  exact indexed.consistent.pooled entry (Affinity.mem_of_found entryFound)

/-- A call is placed on a slot of the pool it leaves, and slots keep their keys
and numbers. -/
theorem placing (indexed : Indexed hub) {key : Option String} {supply : Option Failure}
    {slot : Nat} {pool : Pool} {creation : List Effect}
    (placing : Placing hub key supply slot pool creation) :
    slot < pool.size ∧ hub.pool.size ≤ pool.size ∧ pool.Numbered ∧
      ∀ other, (pool.slotAt other).boundKeys = (hub.pool.slotAt other).boundKeys := by
  cases placing with
  | bound keyed found =>
      have inside := indexed.lookup_lt found
      exact ⟨by simpa using inside, by simp, indexed.numbered.acquireAt _, by simp⟩
  | reused unbound reusable =>
      have inside := Pool.reusable?_lt reusable
      exact ⟨by simpa using inside, by simp, indexed.numbered.acquireAt _, by simp⟩
  | made unbound saturated supplied =>
      exact ⟨by simp, by simp, indexed.numbered.grow.acquireAt _, by simp⟩

/-- A call that asks for a channel leaves the index in order. -/
theorem dispatching (indexed : Indexed hub) {id : CallId} {call : Call} {opening : Opening}
    {supply : Option Failure} {effects : List Effect}
    (dispatching : Dispatching hub id call opening supply next effects) : Indexed next := by
  cases dispatching with
  | unreadable unread => exact indexed.forget id
  | unsupplied read unbound saturated supplied => exact indexed.forget id
  | @placed key notes slot pool creation read placing =>
      obtain ⟨inside, more, numbered, boundKeys⟩ := indexed.placing placing
      refine ⟨indexed.consistent.of_slots more boundKeys, numbered, ?_⟩
      apply indexed.placed_put rfl more
      intro position stands
      cases stands
      exact inside

/-! ### Effects on the index -/

/-- An index that is consistent and leaves channels as loaded as they were is in order. -/
theorem withAffinity (indexed : Indexed hub) {state : Affinity} (consistent : state.Consistent)
    (same : Affinity.SameLoad hub.affinity.slots state.slots) :
    Indexed (hub.withAffinity state) := by
  have size : (hub.withAffinity state).pool.size = hub.pool.size := same.length
  refine ⟨consistent, ?_, ?_⟩
  · intro slot pooled
    rw [size] at pooled
    exact (same.number slot).trans (indexed.numbered slot pooled)
  · intro id call slot live stands
    rw [size]
    exact indexed.placed id call slot live stands

/-- The effect of a call on a slot of the pool keeps the index consistent. -/
theorem applyEffect (indexed : Indexed hub) {slot : Nat} (inside : slot < hub.pool.size)
    (effect : IndexEffect) : Indexed (hub.applyEffect slot effect).2.1 := by
  cases effect with
  | nothing => exact indexed
  | bind key =>
      exact indexed.withAffinity (indexed.consistent.bind key inside)
        (hub.affinity.sameLoad_bind key slot)
  | unbind key =>
      exact indexed.withAffinity (indexed.consistent.unbind key).2
        (hub.affinity.sameLoad_unbind key)

/-! ### Steps and runs -/

/-- One step keeps the index consistent. -/
theorem step (indexed : Indexed hub) {action : Action} {effects : List Effect}
    (stepped : Stepped hub action next effects) : Indexed next := by
  cases stepped with
  | refused begins fresh closing => exact indexed
  | waits fresh unclosed many reads => exact indexed.enter _ rfl
  | begins fresh unclosed starts dispatching =>
      exact (indexed.enter _ starts.peeking).dispatching dispatching
  | peeked live peeking dispatching => exact indexed.dispatching dispatching
  | gaveUp live peeking givesUp => exact indexed.forget _
  | delivered live waiting streams read =>
      apply indexed.rewrite live
      rw [waiting]
      rfl
  | resumed live paused =>
      apply indexed.rewrite live
      rw [paused]
      rfl
  | completed live waiting completes =>
      have inside := indexed.waiting_lt live waiting
      exact (indexed.applyEffect inside _).exit _ _ _
  | left live leaves => exact indexed.exit _ _ _
  | background background =>
      obtain ⟨-, pool, entries, -, calls⟩ := background.sameCalls
      refine ⟨?_, ?_, ?_⟩
      · rw [affinity, pool, entries]
        exact indexed.consistent
      · rw [pool]
        exact indexed.numbered
      · intro id call slot live
        rw [call?, calls] at live
        rw [pool]
        exact indexed.placed id call slot live

end Indexed

/-- The index is consistent after every run. -/
theorem History.indexed {rules : RuleTable} {limits : Limits} {past : List Moment} {hub : Hub}
    (ran : History (fresh rules limits) past hub) : Indexed hub := by
  induction ran with
  | begin => exact indexed_fresh rules limits
  | next earlier stepped ih => exact ih.step (stepped_of_step stepped)

/-! ### What callers can rely on -/

/-- The entries of the index, the counters of the channels and the stats all
tell the same story. -/
structure SoundIndex (hub : Hub) : Prop where
  alive : ∀ entry ∈ hub.entries, 1 ≤ entry.refcount
  pooled : ∀ entry ∈ hub.entries, entry.slot < hub.pool.size
  counted : ∀ slot < hub.pool.size,
    (hub.pool.slotAt slot).boundKeys = hub.entries.countP fun entry => entry.slot = slot
  listed : ∀ slot < hub.pool.size,
    (hub.pool.slotAt slot).boundKeys = (hub.affinity.keysFor slot).length
  /-- No key has two entries. -/
  distinct : (hub.entries.map (·.key)).Nodup
  /-- Every bound key is listed for one channel, once. -/
  partitioned : ((List.range hub.pool.size).flatMap hub.affinity.keysFor).Perm
    (hub.entries.map (·.key))
  total : Slots.total (·.boundKeys) hub.stats.channels = hub.stats.boundKeys
  /-- The channel of an entry has a key to lose. -/
  losable : ∀ entry ∈ hub.entries, ∃ slot, (hub.pool.slotAt entry.slot).loseKey = .ok slot
  /-- No key can be released more often than it was bound. -/
  releasable : ∀ key, ∃ remaining, (hub.affinity.unbind key).result = .ok remaining

theorem soundIndex_of_reachable {hub : Hub} (reachable : hub.Reachable) : hub.SoundIndex := by
  obtain ⟨rules, limits, past, ran⟩ := reachable_iff_exists_history.mp reachable
  have consistent := ran.indexed.consistent
  exact
    { alive := consistent.alive
      pooled := consistent.pooled
      counted := fun slot inside => consistent.counted slot
      listed := fun slot inside =>
        (consistent.counted slot).trans (hub.affinity.length_keysFor slot).symm
      distinct := consistent.distinct
      partitioned := consistent.keysFor_partition
      total := consistent.total_boundKeys
      losable := fun entry member =>
        ⟨_, if_neg (Nat.ne_of_gt (consistent.boundKeys_pos member))⟩
      releasable := fun key => (consistent.unbind key).1 }

/-- A call whose response binds a key leaves a sound index with that key. -/
theorem soundIndex_after_bind :
    ∃ hub effects,
      (fresh ⟨[⟨"open", .bind, "id"⟩]⟩ ⟨1, 1, by decide, by decide⟩).run
          [.begin "a" .unaryUnary "open" .null none,
            .respond "a" (.dict [("id", .text "k")])] = some (hub, effects) ∧
        hub.entries = [⟨"k", 0, 1⟩] ∧ hub.SoundIndex := by
  refine ⟨_, _, rfl, rfl, ?_⟩
  apply soundIndex_of_reachable
  exact ⟨⟨[⟨"open", .bind, "id"⟩]⟩, ⟨1, 1, by decide, by decide⟩,
    [.begin "a" .unaryUnary "open" .null none, .respond "a" (.dict [("id", .text "k")])], _, rfl⟩

end AffinityPool.Hub
