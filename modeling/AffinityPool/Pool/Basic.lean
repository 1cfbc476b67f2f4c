/-
Module: AffinityPool.Pool.Basic
Purpose: The pool of channels: growth, selection and load.
Main exports:
  Limits, Limits.make, Pool, Pool.leastLoaded?, Pool.reusable?, Pool.acquire, Pool.acquireAt,
  Pool.release
-/
import AffinityPool.Note
import AffinityPool.Pool.Slot

namespace AffinityPool

/-!
Channels are made one by one, when a call arrives and every channel there is
carries as many calls as the ceiling says.  Calls are packed: the least loaded
channel is used as long as it is below the ceiling, and once the pool is full
it is used regardless.  No call is ever refused for load.
-/

/-- The limits of a pool: how many channels it may have, and how many calls a
channel carries before the pool prefers to grow. -/
structure Limits where
  maxSize : Nat
  ceiling : Nat
  maxSize_pos : 0 < maxSize
  ceiling_pos : 0 < ceiling
deriving Repr, DecidableEq

/-- Limits from numbers.  The size is checked first. -/
def Limits.make (maxSize ceiling : Int) : Except Failure Limits :=
  if hs : maxSize < 1 then .error (.badLimit .maxSize maxSize)
  else if hc : ceiling < 1 then .error (.badLimit .ceiling ceiling)
  else .ok
    { maxSize := maxSize.toNat
      ceiling := ceiling.toNat
      maxSize_pos := by omega
      ceiling_pos := by omega }

/-- A pool of channels in the order of their creation. -/
structure Pool where
  limits : Limits
  slots : List Slot
deriving Repr, DecidableEq

namespace Pool

/-- A pool without channels. -/
def empty (limits : Limits) : Pool := ⟨limits, []⟩

/-- The number of channels. -/
def size (pool : Pool) : Nat := pool.slots.length

/-- Whether the pool may not grow any more. -/
def isFull (pool : Pool) : Bool := pool.limits.maxSize ≤ pool.size

/-- Whether the first slot is to be used rather than the second: it carries
fewer calls, or as many and has the smaller number. -/
def preferred (a b : Slot) : Bool :=
  a.activeCalls < b.activeCalls || (a.activeCalls = b.activeCalls && a.number ≤ b.number)

/-- The position of the least loaded slot behind a number of skipped ones,
against the best found so far. -/
def leastLoadedFrom (position : Nat) (best : Nat × Slot) : List Slot → Nat × Slot
  | [] => best
  | slot :: rest =>
      leastLoadedFrom (position + 1) (if preferred best.2 slot then best else (position, slot)) rest

/-- The position of the least loaded channel. -/
def leastLoaded? (pool : Pool) : Option (Nat × Slot) :=
  match pool.slots with
  | [] => none
  | slot :: rest => some (leastLoadedFrom 1 (0, slot) rest)

/-- The channel that takes the next call, unless the pool has to grow first. -/
def reusable? (pool : Pool) : Option Nat :=
  match pool.leastLoaded? with
  | none => none
  | some (position, slot) =>
      if slot.activeCalls < pool.limits.ceiling || pool.isFull then some position else none

/-- Change the slot at a position. -/
def update (pool : Pool) (position : Nat) (change : Slot → Slot) : Pool :=
  { pool with slots := pool.slots.modify position change }

/-- Count a call on a given channel, without selection. -/
def acquireAt (pool : Pool) (position : Nat) : Pool := pool.update position Slot.beginCall

/-- Add a channel.  Its number is its position. -/
def grow (pool : Pool) : Pool :=
  { pool with slots := pool.slots ++ [Slot.fresh pool.size] }

@[simp] theorem size_empty (limits : Limits) : (empty limits).size = 0 := rfl

@[simp] theorem size_update (pool : Pool) (position : Nat) (change : Slot → Slot) :
    (pool.update position change).size = pool.size := by
  simp [update, size]

@[simp] theorem size_acquireAt (pool : Pool) (position : Nat) :
    (pool.acquireAt position).size = pool.size := by
  simp [acquireAt]

@[simp] theorem size_grow (pool : Pool) : pool.grow.size = pool.size + 1 := by
  simp [grow, size]

/-- The outcome of selecting a channel for a call. -/
structure Acquired where
  position : Nat
  /-- Whether the channel was made for this call. -/
  created : Bool
  pool : Pool
deriving Repr

/-- Select a channel for a call and count the call on it.  `supply` is what
making a channel yields now: nothing, or a failure, which is then the failure
of the selection and leaves the pool as it was.  It is consulted only when the
pool has to grow. -/
def acquire (pool : Pool) (supply : Option Failure) : Except Failure Acquired :=
  match pool.reusable? with
  | some position => .ok ⟨position, false, pool.acquireAt position⟩
  | none =>
      match supply with
      | some failure => .error failure
      | none => .ok ⟨pool.size, true, pool.grow.acquireAt pool.size⟩

/-- Count a call on a channel as finished. -/
def release (pool : Pool) (position : Nat) : Except Failure Pool := do
  let slot ← (Slots.at pool.slots position).endCall
  .ok (pool.update position fun _ => slot)

/-- The note about a channel that was just made. -/
def creationNote (pool : Pool) (position : Nat) : Note :=
  .created (Slots.at pool.slots position).number pool.size pool.limits.maxSize

end Pool

end AffinityPool
