/-
Module: AffinityPool.Pool.Slot
Purpose: One pooled channel and its two load counters.
Main exports:
  Slot, Slot.beginCall, Slot.endCall, Slot.gainKey, Slot.loseKey, Slot.shown, Slots.total
-/
import AffinityPool.Failure

namespace AffinityPool

/-- A channel of the pool.  Slots are told apart by their position in a list of
slots; the number is what texts show, and in a pool it is the position. -/
structure Slot where
  number : Int
  /-- Calls that are dispatched on the channel and have not exited. -/
  activeCalls : Nat
  /-- Distinct keys that are bound to the channel. -/
  boundKeys : Nat
deriving Repr, DecidableEq, Inhabited

namespace Slot

/-- A channel without load. -/
def fresh (number : Int) : Slot := ⟨number, 0, 0⟩

/-- Count one more call. -/
def beginCall (slot : Slot) : Slot := { slot with activeCalls := slot.activeCalls + 1 }

/-- Count one call less.  The count of an idle channel cannot fall. -/
def endCall (slot : Slot) : Except Failure Slot :=
  if slot.activeCalls = 0 then .error (.negativeCalls slot.number)
  else .ok { slot with activeCalls := slot.activeCalls - 1 }

/-- Count one more key. -/
def gainKey (slot : Slot) : Slot := { slot with boundKeys := slot.boundKeys + 1 }

/-- Count one key less.  The count of a channel without keys cannot fall. -/
def loseKey (slot : Slot) : Except Failure Slot :=
  if slot.boundKeys = 0 then .error (.negativeKeys slot.number)
  else .ok { slot with boundKeys := slot.boundKeys - 1 }

/-- A slot as texts show it. -/
def shown (slot : Slot) : String :=
  let number := slot.number
  let calls := slot.activeCalls
  let keys := slot.boundKeys
  s!"ChannelRef(index={number}, active_calls={calls}, affinities={keys})"

end Slot

/-- A counter of all slots together. -/
def Slots.total (counter : Slot → Nat) : List Slot → Nat
  | [] => 0
  | slot :: rest => counter slot + total counter rest

/-- The slot at a position.  Positions come from the same list, so the default
is never seen. -/
def Slots.at (slots : List Slot) (position : Nat) : Slot := slots.getD position default

end AffinityPool
