/-
Module: AffinityPool.Affinity.Index
Purpose: The affinity index: which channel each bound key lives on.
Main exports:
  Binding, Affinity, Affinity.lookup, Affinity.refcount, Affinity.bind, Affinity.unbind,
  Affinity.keysFor
-/
import AffinityPool.Note
import AffinityPool.Pool.Slot

namespace AffinityPool

/-!
An entry says on which channel a key lives and how many live bindings it has.
A key keeps its channel as long as it has an entry; a channel counts the keys
that have an entry on it.  The entries and the counters are kept side by side,
so every operation returns both, also when it fails.
-/

/-- A bound key.  The slot is a position in the list of slots. -/
structure Binding where
  key : String
  slot : Nat
  refcount : Int
deriving Repr, DecidableEq

/-- The index together with the channels its entries point to. -/
structure Affinity where
  slots : List Slot
  entries : List Binding
deriving Repr, DecidableEq

/-- The outcome of an operation that may fail halfway: its result, the state it
leaves, and its notes. -/
structure Affinity.Change (α : Type) where
  result : Except Failure α
  state : Affinity
  notes : List Note

namespace Affinity

/-- The entry of a key. -/
def entry? (state : Affinity) (key : String) : Option Binding :=
  state.entries.find? (·.key = key)

/-- The channel a key is bound to. -/
def lookup (state : Affinity) (key : String) : Option Nat := (state.entry? key).map (·.slot)

/-- The number of live bindings of a key; zero if it is not bound. -/
def refcount (state : Affinity) (key : String) : Int :=
  match state.entry? key with
  | some entry => entry.refcount
  | none => 0

/-- The keys bound to a channel, in the order of their entries. -/
def keysFor (state : Affinity) (slot : Nat) : List String :=
  (state.entries.filter (·.slot = slot)).map (·.key)

/-- Whether a key is bound. -/
def contains (state : Affinity) (key : String) : Bool := (state.entry? key).isSome

/-- The number shown for a slot. -/
def number (state : Affinity) (slot : Nat) : Int := (Slots.at state.slots slot).number

/-- Overwrite the number of bindings of a key that has an entry. -/
def setRefcount (state : Affinity) (key : String) (refcount : Int) : Affinity :=
  { state with
    entries := state.entries.map fun entry =>
      if entry.key = key then { entry with refcount := refcount } else entry }

/-- Add an entry with one binding at the end. -/
def insert (state : Affinity) (key : String) (slot : Nat) : Affinity :=
  { state with entries := state.entries ++ [{ key := key, slot := slot, refcount := 1 }] }

/-- Remove the entry of a key. -/
def erase (state : Affinity) (key : String) : Affinity :=
  { state with entries := state.entries.filter (·.key ≠ key) }

/-- Change the slot at a position. -/
def updateSlot (state : Affinity) (slot : Nat) (change : Slot → Slot) : Affinity :=
  { state with slots := state.slots.modify slot change }

/-- Record one binding of a key to a channel.  A new key gets an entry at the
end and is counted on the channel; a key of the same channel gains a binding; a
key of another channel is a conflict.  The result is the number of bindings. -/
def bind (state : Affinity) (key : String) (slot : Nat) : Change Int :=
  match state.entry? key with
  | none =>
      { result := .ok 1
        state := (state.insert key slot).updateSlot slot Slot.gainKey
        notes := [.bound key (state.number slot) 1] }
  | some entry =>
      if entry.slot = slot then
        let refcount := entry.refcount + 1
        { result := .ok refcount
          state := state.setRefcount key refcount
          notes := [.bound key (state.number slot) refcount] }
      else
        let failure := Failure.bindingConflict key (state.number entry.slot) (state.number slot)
        { result := .error failure, state := state, notes := [.conflict failure] }

/-- Release one binding of a key; an unbound key is left alone.  With the last
binding the entry goes, and then the channel counts one key less.  The result
is the number of bindings left. -/
def unbind (state : Affinity) (key : String) : Change (Option Int) :=
  match state.entry? key with
  | none => { result := .ok none, state := state, notes := [] }
  | some entry =>
      if entry.refcount ≤ 0 then
        { result := .error (.deadBinding key entry.refcount), state := state, notes := [] }
      else
        let remaining := entry.refcount - 1
        let note := Note.unbound key (state.number entry.slot) remaining
        if remaining = 0 then
          let erased := state.erase key
          match (Slots.at state.slots entry.slot).loseKey with
          | .error failure => { result := .error failure, state := erased, notes := [] }
          | .ok slot =>
              { result := .ok (some 0)
                state := erased.updateSlot entry.slot fun _ => slot
                notes := [note] }
        else
          { result := .ok (some remaining)
            state := state.setRefcount key remaining
            notes := [note] }

/-- Count one more key on a channel, without an entry. -/
def gainKey (state : Affinity) (slot : Nat) : Change Nat :=
  { result := .ok ((Slots.at state.slots slot).boundKeys + 1)
    state := state.updateSlot slot Slot.gainKey
    notes := [] }

/-- Count one key less on a channel, without an entry. -/
def loseKey (state : Affinity) (slot : Nat) : Change Nat :=
  match (Slots.at state.slots slot).loseKey with
  | .error failure => { result := .error failure, state := state, notes := [] }
  | .ok changed =>
      { result := .ok changed.boundKeys
        state := state.updateSlot slot fun _ => changed
        notes := [] }

end Affinity

end AffinityPool
