/-
Module: AffinityPool.Hub.Stats
Purpose: What a hub tells about its load at one moment.
Main exports:
  Stats, Hub.stats, Stats.shown
-/
import AffinityPool.Hub.State

namespace AffinityPool

/-- A view of a hub at one moment. -/
structure Stats where
  lifecycle : Lifecycle
  /-- The number of keys that are bound. -/
  boundKeys : Nat
  channels : List Slot
deriving Repr, DecidableEq

/-- The calls on all channels together. -/
def Stats.activeCalls (stats : Stats) : Nat := Slots.total (·.activeCalls) stats.channels

/-- The stats of a hub. -/
def Hub.stats (hub : Hub) : Stats :=
  { lifecycle := hub.lifecycle
    boundKeys := hub.entries.length
    channels := hub.pool.slots }

/-- The word for how far the life of a hub has come. -/
def Lifecycle.word : Lifecycle → String
  | .idle => "idle"
  | .active => "active"
  | .shuttingDown => "shutting_down"
  | .closed => "closed"

namespace Stats

/-- One channel as texts show it. -/
def shownChannel (slot : Slot) : String :=
  let number := slot.number
  let calls := slot.activeCalls
  let keys := slot.boundKeys
  s!"ChannelStats(index={number}, active_call_count={calls}, affinity_count={keys})"

/-- Channels as texts show them; one channel alone keeps its comma. -/
def shownChannels : List Slot → String
  | [slot] => "(" ++ shownChannel slot ++ ",)"
  | slots => "(" ++ String.intercalate ", " (slots.map shownChannel) ++ ")"

/-- Stats as texts show them. -/
def shown (stats : Stats) : String :=
  let word := stats.lifecycle.word
  let quotedWord := Text.quoted word
  let constant := word.toUpper
  let size := stats.channels.length
  let keys := stats.boundKeys
  let channels := shownChannels stats.channels
  s!"PoolStats(state=<PoolState.{constant}: {quotedWord}>, pool_size={size}, " ++
    s!"affinity_key_count={keys}, channels={channels})"

end Stats

end AffinityPool
