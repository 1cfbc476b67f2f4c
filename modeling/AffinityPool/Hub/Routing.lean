/-
Module: AffinityPool.Hub.Routing
Purpose: Which channel serves a call, and what a finished call does to the index.
Main exports:
  Rule.keyOf, requestKey, Placement, Hub.place, IndexEffect, unaryEffect, streamEffect, keyAfter,
  Hub.applyEffect
-/
import AffinityPool.Hub.State

namespace AffinityPool

/-!
A call whose rule reads the request goes to the channel its key is bound to,
whatever the load.  Every other call, and every call whose key is missing or
not bound, is placed by load.  After success a bind takes its key from the
response and an unbind takes it from the request once more.
-/

/-- A key found in a message, with a note if there is none.  A message that
cannot be asked is a failure. -/
def Rule.keyOf (rule : Rule) (message : Message) : Except Failure (Option String × List Note) :=
  match message.affinityKey rule.keyPath with
  | .ok key => .ok (some key, [])
  | .error (.absent absence) =>
      .ok (none, [.noKey rule.method (.keyNotFound rule.keyPath absence)])
  | .error .unanswered => .error .unansweredField

/-- The key of a call's request, if its rule reads one. -/
def requestKey (rule : Option Rule) (request : Option Message) :
    Except Failure (Option String × List Note) :=
  match rule, request with
  | some rule, some request =>
      if rule.command.readsRequest then rule.keyOf request else .ok (none, [])
  | _, _ => .ok (none, [])

/-- Where a call was placed. -/
structure Placement where
  slot : Nat
  hub : Hub
  effects : List Effect

namespace Hub

/-- Place a call by load. -/
def placeByLoad (hub : Hub) (method : String) (supply : Option Failure) :
    Except (Failure × List Effect) Placement :=
  match hub.pool.acquire supply with
  | .error failure => .error (failure, [.creationFailed])
  | .ok acquired =>
      let creation : List Effect :=
        if acquired.created then
          [.created acquired.position, .note (acquired.pool.creationNote acquired.position)]
        else []
      let number := (Slots.at acquired.pool.slots acquired.position).number
      .ok
        { slot := acquired.position
          hub := { hub with pool := acquired.pool }
          effects := creation ++ [.note (.routedByLoad method number)] }

/-- Place a call by its key if the key is bound, and by load otherwise. -/
def place (hub : Hub) (method : String) (key : Option String) (supply : Option Failure) :
    Except (Failure × List Effect) Placement :=
  match key with
  | none => hub.placeByLoad method supply
  | some key =>
      match hub.affinity.lookup key with
      | some slot =>
          .ok
            { slot := slot
              hub := { hub with pool := hub.pool.acquireAt slot }
              effects := [.note (.routedByKey method (hub.affinity.number slot) key)] }
      | none =>
          let note := Effect.note (.keyNotBound key method)
          match hub.placeByLoad method supply with
          | .ok placement => .ok { placement with effects := note :: placement.effects }
          | .error (failure, effects) => .error (failure, note :: effects)

end Hub

/-- What a successful call does to the index. -/
inductive IndexEffect where
  | nothing
  | bind (key : String)
  | unbind (key : String)
deriving Repr, DecidableEq

/-- The effect of a key that an unbind may have found. -/
def IndexEffect.unbinding : Option String → IndexEffect
  | some key => .unbind key
  | none => .nothing

/-- The effect of a key that a bind may have found. -/
def IndexEffect.binding : Option String → IndexEffect
  | some key => .bind key
  | none => .nothing

/-- The effect of a call that brought its one response. -/
def unaryEffect (rule : Option Rule) (request : Option Message) (response : Message) :
    Except Failure (IndexEffect × List Note) :=
  match rule with
  | none => .ok (.nothing, [])
  | some rule =>
      match rule.command with
      | .bound => .ok (.nothing, [])
      | .bind => (rule.keyOf response).map fun (key, notes) => (.binding key, notes)
      | .unbind =>
          (requestKey (some rule) request).map fun (key, notes) => (.unbinding key, notes)

/-- The effect of a call whose stream of responses ended.  A bind takes the
first key that a response had. -/
def streamEffect (rule : Option Rule) (request : Option Message) (firstKey : Option String) :
    Except Failure (IndexEffect × List Note) :=
  match rule with
  | none => .ok (.nothing, [])
  | some rule =>
      match rule.command with
      | .bound => .ok (.nothing, [])
      | .bind =>
          match firstKey with
          | some key => .ok (.bind key, [])
          | none => .ok (.nothing, [.noKeyInAnyResponse rule.method])
      | .unbind =>
          (requestKey (some rule) request).map fun (key, notes) => (.unbinding key, notes)

/-- The key a response adds to a stream that has none yet. -/
def keyAfter (rule : Option Rule) (firstKey : Option String) (response : Message) :
    Except Failure (Option String) :=
  match firstKey, rule with
  | some key, _ => .ok (some key)
  | none, some rule =>
      if rule.command = .bind then (rule.keyOf response).map (·.1) else .ok none
  | none, none => .ok none

/-- Let the effect of a call on a slot happen. -/
def Hub.applyEffect (hub : Hub) (slot : Nat) (effect : IndexEffect) :
    Except Failure Unit × Hub × List Note :=
  match effect with
  | .nothing => (.ok (), hub, [])
  | .bind key =>
      let change := hub.affinity.bind key slot
      (change.result.map fun _ => (), hub.withAffinity change.state, change.notes)
  | .unbind key =>
      let change := hub.affinity.unbind key
      (change.result.map fun _ => (), hub.withAffinity change.state, change.notes)

end AffinityPool
