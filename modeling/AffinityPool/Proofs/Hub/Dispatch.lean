/-
Module: AffinityPool.Proofs.Hub.Dispatch
Purpose: What can become of a call that asks for a channel.
Main exports:
  withoutNotes, Hub.Unbound, Hub.Placing, Hub.Dispatching, Hub.dispatching_dispatch
-/
import AffinityPool.Hub.Action

namespace AffinityPool

/-- Whether an effect is only a note. -/
def Effect.isNote : Effect → Bool
  | .note _ => true
  | _ => false

/-- The effects that are more than notes. -/
def withoutNotes (effects : List Effect) : List Effect :=
  effects.filter fun effect => !effect.isNote

@[simp] theorem withoutNotes_nil : withoutNotes [] = [] := rfl

@[simp] theorem withoutNotes_append (before after : List Effect) :
    withoutNotes (before ++ after) = withoutNotes before ++ withoutNotes after := by
  simp [withoutNotes]

@[simp] theorem withoutNotes_note_cons (note : Note) (rest : List Effect) :
    withoutNotes (.note note :: rest) = withoutNotes rest := rfl

/-- An effect that is more than a note stays in front. -/
@[simp] theorem withoutNotes_cons {effect : Effect} (told : effect.isNote = false)
    (rest : List Effect) : withoutNotes (effect :: rest) = effect :: withoutNotes rest := by
  simp [withoutNotes, told]

/-- Notes alone leave nothing. -/
@[simp] theorem withoutNotes_noted (notes : List Note) : withoutNotes (Hub.noted notes) = [] := by
  simp [withoutNotes, Hub.noted, Effect.isNote]

/-- An effect that is more than a note is kept, and no other effect comes in. -/
theorem mem_withoutNotes {effect : Effect} (told : effect.isNote = false)
    {effects : List Effect} : effect ∈ withoutNotes effects ↔ effect ∈ effects := by
  simp [withoutNotes, told]

/-- What is picked from effects is not picked from notes. -/
theorem filterMap_withoutNotes {α : Type} {pick : Effect → Option α}
    (silent : ∀ note, pick (.note note) = none) (effects : List Effect) :
    (withoutNotes effects).filterMap pick = effects.filterMap pick := by
  unfold withoutNotes
  rw [List.filterMap_filter]
  apply congrArg (fun picked => List.filterMap picked effects)
  funext effect
  cases effect with
  | note note => exact (silent note).symm
  | _ => rfl

/-- The opening of a call whose first request has been waited for. -/
def Opening.ofFirst : Option Message → Opening
  | some request => .restored request
  | none => .exhausted

namespace Hub

/-! ### Where a call is placed -/

/-- A call without a key, or with a key that no channel holds. -/
def Unbound (hub : Hub) (key : Option String) : Prop :=
  ∀ text, key = some text → hub.affinity.lookup text = none

/-- A call without a key is tied to no channel. -/
theorem unbound_none (hub : Hub) : hub.Unbound none := by
  intro text keyed
  cases keyed

/-- A key that the index does not know ties its call to no channel. -/
theorem unbound_some {hub : Hub} {text : String} (absent : hub.affinity.lookup text = none) :
    hub.Unbound (some text) := by
  intro other keyed
  cases keyed
  exact absent

/-- The slot a call is placed on, the pool it leaves, and what is made known of
it.  Only the last case makes a channel. -/
inductive Placing (hub : Hub) (key : Option String) (supply : Option Failure) :
    Nat → Pool → List Effect → Prop where
  | bound {text : String} {slot : Nat} (keyed : key = some text)
      (found : hub.affinity.lookup text = some slot) :
      Placing hub key supply slot (hub.pool.acquireAt slot) []
  | reused {slot : Nat} (unbound : hub.Unbound key) (reusable : hub.pool.reusable? = some slot) :
      Placing hub key supply slot (hub.pool.acquireAt slot) []
  | made (unbound : hub.Unbound key) (saturated : hub.pool.reusable? = none)
      (supplied : supply = none) :
      Placing hub key supply hub.pool.size (hub.pool.grow.acquireAt hub.pool.size)
        [.created hub.pool.size]

/-- A call that no key ties to a channel goes to one that can be reused, or to one that is made for
it. -/
private theorem placeByLoad_ok {hub : Hub} {method : String} {key : Option String}
    {supply : Option Failure} {placement : Placement} (unbound : hub.Unbound key)
    (placed : hub.placeByLoad method supply = .ok placement) :
    ∃ pool, placement.hub = { hub with pool } ∧
      Placing hub key supply placement.slot pool (withoutNotes placement.effects) := by
  unfold placeByLoad Pool.acquire at placed
  cases reusable : hub.pool.reusable? with
  | some slot =>
      simp only [reusable, Except.ok.injEq] at placed
      subst placed
      exact ⟨_, rfl, .reused unbound reusable⟩
  | none =>
      cases supply with
      | some failure => simp [reusable] at placed
      | none =>
          simp only [reusable, Except.ok.injEq] at placed
          subst placed
          exact ⟨_, rfl, .made unbound reusable rfl⟩

/-- Such a call is refused only when a channel must be made and cannot be. -/
private theorem placeByLoad_error {hub : Hub} {method : String} {supply : Option Failure}
    {failure : Failure} {effects : List Effect}
    (refused : hub.placeByLoad method supply = .error (failure, effects)) :
    hub.pool.reusable? = none ∧ supply = some failure ∧
      withoutNotes effects = [.creationFailed] := by
  unfold placeByLoad Pool.acquire at refused
  cases reusable : hub.pool.reusable? with
  | some slot => simp [reusable] at refused
  | none =>
      cases supply with
      | none => simp [reusable] at refused
      | some cause =>
          simp only [reusable, Except.error.injEq, Prod.mk.injEq] at refused
          obtain ⟨rfl, rfl⟩ := refused
          exact ⟨rfl, rfl, rfl⟩

/-- A call that is placed changes nothing but the pool, in one of the three ways. -/
theorem place_ok {hub : Hub} {method : String} {key : Option String} {supply : Option Failure}
    {placement : Placement} (placed : hub.place method key supply = .ok placement) :
    ∃ pool, placement.hub = { hub with pool } ∧
      Placing hub key supply placement.slot pool (withoutNotes placement.effects) := by
  unfold place at placed
  cases key with
  | none => exact placeByLoad_ok hub.unbound_none placed
  | some text =>
      cases found : hub.affinity.lookup text with
      | some slot =>
          simp only [found, Except.ok.injEq] at placed
          subst placed
          exact ⟨_, rfl, .bound rfl found⟩
      | none =>
          simp only [found] at placed
          split at placed
          · rename_i inner placedByLoad
            simp only [Except.ok.injEq] at placed
            subst placed
            obtain ⟨pool, same, placing⟩ := placeByLoad_ok (unbound_some found) placedByLoad
            exact ⟨pool, same, by simpa using placing⟩
          · cases placed

/-- A call is refused only when its key ties it to no channel, no channel can be reused, and the
factory fails. -/
theorem place_error {hub : Hub} {method : String} {key : Option String}
    {supply : Option Failure} {failure : Failure} {effects : List Effect}
    (refused : hub.place method key supply = .error (failure, effects)) :
    hub.Unbound key ∧ hub.pool.reusable? = none ∧ supply = some failure ∧
      withoutNotes effects = [.creationFailed] := by
  unfold place at refused
  cases key with
  | none => exact ⟨hub.unbound_none, placeByLoad_error refused⟩
  | some text =>
      cases found : hub.affinity.lookup text with
      | some slot => simp [found] at refused
      | none =>
          simp only [found] at refused
          split at refused
          · cases refused
          · rename_i cause inner refusedByLoad
            simp only [Except.error.injEq, Prod.mk.injEq] at refused
            obtain ⟨rfl, rfl⟩ := refused
            obtain ⟨saturated, supplied, made⟩ := placeByLoad_error refusedByLoad
            exact ⟨unbound_some found, saturated, supplied, by simpa using made⟩

/-- What becomes of a call that asks for a channel.  In the first two cases it
exits at once. -/
inductive Dispatching (hub : Hub) (id : CallId) (call : Call) (opening : Opening)
    (supply : Option Failure) : Hub → List Effect → Prop where
  | unreadable {failure : Failure}
      (unread : requestKey call.rule opening.keyRequest? = .error failure) :
      Dispatching hub id call opening supply (hub.dropCall id).endCall
        [.exited id (.failed failure)]
  | unsupplied {key : Option String} {notes : List Note} {failure : Failure}
      (read : requestKey call.rule opening.keyRequest? = .ok (key, notes))
      (unbound : hub.Unbound key) (saturated : hub.pool.reusable? = none)
      (supplied : supply = some failure) :
      Dispatching hub id call opening supply (hub.dropCall id).endCall
        [.creationFailed, .exited id (.failed failure)]
  | placed {key : Option String} {notes : List Note} {slot : Nat} {pool : Pool}
      {creation : List Effect}
      (read : requestKey call.rule opening.keyRequest? = .ok (key, notes))
      (placing : Placing hub key supply slot pool creation) :
      Dispatching hub id call opening supply
        ({ hub with pool }.setCall id { call with phase := .waiting slot opening none })
        (creation ++ [.dispatched id slot call.shape call.method opening])

/-- A dispatch does one of the things that a call asking for a channel can come to, and its notes
are all it does besides. -/
theorem dispatching_dispatch (hub : Hub) (id : CallId) (call : Call) (opening : Opening)
    (supply : Option Failure) :
    Dispatching hub id call opening supply (hub.dispatch id call opening supply).1
      (withoutNotes (hub.dispatch id call opening supply).2) := by
  unfold dispatch
  cases read : requestKey call.rule opening.keyRequest? with
  | error failure => exact .unreadable read
  | ok found =>
      obtain ⟨key, notes⟩ := found
      cases placed : hub.place call.method key supply with
      | error refusal =>
          obtain ⟨failure, effects⟩ := refusal
          obtain ⟨unbound, saturated, supplied, made⟩ := place_error placed
          simp only [placed, exitUnplaced, withoutNotes_append, withoutNotes_noted, made]
          exact .unsupplied read unbound saturated supplied
      | ok placement =>
          obtain ⟨pool, same, placing⟩ := place_ok placed
          simp only [placed, withoutNotes_append, withoutNotes_noted, same, List.nil_append]
          exact .placed read placing

end Hub

end AffinityPool
