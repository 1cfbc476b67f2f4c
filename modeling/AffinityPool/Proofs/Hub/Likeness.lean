/-
Module: AffinityPool.Proofs.Hub.Likeness
Purpose: Hubs that differ only in what their calls carry, and what a hub reads of that; the
  operations on calls keep the difference where it is.
Main exports:
  requestReading, Call.answerReading, Phase.Alike, Call.Alike, Outcome.Alike, Effect.Alike,
  Hub.Alike, Hub.SameResult, Hub.Alike.dispatch, Hub.Alike.succeed, Hub.Alike.respond
-/
import AffinityPool.Proofs.Hub.Dispatch
import AffinityPool.Proofs.Hub.Frame
import AffinityPool.Proofs.Ledger.Agreement

namespace AffinityPool

/-!
Two hubs are alike if they agree in everything but the requests that their live
calls were opened with, and if the same key is read from those.  Failures are told
apart as finely as a given classification does it, so the likeness of two runs is
known for each classification.
-/

/-! ### What is read from messages -/

/-- The key that a call's rule reads from its request. -/
def requestReading (rule : Option Rule) (request : Option Message) :
    Except Failure (Option String) :=
  (requestKey rule request).map (·.1)

/-- The key that a call has when a response has come.  Only a bind that has no key yet
looks into the response. -/
def Call.answerReading (call : Call) (response : Message) : Except Failure (Option String) :=
  match call.rule with
  | none => .ok none
  | some rule =>
      if rule.command = .bind then
        match call.shape.streamsResponses, call.phase with
        | true, .waiting _ _ (some key) => .ok (some key)
        | _, _ => (rule.keyOf response).map (·.1)
      else .ok none

/-- Nothing is read from the requests of a method without a rule, or of a bind. -/
theorem requestReading_of_unread {rule : Option Rule}
    (unread : ∀ known, rule = some known → known.command = .bind) (request : Option Message) :
    requestReading rule request = .ok none := by
  cases rule with
  | none => rfl
  | some rule =>
      have binds := unread rule rfl
      cases request with
      | none => rfl
      | some request => simp [requestReading, requestKey, binds, Command.readsRequest, Except.map]

/-- Nothing is read from the responses of a method without a rule, or of one that does
not bind. -/
theorem Call.answerReading_of_unread {call : Call}
    (unread : ∀ rule, call.rule = some rule → rule.command ≠ .bind) (response : Message) :
    call.answerReading response = .ok none := by
  unfold answerReading
  split
  · rfl
  · rename_i rule ruled
    rw [if_neg (unread rule ruled)]

section

variable {α β γ : Type}

/-- Two readings of the same, with what else they tell. -/
theorem same_reading {one other : Except Failure (α × β)}
    (same : one.map (·.1) = other.map (·.1)) :
    (∃ failure, one = .error failure ∧ other = .error failure) ∨
      ∃ value told toldOther, one = .ok (value, told) ∧ other = .ok (value, toldOther) := by
  cases one with
  | error failure =>
      cases other with
      | error cause =>
          cases same
          exact Or.inl ⟨failure, rfl, rfl⟩
      | ok found => cases same
  | ok found =>
      cases other with
      | error cause => cases same
      | ok finding =>
          obtain ⟨value, told⟩ := found
          obtain ⟨reading, toldOther⟩ := finding
          cases same
          exact Or.inr ⟨value, told, toldOther, rfl, rfl⟩

/-- What is made of a value shows in its reading, whatever was told on the way. -/
theorem reading_map (reading : Except Failure (α × β)) (change : α → γ) :
    (reading.map fun (value, told) => (change value, told)).map (·.1) =
      (reading.map (·.1)).map change := by
  cases reading <;> rfl

end

/-! ### Likeness -/

/-- Two calls stand at the same place, and the same key is read from their
requests. -/
inductive Phase.Alike (rule : Option Rule) : Phase → Phase → Prop where
  | peeking : Alike rule .peeking .peeking
  | waiting {slot : Nat} {opening other : Opening} {firstKey : Option String}
      (read : requestReading rule opening.keyRequest? = requestReading rule other.keyRequest?) :
      Alike rule (.waiting slot opening firstKey) (.waiting slot other firstKey)
  | paused {slot : Nat} {opening other : Opening} {firstKey : Option String}
      (read : requestReading rule opening.keyRequest? = requestReading rule other.keyRequest?) :
      Alike rule (.paused slot opening firstKey) (.paused slot other firstKey)

/-- Calls that stand at the same place are on the same channel. -/
theorem Phase.Alike.slot? {rule : Option Rule} {phase other : Phase}
    (alike : phase.Alike rule other) : other.slot? = phase.slot? := by
  cases alike <;> rfl

/-- Two calls differ at most in their requests. -/
structure Call.Alike (call other : Call) : Prop where
  shape : other.shape = call.shape
  method : other.method = call.method
  rule : other.rule = call.rule
  phase : Phase.Alike call.rule call.phase other.phase

theorem Call.Alike.refl (call : Call) : call.Alike call := by
  obtain ⟨shape, method, rule, phase⟩ := call
  cases phase with
  | peeking => exact ⟨rfl, rfl, rfl, .peeking⟩
  | waiting slot opening firstKey => exact ⟨rfl, rfl, rfl, .waiting rfl⟩
  | paused slot opening firstKey => exact ⟨rfl, rfl, rfl, .paused rfl⟩

variable {κ : Type} {kind : Failure → κ}

/-- Two calls exit in the same way, with failures of one kind if they fail. -/
inductive Outcome.Alike (kind : Failure → κ) : Outcome → Outcome → Prop where
  | replied {response other : Message} : Alike kind (.replied response) (.replied other)
  | ended : Alike kind .ended .ended
  | failed {failure other : Failure} (same : kind failure = kind other) :
      Alike kind (.failed failure) (.failed other)
  | abandoned : Alike kind .abandoned .abandoned

/-- Two effects differ at most in what a call carries. -/
inductive Effect.Alike (kind : Failure → κ) : Effect → Effect → Prop where
  | same {effect : Effect} : Alike kind effect effect
  | dispatched {id : CallId} {slot : Nat} {shape : Shape} {method : String}
      {opening other : Opening} :
      Alike kind (.dispatched id slot shape method opening)
        (.dispatched id slot shape method other)
  | delivered {id : CallId} {response other : Message} :
      Alike kind (.delivered id response) (.delivered id other)
  | exited {id : CallId} {outcome other : Outcome} (outcomes : outcome.Alike kind other) :
      Alike kind (.exited id outcome) (.exited id other)

/-- Effects are like themselves. -/
theorem Effect.alike_refl (effects : List Effect) :
    List.Forall₂ (Effect.Alike kind) effects effects :=
  List.forall₂_same.mpr fun _ _ => .same

namespace Hub

/-- A hub with other live calls. -/
def withCalls (hub : Hub) (calls : List (CallId × Call)) : Hub := { hub with calls }

/-- Two hubs differ at most in the requests of their live calls. -/
inductive Alike (hub : Hub) : Hub → Prop where
  | intro {calls : List (CallId × Call)} (agree : Ledger.Agree Call.Alike hub.calls calls) :
      Alike hub (hub.withCalls calls)

/-- The same happens to two hubs, up to what calls carry and up to notes. -/
structure SameResult (kind : Failure → κ) (result other : Hub × List Effect) : Prop where
  hubs : Alike result.1 other.1
  effects : List.Forall₂ (Effect.Alike kind) (withoutNotes result.2) (withoutNotes other.2)

/-- Notes in front make no difference, whichever they are. -/
theorem SameResult.noted {result other : Hub × List Effect} (same : SameResult kind result other)
    (notes others : List Note) :
    SameResult kind (result.1, noted notes ++ result.2) (other.1, noted others ++ other.2) := by
  constructor
  · exact same.hubs
  · simpa using same.effects

/-- The same effects in front of both keep two results alike. -/
theorem SameResult.after {result other : Hub × List Effect} (same : SameResult kind result other)
    (effects : List Effect) :
    SameResult kind (result.1, effects ++ result.2) (other.1, effects ++ other.2) := by
  constructor
  · exact same.hubs
  · rw [withoutNotes_append, withoutNotes_append]
    exact List.rel_append (Effect.alike_refl _) same.effects

/-- Two calls are placed in the same way, or are refused with failures of one kind. -/
inductive SamePlacement (kind : Failure → κ) : Except (Failure × List Effect) Placement →
    Except (Failure × List Effect) Placement → Prop where
  | placed {slot : Nat} {hub other : Hub} {effects : List Effect} (alike : Alike hub other) :
      SamePlacement kind (.ok ⟨slot, hub, effects⟩) (.ok ⟨slot, other, effects⟩)
  | refused {failure other : Failure} {effects : List Effect} (same : kind failure = kind other) :
      SamePlacement kind (.error (failure, effects)) (.error (other, effects))

/-! ### What exchanges do to the index -/

/-- The effect of a call that brought its one response depends on what is read. -/
theorem unaryEffect_alike {call : Call} {request first : Option Message}
    {response answer : Message} (single : call.shape.streamsResponses = false)
    (read : requestReading call.rule request = requestReading call.rule first)
    (answers : call.answerReading response = call.answerReading answer) :
    (unaryEffect call.rule request response).map (·.1) =
      (unaryEffect call.rule first answer).map (·.1) := by
  unfold Call.answerReading at answers
  unfold unaryEffect
  cases ruled : call.rule with
  | none => rfl
  | some rule =>
      rw [ruled] at read answers
      cases command : rule.command with
      | bound => simp only [command]
      | bind =>
          simp only [command, if_true, single] at answers ⊢
          rw [reading_map, reading_map, answers]
      | unbind =>
          unfold requestReading at read
          simp only [command]
          rw [reading_map, reading_map, read]

/-- The effect of a stream that ended depends on what is read. -/
theorem streamEffect_alike {rule : Option Rule} {request first : Option Message}
    (read : requestReading rule request = requestReading rule first) (firstKey : Option String) :
    (streamEffect rule request firstKey).map (·.1) =
      (streamEffect rule first firstKey).map (·.1) := by
  unfold streamEffect
  cases rule with
  | none => rfl
  | some rule =>
      cases command : rule.command with
      | bound => simp only [command]
      | bind => simp only [command]
      | unbind =>
          unfold requestReading at read
          simp only [command]
          rw [reading_map, reading_map, read]

/-- The key of a stream depends on what is read. -/
theorem keyAfter_alike {call : Call} {slot : Nat} {opening : Opening} {firstKey : Option String}
    {response answer : Message} (waiting : call.phase = .waiting slot opening firstKey)
    (streams : call.shape.streamsResponses = true)
    (answers : call.answerReading response = call.answerReading answer) :
    keyAfter call.rule firstKey response = keyAfter call.rule firstKey answer := by
  unfold Call.answerReading at answers
  unfold keyAfter
  cases firstKey with
  | some key => rfl
  | none =>
      cases ruled : call.rule with
      | none => rfl
      | some rule =>
          rw [ruled] at answers
          by_cases binds : rule.command = .bind
          · simpa [binds, streams, waiting] using answers
          · simp only [if_neg binds]

namespace Alike

variable {hub other : Hub} {id : CallId}

/-- A hub is like itself. -/
theorem refl (hub : Hub) : Alike hub hub :=
  .intro (List.forall₂_same.mpr fun entry _ => ⟨rfl, .refl entry.2⟩)

/-- Hubs that are alike have one pool. -/
theorem pool (alike : Alike hub other) : other.pool = hub.pool := by
  cases alike
  rfl

/-- Hubs that are alike have one index. -/
theorem affinity (alike : Alike hub other) : other.affinity = hub.affinity := by
  cases alike
  rfl

/-- Hubs that are alike close together. -/
theorem closing (alike : Alike hub other) : other.closing = hub.closing := by
  cases alike
  rfl

/-! ### Calls come and go -/

/-- A call is live in both hubs or in none. -/
theorem call? (alike : Alike hub other) (id : CallId) :
    (hub.call? id = none ∧ other.call? id = none) ∨
      ∃ one two, hub.call? id = some one ∧ other.call? id = some two ∧ one.Alike two := by
  cases alike with
  | intro agree => exact agree.lookup id

/-- Hubs stay alike when calls that are alike are written in both. -/
theorem setCall (alike : Alike hub other) (id : CallId) {call changed : Call}
    (calls : call.Alike changed) : Alike (hub.setCall id call) (other.setCall id changed) := by
  cases alike with
  | intro agree => exact .intro (agree.put calls)

/-- Hubs stay alike with the same pool in both. -/
theorem withPool (alike : Alike hub other) (pool : Pool) :
    Alike { hub with pool } { other with pool } := by
  cases alike with
  | intro agree => exact .intro agree

/-- Hubs stay alike when calls that are alike are admitted to both. -/
theorem withAdmitted (alike : Alike hub other) (id : CallId) {call changed : Call}
    (calls : call.Alike changed) :
    Alike (hub.withAdmitted id call) (other.withAdmitted id changed) := by
  cases alike with
  | intro agree => exact .intro (agree.put calls)

/-! ### Exits -/

/-- A call without a channel exits alike from hubs that are alike. -/
theorem exitUnplaced (alike : Alike hub other) (id : CallId) {outcome ending : Outcome}
    (outcomes : outcome.Alike kind ending) :
    SameResult kind (hub.exitUnplaced id outcome) (other.exitUnplaced id ending) := by
  cases alike with
  | intro agree => exact ⟨.intro (agree.drop id), .cons (.exited outcomes) .nil⟩

/-- A call exits from its channel alike in hubs that are alike. -/
theorem exitPlaced (alike : Alike hub other) (id : CallId) (slot : Nat)
    {outcome ending : Outcome} (outcomes : outcome.Alike kind ending) :
    SameResult kind (hub.exitPlaced id slot outcome) (other.exitPlaced id slot ending) := by
  unfold Hub.exitPlaced
  rw [alike.pool]
  cases hub.pool.release slot with
  | ok pool => exact (alike.withPool pool).exitUnplaced id outcomes
  | error failure => exact alike.exitUnplaced id (.failed rfl)

/-! ### Calls are placed -/

/-- By load, hubs that are alike place a call on the same channel. -/
theorem placeByLoad (alike : Alike hub other) (method : String) {supply offer : Option Failure}
    (supplies : supply.map kind = offer.map kind) :
    SamePlacement kind (hub.placeByLoad method supply) (other.placeByLoad method offer) := by
  unfold Hub.placeByLoad Pool.acquire
  rw [alike.pool]
  cases hub.pool.reusable? with
  | some position => exact .placed (alike.withPool _)
  | none =>
      cases supply with
      | none =>
          cases offer with
          | none => exact .placed (alike.withPool _)
          | some cause => cases supplies
      | some failure =>
          cases offer with
          | none => cases supplies
          | some cause => exact .refused (Option.some.inj supplies)

/-- Hubs that are alike place a call with one key on the same channel. -/
theorem place (alike : Alike hub other) (method : String) (key : Option String)
    {supply offer : Option Failure} (supplies : supply.map kind = offer.map kind) :
    SamePlacement kind (hub.place method key supply) (other.place method key offer) := by
  cases key with
  | none => exact alike.placeByLoad method supplies
  | some key =>
      unfold Hub.place
      simp only [alike.affinity, alike.pool]
      cases hub.affinity.lookup key with
      | some slot => exact .placed (alike.withPool _)
      | none =>
          have placements := alike.placeByLoad method supplies
          generalize hub.placeByLoad method supply = placement at placements
          generalize other.placeByLoad method offer = placed at placements
          cases placements with
          | placed hubs => exact .placed hubs
          | refused same => exact .refused same

/-- A call is dispatched in the same way. -/
theorem dispatch (alike : Alike hub other) (id : CallId) {call changed : Call}
    {opening first : Opening} (shape : changed.shape = call.shape)
    (method : changed.method = call.method) (rule : changed.rule = call.rule)
    (read : requestReading call.rule opening.keyRequest? =
      requestReading call.rule first.keyRequest?)
    {supply offer : Option Failure} (supplies : supply.map kind = offer.map kind) :
    SameResult kind (hub.dispatch id call opening supply)
      (other.dispatch id changed first offer) := by
  unfold Hub.dispatch
  rw [shape, method, rule]
  rcases same_reading read with ⟨failure, reading, again⟩ | ⟨key, notes, others, reading, again⟩
  · rw [reading, again]
    exact alike.exitUnplaced id (.failed rfl)
  · rw [reading, again]
    have placements := alike.place call.method key supplies
    simp only
    generalize hub.place call.method key supply = placement at placements
    generalize other.place call.method key offer = placed at placements
    cases placements with
    | @placed slot reached found effects hubs =>
        have handed : SameResult kind
            (reached.setCall id { call with phase := .waiting slot opening none },
              [.dispatched id slot call.shape call.method opening])
            (found.setCall id ⟨call.shape, call.method, call.rule, .waiting slot first none⟩,
              [.dispatched id slot call.shape call.method first]) :=
          ⟨hubs.setCall id ⟨rfl, rfl, rfl, .waiting read⟩, .cons .dispatched .nil⟩
        simpa only [List.append_assoc] using (handed.after effects).noted notes others
    | @refused failure cause effects same =>
        have exits := alike.exitUnplaced id (.failed same)
        simpa only [List.append_assoc] using (exits.after effects).noted notes others

/-- A new call takes the same rule in hubs that are alike. -/
theorem newCall (alike : Alike hub other) (shape : Shape) (method : String) :
    (hub.newCall shape method).Alike (other.newCall shape method) := by
  cases alike
  exact ⟨rfl, rfl, rfl, .peeking⟩

theorem refuse (alike : Alike hub other) (id : CallId) :
    SameResult kind (hub.refuse id) (other.refuse id) :=
  ⟨alike, Effect.alike_refl _⟩

/-- A call with one request starts in the same way. -/
theorem begin (alike : Alike hub other) (id : CallId) (shape : Shape) (method : String)
    {request first : Message}
    (read : requestReading (hub.newCall shape method).rule (Opening.single request).keyRequest? =
      requestReading (hub.newCall shape method).rule (Opening.single first).keyRequest?)
    {supply offer : Option Failure} (supplies : supply.map kind = offer.map kind) :
    SameResult kind (hub.begin id shape method request supply)
      (other.begin id shape method first offer) := by
  have calls := alike.newCall shape method
  unfold Hub.begin
  rw [alike.closing]
  split
  · exact alike.refuse id
  · have dispatched := (alike.withAdmitted id calls).dispatch id calls.shape calls.method
      calls.rule read supplies
    exact dispatched.after [.admitted id]

/-- A call with a sequence of requests starts in the same way. -/
theorem beginMany (alike : Alike hub other) (id : CallId) (shape : Shape) (method : String)
    {supply offer : Option Failure} (supplies : supply.map kind = offer.map kind) :
    SameResult kind (hub.beginMany id shape method supply)
      (other.beginMany id shape method offer) := by
  have calls := alike.newCall shape method
  unfold Hub.beginMany
  simp only
  rw [alike.closing, calls.rule]
  split
  · exact alike.refuse id
  · split
    · exact ⟨alike.withAdmitted id calls, Effect.alike_refl _⟩
    · have dispatched := (alike.withAdmitted id calls).dispatch id calls.shape calls.method
        calls.rule (rfl : requestReading _ Opening.untouched.keyRequest? = _) supplies
      exact dispatched.after [.admitted id]

/-! ### Exchanges succeed -/

/-- A call succeeds in the same way. -/
theorem succeed (alike : Alike hub other) (id : CallId) (slot : Nat)
    {told telling : Except Failure (IndexEffect × List Note)}
    (effects : told.map (·.1) = telling.map (·.1)) {outcome ending : Outcome}
    (outcomes : outcome.Alike kind ending) :
    SameResult kind (hub.succeed id slot told outcome) (other.succeed id slot telling ending) := by
  unfold Hub.succeed
  rcases same_reading effects with ⟨failure, reading, again⟩ |
    ⟨effect, notes, others, reading, again⟩
  · rw [reading, again]
    exact alike.exitPlaced id slot (.failed rfl)
  · rw [reading, again]
    have applied : (other.applyEffect slot effect).1 = (hub.applyEffect slot effect).1 ∧
        Alike (hub.applyEffect slot effect).2.1 (other.applyEffect slot effect).2.1 := by
      cases alike with
      | intro agree => cases effect <;> exact ⟨rfl, .intro agree⟩
    obtain ⟨results, hubs⟩ := applied
    simp only
    rw [results]
    cases (hub.applyEffect slot effect).1 with
    | ok done => exact (hubs.exitPlaced id slot outcomes).noted _ _
    | error failure => exact (hubs.exitPlaced id slot (.failed rfl)).noted _ _

/-- A response comes to the same. -/
theorem respond (alike : Alike hub other) (id : CallId) {call changed : Call} {slot : Nat}
    {opening first : Opening} {firstKey : Option String} {response answer : Message}
    (shape : changed.shape = call.shape) (method : changed.method = call.method)
    (rule : changed.rule = call.rule) (waiting : call.phase = .waiting slot opening firstKey)
    (read : requestReading call.rule opening.keyRequest? =
      requestReading call.rule first.keyRequest?)
    (answers : call.answerReading response = call.answerReading answer) :
    SameResult kind (hub.respond id call slot opening firstKey response)
      (other.respond id changed slot first firstKey answer) := by
  unfold Hub.respond
  rw [shape, rule]
  by_cases streams : call.shape.streamsResponses = true
  · rw [if_pos streams, if_pos streams, keyAfter_alike waiting streams answers]
    cases keyAfter call.rule firstKey answer with
    | error failure => exact alike.exitPlaced id slot (.failed rfl)
    | ok key =>
        constructor
        · exact alike.setCall id ⟨rfl, method, rfl, .paused read⟩
        · exact .cons .delivered .nil
  · rw [if_neg streams, if_neg streams]
    have single : call.shape.streamsResponses = false := Bool.eq_false_iff.mpr streams
    exact alike.succeed id slot (unaryEffect_alike single read answers) .replied

end Alike

end Hub

end AffinityPool
