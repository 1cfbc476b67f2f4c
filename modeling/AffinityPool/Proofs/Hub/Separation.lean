/-
Module: AffinityPool.Proofs.Hub.Separation
Purpose: A step about one call neither touches another call nor makes anything known of it; what it
  can do to the call that it is about.
Main exports:
  Effect.call?, Hub.Stepped.call?_of_other, Hub.Stepped.begins_of_fresh,
  Hub.History.silent_of_dead, Hub.Proceeds,
  Hub.Stepped.proceeds, Hub.Stepped.about_of_effect, Hub.History.about_of_effect,
  Hub.filterMap_of_other
-/
import AffinityPool.Proofs.Hub.Frame
import AffinityPool.Proofs.Ledger.Agreement

namespace AffinityPool

/-- The call that an effect is about. -/
def Effect.call? : Effect → Option CallId
  | .admitted id | .dispatched id .. | .delivered id _ | .exited id _ => some id
  | _ => none

/-- An action that begins a call is about it. -/
theorem Action.call?_of_begins {action : Action} {id : CallId}
    (begins : action.begins? = some id) : action.call? = some id := by
  cases action <;> first | exact begins | cases begins

namespace Hub

variable {hub next : Hub} {action : Action} {effects : List Effect} {id asking : CallId}

/-- The action with which a call gives up is about that call. -/
theorem GivesUp.about {failure : Failure} (givesUp : GivesUp id action failure) :
    action.call? = some id := by
  cases givesUp <;> rfl

/-! ### The other calls -/

/-- What is written about one call is not written about another. -/
theorem call?_of_put_other {call : Call} (calls : next.calls = Ledger.put hub.calls asking call)
    (other : id ≠ asking) : next.call? id = hub.call? id := by
  rw [call?_eq, call?_eq, calls, Ledger.get?_put, if_neg other]

/-- What is written about a call is what is known of it. -/
theorem call?_of_put_self {call : Call} (calls : next.calls = Ledger.put hub.calls id call) :
    next.call? id = some call := by
  rw [call?_eq, calls, Ledger.get?_put_self]

/-- A call that is forgotten leaves the others known. -/
theorem call?_of_drop_other (calls : next.calls = Ledger.drop hub.calls asking)
    (other : id ≠ asking) : next.call? id = hub.call? id := by
  rw [call?_eq, call?_eq, calls, Ledger.get?_drop, if_neg other]

/-- A call that is forgotten is not known any more. -/
theorem call?_of_drop_self (calls : next.calls = Ledger.drop hub.calls id) :
    next.call? id = none := by
  rw [call?_eq, calls, Ledger.get?_drop, if_pos rfl]

theorem call?_withAdmitted_other (call : Call) (other : id ≠ asking) :
    (hub.withAdmitted asking call).call? id = hub.call? id :=
  call?_of_put_other (calls_withAdmitted hub asking call) other

/-- A call that asks for a channel leaves every other call as it is. -/
theorem Dispatching.call?_of_other {call : Call} {opening : Opening} {supply : Option Failure}
    (dispatching : Dispatching hub asking call opening supply next effects)
    (other : id ≠ asking) : next.call? id = hub.call? id := by
  cases dispatching with
  | unreadable unread => exact call?_of_drop_other rfl other
  | unsupplied read unbound saturated supplied => exact call?_of_drop_other rfl other
  | placed read placing => exact call?_of_put_other rfl other

theorem calls_completed (hub : Hub) (asking : CallId) (slot : Nat) (effect : IndexEffect)
    (outcome : Outcome) :
    ((hub.applyEffect slot effect).2.1.exitPlaced asking slot outcome).1.calls =
      Ledger.drop hub.calls asking := by
  rw [calls_exitPlaced, calls_applyEffect]

/-- A step about one call leaves every other call as it is. -/
theorem Stepped.call?_of_other (stepped : Stepped hub action next effects)
    (other : action.call? ≠ some id) : next.call? id = hub.call? id := by
  have apart : ∀ {asking}, action.call? = some asking → id ≠ asking := by
    rintro asking about rfl
    exact other about
  cases stepped with
  | refused begins fresh closing => rfl
  | waits fresh unclosed many reads => exact call?_withAdmitted_other _ (apart rfl)
  | begins fresh unclosed starts dispatching =>
      have here := apart (Action.call?_of_begins starts.begins)
      rw [dispatching.call?_of_other here, call?_withAdmitted_other _ here]
  | peeked live peeking dispatching => exact dispatching.call?_of_other (apart rfl)
  | gaveUp live peeking givesUp => exact call?_of_drop_other rfl (apart givesUp.about)
  | delivered live waiting streams read => exact call?_of_put_other rfl (apart rfl)
  | resumed live paused => exact call?_of_put_other rfl (apart rfl)
  | completed live waiting completes =>
      exact call?_of_drop_other (calls_completed ..) (apart completes.about)
  | left live leaves => exact call?_of_drop_other (calls_exitPlaced ..) (apart leaves.about)
  | background background => rw [call?_eq, call?_eq, background.sameCalls.calls]

/-- The background is about no call. -/
theorem Background.call? (background : Background hub action next effects) :
    action.call? = none := by
  cases background <;> rfl

/-- Of a call that is not live a hub hears only that it starts. -/
theorem Stepped.begins_of_fresh (stepped : Stepped hub action next effects)
    (fresh : hub.call? id = none) (about : action.call? = some id) :
    action.begins? = some id := by
  have dead : ∀ {asking call}, hub.call? asking = some call → action.call? ≠ some asking := by
    intro asking call live same
    rw [about] at same
    cases same
    rw [fresh] at live
    cases live
  cases stepped with
  | refused begins unknown shut =>
      rw [Action.call?_of_begins begins] at about
      rw [begins, about]
  | waits unknown unclosed many reads => exact about
  | begins unknown unclosed starts dispatching =>
      rw [Action.call?_of_begins starts.begins] at about
      rw [starts.begins, about]
  | peeked live peeking dispatching => exact absurd rfl (dead live)
  | gaveUp live peeking givesUp => exact absurd givesUp.about (dead live)
  | delivered live waiting streams read => exact absurd rfl (dead live)
  | resumed live paused => exact absurd rfl (dead live)
  | completed live waiting completes => exact absurd completes.about (dead live)
  | left live leaves => exact absurd leaves.about (dead live)
  | background background =>
      rw [background.call?] at about
      cases about

/-- Nothing is about a call that has exited, unless its name is used again. -/
theorem History.silent_of_dead {last : Hub} {later : List Moment}
    (ran : History hub later last) (dead : hub.call? id = none)
    (alone : ∀ moment ∈ later, moment.action.begins? ≠ some id) :
    last.call? id = none ∧ ∀ moment ∈ later, moment.action.call? ≠ some id := by
  induction ran with
  | begin =>
      refine ⟨dead, ?_⟩
      intro moment member
      cases member
  | @next past here after action effects earlier stepped ih =>
      obtain ⟨still, silent⟩ := ih fun moment member => alone moment (List.mem_append_left _ member)
      have other : action.call? ≠ some id := fun about =>
        alone ⟨action, effects⟩ (by simp) ((stepped_of_step stepped).begins_of_fresh still about)
      refine ⟨((stepped_of_step stepped).call?_of_other other).trans still, ?_⟩
      intro moment member
      rcases List.mem_append.mp member with before | now
      · exact silent moment before
      · cases List.mem_singleton.mp now
        exact other

/-! ### A live call -/

/-- What a step does to a live call that it is about. -/
inductive Proceeds (hub : Hub) (id : CallId) (call : Call) :
    Action → Hub → List Effect → Prop where
  | peeked {first : Option Message} {supply : Option Failure} {next : Hub} {effects : List Effect}
      (peeking : call.phase = .peeking)
      (dispatching : Dispatching hub id call (.ofFirst first) supply next effects) :
      Proceeds hub id call (.firstRequest id (.ok first) supply) next effects
  | gaveUp {action : Action} {failure : Failure} (peeking : call.phase = .peeking)
      (givesUp : GivesUp id action failure) :
      Proceeds hub id call action (hub.dropCall id).endCall [.exited id (.failed failure)]
  | delivered {slot : Nat} {opening : Opening} {firstKey key : Option String} {response : Message}
      (waiting : call.phase = .waiting slot opening firstKey)
      (read : keyAfter call.rule firstKey response = .ok key) :
      Proceeds hub id call (.respond id response)
        (hub.setCall id { call with phase := .paused slot opening key }) [.delivered id response]
  | resumed {slot : Nat} {opening : Opening} {firstKey : Option String}
      (paused : call.phase = .paused slot opening firstKey) :
      Proceeds hub id call (.read id)
        (hub.setCall id { call with phase := .waiting slot opening firstKey }) []
  | completed {action : Action} {slot : Nat} {opening : Opening} {firstKey : Option String}
      {effect : IndexEffect} {notes : List Note} {success : Outcome}
      (waiting : call.phase = .waiting slot opening firstKey)
      (completes : Completes call opening firstKey id action (.ok (effect, notes)) success) :
      Proceeds hub id call action
        ((hub.applyEffect slot effect).2.1.exitPlaced id slot
          (success.afterEffect (hub.applyEffect slot effect).1)).1
        ((hub.applyEffect slot effect).2.1.exitPlaced id slot
          (success.afterEffect (hub.applyEffect slot effect).1)).2
  | left {action : Action} {slot : Nat} {outcome : Outcome}
      (leaves : Leaves call id slot action outcome) :
      Proceeds hub id call action (hub.exitPlaced id slot outcome).1
        (hub.exitPlaced id slot outcome).2

/-- A step about a live call keeps it live, possibly elsewhere, or lets it exit. -/
theorem Stepped.proceeds {call : Call} (stepped : Stepped hub action next effects)
    (live : hub.call? id = some call) (about : action.call? = some id) :
    Proceeds hub id call action next effects := by
  have known : ∀ {asking}, action.call? = some asking → hub.call? asking = none → False := by
    intro asking concerns fresh
    rw [about] at concerns
    cases concerns
    rw [live] at fresh
    cases fresh
  have same : ∀ {asking other}, action.call? = some asking → hub.call? asking = some other →
      asking = id ∧ other = call := by
    intro asking other concerns found
    rw [about] at concerns
    cases concerns
    rw [live] at found
    cases found
    exact ⟨rfl, rfl⟩
  cases stepped with
  | refused begins fresh closing => exact absurd fresh (known (Action.call?_of_begins begins))
  | waits fresh unclosed many reads => exact absurd fresh (known rfl)
  | begins fresh unclosed starts dispatching =>
      exact absurd fresh (known (Action.call?_of_begins starts.begins))
  | peeked found peeking dispatching =>
      obtain ⟨rfl, rfl⟩ := same rfl found
      exact .peeked peeking dispatching
  | gaveUp found peeking givesUp =>
      obtain ⟨rfl, rfl⟩ := same givesUp.about found
      exact .gaveUp peeking givesUp
  | delivered found waiting streams read =>
      obtain ⟨rfl, rfl⟩ := same rfl found
      exact .delivered waiting read
  | resumed found paused =>
      obtain ⟨rfl, rfl⟩ := same rfl found
      exact .resumed paused
  | completed found waiting completes =>
      obtain ⟨rfl, rfl⟩ := same completes.about found
      exact .completed waiting completes
  | left found leaves =>
      obtain ⟨rfl, rfl⟩ := same leaves.about found
      exact .left leaves
  | background background =>
      rw [background.call?] at about
      cases about

/-! ### What is made known -/

/-- A call that asks for a channel makes nothing known of any other call. -/
theorem Dispatching.about_of_effect {call : Call} {opening : Opening} {supply : Option Failure}
    (dispatching : Dispatching hub asking call opening supply next effects) {effect : Effect}
    (told : effect ∈ effects) (about : effect.call? = some id) : id = asking := by
  cases dispatching with
  | unreadable unread =>
      cases List.mem_singleton.mp told
      exact (Option.some.inj about).symm
  | unsupplied read unbound saturated supplied =>
      rcases List.mem_cons.mp told with rfl | last
      · cases about
      · cases List.mem_singleton.mp last
        exact (Option.some.inj about).symm
  | placed read placing =>
      rcases List.mem_append.mp told with creation | last
      · cases placing with
        | made unbound saturated supplied =>
            cases List.mem_singleton.mp creation
            cases about
        | _ => cases creation
      · cases List.mem_singleton.mp last
        exact (Option.some.inj about).symm

/-- A call that exits makes nothing known of any other call. -/
theorem about_of_exitPlaced {slot : Nat} {outcome : Outcome} {effect : Effect}
    (told : effect ∈ (hub.exitPlaced asking slot outcome).2) (about : effect.call? = some id) :
    id = asking := by
  obtain ⟨shown, exits⟩ := exitPlaced_effects hub asking slot outcome
  rw [exits] at told
  cases List.mem_singleton.mp told
  exact (Option.some.inj about).symm

/-- What a step makes known of a call it makes known in an action about that
call. -/
theorem Stepped.about_of_effect (stepped : Stepped hub action next effects) {effect : Effect}
    (told : effect ∈ effects) (about : effect.call? = some id) : action.call? = some id := by
  cases stepped with
  | refused begins fresh closing =>
      cases List.mem_singleton.mp told
      rw [Action.call?_of_begins begins]
      exact about
  | waits fresh unclosed many reads =>
      cases List.mem_singleton.mp told
      exact about
  | begins fresh unclosed starts dispatching =>
      rw [Action.call?_of_begins starts.begins]
      rcases List.mem_cons.mp told with rfl | later
      · exact about
      · rw [dispatching.about_of_effect later about]
  | peeked live peeking dispatching =>
      rw [dispatching.about_of_effect told about]
      rfl
  | gaveUp live peeking givesUp =>
      cases List.mem_singleton.mp told
      rw [givesUp.about]
      exact about
  | delivered live waiting streams read =>
      cases List.mem_singleton.mp told
      exact about
  | resumed live paused => cases told
  | completed live waiting completes =>
      rw [completes.about, about_of_exitPlaced told about]
  | left live leaves => rw [leaves.about, about_of_exitPlaced told about]
  | background background =>
      have late := background.effects effect told
      cases effect with
      | closing | returned | thwarted => cases about
      | _ => cases late

/-- What a step makes known of a call, it makes known in an action about that call. -/
theorem about_of_step (stepped : hub.step action = some (next, effects)) {effect : Effect}
    (told : effect ∈ effects) (about : effect.call? = some id) : action.call? = some id := by
  refine (stepped_of_step stepped).about_of_effect ((mem_withoutNotes ?_).mpr told) about
  cases effect <;> first | rfl | cases about

/-- What a run makes known of a call it makes known in a moment about that call. -/
theorem History.about_of_effect {start : Hub} {past : List Moment}
    (ran : History start past hub) {effect : Effect} (told : effect ∈ effectsOf past)
    (about : effect.call? = some id) :
    ∃ moment ∈ past, moment.action.call? = some id ∧ effect ∈ moment.effects := by
  induction ran with
  | begin => cases told
  | @next past hub after action effects earlier stepped ih =>
      rw [effectsOf_append, List.mem_append] at told
      rcases told with before | now
      · obtain ⟨moment, member, rest⟩ := ih before
        exact ⟨moment, List.mem_append_left _ member, rest⟩
      · have here : effect ∈ effects := by simpa using now
        exact ⟨⟨action, effects⟩, by simp, about_of_step stepped here about, here⟩

/-- What is picked from effects about a call is not found in a step about
another. -/
theorem filterMap_of_other {α : Type} {pick : Effect → Option α}
    (picks : ∀ effect, (pick effect).isSome = true → effect.call? = some id)
    (stepped : hub.step action = some (next, effects)) (other : action.call? ≠ some id) :
    effects.filterMap pick = [] := by
  apply List.filterMap_eq_nil_iff.mpr
  intro effect told
  by_contra found
  exact other (about_of_step stepped told (picks effect (Option.isSome_iff_ne_none.mpr found)))

end Hub

end AffinityPool
