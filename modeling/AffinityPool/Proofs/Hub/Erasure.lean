/-
Module: AffinityPool.Proofs.Hub.Erasure
Purpose: Calls for which no channel could be made can be left out of a run: without them the run
  goes on, and it leads to the same hub.
Main exports:
  Moment.ends, Moment.isUnsupplied, leftOut, kept, Hub.Unsupplied, Hub.Stepped.unsupplied, Hub.Fate,
  Hub.Stepped.fate, Hub.History.leftOut_of_placed, Hub.without_of_leftOut, Hub.Erased,
  Hub.History.exists_erased
-/
import AffinityPool.Proofs.Hub.Load
import AffinityPool.Proofs.Hub.Residue
import AffinityPool.Proofs.Hub.Rest
import AffinityPool.Proofs.Hub.Separation

namespace AffinityPool

/-!
When a call starts nobody can tell whether a channel can be made for it.  Which calls are
left out of a run is told by what comes later, up to their exit, so an induction along a
run has to carry what is still to come.  At each moment it compares the hub, without those of
its live calls that are left out, with the hub of a run in which they never were.
-/

/-! ### Leaving out calls of a run -/

/-- Whether a call exits with an effect. -/
def Effect.ends (id : CallId) : Effect → Bool
  | .exited other _ => other = id
  | _ => false

/-- Whether an effect tells that a channel could not be made. -/
def Effect.isFailedCreation : Effect → Bool
  | .creationFailed => true
  | _ => false

/-- Whether a call exits in a moment. -/
def Moment.ends (id : CallId) (moment : Moment) : Bool := moment.effects.any (Effect.ends id)

/-- Whether a channel could not be made in a moment. -/
def Moment.isUnsupplied (moment : Moment) : Bool := moment.effects.any Effect.isFailedCreation

/-- A moment is without a channel for its call if it tells of a factory that failed. -/
theorem Moment.isUnsupplied_iff {moment : Moment} :
    moment.isUnsupplied = true ↔ .creationFailed ∈ moment.effects := by
  unfold isUnsupplied
  rw [List.any_eq_true]
  constructor
  · rintro ⟨effect, member, failed⟩
    cases effect with
    | creationFailed => exact member
    | _ => cases failed
  · intro member
    exact ⟨_, member, rfl⟩

/-- Whether a call is left out, before some moments.  Left out are calls that exit because no
channel could be made for them, as chosen by their name and by what happens after their exit. -/
def leftOut (chosen : CallId → List Moment → Bool) : List Moment → CallId → Bool
  | [], _ => false
  | moment :: later, id =>
      if moment.ends id then moment.isUnsupplied && chosen id later else leftOut chosen later id

/-- Whether a moment is about a call that is left out. -/
def Moment.isLeftOut (chosen : CallId → List Moment → Bool) (moment : Moment)
    (later : List Moment) : Bool :=
  match moment.action.call? with
  | some id => leftOut chosen (moment :: later) id
  | none => false

/-- The moments of a run that are not about a call that is left out; more of the run comes
after them. -/
def kept (chosen : CallId → List Moment → Bool) : List Moment → List Moment → List Moment
  | [], _ => []
  | moment :: later, after =>
      if moment.isLeftOut chosen (later ++ after) then kept chosen later after
      else moment :: kept chosen later after

section

variable {chosen : CallId → List Moment → Bool}

/-- Where a call ends it is decided whether it is left out. -/
theorem leftOut_of_ends {moment : Moment} {id : CallId} (ends : moment.ends id = true)
    (later : List Moment) :
    leftOut chosen (moment :: later) id = (moment.isUnsupplied && chosen id later) := by
  rw [leftOut, if_pos ends]

/-- Before a call ends its later moments decide whether it is left out. -/
theorem leftOut_of_stays {moment : Moment} {id : CallId} (stays : moment.ends id = false)
    (later : List Moment) : leftOut chosen (moment :: later) id = leftOut chosen later id := by
  rw [leftOut, stays]
  rfl

/-- What is kept of a run is kept of its parts, with a view to what comes behind each. -/
theorem kept_append (before after rest : List Moment) :
    kept chosen (before ++ after) rest =
      kept chosen before (after ++ rest) ++ kept chosen after rest := by
  induction before with
  | nil => rfl
  | cons moment later ih =>
      simp only [List.cons_append, kept, ih, List.append_assoc]
      split
      · rfl
      · rfl

/-- A moment that is not left out is the last that is kept. -/
theorem kept_snoc_of_stays {moment : Moment} {after : List Moment}
    (stays : moment.isLeftOut chosen after = false) (past : List Moment) :
    kept chosen (past ++ [moment]) after = kept chosen past (moment :: after) ++ [moment] := by
  simp [kept_append, kept, stays]

/-- A moment that is left out is not kept. -/
theorem kept_snoc_of_leftOut {moment : Moment} {after : List Moment}
    (out : moment.isLeftOut chosen after = true) (past : List Moment) :
    kept chosen (past ++ [moment]) after = kept chosen past (moment :: after) := by
  simp [kept_append, kept, out]

end

namespace Hub

variable {chosen : CallId → List Moment → Bool} {hub next last other : Hub} {action : Action}
  {effects : List Effect} {id : CallId} {later : List Moment}

/-! ### Exits -/

/-- Notes end no call. -/
theorem any_ends_withoutNotes (effects : List Effect) (id : CallId) :
    (withoutNotes effects).any (Effect.ends id) = effects.any (Effect.ends id) := by
  simp only [withoutNotes, List.any_filter]
  congr 1
  funext effect
  cases effect <;> rfl

/-- No call exits in a step about another. -/
theorem stays_of_other (stepped : hub.step action = some (next, effects))
    (other : action.call? ≠ some id) : Moment.ends id ⟨action, effects⟩ = false := by
  apply Bool.eq_false_iff.mpr
  intro ends
  obtain ⟨effect, told, exits⟩ := List.any_eq_true.mp ends
  cases effect with
  | exited exiting outcome =>
      have same : exiting = id := of_decide_eq_true exits
      subst same
      exact other (about_of_step stepped told rfl)
  | _ => cases exits

/-! ### Calls without a channel -/

/-- No channel could be made for a call: it exits at once, or after its first request has
come. -/
inductive Unsupplied (hub : Hub) (id : CallId) (failure : Failure) :
    Action → Hub → List Effect → Prop where
  | atOnce {action : Action} {call : Call} {opening : Opening} (fresh : hub.call? id = none)
      (unclosed : hub.closing = false)
      (starts : Starts hub id action call opening (some failure))
      (saturated : hub.pool.reusable? = none) :
      Unsupplied hub id failure action ((hub.withAdmitted id call).dropCall id).endCall
        [.admitted id, .creationFailed, .exited id (.failed failure)]
  | afterPeek {call : Call} {first : Option Message} (live : hub.call? id = some call)
      (peeking : call.phase = .peeking) (saturated : hub.pool.reusable? = none) :
      Unsupplied hub id failure (.firstRequest id (.ok first) (some failure))
        (hub.dropCall id).endCall [.creationFailed, .exited id (.failed failure)]

/-- A call that exits tells of no factory that failed. -/
theorem not_creationFailed_of_exitPlaced {slot : Nat} {outcome : Outcome} :
    Effect.creationFailed ∉ (hub.exitPlaced id slot outcome).2 := by
  obtain ⟨shown, exits⟩ := exitPlaced_effects hub id slot outcome
  rw [exits]
  simp

/-- If a call that asks for a channel tells of a factory that failed, it has exited with that
failure, and nothing else has changed. -/
theorem Dispatching.unsupplied_of_failed {call : Call} {opening : Opening}
    {supply : Option Failure} (dispatching : Dispatching hub id call opening supply next effects)
    (failed : .creationFailed ∈ effects) :
    ∃ failure, supply = some failure ∧ hub.pool.reusable? = none ∧
      next = (hub.dropCall id).endCall ∧
        effects = [.creationFailed, .exited id (.failed failure)] := by
  cases dispatching with
  | unreadable unread => simp at failed
  | unsupplied read unbound saturated supplied => exact ⟨_, supplied, saturated, rfl, rfl⟩
  | placed read placing =>
      exfalso
      cases placing <;> simp at failed

/-- Whenever a channel could not be made, a call exits for it. -/
theorem Stepped.unsupplied (stepped : Stepped hub action next effects)
    (failed : .creationFailed ∈ effects) :
    ∃ id failure, Unsupplied hub id failure action next effects := by
  cases stepped with
  | refused begins fresh closing => simp at failed
  | waits fresh unclosed many reads => simp at failed
  | begins fresh unclosed starts dispatching =>
      have inside : Effect.creationFailed ∈ _ :=
        (List.mem_cons.mp failed).resolve_left (by simp)
      obtain ⟨failure, rfl, saturated, rfl, rfl⟩ := dispatching.unsupplied_of_failed inside
      exact ⟨_, failure, .atOnce fresh unclosed starts saturated⟩
  | peeked live peeking dispatching =>
      obtain ⟨failure, rfl, saturated, rfl, rfl⟩ := dispatching.unsupplied_of_failed failed
      exact ⟨_, failure, .afterPeek live peeking saturated⟩
  | gaveUp live peeking givesUp => simp at failed
  | delivered live waiting streams read => simp at failed
  | resumed live paused => cases failed
  | completed live waiting completes => exact absurd failed not_creationFailed_of_exitPlaced
  | left live leaves => exact absurd failed not_creationFailed_of_exitPlaced
  | background background =>
      cases background.effects _ failed

/-- The action that leaves a call without a channel is about that call. -/
theorem Unsupplied.about {failure : Failure}
    (unsupplied : Unsupplied hub id failure action next effects) : action.call? = some id := by
  cases unsupplied with
  | atOnce fresh unclosed starts saturated => exact Action.call?_of_begins starts.begins
  | afterPeek live peeking saturated => rfl

/-- What has become of a call in a step about it. -/
inductive Fate (hub : Hub) (id : CallId) (next : Hub) (effects : List Effect) : Prop where
  | gone (ends : effects.any (Effect.ends id) = true) (dead : next.call? id = none)
  | placed {call : Call} {slot : Nat} (stays : effects.any (Effect.ends id) = false)
      (live : next.call? id = some call) (occupies : call.phase.slot? = some slot)
  | waits {call : Call} (fresh : hub.call? id = none) (told : effects = [.admitted id])
      (peeking : call.phase = .peeking) (enters : next = hub.withAdmitted id call)

/-- A call that exits from its channel ends there. -/
theorem fate_exitPlaced (hub start : Hub) (id : CallId) (slot : Nat) (outcome : Outcome) :
    Fate start id (hub.exitPlaced id slot outcome).1 (hub.exitPlaced id slot outcome).2 := by
  obtain ⟨shown, exits⟩ := exitPlaced_effects hub id slot outcome
  apply Fate.gone
  · rw [exits]
    simp [Effect.ends]
  · exact call?_of_drop_self (calls_exitPlaced ..)

/-- A call that asks for a channel stays live or ends there. -/
theorem Dispatching.fate {call : Call} {opening : Opening} {supply : Option Failure}
    (dispatching : Dispatching hub id call opening supply next effects) (start : Hub)
    {before : List Effect} (stays : before.any (Effect.ends id) = false) :
    Fate start id next (before ++ effects) := by
  cases dispatching with
  | unreadable unread => exact .gone (by simp [Effect.ends]) (call?_of_drop_self rfl)
  | unsupplied read unbound saturated supplied =>
      exact .gone (by simp [Effect.ends]) (call?_of_drop_self rfl)
  | @placed key notes slot pool creation read placing =>
      have silent : (creation ++ [Effect.dispatched id slot call.shape call.method opening]).any
          (Effect.ends id) = false := by
        cases placing <;> rfl
      refine .placed ?_ (call?_of_put_self rfl) rfl
      rw [List.any_append, stays, silent]
      rfl

/-- A call that a step is about stays live or ends in it. -/
theorem Stepped.fate (stepped : Stepped hub action next effects)
    (about : action.call? = some id) : Fate hub id next effects := by
  cases stepped with
  | refused begins fresh closing =>
      rw [Action.call?_of_begins begins] at about
      cases about
      exact .gone (by simp [Effect.ends]) fresh
  | waits fresh unclosed many reads =>
      cases about
      exact .waits fresh rfl rfl rfl
  | begins fresh unclosed starts dispatching =>
      rw [Action.call?_of_begins starts.begins] at about
      cases about
      have stays : [Effect.admitted id].any (Effect.ends id) = false := rfl
      exact dispatching.fate hub stays
  | peeked live peeking dispatching =>
      cases about
      have stays : [].any (Effect.ends id) = false := rfl
      exact dispatching.fate hub stays
  | gaveUp live peeking givesUp =>
      rw [givesUp.about] at about
      cases about
      exact .gone (by simp [Effect.ends]) (call?_of_drop_self rfl)
  | delivered live waiting streams read =>
      cases about
      exact .placed rfl (call?_of_put_self rfl) rfl
  | resumed live paused =>
      cases about
      exact .placed rfl (call?_of_put_self rfl) rfl
  | completed live waiting completes =>
      rw [completes.about] at about
      cases about
      exact fate_exitPlaced ..
  | left live leaves =>
      rw [leaves.about] at about
      cases about
      exact fate_exitPlaced ..
  | background background =>
      rw [background.call?] at about
      cases about

/-- A call that has a channel does not fail for want of one. -/
theorem Unsupplied.unplaced {failure : Failure} {call : Call} {slot : Nat}
    (unsupplied : Unsupplied hub id failure action next effects)
    (live : hub.call? id = some call) : call.phase.slot? ≠ some slot := by
  cases unsupplied with
  | atOnce fresh unclosed starts saturated =>
      rw [fresh] at live
      cases live
  | afterPeek found peeking saturated =>
      rw [live] at found
      cases found
      rw [peeking]
      exact nofun

/-- A call that has a channel is never left out. -/
theorem History.leftOut_of_placed (ran : History hub later last) {call : Call} {slot : Nat}
    (live : hub.call? id = some call) (placed : call.phase.slot? = some slot) :
    leftOut chosen later id = false := by
  induction later generalizing hub call slot with
  | nil => rfl
  | cons moment later ih =>
      obtain ⟨next, taken, onward⟩ := ran.uncons
      have stepped := stepped_of_step taken
      by_cases about : moment.action.call? = some id
      · have supplied : moment.isUnsupplied = false := by
          apply Bool.eq_false_iff.mpr
          intro failed
          obtain ⟨asking, failure, unsupplied⟩ :=
            stepped.unsupplied ((mem_withoutNotes rfl).mpr (Moment.isUnsupplied_iff.mp failed))
          have same := unsupplied.about
          rw [about] at same
          cases same
          exact unsupplied.unplaced live placed
        cases stepped.fate about with
        | gone ends dead =>
            rw [any_ends_withoutNotes] at ends
            rw [leftOut_of_ends ends, supplied, Bool.false_and]
        | placed stays still occupies =>
            rw [any_ends_withoutNotes] at stays
            rw [leftOut_of_stays stays]
            exact ih onward still occupies
        | waits fresh told peeking enters =>
            rw [live] at fresh
            cases fresh
      · rw [leftOut_of_stays (stays_of_other taken about)]
        exact ih onward ((stepped.call?_of_other about).trans live) placed

/-! ### One step -/

/-- Only who exits in a moment may be left out before it and not after it. -/
theorem without_leftOut_cons (stepped : hub.step action = some (next, effects))
    {calls : Ledger Call}
    (apart : ∀ entry ∈ calls, action.call? = some entry.1 →
      Moment.ends entry.1 ⟨action, effects⟩ = false) :
    calls.without (leftOut chosen (⟨action, effects⟩ :: later)) =
      calls.without (leftOut chosen later) := by
  apply Ledger.without_congr
  intro entry member
  apply leftOut_of_stays
  by_cases about : action.call? = some entry.1
  · exact apart entry member about
  · exact stays_of_other stepped about

/-- A step about a call that is left out cannot be seen in what is left. -/
theorem without_of_leftOut (stepped : hub.step action = some (next, effects))
    (onward : History next later last) (about : action.call? = some id)
    (left : leftOut chosen (⟨action, effects⟩ :: later) id = true) (inFlight : Int)
    (drained : Bool) (drain : Drain) :
    next.without (leftOut chosen later) inFlight drained drain =
      hub.without (leftOut chosen (⟨action, effects⟩ :: later)) inFlight drained drain := by
  have stood := stepped_of_step stepped
  by_cases ends : Moment.ends id ⟨action, effects⟩ = true
  · -- It exits, and nothing of it remains.
    have gone := left
    rw [leftOut_of_ends ends, Bool.and_eq_true] at left
    have dropped : ∀ calls : Ledger Call, (calls.drop id).without (leftOut chosen later) =
        calls.without (leftOut chosen (⟨action, effects⟩ :: later)) := by
      intro calls
      rw [← without_leftOut_cons stepped, Ledger.without_drop_gone gone]
      intro entry member same
      rw [about] at same
      cases same
      simp [Ledger.drop] at member
    obtain ⟨asking, failure, unsupplied⟩ :=
      stood.unsupplied ((mem_withoutNotes rfl).mpr (Moment.isUnsupplied_iff.mp left.1))
    generalize withoutNotes effects = told at unsupplied
    cases unsupplied with
    | @atOnce _ call opening fresh unclosed starts saturated =>
        rw [Action.call?_of_begins starts.begins] at about
        cases about
        have calls := (dropped (hub.withAdmitted id call).calls).trans
          (Ledger.without_put_gone gone fresh call)
        exact congrArg (fun calls => { hub with calls, inFlight, drained, drain }) calls
    | afterPeek live peeking saturated =>
        cases about
        exact congrArg (fun calls => { hub with calls, inFlight, drained, drain }) (dropped _)
  · -- It has only begun to wait.
    have stays : Moment.ends id ⟨action, effects⟩ = false := Bool.eq_false_iff.mpr ends
    rw [leftOut_of_stays stays] at left
    cases stood.fate about with
    | gone exits dead =>
        rw [any_ends_withoutNotes] at exits
        exact absurd exits ends
    | placed still live occupies =>
        rw [onward.leftOut_of_placed live occupies] at left
        cases left
    | @waits call fresh told peeking enters =>
        subst enters
        have calls : Ledger.without (leftOut chosen later) (Ledger.put hub.calls id call) =
            Ledger.without (leftOut chosen (⟨action, effects⟩ :: later)) hub.calls := by
          rw [Ledger.without_put_gone left fresh, without_leftOut_cons stepped]
          intro entry member same
          rw [about] at same
          cases same
          exact stays
        exact congrArg (fun calls => { hub with calls, inFlight, drained, drain }) calls

/-- After a step about another call the same calls are left out as before. -/
theorem without_of_carried (stepped : hub.step action = some (next, effects))
    (about : action.call? = some id) (inFlight : Int) (drained : Bool) (drain : Drain) :
    next.without (leftOut chosen (⟨action, effects⟩ :: later)) inFlight drained drain =
      next.without (leftOut chosen later) inFlight drained drain := by
  have calls : Ledger.without (leftOut chosen (⟨action, effects⟩ :: later)) next.calls =
      Ledger.without (leftOut chosen later) next.calls := by
    apply without_leftOut_cons stepped
    intro entry member same
    rw [about] at same
    cases same
    cases (stepped_of_step stepped).fate about with
    | gone ends dead => exact absurd rfl (Ledger.get?_eq_none_iff.mp dead entry member)
    | placed still live occupies => exact (any_ends_withoutNotes ..).symm.trans still
    | waits fresh told peeking enters =>
        refine (any_ends_withoutNotes ..).symm.trans ?_
        rw [told]
        rfl
  exact congrArg (fun calls => { next with calls, inFlight, drained, drain }) calls

/-! ### Runs -/

variable {rules : RuleTable} {limits : Limits} {past after repeated : List Moment}
  {gone : CallId → Bool}

/-- As many calls are in flight as are live. -/
theorem History.counted (ran : History (fresh rules limits) past hub) :
    hub.inFlight = hub.calls.length := by
  rw [ran.balanced.inFlight, Ledger.count_true, ran.registered.agree.length_eq]

/-- Without calls in flight there are none when some are left out. -/
theorem idle_of_without (ran : History (fresh rules limits) past hub)
    (again : History (fresh rules limits) repeated other)
    (rest : other = hub.without gone other.inFlight other.drained other.drain)
    (idle : hub.inFlight = 0) : other.inFlight = 0 := by
  have none : hub.calls = [] := by
    rw [ran.counted] at idle
    exact List.eq_nil_of_length_eq_zero (by omega)
  have calls : other.calls = [] := by
    rw [rest]
    simp [without, Ledger.without, none]
  rw [again.counted, calls]
  rfl

/-- A run without some calls for which no channel could be made. -/
structure Erased (rules : RuleTable) (limits : Limits) (chosen : CallId → List Moment → Bool)
    (past after : List Moment) (hub : Hub) (repeated : List Moment) (other : Hub) : Prop where
  ran : History (fresh rules limits) repeated other
  rest : other = hub.without (leftOut chosen after) other.inFlight other.drained other.drain
  signal : hub.drained = true → other.drained = true
  stage : hub.drain.Alike other.drain
  repeats : List.Forall₂ Moment.Repeats (kept chosen past after) repeated
  /-- Before a shutdown the very same happens. -/
  exactly : hub.closing = false → repeated = kept chosen past after

/-- A hub without some of its calls closes when the hub does. -/
theorem closing_of_without
    (rest : other = hub.without gone other.inFlight other.drained other.drain) :
    other.closing = hub.closing := by
  rw [rest]
  rfl

/-- The signal is given in both runs. -/
theorem signal_of_without (ran : History (fresh rules limits) past hub)
    (again : History (fresh rules limits) repeated other)
    (rest : other = hub.without gone other.inFlight other.drained other.drain)
    (closing : hub.closing = true) (idle : hub.inFlight = 0) : other.drained = true := by
  apply again.signalled
  · rw [closing_of_without rest]
    exact closing
  · exact idle_of_without ran again rest idle

/-- Before a shutdown there was none. -/
theorem History.unclosed (ran : History hub later last) (unclosed : last.closing = false) :
    hub.closing = false := by
  apply Bool.eq_false_iff.mpr
  intro closing
  rw [ran.closing closing] at unclosed
  cases unclosed

/-- A hub that is not closing after a step was not closing before it. -/
theorem unclosed_of_step (stepped : hub.step action = some (next, effects)) :
    next.closing = false → hub.closing = false :=
  (History.next .begin stepped).unclosed

/-- A step about a call either tells a signal that was given or gives it now. -/
theorem signal_of_step (stepped : hub.step action = some (next, effects))
    (about : action.call? = some id) (given : next.drained = true) :
    hub.drained = true ∨ next.closing = true ∧ next.inFlight = 0 := by
  rcases (stepped_of_step stepped).carries_or_background with carries | background
  · exact carries.signal given
  · rw [background.call?] at about
    cases about

/-- A step about a call leaves the drain where it is. -/
theorem drain_of_step (stepped : hub.step action = some (next, effects))
    (about : action.call? = some id) : next.drain = hub.drain := by
  rcases (stepped_of_step stepped).sameLife_or_background with same | background
  · exact same.drain
  · rw [background.call?] at about
    cases about

namespace Erased

/-- Nothing is left out before the first moment. -/
theorem begin :
    Erased rules limits chosen [] after (fresh rules limits) [] (fresh rules limits) where
  ran := .begin
  rest := rfl
  signal := id
  stage := .same
  repeats := .nil
  exactly := fun _ => rfl

variable (erased : Erased rules limits chosen past (⟨action, effects⟩ :: after) hub repeated other)
  (ran : History (fresh rules limits) past hub)
  (stepped : hub.step action = some (next, effects))

include erased ran stepped

/-- A moment about a call that is left out is left out. -/
theorem leaveOut (onward : History next after last) (about : action.call? = some id)
    (left : leftOut chosen (⟨action, effects⟩ :: after) id = true) :
    Erased rules limits chosen (past ++ [⟨action, effects⟩]) after next repeated other := by
  have out : Moment.isLeftOut chosen ⟨action, effects⟩ after = true := by
    simp only [Moment.isLeftOut, about, left]
  have rest : other =
      next.without (leftOut chosen after) other.inFlight other.drained other.drain := by
    rw [without_of_leftOut stepped onward about left]
    exact erased.rest
  have drain : next.drain = hub.drain := drain_of_step stepped about
  refine ⟨erased.ran, rest, ?_, drain ▸ erased.stage, ?_, ?_⟩
  · intro given
    rcases signal_of_step stepped about given with before | ⟨closing, idle⟩
    · exact erased.signal before
    · exact signal_of_without (ran.next stepped) erased.ran rest closing idle
  · rw [kept_snoc_of_leftOut out]
    exact erased.repeats
  · intro unclosed
    rw [kept_snoc_of_leftOut out]
    exact erased.exactly (unclosed_of_step stepped unclosed)

/-- A moment about another call happens again. -/
theorem carry (about : action.call? = some id)
    (stays : leftOut chosen (⟨action, effects⟩ :: after) id = false) :
    ∃ repeated other,
      Erased rules limits chosen (past ++ [⟨action, effects⟩]) after next repeated other := by
  obtain ⟨inFlight, now, taken, signal⟩ :=
    hub.exists_step_without other.inFlight other.drained other.drain stays about stepped
  rw [← erased.rest, without_of_carried stepped about] at taken
  have out : Moment.isLeftOut chosen ⟨action, effects⟩ after = false := by
    simp only [Moment.isLeftOut, about, stays]
  have again := erased.ran.next taken
  have drain : next.drain = hub.drain := drain_of_step stepped about
  refine ⟨_, _, again, rfl, ?_, drain ▸ erased.stage, ?_, ?_⟩
  · intro given
    rcases signal_of_step stepped about given with before | ⟨closing, idle⟩
    · exact signal (erased.signal before)
    · exact signal_of_without (ran.next stepped) again rfl closing idle
  · rw [kept_snoc_of_stays out]
    exact List.rel_append erased.repeats (.cons .same .nil)
  · intro unclosed
    rw [kept_snoc_of_stays out, erased.exactly (unclosed_of_step stepped unclosed)]

/-- A moment about no call happens again. -/
theorem echo (silent : action.call? = none) :
    ∃ repeated other,
      Erased rules limits chosen (past ++ [⟨action, effects⟩]) after next repeated other := by
  have alike : leftOut chosen (⟨action, effects⟩ :: after) = leftOut chosen after := by
    funext id
    apply leftOut_of_stays
    apply stays_of_other stepped
    rw [silent]
    exact nofun
  have out : Moment.isLeftOut chosen ⟨action, effects⟩ after = false := by
    simp only [Moment.isLeftOut, silent]
  have fewer : hub.inFlight = 0 → other.inFlight = 0 := idle_of_without ran erased.ran erased.rest
  cases echo_of_silent silent stepped erased.signal fewer erased.stage with
  | exactly taken signal stage =>
      rw [← erased.rest, alike] at taken
      refine ⟨_, _, erased.ran.next taken, rfl, signal, stage, ?_, ?_⟩
      · rw [kept_snoc_of_stays out]
        exact List.rel_append erased.repeats (.cons .same .nil)
      · intro unclosed
        rw [kept_snoc_of_stays out, erased.exactly (unclosed_of_step stepped unclosed)]
  | inShutdown taken repeats signal stage late =>
      rw [← erased.rest, alike] at taken
      refine ⟨_, _, erased.ran.next taken, rfl, signal, stage, ?_, ?_⟩
      · rw [kept_snoc_of_stays out]
        exact List.rel_append erased.repeats (.cons repeats .nil)
      · intro unclosed
        exfalso
        have closing : next.closing = true := by
          rcases late with begun | closing
          · exact (stepped_of_step stepped).closing (ran.orderly.draining begun)
          · exact closing
        rw [closing] at unclosed
        cases unclosed

end Erased

/-- Calls for which no channel could be made can be left out of a run, whichever of them are
chosen, as long as all moments about them are. -/
theorem History.exists_erased (chosen : CallId → List Moment → Bool)
    (ran : History (fresh rules limits) past hub) (onward : History hub after last) :
    ∃ repeated other, Erased rules limits chosen past after hub repeated other := by
  induction ran generalizing after last with
  | begin => exact ⟨_, _, .begin⟩
  | @next past hub next action effects earlier stepped ih =>
      have first : History hub [⟨action, effects⟩] next := .next .begin stepped
      obtain ⟨repeated, other, erased⟩ := ih (first.append onward)
      cases about : action.call? with
      | none => exact erased.echo earlier stepped about
      | some id =>
          cases left : leftOut chosen (⟨action, effects⟩ :: after) id with
          | false => exact erased.carry earlier stepped about left
          | true => exact ⟨_, _, erased.leaveOut earlier stepped onward about left⟩

end Hub

end AffinityPool
