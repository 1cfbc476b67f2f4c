/-
Module: AffinityPool.Proofs.Hub.Residue
Purpose: A hub without some of its live calls: what is left does the same with every other call, and
  what is about no call happens again, up to the numbers of calls that a shutdown tells.
Main exports:
  Ledger.without, Hub.without, Hub.SameWithout, Hub.step_without, Moment.Repeats, Hub.Echo,
  Hub.echo_of_silent
-/
import AffinityPool.Proofs.Hub.Life
import AffinityPool.Proofs.Ledger.Agreement

namespace AffinityPool

/-! ### Leaving out entries of a ledger -/

namespace Ledger

variable {α : Type} {gone : CallId → Bool} {id : CallId}

/-- A ledger without what is kept for some calls. -/
def without (gone : CallId → Bool) (ledger : Ledger α) : Ledger α :=
  ledger.filter fun entry => !gone entry.1

/-- What is left out is not found, and everything else is found as before. -/
theorem get?_without (gone : CallId → Bool) (ledger : Ledger α) (id : CallId) :
    (ledger.without gone).get? id = if gone id then none else ledger.get? id := by
  induction ledger with
  | nil => simp [without]
  | cons entry rest ih =>
      obtain ⟨key, value⟩ := entry
      unfold without at ih ⊢
      rw [get?_cons]
      by_cases dropped : gone key = true
      · have onward : (((key, value) :: rest).filter fun entry => !gone entry.1) =
            rest.filter fun entry => !gone entry.1 := by simp [dropped]
        rw [onward, ih]
        by_cases same : id = key
        · subst same
          simp [dropped]
        · simp [same]
      · have onward : (((key, value) :: rest).filter fun entry => !gone entry.1) =
            (key, value) :: rest.filter fun entry => !gone entry.1 := by simp [dropped]
        rw [onward, get?_cons, ih]
        by_cases same : id = key
        · subst same
          simp [dropped]
        · simp [same]

theorem without_drop (gone : CallId → Bool) (ledger : Ledger α) (id : CallId) :
    (ledger.drop id).without gone = (ledger.without gone).drop id := by
  simp only [without, drop, List.filter_filter, Bool.and_comm]

/-- What is left out does not notice that it is forgotten. -/
theorem without_drop_gone (dropped : gone id = true) (ledger : Ledger α) :
    (ledger.drop id).without gone = ledger.without gone := by
  rw [without_drop]
  apply drop_of_unknown
  rw [get?_without, if_pos dropped]

/-- What is not left out can be written before or after. -/
theorem without_put (kept : gone id = false) (ledger : Ledger α) (value : α) :
    (ledger.put id value).without gone = (ledger.without gone).put id value := by
  have lookup : (ledger.without gone).get? id = ledger.get? id := by
    rw [get?_without, kept]
    rfl
  unfold put
  rw [lookup]
  by_cases known : (ledger.get? id).isSome = true
  · rw [if_pos known, if_pos known]
    unfold without
    rw [List.filter_map]
    apply congrArg
    apply List.filter_congr
    intro entry member
    by_cases same : entry.1 = id <;> simp [same]
  · rw [if_neg known, if_neg known]
    simp [without, kept]

/-- What is left out does not notice that it is written. -/
theorem without_put_gone (dropped : gone id = true) {ledger : Ledger α}
    (unknown : ledger.get? id = none) (value : α) :
    (ledger.put id value).without gone = ledger.without gone := by
  rw [put_of_unknown value unknown]
  simp [without, dropped]

/-- Only the names that occur decide on what is left out. -/
theorem without_congr {other : CallId → Bool} {ledger : Ledger α}
    (same : ∀ entry ∈ ledger, gone entry.1 = other entry.1) :
    ledger.without gone = ledger.without other := by
  apply List.filter_congr
  intro entry member
  rw [same entry member]

end Ledger

/-! ### Where a drain stands -/

/-- Two drains stand at the same point; why their wait is over may differ. -/
inductive Drain.Alike : Drain → Drain → Prop where
  | same {drain : Drain} : Alike drain drain
  | resuming {expired other : Option String} : Alike (.resuming expired) (.resuming other)

/-- Drains that stand alike are equal, unless they are about to go on after their wait. -/
theorem Drain.Alike.eq_of_waits {drain other : Drain} (alike : Alike drain other)
    (waits : ∀ expired, drain ≠ .resuming expired) : other = drain := by
  cases alike with
  | same => rfl
  | resuming => exact absurd rfl (waits _)

namespace Hub

/-! ### Leaving out calls -/

/-- A hub without some of its live calls.  How many calls are in flight, whether the
signal of the last one has been given and where the drain stands are told anew. -/
def without (hub : Hub) (gone : CallId → Bool) (inFlight : Int) (drained : Bool)
    (drain : Drain) : Hub :=
  { hub with calls := Ledger.without gone hub.calls, inFlight, drained, drain }

/-- The same comes out of a hub without some of its calls; a signal that was given is not
taken back. -/
inductive SameWithout (gone : CallId → Bool) (drained : Bool) (drain : Drain)
    (result : Hub × List Effect) : Hub × List Effect → Prop where
  | intro {inFlight : Int} {now : Bool} (signal : drained = true → now = true) :
      SameWithout gone drained drain result (result.1.without gone inFlight now drain, result.2)

section

variable {gone : CallId → Bool} {id : CallId} (hub : Hub) (inFlight : Int) (drained : Bool)
  (drain : Drain)

/-- A call that is not left out is found as before. -/
theorem call?_without (kept : gone id = false) :
    (hub.without gone inFlight drained drain).call? id = hub.call? id := by
  rw [call?_eq, call?_eq]
  exact (Ledger.get?_without gone hub.calls id).trans (by rw [kept]; rfl)

theorem setCall_without (kept : gone id = false) (call : Call) :
    (hub.without gone inFlight drained drain).setCall id call =
      (hub.setCall id call).without gone inFlight drained drain := by
  have calls := Ledger.without_put kept hub.calls call
  exact congrArg (fun calls => { hub with calls, inFlight, drained, drain }) calls.symm

theorem withAdmitted_without (kept : gone id = false) (call : Call) :
    (hub.without gone inFlight drained drain).withAdmitted id call =
      (hub.withAdmitted id call).without gone (inFlight + 1) drained drain :=
  setCall_without { hub with inFlight := hub.inFlight + 1 } (inFlight + 1) drained drain kept call

/-- A call without a channel exits alike when other calls are left out. -/
theorem exitUnplaced_without (id : CallId) (outcome : Outcome) :
    SameWithout gone drained drain (hub.exitUnplaced id outcome)
      ((hub.without gone inFlight drained drain).exitUnplaced id outcome) := by
  have calls := Ledger.without_drop gone hub.calls id
  have exits : (hub.without gone inFlight drained drain).exitUnplaced id outcome =
      ((hub.exitUnplaced id outcome).1.without gone (inFlight - 1)
        (drained || (hub.closing && decide (inFlight - 1 = 0))) drain, [.exited id outcome]) := by
    refine Prod.ext ?_ rfl
    exact congrArg (fun calls => { hub with
      calls
      inFlight := inFlight - 1
      drained := drained || (hub.closing && decide (inFlight - 1 = 0))
      drain }) calls.symm
  rw [exits]
  exact .intro fun before => by simp [before]

/-- A call exits from its channel alike when other calls are left out. -/
theorem exitPlaced_without (id : CallId) (slot : Nat) (outcome : Outcome) :
    SameWithout gone drained drain (hub.exitPlaced id slot outcome)
      ((hub.without gone inFlight drained drain).exitPlaced id slot outcome) := by
  have pools : (hub.without gone inFlight drained drain).pool = hub.pool := rfl
  unfold exitPlaced
  rw [pools]
  cases hub.pool.release slot with
  | ok pool => exact exitUnplaced_without { hub with pool } inFlight drained drain id outcome
  | error failure => exact exitUnplaced_without hub inFlight drained drain id _

/-! ### Being placed -/

/-- A placement in a hub without some of its calls. -/
def placedWithout (gone : CallId → Bool) (inFlight : Int) (drained : Bool) (drain : Drain)
    (placement : Placement) : Placement :=
  { placement with hub := placement.hub.without gone inFlight drained drain }

/-- The load of channels is no matter of which calls are told of. -/
theorem placeByLoad_without (method : String) (supply : Option Failure) :
    (hub.without gone inFlight drained drain).placeByLoad method supply =
      (hub.placeByLoad method supply).map (placedWithout gone inFlight drained drain) := by
  have pools : (hub.without gone inFlight drained drain).pool = hub.pool := rfl
  unfold placeByLoad
  rw [pools]
  cases hub.pool.acquire supply <;> rfl

/-- Calls are placed without a look at other calls. -/
theorem place_without (method : String) (key : Option String) (supply : Option Failure) :
    (hub.without gone inFlight drained drain).place method key supply =
      (hub.place method key supply).map (placedWithout gone inFlight drained drain) := by
  have indexes : (hub.without gone inFlight drained drain).affinity = hub.affinity := rfl
  unfold place
  cases key with
  | none => exact hub.placeByLoad_without inFlight drained drain method supply
  | some key =>
      simp only [indexes, placeByLoad_without]
      cases hub.affinity.lookup key with
      | some slot => rfl
      | none => cases hub.placeByLoad method supply <;> rfl

theorem SameWithout.after {result other : Hub × List Effect}
    (same : SameWithout gone drained drain result other) (effects : List Effect) :
    SameWithout gone drained drain (result.1, effects ++ result.2)
      (other.1, effects ++ other.2) := by
  cases same with
  | intro signal => exact .intro signal

/-- A call that is not left out asks for a channel with the same outcome. -/
theorem dispatch_without (kept : gone id = false) (call : Call) (opening : Opening)
    (supply : Option Failure) :
    SameWithout gone drained drain (hub.dispatch id call opening supply)
      ((hub.without gone inFlight drained drain).dispatch id call opening supply) := by
  unfold dispatch
  cases requestKey call.rule opening.keyRequest? with
  | error failure => exact hub.exitUnplaced_without inFlight drained drain id _
  | ok found =>
      obtain ⟨key, notes⟩ := found
      simp only [place_without]
      cases hub.place call.method key supply with
      | error refusal =>
          obtain ⟨failure, effects⟩ := refusal
          exact (hub.exitUnplaced_without inFlight drained drain id _).after drained drain
            (noted notes ++ effects)
      | ok placement =>
          simp only [Except.map, placedWithout]
          rw [setCall_without placement.hub inFlight drained drain kept]
          exact .intro fun before => before

/-! ### Exchanges -/

/-- The index is changed without a look at the live calls. -/
theorem applyEffect_without (slot : Nat) (effect : IndexEffect) :
    (hub.without gone inFlight drained drain).applyEffect slot effect =
      ((hub.applyEffect slot effect).1,
        (hub.applyEffect slot effect).2.1.without gone inFlight drained drain,
        (hub.applyEffect slot effect).2.2) := by
  cases effect <;> rfl

/-- An exchange succeeds alike when other calls are left out. -/
theorem succeed_without (id : CallId) (slot : Nat)
    (effect : Except Failure (IndexEffect × List Note)) (outcome : Outcome) :
    SameWithout gone drained drain (hub.succeed id slot effect outcome)
      ((hub.without gone inFlight drained drain).succeed id slot effect outcome) := by
  unfold succeed
  cases effect with
  | error failure => exact hub.exitPlaced_without inFlight drained drain id slot _
  | ok told =>
      obtain ⟨effect, before⟩ := told
      simp only [applyEffect_without]
      exact ((hub.applyEffect slot effect).2.1.exitPlaced_without inFlight drained drain id slot
        _).after drained drain _

/-- A response is taken alike when other calls are left out. -/
theorem respond_without (kept : gone id = false) (call : Call) (slot : Nat) (opening : Opening)
    (firstKey : Option String) (response : Message) :
    SameWithout gone drained drain (hub.respond id call slot opening firstKey response)
      ((hub.without gone inFlight drained drain).respond id call slot opening firstKey
        response) := by
  unfold respond
  split
  · cases keyAfter call.rule firstKey response with
    | error failure => exact hub.exitPlaced_without inFlight drained drain id slot _
    | ok key =>
        simp only
        rw [setCall_without hub inFlight drained drain kept]
        exact .intro fun before => before
  · exact hub.succeed_without inFlight drained drain id slot _ _

/-! ### Steps about a call -/

/-- A call with one request begins alike when other calls are left out. -/
theorem begin_without (kept : gone id = false) (shape : Shape) (method : String)
    (request : Message) (supply : Option Failure) :
    SameWithout gone drained drain (hub.begin id shape method request supply)
      ((hub.without gone inFlight drained drain).begin id shape method request supply) := by
  have gates : (hub.without gone inFlight drained drain).closing = hub.closing := rfl
  have calls : (hub.without gone inFlight drained drain).newCall shape method =
      hub.newCall shape method := rfl
  unfold begin
  rw [gates, calls]
  split
  · exact .intro fun before => before
  · simp only
    rw [withAdmitted_without hub inFlight drained drain kept]
    exact ((hub.withAdmitted id (hub.newCall shape method)).dispatch_without (inFlight + 1)
      drained drain kept (hub.newCall shape method) (.single request) supply).after drained drain
        [.admitted id]

/-- A call with a stream of requests begins alike when other calls are left out. -/
theorem beginMany_without (kept : gone id = false) (shape : Shape) (method : String)
    (supply : Option Failure) :
    SameWithout gone drained drain (hub.beginMany id shape method supply)
      ((hub.without gone inFlight drained drain).beginMany id shape method supply) := by
  have gates : (hub.without gone inFlight drained drain).closing = hub.closing := rfl
  have calls : (hub.without gone inFlight drained drain).newCall shape method =
      hub.newCall shape method := rfl
  unfold beginMany
  rw [gates, calls]
  split
  · exact .intro fun before => before
  · simp only
    rw [withAdmitted_without hub inFlight drained drain kept]
    split
    · exact .intro fun before => before
    · exact ((hub.withAdmitted id (hub.newCall shape method)).dispatch_without (inFlight + 1)
        drained drain kept (hub.newCall shape method) .untouched supply).after drained drain
        [.admitted id]

/-- A first request is taken alike when other calls are left out. -/
theorem firstRequest_without (kept : gone id = false) (call : Call)
    (result : Except Failure (Option Message)) (supply : Option Failure) :
    SameWithout gone drained drain (hub.firstRequest id call result supply)
      ((hub.without gone inFlight drained drain).firstRequest id call result supply) := by
  match result with
  | .error failure => exact hub.exitUnplaced_without inFlight drained drain id _
  | .ok none => exact hub.dispatch_without inFlight drained drain kept call .exhausted supply
  | .ok (some request) =>
      exact hub.dispatch_without inFlight drained drain kept call (.restored request) supply

/-- A step about a call happens alike when other calls are left out. -/
theorem step_without (kept : gone id = false) {action : Action} (about : action.call? = some id) :
    Option.Rel (SameWithout gone drained drain) (hub.step action)
      ((hub.without gone inFlight drained drain).step action) := by
  have known := hub.call?_without inFlight drained drain kept
  have exits : ∀ slot outcome, SameWithout gone drained drain (hub.exitPlaced id slot outcome)
      ((hub.without gone inFlight drained drain).exitPlaced id slot outcome) :=
    hub.exitPlaced_without inFlight drained drain id
  have gives : ∀ outcome, SameWithout gone drained drain (hub.exitUnplaced id outcome)
      ((hub.without gone inFlight drained drain).exitUnplaced id outcome) :=
    hub.exitUnplaced_without inFlight drained drain id
  cases action with
  | begin asking shape method request supply =>
      cases about
      simp only [step, known]
      split
      · exact .some (hub.begin_without inFlight drained drain kept shape method request supply)
      · exact .none
  | beginMany asking shape method supply =>
      cases about
      simp only [step, known]
      split
      · exact .some (hub.beginMany_without inFlight drained drain kept shape method supply)
      · exact .none
  | firstRequest asking result supply =>
      cases about
      simp only [step, known]
      cases hub.call? id with
      | none => exact .none
      | some call =>
          simp only
          split
          · exact .some (hub.firstRequest_without inFlight drained drain kept call result supply)
          · exact .none
  | respond asking response =>
      cases about
      simp only [step, known]
      cases hub.call? id with
      | none => exact .none
      | some call =>
          simp only
          cases phase : call.phase with
          | waiting slot opening firstKey =>
              exact .some
                (hub.respond_without inFlight drained drain kept call slot opening firstKey
                  response)
          | _ => exact .none
  | finish asking =>
      cases about
      simp only [step, known]
      cases hub.call? id with
      | none => exact .none
      | some call =>
          simp only
          cases phase : call.phase with
          | waiting slot opening firstKey =>
              cases streams : call.shape.streamsResponses with
              | true => exact .some (hub.succeed_without inFlight drained drain id slot _ _)
              | false => exact .none
          | _ => exact .none
  | fail asking failure =>
      cases about
      simp only [step, known]
      cases hub.call? id with
      | none => exact .none
      | some call =>
          simp only
          cases phase : call.phase with
          | waiting slot opening firstKey => exact .some (exits slot _)
          | _ => exact .none
  | read asking =>
      cases about
      simp only [step, known]
      cases hub.call? id with
      | none => exact .none
      | some call =>
          simp only
          cases phase : call.phase with
          | paused slot opening firstKey =>
              simp only [setCall_without hub inFlight drained drain kept]
              exact .some (.intro fun before => before)
          | _ => exact .none
  | abandon asking =>
      cases about
      simp only [step, known]
      cases hub.call? id with
      | none => exact .none
      | some call =>
          simp only
          cases phase : call.phase with
          | paused slot opening firstKey => exact .some (exits slot _)
          | _ => exact .none
  | abandonFails asking failure =>
      cases about
      simp only [step, known]
      cases hub.call? id with
      | none => exact .none
      | some call =>
          simp only
          cases phase : call.phase with
          | paused slot opening firstKey => exact .some (exits slot _)
          | _ => exact .none
  | cancel asking =>
      cases about
      simp only [step, known]
      cases hub.call? id with
      | none => exact .none
      | some call =>
          simp only
          cases phase : call.phase with
          | peeking => exact .some (gives _)
          | waiting slot opening firstKey => exact .some (exits slot _)
          | paused slot opening firstKey => exact .none
  | _ => cases about

/-- A step about a call that is not left out happens in the lesser hub too, tells the same, and
takes back no signal. -/
theorem exists_step_without {next : Hub} {action : Action} {effects : List Effect}
    (kept : gone id = false) (about : action.call? = some id)
    (stepped : hub.step action = some (next, effects)) :
    ∃ fewer now, (hub.without gone inFlight drained drain).step action =
      some (next.without gone fewer now drain, effects) ∧ (drained = true → now = true) := by
  have same := hub.step_without inFlight drained drain kept about
  rw [stepped] at same
  generalize (hub.without gone inFlight drained drain).step action = result at same
  cases same with
  | some same =>
      cases same with
      | intro signal => exact ⟨_, _, rfl, signal⟩

/-! ### Steps about no call -/

theorem requestTeardown_without :
    (hub.without gone inFlight drained drain).requestTeardown =
      hub.requestTeardown.without gone inFlight drained drain := by
  cases asked : hub.teardown <;> simp only [requestTeardown, without, asked]

theorem closeNext_without (later : List Nat) :
    (hub.without gone inFlight drained drain).closeNext later =
      ((hub.closeNext later).1.without gone inFlight drained drain, (hub.closeNext later).2) := by
  cases later <;> rfl

theorem closeReturns_without (slot : Nat) (later : List Nat) (failure : Option Failure) :
    (hub.without gone inFlight drained drain).closeReturns slot later failure =
      ((hub.closeReturns slot later failure).1.without gone inFlight drained drain,
        (hub.closeReturns slot later failure).2) := by
  unfold closeReturns
  rw [closeNext_without]
  split <;> rfl

/-- A close that returns touches neither the signal nor the drain. -/
theorem life_closeReturns (slot : Nat) (later : List Nat) (failure : Option Failure) :
    (hub.closeReturns slot later failure).1.drained = hub.drained ∧
      (hub.closeReturns slot later failure).1.drain = hub.drain := by
  obtain ⟨-, drain, drained⟩ := life_closeNext hub later
  unfold closeReturns
  split <;> first | exact ⟨rfl, rfl⟩ | exact ⟨drained, drain⟩

end

end Hub

/-- A moment happens again with other calls in flight: notes may tell of other numbers, and
a drain that lost its patience may instead see that no call is left. -/
inductive Moment.Repeats : Moment → Moment → Prop where
  | same {moment : Moment} : Repeats moment moment
  | quiet {action : Action} {effects told : List Effect} (silent : action.call? = none)
      (same : withoutNotes told = withoutNotes effects) : Repeats ⟨action, effects⟩ ⟨action, told⟩
  | woken {effects told : List Effect} (same : withoutNotes told = withoutNotes effects) :
      Repeats ⟨.drainExpires, effects⟩ ⟨.drainWakes, told⟩

namespace Hub

/-- How a step about no call happens again when calls are left out. -/
inductive Echo (gone : CallId → Bool) (hub : Hub) (inFlight : Int) (drained : Bool)
    (drain : Drain) (action : Action) (next : Hub) (effects : List Effect) : Prop where
  /-- The very same happens. -/
  | exactly {stage : Drain}
      (stepped : (hub.without gone inFlight drained drain).step action =
        some (next.without gone inFlight drained stage, effects))
      (signal : next.drained = true → drained = true) (alike : next.drain.Alike stage)
  /-- It is part of a shutdown, and what is left out may have been the last in flight. -/
  | inShutdown {deed : Action} {told : List Effect} {now : Bool} {stage : Drain}
      (stepped : (hub.without gone inFlight drained drain).step deed =
        some (next.without gone inFlight now stage, told))
      (repeats : Moment.Repeats ⟨action, effects⟩ ⟨deed, told⟩)
      (signal : next.drained = true → now = true) (alike : next.drain.Alike stage)
      (late : hub.drain ≠ .absent ∨ next.closing = true)

section

variable {gone : CallId → Bool} {hub next : Hub} {inFlight : Int} {drained : Bool}
  {drain : Drain} {effects : List Effect}

/-- A shutdown begins again when calls are left out; its note may tell of fewer of them. -/
theorem echo_shutdown {id : CallId} {grace : Option Grace}
    (signal : hub.drained = true → drained = true) (fewer : hub.inFlight = 0 → inFlight = 0)
    (alike : hub.drain.Alike drain)
    (stepped : hub.step (.shutdown id grace) = some (next, effects)) :
    Echo gone hub inFlight drained drain (.shutdown id grace) next effects := by
  simp only [step, Option.ite_none_right_eq_some, Option.some.injEq] at stepped
  obtain ⟨unknown, result⟩ := stepped
  have possible : (hub.without gone inFlight drained drain).step (.shutdown id grace) =
      some ((hub.without gone inFlight drained drain).shutdown id grace) := if_pos unknown
  have drains : (hub.without gone inFlight drained drain).drain = drain := rfl
  unfold shutdown at possible result
  rw [drains] at possible
  cases asked : hub.drain with
  | absent =>
      rw [asked] at result alike
      cases result
      cases alike
      have given : (hub.drained || decide (hub.inFlight = 0)) = true →
          (drained || decide (inFlight = 0)) = true := by
        intro given
        rcases Bool.or_eq_true_iff.mp given with before | idle
        · simp [signal before]
        · simp [fewer (of_decide_eq_true idle)]
      exact .inShutdown possible (.quiet rfl rfl) given .same (Or.inr rfl)
  | _ =>
      rw [asked] at result alike
      cases result
      have onward := alike
      cases alike <;> exact .exactly possible signal onward

/-- A shutdown without patience happens again when calls are left out. -/
theorem echo_shutdownNow {id : CallId} (alike : hub.drain.Alike drain)
    (stepped : hub.step (.shutdownNow id) = some (next, effects)) :
    Echo gone hub inFlight drained drain (.shutdownNow id) next effects := by
  simp only [step, Option.ite_none_right_eq_some, Option.some.injEq] at stepped
  obtain ⟨unknown, result⟩ := stepped
  have possible : (hub.without gone inFlight drained drain).step (.shutdownNow id) =
      some ((hub.without gone inFlight drained drain).shutdownNow id) := if_pos unknown
  cases result
  have asked := possible.trans (congrArg (fun hub => some (hub, _)) (requestTeardown_without
    { hub with
      closing := true
      drained := true
      waiters := hub.waiters ++ [(id, .teardown)] } inFlight true drain))
  refine .inShutdown asked (.quiet rfl rfl) (fun _ => rfl) ?_ (Or.inr (closing_requestTeardown _))
  rw [drain_requestTeardown]
  exact alike

/-- The drain starts its wait again when calls are left out. -/
theorem echo_drainStarts (signal : hub.drained = true → drained = true)
    (alike : hub.drain.Alike drain) (stepped : hub.step .drainStarts = some (next, effects)) :
    Echo gone hub inFlight drained drain .drainStarts next effects := by
  simp only [step] at stepped
  split at stepped
  · rename_i grace scheduled
    cases stepped
    rw [scheduled] at alike
    cases alike
    exact .exactly rfl signal .same
  · cases stepped

/-- A drain that the signal wakes is awake in the lesser hub as well. -/
theorem echo_drainWakes (signal : hub.drained = true → drained = true)
    (alike : hub.drain.Alike drain) (stepped : hub.step .drainWakes = some (next, effects)) :
    Echo gone hub inFlight drained drain .drainWakes next effects := by
  simp only [step] at stepped
  split at stepped
  · rename_i deadline waiting
    simp only [Option.ite_none_right_eq_some, Option.some.injEq] at stepped
    obtain ⟨given, result⟩ := stepped
    cases result
    rw [waiting] at alike
    cases alike
    cases signal given
    exact .exactly rfl signal .same
  · cases stepped

/-- A drain that would lose its patience may see that no call is left. -/
theorem echo_drainExpires (alike : hub.drain.Alike drain)
    (stepped : hub.step .drainExpires = some (next, effects)) :
    Echo gone hub inFlight drained drain .drainExpires next effects := by
  simp only [step] at stepped
  split at stepped
  · rename_i deadline shown waiting
    simp only [Option.ite_none_right_eq_some, Option.some.injEq] at stepped
    obtain ⟨⟨late, undrained⟩, result⟩ := stepped
    cases result
    have begun : hub.drain ≠ .absent := by simp [waiting]
    have ungiven : hub.drained = false := by simpa using undrained
    rw [waiting] at alike
    cases alike
    cases drained with
    | true =>
        have possible : (hub.without gone inFlight true (.waiting (some (deadline, shown)))).step
            .drainWakes = some (hub.without gone inFlight true (.resuming none), []) := rfl
        exact .inShutdown possible (.woken rfl) (fun _ => rfl) .resuming (Or.inl begun)
    | false =>
        have possible : (hub.without gone inFlight false (.waiting (some (deadline, shown)))).step
            .drainExpires = some (hub.without gone inFlight false (.resuming (some shown)), []) :=
          if_pos ⟨late, rfl⟩
        refine .exactly possible ?_ .same
        exact fun given => absurd given (by simp [ungiven])
  · cases stepped

/-- What the drain tells when it goes on depends on why its wait was over. -/
theorem echo_drainGoesOn (signal : hub.drained = true → drained = true)
    (alike : hub.drain.Alike drain) (stepped : hub.step .drainGoesOn = some (next, effects)) :
    Echo gone hub inFlight drained drain .drainGoesOn next effects := by
  simp only [step] at stepped
  split at stepped
  · rename_i expired resuming
    cases stepped
    have begun : hub.drain ≠ .absent := by simp [resuming]
    obtain ⟨other, rfl⟩ : ∃ other, drain = .resuming other := by
      rw [resuming] at alike
      cases alike <;> exact ⟨_, rfl⟩
    have joined : (hub.without gone inFlight drained .joining).requestTeardown =
        (hub.resumeDrain expired).1.without gone inFlight drained .joining :=
      requestTeardown_without { hub with drain := .joining } inFlight drained .joining
    have possible : (hub.without gone inFlight drained (.resuming other)).step .drainGoesOn =
        some ((hub.resumeDrain expired).1.without gone inFlight drained .joining,
          ((hub.without gone inFlight drained (.resuming other)).resumeDrain other).2) :=
      congrArg (fun hub => some (hub, _)) joined
    refine .inShutdown possible (.quiet rfl ?_) ?_ ?_ (Or.inl begun)
    · simp [resumeDrain]
    · rw [drained_requestTeardown]
      exact signal
    · rw [drain_requestTeardown]
      exact .same
  · cases stepped

/-- The drain comes to its end again when calls are left out. -/
theorem echo_drainReturns (signal : hub.drained = true → drained = true)
    (alike : hub.drain.Alike drain) (stepped : hub.step .drainReturns = some (next, effects)) :
    Echo gone hub inFlight drained drain .drainReturns next effects := by
  have tears : (hub.without gone inFlight drained .joining).teardown = hub.teardown := rfl
  simp only [step] at stepped
  split at stepped
  · rename_i joining finished
    cases stepped
    rw [joining] at alike
    cases alike
    exact .exactly (by simp only [step, tears, finished]; rfl) signal .same
  · rename_i joining aborted
    cases stepped
    rw [joining] at alike
    cases alike
    exact .exactly (by simp only [step, tears, aborted]; rfl) signal .same
  · cases stepped

/-- Channels are closed alike when calls are left out. -/
theorem echo_teardownStarts (signal : hub.drained = true → drained = true)
    (alike : hub.drain.Alike drain) (stepped : hub.step .teardownStarts = some (next, effects)) :
    Echo gone hub inFlight drained drain .teardownStarts next effects := by
  have tears : (hub.without gone inFlight drained drain).teardown = hub.teardown := rfl
  obtain ⟨-, drains, signals⟩ := life_closeNext hub (List.range hub.pool.size)
  simp only [step] at stepped
  split at stepped
  · rename_i scheduled
    simp only [Option.some.injEq, startTeardown] at stepped
    have possible : (hub.without gone inFlight drained drain).step .teardownStarts =
        some ((hub.without gone inFlight drained drain).closeNext (List.range hub.pool.size)) := by
      simp only [step, tears, scheduled]
      rfl
    rw [closeNext_without, stepped] at possible
    rw [stepped] at drains signals
    refine .exactly possible ?_ ?_
    · rw [signals]
      exact signal
    · rw [drains]
      exact alike
  · cases stepped

/-- A close returns again when calls are left out. -/
theorem echo_closeReturns {failure : Option Failure} (signal : hub.drained = true → drained = true)
    (alike : hub.drain.Alike drain)
    (stepped : hub.step (.closeReturns failure) = some (next, effects)) :
    Echo gone hub inFlight drained drain (.closeReturns failure) next effects := by
  have tears : (hub.without gone inFlight drained drain).teardown = hub.teardown := rfl
  simp only [step] at stepped
  split at stepped
  · rename_i slot later closing
    simp only [Option.some.injEq] at stepped
    obtain ⟨signals, drains⟩ := hub.life_closeReturns slot later failure
    rw [stepped] at signals drains
    have possible : (hub.without gone inFlight drained drain).step (.closeReturns failure) =
        some (next.without gone inFlight drained drain, effects) := by
      simp only [step, tears, closing]
      rw [closeReturns_without, stepped]
    refine .exactly possible ?_ ?_
    · rw [signals]
      exact signal
    · rw [drains]
      exact alike
  · cases stepped

/-- Callers of a shutdown cannot tell why the wait of the drain was over. -/
theorem waiting_without (gone : CallId → Bool) (inFlight : Int) (drained : Bool)
    (alike : hub.drain.Alike drain) (waiter : Waiter) :
    (hub.without gone inFlight drained drain).isOver waiter = hub.isOver waiter ∧
      (hub.without gone inFlight drained drain).abort? waiter = hub.abort? waiter := by
  have drains : (hub.without gone inFlight drained drain).drain = drain := rfl
  cases waiter with
  | teardown => exact ⟨rfl, rfl⟩
  | drain =>
      simp only [isOver, abort?, drains]
      generalize hub.drain = stage at alike
      cases alike with
      | same => exact ⟨rfl, rfl⟩
      | resuming => exact ⟨by simp, rfl⟩

theorem echo_waiterReturns {id : CallId} (signal : hub.drained = true → drained = true)
    (alike : hub.drain.Alike drain)
    (stepped : hub.step (.waiterReturns id) = some (next, effects)) :
    Echo gone hub inFlight drained drain (.waiterReturns id) next effects := by
  have waits : (hub.without gone inFlight drained drain).waiters = hub.waiters := rfl
  have again : (hub.without gone inFlight drained drain).step (.waiterReturns id) =
      (hub.step (.waiterReturns id)).map fun result =>
        (result.1.without gone inFlight drained drain, result.2) := by
    simp only [step, waits]
    split
    · rename_i waiter waiting
      obtain ⟨ended, aborts⟩ := waiting_without gone inFlight drained alike waiter
      rw [ended, aborts]
      split
      · rfl
      · cases hub.abort? waiter <;> rfl
    · rfl
  rw [stepped] at again
  simp only [step] at stepped
  split at stepped
  · split at stepped
    · cases stepped
      exact .exactly again signal alike
    · obtain ⟨abort, aborted, result⟩ := Option.map_eq_some_iff.mp stepped
      cases result
      exact .exactly again signal alike
  · cases stepped

/-- A step about no call happens again when calls are left out. -/
theorem echo_of_silent {action : Action} (silent : action.call? = none)
    (stepped : hub.step action = some (next, effects))
    (signal : hub.drained = true → drained = true) (fewer : hub.inFlight = 0 → inFlight = 0)
    (alike : hub.drain.Alike drain) : Echo gone hub inFlight drained drain action next effects := by
  cases action with
  | begin | beginMany | firstRequest | respond | finish | fail | read | abandon | abandonFails
  | cancel => cases silent
  | shutdown id grace => exact echo_shutdown signal fewer alike stepped
  | shutdownNow id => exact echo_shutdownNow alike stepped
  | drainStarts => exact echo_drainStarts signal alike stepped
  | drainWakes => exact echo_drainWakes signal alike stepped
  | drainExpires => exact echo_drainExpires alike stepped
  | drainGoesOn => exact echo_drainGoesOn signal alike stepped
  | drainReturns => exact echo_drainReturns signal alike stepped
  | teardownStarts => exact echo_teardownStarts signal alike stepped
  | closeReturns failure => exact echo_closeReturns signal alike stepped
  | waiterReturns id => exact echo_waiterReturns signal alike stepped
  | cancelWaiter id =>
      simp only [step, Option.ite_none_right_eq_some, Option.some.injEq] at stepped
      obtain ⟨waits, result⟩ := stepped
      cases result
      exact .exactly (if_pos waits) signal alike
  | tick seconds =>
      simp only [step, Option.ite_none_right_eq_some, Option.some.injEq] at stepped
      obtain ⟨forward, result⟩ := stepped
      cases result
      exact .exactly (if_pos forward) signal alike

end

end Hub

end AffinityPool
