/-
Module: AffinityPool.Proofs.Hub.Erasable
Purpose: A call for which no channel could be made fails with the cause, and leaves no trace:
  without such calls the same happens to all others, and the pool and the index are the same.
Main exports:
  Action.supply?, leftOut_only, kept_others, Hub.SinceAdmission, Hub.Residue, Hub.Erased.residue,
  Hub.Unserved, Hub.Erasable, Hub.History.erasable
-/
import AffinityPool.Proofs.Hub.Closing
import AffinityPool.Proofs.Hub.Erasure
import AffinityPool.Proofs.Hub.Traffic
import AffinityPool.Proofs.Pool.Selection

namespace AffinityPool

/-- What making a channel yields while an action is carried out. -/
def Action.supply? : Action → Option Failure
  | .begin _ _ _ _ supply | .beginMany _ _ _ supply | .firstRequest _ _ supply => supply
  | _ => none

/-! ### Choices -/

/-- The choice of one call, told by what happens after its exit. -/
def only (id : CallId) (after : List Moment) (other : CallId) (later : List Moment) : Bool :=
  other = id && later.length = after.length

/-- Nobody else is chosen with a call, and nobody later. -/
theorem leftOut_only (id other : CallId) {after later : List Moment}
    (shorter : later.length ≤ after.length) : leftOut (only id after) later other = false := by
  induction later with
  | nil => rfl
  | cons moment later ih =>
      have less : later.length < after.length := shorter
      cases ends : moment.ends other with
      | true =>
          have unchosen : only id after other later = false := by
            simp [only, Nat.ne_of_lt less]
          rw [leftOut_of_ends ends, unchosen, Bool.and_false]
      | false =>
          rw [leftOut_of_stays ends]
          exact ih (Nat.le_of_lt less)

section

variable {chosen : CallId → List Moment → Bool} {id : CallId}

/-- What happens with a call that is never left out is kept. -/
theorem kept_others {past after : List Moment}
    (stays : ∀ before later, past = before ++ later → leftOut chosen (later ++ after) id = false) :
    (kept chosen past after).filter (fun moment => moment.action.call? = some id) =
      past.filter fun moment => moment.action.call? = some id := by
  induction past with
  | nil => rfl
  | cons moment past ih =>
      have rest := ih fun before later split => stays (moment :: before) later (by rw [split]; rfl)
      rw [kept]
      split
      · rename_i out
        have other : moment.action.call? ≠ some id := by
          intro about
          have gone : leftOut chosen (moment :: (past ++ after)) id = true := by
            simpa only [Moment.isLeftOut, about] using out
          have here := stays [] (moment :: past) rfl
          rw [List.cons_append, gone] at here
          cases here
        rw [rest, List.filter_cons_of_neg (by simpa using other)]
      · rw [List.filter_cons, List.filter_cons, rest]

end

namespace Hub

variable {rules : RuleTable} {limits : Limits} {past before after later repeated : List Moment}
  {hub next other last : Hub} {action : Action} {effects : List Effect} {id : CallId}
  {failure : Failure} {chosen : CallId → List Moment → Bool}

/-! ### One call -/

/-- A call is without a channel because the factory failed with this failure. -/
theorem Unsupplied.supply (unsupplied : Unsupplied hub id failure action next effects) :
    action.supply? = some failure := by
  cases unsupplied with
  | atOnce fresh unclosed starts saturated => cases starts <;> rfl
  | afterPeek live peeking saturated => rfl

/-- All that becomes known is that no channel was made, and that the call failed so. -/
theorem Unsupplied.told (unsupplied : Unsupplied hub id failure action next effects) :
    effects = action.begins?.toList.map Effect.admitted ++
      [.creationFailed, .exited id (.failed failure)] := by
  cases unsupplied with
  | atOnce fresh unclosed starts saturated =>
      rw [starts.begins]
      rfl
  | afterPeek live peeking saturated => rfl

/-- No channel could be reused. -/
theorem Unsupplied.saturated (unsupplied : Unsupplied hub id failure action next effects) :
    hub.pool.reusable? = none := by
  cases unsupplied with
  | atOnce fresh unclosed starts saturated => exact saturated
  | afterPeek live peeking saturated => exact saturated

/-- Pool and index are as they were, and the call is forgotten. -/
theorem Unsupplied.unchanged (unsupplied : Unsupplied hub id failure action next effects) :
    next.pool = hub.pool ∧ next.entries = hub.entries ∧ next.call? id = none := by
  cases unsupplied with
  | atOnce fresh unclosed starts saturated => exact ⟨rfl, rfl, call?_of_drop_self rfl⟩
  | afterPeek live peeking saturated => exact ⟨rfl, rfl, call?_of_drop_self rfl⟩

/-- What has happened since a call was last admitted. -/
inductive SinceAdmission (id : CallId) : List Moment → List Moment → Prop where
  | intro {earlier others : List Moment} {start : Moment} (begins : start.action.begins? = some id)
      (admitted : .admitted id ∈ start.effects)
      (alone : ∀ moment ∈ others, moment.action.begins? ≠ some id) :
      SinceAdmission id (earlier ++ start :: others) (start :: others)

/-- A moment that does not begin the call again is one more since its admission. -/
theorem SinceAdmission.extend {course : List Moment} {moment : Moment}
    (since : SinceAdmission id past course) (other : moment.action.begins? ≠ some id) :
    SinceAdmission id (past ++ [moment]) (course ++ [moment]) := by
  cases since with
  | @intro earlier others start begins admitted alone =>
      rw [List.append_assoc, List.cons_append]
      refine .intro begins admitted ?_
      intro passing member
      rcases List.mem_append.mp member with sooner | now
      · exact alone passing sooner
      · cases List.mem_singleton.mp now
        exact other

/-- A call that waits for its first request has not been handed to the transport. -/
theorem History.unhanded_of_peeking (ran : History (fresh rules limits) past hub) {call : Call}
    (live : hub.call? id = some call) (peeking : call.phase = .peeking) :
    ∃ course, SinceAdmission id past course ∧ (traffic id course).handed = [] := by
  induction ran generalizing call with
  | begin => cases live
  | @next past hub next action effects earlier taken ih =>
      have stepped := stepped_of_step taken
      by_cases about : action.call? = some id
      · cases stepped.fate about with
        | gone ends dead =>
            rw [dead] at live
            cases live
        | placed stays still occupies =>
            rw [still] at live
            cases live
            rw [peeking] at occupies
            cases occupies
        | waits unknown told waiting enters =>
            have admitted : Effect.admitted id ∈ effects :=
              (mem_withoutNotes rfl).mp (by simp [told])
            refine ⟨[⟨action, effects⟩],
              .intro (stepped.begins_of_fresh unknown about) admitted (by simp), ?_⟩
            rw [traffic_singleton, ← traffic_withoutNotes, told]
            rfl
      · rw [stepped.call?_of_other about] at live
        obtain ⟨course, since, unhanded⟩ := ih live peeking
        refine ⟨course ++ [⟨action, effects⟩],
          since.extend fun begun => about (Action.call?_of_begins begun), ?_⟩
        rw [traffic_append, traffic_singleton, traffic_of_other taken about, Traffic.join_none]
        exact unhanded

/-- Nothing of a call that got no channel was handed to any. -/
theorem History.unhanded_of_unsupplied (ran : History (fresh rules limits) past hub)
    (stepped : hub.step action = some (next, effects))
    (unsupplied : Unsupplied hub id failure action next (withoutNotes effects)) :
    ∃ course, SinceAdmission id (past ++ [⟨action, effects⟩]) course ∧
      (traffic id course).handed = [] := by
  have told := unsupplied.told
  have unhanded : (Moment.traffic id ⟨action, effects⟩).handed = [] := by
    rw [← traffic_withoutNotes, told]
    cases begun : action.begins? <;> rfl
  generalize shown : withoutNotes effects = known at unsupplied
  cases unsupplied with
  | atOnce unknown unclosed starts saturated =>
      have admitted : Effect.admitted id ∈ effects := (mem_withoutNotes rfl).mp (by simp [shown])
      refine ⟨[⟨action, effects⟩], .intro starts.begins admitted (by simp), ?_⟩
      rw [traffic_singleton]
      exact unhanded
  | afterPeek live peeking saturated =>
      obtain ⟨course, since, sofar⟩ := ran.unhanded_of_peeking live peeking
      refine ⟨course ++ [_], since.extend (by simp [Action.begins?]), ?_⟩
      rw [traffic_append, traffic_singleton]
      simp only [Traffic.join, sofar, unhanded, List.append_nil]

/-! ### What is left -/

/-- What happens in the background gives the signal only to a hub that is closing. -/
theorem Background.closing_of_drained (background : Background hub action next effects)
    (before : hub.drained = true → hub.closing = true) (drained : next.drained = true) :
    next.closing = true := by
  cases background with
  | shutdownFirst unknown idle => rfl
  | shutdownNow unknown => exact closing_requestTeardown _
  | drainWentOn =>
      rw [drained_requestTeardown] at drained
      rw [closing_requestTeardown]
      exact before drained
  | teardownStarted scheduled =>
      rw [startTeardown, (life_closeNext ..).2.2] at drained
      rw [startTeardown, closing_closeNext]
      exact before drained
  | closeReturned closing =>
      rw [(life_closeNext ..).2.2] at drained
      rw [closing_closeNext]
      exact before drained
  | _ => exact before drained

/-- The signal is given in a shutdown only. -/
theorem History.closing_of_drained (ran : History (fresh rules limits) past hub)
    (drained : hub.drained = true) : hub.closing = true := by
  induction ran with
  | begin => cases drained
  | next earlier stepped ih =>
      rcases (stepped_of_step stepped).carries_or_background with carries | background
      · rcases carries.signal drained with before | ⟨closing, idle⟩
        · rw [carries.life.closing]
          exact ih before
        · exact closing
      · exact background.closing_of_drained ih drained

/-- What a hub is without some of its live calls. -/
structure Residue (gone : CallId → Bool) (hub other : Hub) : Prop where
  /-- The pool with its counters, the index and all the rest are the same, up to the calls that
  are missing, the signal that no call is in flight any more, and why the drain has stopped
  waiting for it. -/
  rest : other = hub.without gone other.inFlight other.drained other.drain
  stage : hub.drain.Alike other.drain
  inFlight : other.inFlight = hub.inFlight - hub.calls.countP fun entry => gone entry.1
  /-- Before a shutdown the signal and the drain are the same, too. -/
  unclosed : hub.closing = false → other.drained = hub.drained ∧ other.drain = hub.drain
  /-- Without a live call that is missing nothing is. -/
  settled : (∀ entry ∈ hub.calls, gone entry.1 = false) →
    other = { hub with drained := other.drained, drain := other.drain }

/-- What is left out and what is kept are all there is. -/
theorem length_without (gone : CallId → Bool) (calls : Ledger Call) :
    (calls.without gone).length + calls.countP (fun entry => gone entry.1) = calls.length := by
  induction calls with
  | nil => rfl
  | cons entry rest ih =>
      unfold Ledger.without at ih ⊢
      rw [List.filter_cons, List.countP_cons, List.length_cons]
      cases gone entry.1 <;> simp <;> omega

/-- A run without the calls that got no channel leads to the hub without what is left of them. -/
theorem Erased.residue (erased : Erased rules limits chosen past after hub repeated other)
    (ran : History (fresh rules limits) past hub) : Residue (leftOut chosen after) hub other := by
  have calls : other.calls = Ledger.without (leftOut chosen after) hub.calls := by
    rw [erased.rest]
    rfl
  have counted : other.inFlight =
      hub.inFlight - hub.calls.countP fun entry => leftOut chosen after entry.1 := by
    have parts := length_without (leftOut chosen after) hub.calls
    rw [erased.ran.counted, ran.counted, calls]
    omega
  refine ⟨erased.rest, erased.stage, counted, ?_, ?_⟩
  · intro unclosed
    have undrained : ∀ {known : Hub} {course : List Moment},
        History (fresh rules limits) course known → known.closing = false →
          known.drained = false := by
      intro known course reached unclosed
      apply Bool.eq_false_iff.mpr
      intro drained
      rw [reached.closing_of_drained drained] at unclosed
      cases unclosed
    have absent : hub.drain = .absent := by
      by_contra begun
      rw [ran.orderly.draining begun] at unclosed
      cases unclosed
    rw [undrained ran unclosed,
      undrained erased.ran ((closing_of_without erased.rest).trans unclosed)]
    exact ⟨rfl, erased.stage.eq_of_waits (by simp [absent])⟩
  · intro present
    have all : Ledger.without (leftOut chosen after) hub.calls = hub.calls := by
      apply List.filter_eq_self.mpr
      intro entry member
      simp [present entry member]
    have none : hub.calls.countP (fun entry => leftOut chosen after entry.1) = 0 := by
      apply List.countP_eq_zero.mpr
      intro entry member
      simp [present entry member]
    have same : other.inFlight = hub.inFlight := by
      rw [counted, none]
      simp
    rw [erased.rest, without, all, same]

/-! ### What callers can rely on -/

/-- A call exits because no channel can be made for it. -/
structure Unserved (rules : RuleTable) (limits : Limits) (before : List Moment) (hub : Hub)
    (moment : Moment) (next : Hub) (after : List Moment) (id : CallId) (failure : Failure) :
    Prop where
  about : moment.action.call? = some id
  /-- The pool has to grow, and making a channel yields a failure. -/
  saturated : hub.pool.reusable? = none
  raised : moment.action.supply? = some failure
  /-- The call exits with that failure. -/
  told : withoutNotes moment.effects = moment.action.begins?.toList.map Effect.admitted ++
    [.creationFailed, .exited id (.failed failure)]
  /-- The transport has not been called for it. -/
  unhanded : ∃ course, SinceAdmission id (before ++ [moment]) course ∧
    (traffic id course).handed = []
  unchanged : next.pool = hub.pool ∧ next.entries = hub.entries ∧ next.call? id = none
  /-- The next call that is placed by load tries to make a channel again, and the channel gets
  the number that this one would have had. -/
  retries : (∀ cause, next.pool.acquire (some cause) = .error cause) ∧
    next.pool.acquire none = .ok ⟨hub.pool.size, true, next.pool.grow.acquireAt hub.pool.size⟩
  /-- Without the call, the hub is the same after its exit. -/
  traceless : moment.isLeftOut (only id after) after = true ∧
    ∃ repeated other, History (fresh rules limits) repeated other ∧
      List.Forall₂ Moment.Repeats (kept (only id after) (before ++ [moment]) after) repeated ∧
        next.drain.Alike other.drain ∧
          other = { next with drained := other.drained, drain := other.drain }

/-- Failures to make a channel leave no trace in a run. -/
structure Erasable (rules : RuleTable) (limits : Limits) (past : List Moment) (hub : Hub) :
    Prop where
  /-- Whenever a channel could not be made, a call fails for it. -/
  failing : ∀ before moment after, past = before ++ moment :: after →
    .creationFailed ∈ moment.effects →
      ∃ middle next id failure, History (fresh rules limits) before middle ∧
        middle.step moment.action = some (next, moment.effects) ∧
          Unserved rules limits before middle moment next after id failure
  /-- Whichever of these calls are left out, what is kept can happen without them, and after each
  step the hub is the same but for those that have not exited. -/
  residue : ∀ chosen before after middle, past = before ++ after →
    History (fresh rules limits) before middle →
      ∃ repeated other, History (fresh rules limits) repeated other ∧
        List.Forall₂ Moment.Repeats (kept chosen before after) repeated ∧
          Residue (leftOut chosen after) middle other
  /-- Before a shutdown the very same happens: each step that is kept takes the same action, makes
  the same known, and leads to the same hub. -/
  identical : hub.closing = false → ∀ chosen before after middle, past = before ++ after →
    History (fresh rules limits) before middle →
      ∃ other, History (fresh rules limits) (kept chosen before after) other ∧
        History other (kept chosen after []) hub ∧ Residue (leftOut chosen after) middle other
  /-- Nothing is left out of what happens with other calls. -/
  others : ∀ chosen id, (∀ before after, past = before ++ after → leftOut chosen after id = false) →
    (kept chosen past []).filter (fun moment => moment.action.call? = some id) =
      past.filter fun moment => moment.action.call? = some id
  /-- If all such calls are left out, every channel could be made. -/
  clean : ∀ moment ∈ kept (fun _ _ => true) past [], .creationFailed ∉ moment.effects
  /-- Channels are numbered without gaps, in the order in which they were made. -/
  contiguous : creations (effectsOf past) = List.range hub.pool.size ∧ hub.pool.Numbered

/-- The moment in which no channel could be made for a call is left out with the call. -/
theorem isLeftOut_of_unsupplied
    (unsupplied : Unsupplied hub id failure action next (withoutNotes effects))
    (picked : chosen id after = true) : Moment.isLeftOut chosen ⟨action, effects⟩ after = true := by
  have told := unsupplied.told
  have ends : Moment.ends id ⟨action, effects⟩ = true := by
    refine (any_ends_withoutNotes ..).symm.trans ?_
    rw [told]
    simp [Effect.ends]
  have failed : Effect.creationFailed ∈ effects := (mem_withoutNotes rfl).mp (by simp [told])
  have vain : Moment.isUnsupplied ⟨action, effects⟩ = true := Moment.isUnsupplied_iff.mpr failed
  simp only [Moment.isLeftOut, unsupplied.about, leftOut_of_ends ends, vain, picked, Bool.and_true]

/-- A call that got no channel has left no trace, and the run without it is a run. -/
theorem History.unserved (ran : History (fresh rules limits) before hub)
    (stepped : hub.step action = some (next, effects)) (onward : History next after last)
    (unsupplied : Unsupplied hub id failure action next (withoutNotes effects)) :
    Unserved rules limits before hub ⟨action, effects⟩ next after id failure := by
  obtain ⟨pool, entries, dead⟩ := unsupplied.unchanged
  have saturated : next.pool.reusable? = none := by
    rw [pool]
    exact unsupplied.saturated
  have size : next.pool.size = hub.pool.size := by rw [pool]
  obtain ⟨repeated, other, erased⟩ :=
    (ran.next stepped).exists_erased (only id after) onward
  have present : ∀ entry ∈ next.calls, leftOut (only id after) after entry.1 = false :=
    fun entry _ => leftOut_only id entry.1 (Nat.le_refl _)
  constructor
  · exact unsupplied.about
  · exact unsupplied.saturated
  · exact unsupplied.supply
  · exact unsupplied.told
  · exact ran.unhanded_of_unsupplied stepped unsupplied
  · exact ⟨pool, entries, dead⟩
  · refine ⟨Pool.acquire_of_unsupplied saturated, ?_⟩
    rw [Pool.acquire_of_supplied saturated, size]
  · refine ⟨isLeftOut_of_unsupplied unsupplied (by simp [only]), repeated, other, erased.ran,
      erased.repeats, erased.stage, ?_⟩
    exact (erased.residue (ran.next stepped)).settled present

/-- A run without the calls that got no channel has no factory that fails. -/
theorem History.clean (ran : History hub past last) :
    ∀ moment ∈ kept (fun _ _ => true) past [], .creationFailed ∉ moment.effects := by
  induction past generalizing hub with
  | nil =>
      intro moment member
      cases member
  | cons first past ih =>
      obtain ⟨next, stepped, onward⟩ := ran.uncons
      have rest := ih onward
      intro moment member
      rw [kept] at member
      split at member
      · exact rest moment member
      · rename_i stays
        rcases List.mem_cons.mp member with rfl | later
        · intro failed
          obtain ⟨id, failure, unsupplied⟩ :=
            (stepped_of_step stepped).unsupplied ((mem_withoutNotes rfl).mpr failed)
          exact stays (isLeftOut_of_unsupplied unsupplied rfl)
        · exact rest moment later

/-- Failures to make a channel leave no trace. -/
theorem History.erasable (ran : History (fresh rules limits) past hub) :
    Erasable rules limits past hub := by
  constructor
  · intro before moment after split failed
    subst split
    obtain ⟨middle, reached, onward⟩ := ran.split
    obtain ⟨next, stepped, later⟩ := onward.uncons
    obtain ⟨id, failure, unsupplied⟩ :=
      (stepped_of_step stepped).unsupplied ((mem_withoutNotes rfl).mpr failed)
    exact ⟨middle, next, id, failure, reached, stepped, reached.unserved stepped later unsupplied⟩
  · intro chosen before after middle split reached
    subst split
    obtain ⟨there, first, onward⟩ := ran.split
    cases first.unique reached
    obtain ⟨repeated, other, erased⟩ := reached.exists_erased chosen onward
    exact ⟨repeated, other, erased.ran, erased.repeats, erased.residue reached⟩
  · intro unclosed chosen before after middle split reached
    subst split
    obtain ⟨there, first, onward⟩ := ran.split
    cases first.unique reached
    have early := onward.unclosed unclosed
    obtain ⟨repeated, other, erased⟩ := reached.exists_erased chosen onward
    obtain ⟨whole, final, all⟩ := ran.exists_erased chosen .begin
    have residue := all.residue ran
    -- At the end nothing is missing any more.
    have same : final = hub := by
      obtain ⟨signal, drain⟩ := residue.unclosed unclosed
      rw [residue.settled fun entry _ => rfl, signal, drain]
    have course : History (fresh rules limits) (kept chosen before after ++ kept chosen after [])
        hub := by
      have again := all.ran
      rw [all.exactly unclosed, same, kept_append, List.append_nil] at again
      exact again
    have start : History (fresh rules limits) (kept chosen before after) other := by
      rw [← erased.exactly early]
      exact erased.ran
    obtain ⟨known, sofar, rest⟩ := course.split
    cases sofar.unique start
    exact ⟨_, start, rest, erased.residue reached⟩
  · intro chosen id stays
    apply kept_others
    simpa using stays
  · exact ran.clean
  · exact ⟨ran.creations, ran.indexed.numbered⟩

/-- Two calls of a run fail for want of a channel, one of them after its first request; the next
call makes the channel. -/
theorem erasable_growth :
    ∃ rules limits past hub,
      History (fresh rules limits) past hub ∧ hub.closing = false ∧ hub.pool.size = 2 ∧
        past.length = 6 ∧ (kept (fun _ _ => true) past []).length = 3 ∧
        Erasable rules limits past hub := by
  have ran : History (fresh ⟨[⟨"watch", .bound, "id"⟩]⟩ ⟨2, 1, by decide, by decide⟩)
      ([] ++ [⟨.begin "a" .unaryUnary "get" .null none, _⟩] ++
        [⟨.begin "b" .unaryUnary "get" .null (some (.raised .connection "down")), _⟩] ++
        [⟨.beginMany "c" .streamStream "watch" none, _⟩] ++
        [⟨.firstRequest "c" (.ok none) (some (.raised .connection "down")), _⟩] ++
        [⟨.begin "d" .unaryUnary "get" .null none, _⟩] ++ [⟨.respond "d" .null, _⟩]) _ :=
    .next (.next (.next (.next (.next (.next .begin rfl) rfl) rfl) rfl) rfl) rfl
  exact ⟨_, _, _, _, ran, rfl, rfl, rfl, rfl, ran.erasable⟩

end Hub

end AffinityPool
