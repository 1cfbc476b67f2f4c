/-
Module: AffinityPool.Proofs.Hub.Drain
Purpose: Channels are closed when no call is in flight any more, unless somebody demands it or the
  grace of the first shutdown is over.
Main exports:
  elapsed, FirstShutdown, FirstShutdown.unique, Clocked, Hub.MayClose, Hub.WaitEnded,
  Hub.Announced, Hub.Draining, Hub.History.draining, Hub.Quiet, Hub.GracefulDrain,
  Hub.History.gracefulDrain
-/
import AffinityPool.Proofs.Hub.Life
import AffinityPool.Proofs.Hub.Routing
import Mathlib.Algebra.Order.Ring.Rat
import Mathlib.Tactic.Linarith

namespace AffinityPool

/-! ### Time and shutdowns -/

/-- The time that passes with an action. -/
def Action.seconds : Action → Rat
  | .tick seconds => seconds
  | _ => 0

/-- Whether an action asks for a shutdown that waits for calls. -/
def Action.isShutdown : Action → Bool
  | .shutdown .. => true
  | _ => false

/-- An action about a call takes no time and is no shutdown. -/
theorem Action.of_call {action : Action} {id : CallId} (about : action.call? = some id) :
    action.seconds = 0 ∧ action.isShutdown = false := by
  cases action <;> first | exact ⟨rfl, rfl⟩ | cases about

/-- The time that passes over some moments. -/
def elapsed (past : List Moment) : Rat := (past.map (·.action.seconds)).sum

@[simp] theorem elapsed_append_singleton (past : List Moment) (moment : Moment) :
    elapsed (past ++ [moment]) = elapsed past + moment.action.seconds := by
  simp [elapsed]

/-- Times add up. -/
theorem elapsed_append (past after : List Moment) :
    elapsed (past ++ after) = elapsed past + elapsed after := by
  simp [elapsed]

/-- A moment that takes no time adds none. -/
theorem elapsed_still (past : List Moment) {moment : Moment}
    (still : moment.action.seconds = 0) : elapsed (past ++ [moment]) = elapsed past := by
  rw [elapsed_append_singleton, still, add_zero]

/-- Time does not go backward in a course whose moments go forward. -/
theorem elapsed_nonneg {past : List Moment} (forward : ∀ moment ∈ past, 0 ≤ moment.action.seconds) :
    0 ≤ elapsed past := by
  induction past using List.reverseRecOn with
  | nil => exact le_refl _
  | append_singleton past moment ih =>
      have before := ih fun earlier member => forward earlier (List.mem_append_left _ member)
      have now := forward moment (by simp)
      rw [elapsed_append_singleton]
      linarith

/-- The grace of the first shutdown of a run, and what has happened since. -/
inductive FirstShutdown : List Moment → Option Grace → List Moment → Prop where
  | first {before since : List Moment} {id : CallId} {grace : Option Grace}
      {effects : List Effect} (none : ∀ moment ∈ before, moment.action.isShutdown = false) :
      FirstShutdown (before ++ ⟨.shutdown id grace, effects⟩ :: since) grace since

namespace FirstShutdown

variable {past since : List Moment} {grace : Option Grace}

/-- Which shutdown was the first does not change later. -/
theorem append (first : FirstShutdown past grace since) (after : List Moment) :
    FirstShutdown (past ++ after) grace (since ++ after) := by
  cases first with
  | first none =>
      rw [List.append_assoc, List.cons_append]
      exact .first none

/-- Which shutdown was the first does not change with one more moment. -/
theorem extend (first : FirstShutdown past grace since) (moment : Moment) :
    FirstShutdown (past ++ [moment]) grace (since ++ [moment]) := first.append [moment]

/-- A run has one first shutdown. -/
theorem unique {other : Option Grace} {later : List Moment}
    (first : FirstShutdown past grace since) (same : FirstShutdown past other later) :
    grace = other ∧ since = later := by
  cases first with
  | @first before since id grace effects none =>
      generalize whole : before ++ ⟨.shutdown id grace, effects⟩ :: since = past at same
      cases same with
      | @first earlier later again other told nobody =>
          -- A shutdown in front of the other one would be the first.
          rcases List.append_eq_append_iff.mp whole with ⟨gap, split, rest⟩ | ⟨gap, split, rest⟩
          · cases gap with
            | nil =>
                cases rest
                exact ⟨rfl, rfl⟩
            | cons moment gap =>
                cases rest
                have silent := nobody ⟨.shutdown id grace, effects⟩ (by simp [split])
                cases silent
          · cases gap with
            | nil =>
                cases rest
                exact ⟨rfl, rfl⟩
            | cons moment gap =>
                cases rest
                have silent := none ⟨.shutdown again other, told⟩ (by simp [split])
                cases silent

/-- What has happened since the first shutdown has happened. -/
theorem mem_of_since (first : FirstShutdown past grace since) {moment : Moment}
    (member : moment ∈ since) : moment ∈ past := by
  cases first with
  | first none => exact List.mem_append_right _ (List.mem_cons_of_mem _ member)

end FirstShutdown

/-- A grace, if there is one, is a time that a clock can show. -/
def Clocked (grace : Option Grace) : Prop :=
  ∀ limit, grace = some limit → limit.seconds < Grace.beyond

theorem Grace.beyond_pos : 0 < Grace.beyond := by decide

theorem clocked_none : Clocked none := nofun

/-- A grace that is below the bound is a time of a clock. -/
theorem Clocked.of_lt {limit : Grace} (timely : limit.seconds < Grace.beyond) :
    Clocked (some limit) := by
  intro given same
  cases same
  exact timely

namespace Hub

/-! ### Why channels are closed -/

/-- What permits channels to be closed. -/
inductive MayClose (start : Hub) (past : List Moment) : Prop where
  /-- Somebody has asked for the channels to be closed now. -/
  | demanded {id : CallId} {effects : List Effect} (asked : ⟨.shutdownNow id, effects⟩ ∈ past)
  /-- At some moment since closing began no call was in flight. -/
  | idled {before after : List Moment} {idle : Hub} (split : past = before ++ after)
      (reached : History start before idle) (closing : idle.closing = true)
      (none : idle.inFlight = 0)
  /-- The first shutdown had a grace, and it is over. -/
  | expired {grace : Grace} {since : List Moment}
      (first : FirstShutdown past (some grace) since) (late : grace.seconds ≤ elapsed since)

/-- What gave leave to close channels gives it later too. -/
theorem MayClose.extend {start : Hub} {past : List Moment} (may : MayClose start past)
    {moment : Moment} (forward : 0 ≤ moment.action.seconds) :
    MayClose start (past ++ [moment]) := by
  cases may with
  | demanded asked => exact .demanded (List.mem_append_left _ asked)
  | @idled before after idle split reached closing none =>
      exact .idled (by rw [split, List.append_assoc]) reached closing none
  | expired first late =>
      refine .expired (first.extend moment) ?_
      rw [elapsed_append_singleton]
      linarith

/-- Why the wait of a drain ended: the signal came, there was nothing to wait for in the
grace, or the grace was over when the signal had not come yet. -/
inductive WaitEnded (start : Hub) (past : List Moment) : Option Grace → Option String → Prop where
  | signalled {grace : Option Grace}
      (something : ∀ limit, grace = some limit → 0 < limit.seconds) :
      WaitEnded start past grace none
  | hasty {limit : Grace} (nothing : limit.seconds ≤ 0) :
      WaitEnded start past (some limit) (some limit.shown)
  | late {limit : Grace} {before after sooner : List Moment} {middle : Hub}
      (split : past = before ++ after) (reached : History start before middle)
      (first : FirstShutdown before (some limit) sooner) (something : 0 < limit.seconds)
      (due : limit.seconds ≤ elapsed sooner) (undrained : middle.drained = false) :
      WaitEnded start past (some limit) (some limit.shown)

/-- Why a wait ended does not change later. -/
theorem WaitEnded.extend {start : Hub} {past : List Moment} {grace : Option Grace}
    {expired : Option String} (ended : WaitEnded start past grace expired) (moment : Moment) :
    WaitEnded start (past ++ [moment]) grace expired := by
  cases ended with
  | signalled something => exact .signalled something
  | hasty nothing => exact .hasty nothing
  | late split reached first something due undrained =>
      exact .late (by rw [split, List.append_assoc]) reached first something due undrained

/-- What is known of the shutdowns so far from where the drain of a hub stands: there was
none, or the grace of the first one decided how the drain went on. -/
inductive Announced (start : Hub) (past : List Moment) (clock : Rat) : Drain → Prop where
  | absent (none : ∀ moment ∈ past, moment.action.isShutdown = false) :
      Announced start past clock .absent
  | scheduled {grace : Option Grace} {since : List Moment}
      (first : FirstShutdown past grace since) : Announced start past clock (.scheduled grace)
  | patient {since : List Moment} (first : FirstShutdown past none since) :
      Announced start past clock (.waiting none)
  | limited {grace : Grace} {since : List Moment} {deadline : Rat}
      (first : FirstShutdown past (some grace) since) (something : 0 < grace.seconds)
      (timely : grace.seconds < Grace.beyond)
      (fair : clock + grace.seconds ≤ deadline + elapsed since) :
      Announced start past clock (.waiting (some (deadline, grace.shown)))
  | resuming {grace : Option Grace} {since : List Moment} {expired : Option String}
      (first : FirstShutdown past grace since) (clocked : Clocked grace)
      (ended : WaitEnded start past grace expired) :
      Announced start past clock (.resuming expired)
  | joining {grace : Option Grace} {since : List Moment} (first : FirstShutdown past grace since)
      (clocked : Clocked grace) : Announced start past clock .joining
  | done {grace : Option Grace} {since : List Moment} (first : FirstShutdown past grace since)
      (clocked : Clocked grace) : Announced start past clock .done
  | thwarted {grace : Option Grace} {since : List Moment} (first : FirstShutdown past grace since)
      (clocked : Clocked grace) : Announced start past clock (.aborted .closeCancelled)
  | overflowed {grace : Grace} {since : List Moment}
      (first : FirstShutdown past (some grace) since) (beyond : Grace.beyond ≤ grace.seconds) :
      Announced start past clock (.aborted .graceTooLong)

/-- What is said of the drain stays true when time passes, unless the first shutdown begins. -/
theorem Announced.extend {start : Hub} {past : List Moment} {clock : Rat} {drain : Drain}
    (announced : Announced start past clock drain) (moment : Moment)
    (calm : drain = .absent → moment.action.isShutdown = false) :
    Announced start (past ++ [moment]) (clock + moment.action.seconds) drain := by
  cases announced with
  | absent none =>
      refine .absent ?_
      intro earlier member
      rcases List.mem_append.mp member with before | now
      · exact none earlier before
      · rw [List.mem_singleton.mp now]
        exact calm rfl
  | scheduled first => exact .scheduled (first.extend moment)
  | patient first => exact .patient (first.extend moment)
  | limited first something timely fair =>
      refine .limited (first.extend moment) something timely ?_
      rw [elapsed_append_singleton]
      linarith
  | resuming first clocked ended =>
      exact .resuming (first.extend moment) clocked (ended.extend moment)
  | joining first clocked => exact .joining (first.extend moment) clocked
  | done first clocked => exact .done (first.extend moment) clocked
  | thwarted first clocked => exact .thwarted (first.extend moment) clocked
  | overflowed first beyond => exact .overflowed (first.extend moment) beyond

/-- A moment that takes no time. -/
theorem Announced.still {start : Hub} {past : List Moment} {clock : Rat} {drain : Drain}
    (announced : Announced start past clock drain) {moment : Moment}
    (still : moment.action.seconds = 0)
    (calm : drain = .absent → moment.action.isShutdown = false) :
    Announced start (past ++ [moment]) clock drain := by
  have onward := announced.extend moment calm
  rw [still, add_zero] at onward
  exact onward

/-- The drain knows of the first shutdown.  Unless channels may be closed, the signal
is not given, the wait of the drain is not over and the teardown is not asked for. -/
structure Draining (start : Hub) (past : List Moment) (hub : Hub) : Prop where
  forward : ∀ moment ∈ past, 0 ≤ moment.action.seconds
  announced : Announced start past hub.clock hub.drain
  signal : hub.drained = true → MayClose start past
  resumed : ∀ expired, hub.drain = .resuming expired → MayClose start past
  teardown : hub.teardown ≠ .absent → MayClose start past

/-- A hub starts without a drain. -/
theorem draining_fresh (rules : RuleTable) (limits : Limits) :
    Draining (fresh rules limits) [] (fresh rules limits) where
  forward := by
    intro moment member
    cases member
  announced := by
    refine .absent ?_
    intro moment member
    cases member
  signal := by
    intro drained
    cases drained
  resumed := by
    intro expired resuming
    cases resuming
  teardown := fun begun => absurd rfl begun

namespace Draining

variable {start hub next : Hub} {past : List Moment} {moment : Moment}

/-- Time goes forward up to the next moment too. -/
theorem forward_append (draining : Draining start past hub)
    (forward : 0 ≤ moment.action.seconds) :
    ∀ earlier ∈ past ++ [moment], 0 ≤ earlier.action.seconds := by
  intro earlier member
  rcases List.mem_append.mp member with before | now
  · exact draining.forward earlier before
  · rw [List.mem_singleton.mp now]
    exact forward

/-- The time since the first shutdown is no less than none. -/
theorem elapsed_since (draining : Draining start past hub) {grace : Option Grace}
    {since : List Moment} (first : FirstShutdown past grace since) : 0 ≤ elapsed since :=
  elapsed_nonneg fun _ member => draining.forward _ (first.mem_of_since member)

/-- A step about a call. -/
theorem carries (draining : Draining start past hub)
    (reached : History start (past ++ [moment]) next) (carries : Carries hub next moment.action) :
    Draining start (past ++ [moment]) next := by
  obtain ⟨⟨id, about⟩, life, signal⟩ := carries
  obtain ⟨still, calm⟩ := Action.of_call about
  have forward : 0 ≤ moment.action.seconds := by rw [still]
  have announced := draining.announced.still still fun _ => calm
  refine ⟨draining.forward_append forward, ?_, ?_, ?_, ?_⟩
  · rw [life.drain, life.clock]
    exact announced
  · intro drained
    rcases signal drained with before | ⟨closing, idle⟩
    · exact (draining.signal before).extend forward
    · exact .idled (List.append_nil _).symm reached closing idle
  · rw [life.drain]
    exact fun expired resuming => (draining.resumed expired resuming).extend forward
  · rw [life.teardown]
    exact fun begun => (draining.teardown begun).extend forward

/-- The drain or the clock goes on, and the wait of the drain does not end. -/
theorem goesOn (draining : Draining start past hub) (forward : 0 ≤ moment.action.seconds)
    (announced : Announced start (past ++ [moment]) next.clock next.drain)
    (drained : next.drained = hub.drained)
    (waits : ∀ expired, next.drain = .resuming expired → hub.drain = .resuming expired)
    (begun : next.teardown ≠ .absent → hub.teardown ≠ .absent) :
    Draining start (past ++ [moment]) next where
  forward := draining.forward_append forward
  announced := announced
  signal := by
    rw [drained]
    exact fun signal => (draining.signal signal).extend forward
  resumed := fun expired resuming =>
    (draining.resumed expired (waits expired resuming)).extend forward
  teardown := fun going => (draining.teardown (begun going)).extend forward

/-- The wait of the drain ends when channels may be closed. -/
theorem resumes (draining : Draining start past hub) (still : moment.action.seconds = 0)
    (may : MayClose start past) {grace : Option Grace} {since : List Moment}
    (first : FirstShutdown past grace since) (clocked : Clocked grace) {expired : Option String}
    (ended : WaitEnded start past grace expired) :
    Draining start (past ++ [moment]) { hub with drain := .resuming expired } :=
  have forward : 0 ≤ moment.action.seconds := by rw [still]
  { forward := draining.forward_append forward
    announced := .resuming (first.extend moment) clocked (ended.extend moment)
    signal := fun _ => may.extend forward
    resumed := fun _ _ => may.extend forward
    teardown := fun _ => may.extend forward }

/-- The teardown is asked for when channels may be closed. -/
theorem requested (draining : Draining start past hub) (forward : 0 ≤ moment.action.seconds)
    (announced : Announced start (past ++ [moment]) next.clock next.drain)
    (may : MayClose start (past ++ [moment])) :
    Draining start (past ++ [moment]) next.requestTeardown where
  forward := draining.forward_append forward
  announced := by
    rw [clock_requestTeardown, drain_requestTeardown]
    exact announced
  signal := fun _ => may
  resumed := fun _ _ => may
  teardown := fun _ => may

/-- The teardown goes on to the next channel, or finishes. -/
theorem closesNext (draining : Draining start past hub) {action : Action}
    {effects : List Effect} (still : action.seconds = 0) (later : List Nat)
    (begun : hub.teardown ≠ .absent) (calm : action.isShutdown = false) :
    Draining start (past ++ [⟨action, effects⟩]) (hub.closeNext later).1 := by
  obtain ⟨clock, drain, drained⟩ := life_closeNext hub later
  refine draining.goesOn (by rw [still]) ?_ drained (by rw [drain]; exact fun _ => id)
    fun _ => begun
  rw [clock, drain]
  exact draining.announced.still still fun _ => calm

/-- The drain starts. -/
theorem starts (draining : Draining start past hub) {effects : List Effect} {grace : Option Grace}
    (scheduled : hub.drain = .scheduled grace) :
    Draining start (past ++ [⟨.drainStarts, effects⟩])
      { hub with drain := hub.startDrain grace } := by
  have announced := draining.announced
  rw [scheduled] at announced
  cases announced with
  | @scheduled _ since first =>
      cases grace with
      | none => exact draining.goesOn (le_refl 0) (.patient (first.extend _)) rfl nofun id
      | some grace =>
          unfold startDrain
          dsimp only
          split
          · rename_i nothing
            have due : grace.seconds ≤ elapsed since :=
              le_trans nothing (draining.elapsed_since first)
            exact draining.resumes rfl (.expired first due) first
              (.of_lt (nothing.trans_lt Grace.beyond_pos)) (.hasty nothing)
          · rename_i something
            split
            · rename_i beyond
              exact draining.goesOn (le_refl 0) (.overflowed (first.extend _) beyond) rfl nofun id
            · rename_i timely
              refine draining.goesOn (le_refl 0) ?_ rfl nofun id
              refine .limited (first.extend _) (not_le.mp something) (not_le.mp timely) ?_
              rw [elapsed_still _ rfl]
              exact le_add_of_nonneg_right (draining.elapsed_since first)

/-- The wait of the drain ends. -/
theorem wakes (draining : Draining start past hub) {effects : List Effect}
    {deadline : Option (Rat × String)} (waiting : hub.drain = .waiting deadline)
    (drained : hub.drained = true) :
    Draining start (past ++ [⟨.drainWakes, effects⟩]) { hub with drain := .resuming none } := by
  have announced := draining.announced
  have may := draining.signal drained
  rw [waiting] at announced
  cases announced with
  | patient first => exact draining.resumes rfl may first clocked_none (.signalled nofun)
  | limited first something timely fair =>
      refine draining.resumes rfl may first (.of_lt timely) (.signalled ?_)
      intro limit given
      cases given
      exact something

/-- A wait whose deadline has come, and for which there is no signal yet, ends with an expiry. -/
theorem expires (draining : Draining start past hub) (ran : History start past hub)
    {effects : List Effect} {deadline : Rat} {shown : String}
    (waiting : hub.drain = .waiting (some (deadline, shown))) (late : deadline ≤ hub.clock)
    (undrained : hub.drained = false) :
    Draining start (past ++ [⟨.drainExpires, effects⟩])
      { hub with drain := .resuming (some shown) } := by
  have announced := draining.announced
  rw [waiting] at announced
  cases announced with
  | @limited grace since _ first something timely fair =>
      -- The deadline is not earlier than the first shutdown and its grace.
      have due : grace.seconds ≤ elapsed since := by linarith
      exact draining.resumes rfl (.expired first due) first (.of_lt timely)
        (.late (List.append_nil past).symm ran first something due undrained)

/-- What the callers of a shutdown, the clock and the background jobs do. -/
theorem background (draining : Draining start past hub) (ran : History start past hub)
    {action : Action} {effects told : List Effect}
    (reached : History start (past ++ [⟨action, effects⟩]) next)
    (background : Background hub action next told) :
    Draining start (past ++ [⟨action, effects⟩]) next := by
  have announced := draining.announced
  cases background with
  | @shutdownFirst id grace fresh idle =>
      have first : FirstShutdown (past ++ [⟨.shutdown id grace, effects⟩]) grace [] := by
        rw [idle] at announced
        cases announced with
        | absent none => exact .first none
      refine ⟨draining.forward_append (le_refl 0), .scheduled first, ?_, nofun, ?_⟩
      · intro drained
        rcases Bool.or_eq_true_iff.mp drained with before | now
        · exact (draining.signal before).extend (le_refl 0)
        · exact .idled (List.append_nil _).symm reached rfl (of_decide_eq_true now)
      · exact fun begun => (draining.teardown begun).extend (le_refl 0)
  | shutdownAgain fresh started =>
      exact draining.goesOn (le_refl 0) (announced.still rfl fun absent => absurd absent started)
        rfl (fun _ => id) id
  | shutdownNow fresh =>
      exact draining.requested (le_refl 0) (announced.still rfl fun _ => rfl)
        (.demanded (List.mem_append_right _ (List.mem_singleton.mpr rfl)))
  | waiterCancelled waits | waiterReturned waits finished | waiterThwarted waits aborted =>
      exact draining.goesOn (le_refl 0) (announced.still rfl fun _ => rfl) rfl (fun _ => id) id
  | ticked forward =>
      exact draining.goesOn forward (announced.extend _ fun _ => rfl) rfl (fun _ => id) id
  | drainStarted scheduled => exact draining.starts scheduled
  | drainWoken waiting drained => exact draining.wakes waiting drained
  | drainExpired waiting late undrained => exact draining.expires ran waiting late undrained
  | drainWentOn resuming =>
      have may := draining.resumed _ resuming
      rw [resuming] at announced
      cases announced with
      | resuming first clocked ended =>
          exact draining.requested (le_refl 0) (.joining (first.extend _) clocked)
            (may.extend (le_refl 0))
  | drainReturned joining finished =>
      rw [joining] at announced
      cases announced with
      | joining first clocked =>
          exact draining.goesOn (le_refl 0) (.done (first.extend _) clocked) rfl nofun id
  | drainThwarted joining aborted =>
      rw [joining] at announced
      cases announced with
      | joining first clocked =>
          exact draining.goesOn (le_refl 0) (.thwarted (first.extend _) clocked) rfl nofun id
  | teardownStarted scheduled =>
      exact draining.closesNext rfl _ (by rw [scheduled]; simp) rfl
  | closeReturned closing survived =>
      exact draining.closesNext rfl _ (by rw [closing]; simp) rfl
  | closeCancelled closing =>
      exact draining.goesOn (le_refl 0) (announced.still rfl fun _ => rfl) rfl (fun _ => id)
        fun _ => by rw [closing]; simp

end Draining

/-- After every run the drain stands where its moments have brought it. -/
theorem History.draining {rules : RuleTable} {limits : Limits} {past : List Moment} {hub : Hub}
    (ran : History (fresh rules limits) past hub) : Draining (fresh rules limits) past hub := by
  induction ran with
  | begin => exact draining_fresh rules limits
  | next earlier stepped ih =>
      have reached := earlier.next stepped
      rcases (stepped_of_step stepped).carries_or_background with carries | background
      · exact ih.carries reached carries
      · exact ih.background earlier reached background

/-- A run that has seen a shutdown is closing. -/
theorem History.closing_of_first {rules : RuleTable} {limits : Limits} {past since : List Moment}
    {hub : Hub} {grace : Option Grace} (ran : History (fresh rules limits) past hub)
    (first : FirstShutdown past grace since) : hub.closing = true := by
  apply ran.orderly.draining
  intro absent
  have announced := ran.draining.announced
  rw [absent] at announced
  cases announced with
  | absent none =>
      cases first with
      | first clear => cases none _ (List.mem_append_right _ List.mem_cons_self)

/-- A channel is closed by a teardown that has been asked for. -/
theorem teardown_of_closing {hub next : Hub} {action : Action} {effects : List Effect}
    (stepped : hub.step action = some (next, effects)) {slot : Nat}
    (closes : .closing slot ∈ effects) : hub.teardown ≠ .absent := by
  intro absent
  cases tears_of_step stepped with
  | rests rests silent =>
      have member := mem_closings.mpr closes
      rw [silent] at member
      cases member
  | starts scheduled begun takes =>
      rw [absent] at scheduled
      cases scheduled
  | goesOn begun going takes =>
      rw [absent] at begun
      cases begun

/-! ### When no call is in flight any more -/

/-- A hub that is closing and has no call left.  It will not have one again. -/
structure Quiet (hub : Hub) : Prop where
  closing : hub.closing = true
  idle : hub.inFlight = 0
  absent : ∀ id, hub.call? id = none

/-- A hub that is closing without calls in flight is quiet. -/
theorem History.quiet {rules : RuleTable} {limits : Limits} {past : List Moment} {hub : Hub}
    (ran : History (fresh rules limits) past hub) (closing : hub.closing = true)
    (idle : hub.inFlight = 0) : Quiet hub := by
  refine ⟨closing, idle, ?_⟩
  intro id
  have counted := ran.balanced.inFlight
  rw [idle, Ledger.count_true] at counted
  have empty : registerOf (effectsOf past) = [] := List.eq_nil_of_length_eq_zero (by omega)
  have agree := ran.registered.agree
  rw [empty] at agree
  rw [call?, List.forall₂_nil_right_iff.mp agree]
  rfl

namespace Quiet

variable {hub next : Hub}

/-- One step leaves a quiet hub quiet, and neither makes nor calls a channel. -/
theorem step (quiet : Quiet hub) {action : Action} {effects : List Effect}
    (stepped : Stepped hub action next effects) :
    Quiet next ∧ ∀ effect ∈ effects, effect.places = false := by
  have none : ∀ {id call}, hub.call? id = some call → False := by
    intro id call live
    rw [quiet.absent] at live
    cases live
  constructor
  · cases stepped with
    | refused begins fresh closing => exact quiet
    | waits fresh unclosed many reads => cases quiet.closing.symm.trans unclosed
    | begins fresh unclosed starts dispatching => cases quiet.closing.symm.trans unclosed
    | background background =>
        have same := background.sameCalls
        refine ⟨(Stepped.background background).closing quiet.closing, ?_, ?_⟩
        · rw [same.inFlight, quiet.idle]
        · intro id
          rw [call?, same.calls]
          exact quiet.absent id
    | peeked live peeking dispatching => exact (none live).elim
    | gaveUp live peeking givesUp => exact (none live).elim
    | delivered live waiting streams read => exact (none live).elim
    | resumed live paused => exact (none live).elim
    | completed live waiting completes => exact (none live).elim
    | left live leaves => exact (none live).elim
  · intro effect member
    by_contra placed
    obtain ⟨id, call, opening, supply, routes⟩ :=
      stepped.routes_of_places member (Bool.eq_true_of_not_eq_false placed)
    cases routes with
    | begins unclosed starts => cases quiet.closing.symm.trans unclosed
    | peeked live peeking => exact none live

/-- A quiet hub stays quiet. -/
theorem run (quiet : Quiet hub) {later : List Moment} {last : Hub}
    (onward : History hub later last) :
    Quiet last ∧ ∀ effect ∈ effectsOf later, effect.places = false := by
  induction onward with
  | begin => exact ⟨quiet, by simp⟩
  | @next later middle last action effects earlier stepped ih =>
      obtain ⟨still, before⟩ := ih
      obtain ⟨after, now⟩ := still.step (stepped_of_step stepped)
      refine ⟨after, ?_⟩
      intro effect member
      rw [effectsOf_append, effectsOf_cons, effectsOf_nil, List.append_nil] at member
      rcases List.mem_append.mp member with early | late
      · exact before effect early
      · by_cases silent : effect.isNote = true
        · cases effect <;> first | rfl | cases silent
        · exact now effect ((mem_withoutNotes (Bool.eq_false_of_not_eq_true silent)).mpr late)

end Quiet

/-! ### What callers can rely on -/

/-- How a hub is drained before its channels are closed, after a run. -/
structure GracefulDrain (start : Hub) (past : List Moment) (hub : Hub) : Prop where
  /-- The closing of a channel begins only if somebody demanded it, or no call was
  in flight at some moment since closing began, or the first shutdown had a grace and
  that much time has passed since. -/
  permitted : ∀ action next effects slot, hub.step action = some (next, effects) →
    .closing slot ∈ effects → MayClose start past
  /-- The grace of a shutdown that is not the first has no influence. -/
  deaf : ∀ moment ∈ past, moment.action.isShutdown = true →
    ∀ id grace other, hub.step (.shutdown id grace) = hub.step (.shutdown id other)
  /-- If nobody demanded it and no grace is over, no call is in flight when the
  closing of a channel begins, and from then on no channel is made or called. -/
  gentle : ∀ action next effects slot, hub.step action = some (next, effects) →
    .closing slot ∈ effects → (∀ id told, ⟨.shutdownNow id, told⟩ ∉ past) →
      (∀ grace since, FirstShutdown past (some grace) since → elapsed since < grace.seconds) →
        hub.inFlight = 0 ∧ ∀ later last, History next later last →
          ∀ effect ∈ effects ++ effectsOf later, effect.places = false

/-- Every hub is drained gracefully. -/
theorem History.gracefulDrain {rules : RuleTable} {limits : Limits} {past : List Moment}
    {hub : Hub} (ran : History (fresh rules limits) past hub) :
    GracefulDrain (fresh rules limits) past hub := by
  have draining := ran.draining
  refine ⟨?_, ?_, ?_⟩
  · intro action next effects slot stepped closes
    exact draining.teardown (teardown_of_closing stepped closes)
  · intro moment member asks id grace other
    have announced := draining.announced
    have started : hub.drain ≠ .absent := by
      intro absent
      rw [absent] at announced
      cases announced with
      | absent none =>
          rw [none moment member] at asks
          cases asks
    simp only [step, shutdown]
  · intro action next effects slot stepped closes undemanded unexpired
    cases draining.teardown (teardown_of_closing stepped closes) with
    | demanded asked => exact absurd asked (undemanded _ _)
    | expired first late => exact absurd late (not_le_of_gt (unexpired _ _ first))
    | idled split reached closing none =>
        -- From the moment at which no call was in flight the hub has been quiet.
        rw [split] at ran
        obtain ⟨middle, first, second⟩ := ran.split
        cases first.unique reached
        have quiet := first.quiet closing none
        refine ⟨(quiet.run second).1.idle, ?_⟩
        intro later last onward effect member
        have whole : History hub (⟨action, effects⟩ :: later) last :=
          (History.next .begin stepped).append onward
        apply ((quiet.run second).1.run whole).2
        rwa [effectsOf_cons]

/-- A shutdown with a grace waits for the one call, and a second shutdown without
patience does not hurry it. -/
theorem gracefulDrain_after_answer :
    ∃ rules limits past hub next effects,
      History (fresh rules limits) past hub ∧
        FirstShutdown past (some ⟨5, "5"⟩)
          [⟨.drainStarts, []⟩, ⟨.shutdown "c" (some ⟨0, "0"⟩), []⟩, ⟨.tick 2, []⟩,
            ⟨.respond "a" .null, [.exited "a" (.replied .null)]⟩, ⟨.drainWakes, []⟩,
            ⟨.drainGoesOn, []⟩] ∧
        hub.step .teardownStarts = some (next, effects) ∧ .closing 0 ∈ effects ∧
        GracefulDrain (fresh rules limits) past hub := by
  have ran : History (fresh .empty ⟨1, 1, by decide, by decide⟩)
      ([] ++ [⟨.begin "a" .unaryUnary "get" .null none, _⟩] ++
        [⟨.shutdown "b" (some ⟨5, "5"⟩), _⟩] ++ [⟨.drainStarts, _⟩] ++
        [⟨.shutdown "c" (some ⟨0, "0"⟩), _⟩] ++ [⟨.tick 2, _⟩] ++ [⟨.respond "a" .null, _⟩] ++
        [⟨.drainWakes, _⟩] ++ [⟨.drainGoesOn, _⟩]) _ :=
    .next (.next (.next (.next (.next (.next (.next (.next .begin rfl) rfl) rfl) rfl) rfl) rfl)
      rfl) rfl
  refine ⟨_, _, _, _, _, _, ran, ?_, rfl, ?_, ran.gracefulDrain⟩
  · refine @FirstShutdown.first [_] _ "b" _ _ ?_
    simp [Action.isShutdown]
  · exact mem_closings.mp (List.mem_singleton.mpr rfl)

end Hub

end AffinityPool
