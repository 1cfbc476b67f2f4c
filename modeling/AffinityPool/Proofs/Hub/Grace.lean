/-
Module: AffinityPool.Proofs.Hub.Grace
Purpose: A grace is told to be over only if there was nothing to wait for in it, or if at a moment
  when it was over a call was in flight.
Main exports:
  Effect.tellsExpiry, Discreet, Hub.Expires, Hub.expires_of_step, Hub.RanOut, Hub.Overdue,
  Hub.TimelyGrace, Hub.History.timelyGrace
-/
import AffinityPool.Proofs.Hub.Drain
import AffinityPool.Proofs.Hub.Rest

namespace AffinityPool

/-! ### Who tells that a grace is over -/

/-- Whether an effect tells that a grace is over. -/
def Effect.tellsExpiry : Effect → Bool
  | .note (.graceExpired ..) => true
  | _ => false

/-- Effects none of which tells that a grace is over. -/
structure Discreet (effects : List Effect) : Prop where
  silent : ∀ effect ∈ effects, effect.tellsExpiry = false

namespace Discreet

variable {effect : Effect} {first second : List Effect}

theorem nil : Discreet [] := by
  constructor
  intro effect member
  cases member

theorem cons (silent : effect.tellsExpiry = false) (rest : Discreet second) :
    Discreet (effect :: second) := by
  constructor
  intro other member
  rcases List.mem_cons.mp member with rfl | later
  · exact silent
  · exact rest.silent other later

/-- Effects that tell of no expiry tell of none one after the other. -/
theorem append (one : Discreet first) (two : Discreet second) : Discreet (first ++ second) := by
  constructor
  intro effect member
  rcases List.mem_append.mp member with early | late
  · exact one.silent effect early
  · exact two.silent effect late

/-- Effects that tell of no expiry do not have the note of one. -/
theorem not_mem (discreet : Discreet first) (shown : String) (count : Int) :
    .note (.graceExpired shown count) ∉ first := by
  intro member
  cases discreet.silent _ member

theorem of_eq {outcome : Hub × List Effect} {next : Hub} (discreet : Discreet outcome.2)
    (same : outcome = (next, first)) : Discreet first := by
  rw [same] at discreet
  exact discreet

end Discreet

/-- A rule that is asked of a message tells of no expiry. -/
theorem Rule.discreet_keyOf {rule : Rule} {message : Message} {key : Option String}
    {notes : List Note} (read : rule.keyOf message = .ok (key, notes)) :
    Discreet (Hub.noted notes) := by
  unfold Rule.keyOf at read
  split at read
  · cases read
    exact .nil
  · cases read
    exact .cons rfl .nil
  · cases read

/-- The key of a request is read without telling of an expiry. -/
theorem discreet_requestKey {rule : Option Rule} {request : Option Message}
    {key : Option String} {notes : List Note}
    (read : requestKey rule request = .ok (key, notes)) : Discreet (Hub.noted notes) := by
  unfold requestKey at read
  split at read
  · split at read
    · exact Rule.discreet_keyOf read
    · cases read
      exact .nil
  · cases read
    exact .nil

/-- What is made of a key changes nothing in the notes about it. -/
theorem discreet_of_map {read : Except Failure (Option String × List Note)}
    {make : Option String → IndexEffect} {effect : IndexEffect} {notes : List Note}
    (told : (read.map fun (key, notes) => (make key, notes)) = .ok (effect, notes))
    (discreet : ∀ key notes, read = .ok (key, notes) → Discreet (Hub.noted notes)) :
    Discreet (Hub.noted notes) := by
  cases read with
  | error failure => cases told
  | ok found =>
      cases told
      exact discreet _ _ rfl

/-- What a call for one response does to the index is told without an expiry. -/
theorem discreet_unaryEffect {rule : Option Rule} {request : Option Message} {response : Message}
    {effect : IndexEffect} {notes : List Note}
    (told : unaryEffect rule request response = .ok (effect, notes)) :
    Discreet (Hub.noted notes) := by
  unfold unaryEffect at told
  split at told
  · cases told
    exact .nil
  · split at told
    · cases told
      exact .nil
    · exact discreet_of_map told fun _ _ read => Rule.discreet_keyOf read
    · exact discreet_of_map told fun _ _ read => discreet_requestKey read

/-- What a call for a stream does to the index is told without an expiry. -/
theorem discreet_streamEffect {rule : Option Rule} {request : Option Message}
    {firstKey : Option String} {effect : IndexEffect} {notes : List Note}
    (told : streamEffect rule request firstKey = .ok (effect, notes)) :
    Discreet (Hub.noted notes) := by
  unfold streamEffect at told
  split at told
  · cases told
    exact .nil
  · split at told
    · cases told
      exact .nil
    · split at told
      · cases told
        exact .nil
      · cases told
        exact .cons rfl .nil
    · exact discreet_of_map told fun _ _ read => discreet_requestKey read

namespace Hub

/-- A change of the index tells of no expiry. -/
theorem discreet_applyEffect (hub : Hub) (slot : Nat) (effect : IndexEffect) :
    Discreet (noted (hub.applyEffect slot effect).2.2) := by
  cases effect with
  | nothing => exact .nil
  | bind key =>
      unfold applyEffect Affinity.bind
      dsimp only
      split
      · exact .cons rfl .nil
      · split
        · exact .cons rfl .nil
        · exact .cons rfl .nil
  | unbind key =>
      unfold applyEffect Affinity.unbind
      dsimp only
      split
      · exact .nil
      · split
        · exact .nil
        · split
          · split
            · exact .nil
            · exact .cons rfl .nil
          · exact .cons rfl .nil

/-- A call that exits tells of no expiry. -/
theorem discreet_exitPlaced (hub : Hub) (id : CallId) (slot : Nat) (outcome : Outcome) :
    Discreet (hub.exitPlaced id slot outcome).2 := by
  unfold exitPlaced
  split <;> exact .cons rfl .nil

/-- An exchange that succeeds tells of no expiry. -/
theorem discreet_succeed (hub : Hub) (id : CallId) (slot : Nat)
    {told : Except Failure (IndexEffect × List Note)} (outcome : Outcome)
    (discreet : ∀ effect notes, told = .ok (effect, notes) → Discreet (noted notes)) :
    Discreet (hub.succeed id slot told outcome).2 := by
  unfold succeed
  split
  · exact hub.discreet_exitPlaced id slot _
  · rename_i effect before
    have changed := hub.discreet_applyEffect slot effect
    dsimp only
    rw [noted, List.map_append]
    exact ((discreet effect before rfl).append changed).append (discreet_exitPlaced _ id slot _)

/-- A call that is placed by load, or is not placed, tells of no expiry. -/
theorem discreet_placeByLoad (hub : Hub) (method : String) (supply : Option Failure) :
    (∀ failure effects, hub.placeByLoad method supply = .error (failure, effects) →
      Discreet effects) ∧
      ∀ placement, hub.placeByLoad method supply = .ok placement → Discreet placement.effects := by
  unfold placeByLoad
  cases acquired : hub.pool.acquire supply with
  | error failure =>
      constructor
      · intro failure effects refused
        cases refused
        exact .cons rfl .nil
      · intro placement placed
        cases placed
  | ok acquired =>
      constructor
      · intro failure effects refused
        cases refused
      · intro placement placed
        cases placed
        refine Discreet.append ?_ (.cons rfl .nil)
        split
        · exact .cons rfl (.cons rfl .nil)
        · exact .nil

/-- A call that is placed, or is not placed, tells of no expiry. -/
theorem discreet_place (hub : Hub) (method : String) (key : Option String)
    (supply : Option Failure) :
    (∀ failure effects, hub.place method key supply = .error (failure, effects) →
      Discreet effects) ∧
      ∀ placement, hub.place method key supply = .ok placement → Discreet placement.effects := by
  obtain ⟨refusing, placing⟩ := hub.discreet_placeByLoad method supply
  unfold place
  cases key with
  | none => exact ⟨refusing, placing⟩
  | some text =>
      dsimp only
      split
      · constructor
        · intro failure effects refused
          cases refused
        · intro placement placed
          cases placed
          exact .cons rfl .nil
      · split
        · rename_i placement placed
          constructor
          · intro failure effects refused
            cases refused
          · intro other same
            cases same
            exact .cons rfl (placing placement placed)
        · rename_i failure effects refused
          constructor
          · intro other told same
            cases same
            exact .cons rfl (refusing failure effects refused)
          · intro placement placed
            cases placed

/-- A call that asks for a channel tells of no expiry. -/
theorem discreet_dispatch (hub : Hub) (id : CallId) (call : Call) (opening : Opening)
    (supply : Option Failure) : Discreet (hub.dispatch id call opening supply).2 := by
  unfold dispatch
  cases read : requestKey call.rule opening.keyRequest? with
  | error failure => exact .cons rfl .nil
  | ok found =>
      obtain ⟨key, notes⟩ := found
      obtain ⟨refusing, placing⟩ := hub.discreet_place call.method key supply
      have noted := discreet_requestKey read
      cases placed : hub.place call.method key supply with
      | error refusal =>
          obtain ⟨failure, effects⟩ := refusal
          simp only [placed]
          exact (noted.append (refusing failure effects placed)).append (.cons rfl .nil)
      | ok placement =>
          simp only [placed]
          exact (noted.append (placing placement placed)).append (.cons rfl .nil)

theorem discreet_closeNext (hub : Hub) (later : List Nat) : Discreet (hub.closeNext later).2 := by
  cases later with
  | nil => exact .cons rfl .nil
  | cons slot later => exact .cons rfl .nil

/-- A call with one request begins without telling of an expiry. -/
theorem discreet_begin (hub : Hub) (id : CallId) (shape : Shape) (method : String)
    (request : Message) (supply : Option Failure) :
    Discreet (hub.begin id shape method request supply).2 := by
  unfold begin
  split
  · exact .cons rfl .nil
  · exact .cons rfl (discreet_dispatch ..)

/-- A call with a stream of requests begins without telling of an expiry. -/
theorem discreet_beginMany (hub : Hub) (id : CallId) (shape : Shape) (method : String)
    (supply : Option Failure) : Discreet (hub.beginMany id shape method supply).2 := by
  unfold beginMany
  split
  · exact .cons rfl .nil
  · dsimp only
    split
    · exact .cons rfl .nil
    · exact .cons rfl (discreet_dispatch ..)

/-- A first request comes without telling of an expiry. -/
theorem discreet_firstRequest (hub : Hub) (id : CallId) (call : Call)
    (result : Except Failure (Option Message)) (supply : Option Failure) :
    Discreet (hub.firstRequest id call result supply).2 := by
  unfold firstRequest
  split
  · exact .cons rfl .nil
  · exact discreet_dispatch ..
  · exact discreet_dispatch ..

/-- A response comes without telling of an expiry. -/
theorem discreet_respond (hub : Hub) (id : CallId) (call : Call) (slot : Nat) (opening : Opening)
    (firstKey : Option String) (response : Message) :
    Discreet (hub.respond id call slot opening firstKey response).2 := by
  unfold respond
  split
  · split
    · exact discreet_exitPlaced ..
    · exact .cons rfl .nil
  · apply discreet_succeed
    intro effect notes told
    exact discreet_unaryEffect told

/-- The drain tells that a grace is over when it goes on after a wait that ended so, and
counts the calls that are in flight by then. -/
inductive Expires (hub : Hub) : Action → String → Int → Prop where
  | goesOn {shown : String} (resuming : hub.drain = .resuming (some shown)) :
      Expires hub .drainGoesOn shown hub.inFlight

variable {hub next : Hub} {action : Action} {effects : List Effect}

/-- A step about a call does not tell that a grace is over. -/
theorem discreet_of_call {id : CallId} (about : action.call? = some id)
    (stepped : hub.step action = some (next, effects)) : Discreet effects := by
  cases action with
  | begin id shape method request supply =>
      simp only [step, Option.ite_none_right_eq_some, Option.some.injEq] at stepped
      exact (discreet_begin ..).of_eq stepped.2
  | beginMany id shape method supply =>
      simp only [step, Option.ite_none_right_eq_some, Option.some.injEq] at stepped
      exact (discreet_beginMany ..).of_eq stepped.2
  | firstRequest id result supply =>
      simp only [step] at stepped
      split at stepped
      · simp only [Option.ite_none_right_eq_some, Option.some.injEq] at stepped
        exact (discreet_firstRequest ..).of_eq stepped.2
      · cases stepped
  | respond id response =>
      simp only [step] at stepped
      split at stepped
      · split at stepped
        · exact (discreet_respond ..).of_eq (Option.some.inj stepped)
        · cases stepped
      · cases stepped
  | finish id =>
      simp only [step] at stepped
      split at stepped
      · split at stepped
        · refine Discreet.of_eq ?_ (Option.some.inj stepped)
          apply discreet_succeed
          intro effect notes told
          exact discreet_streamEffect told
        · cases stepped
      · cases stepped
  | fail id failure =>
      simp only [step] at stepped
      split at stepped
      · split at stepped
        · exact (discreet_exitPlaced ..).of_eq (Option.some.inj stepped)
        · cases stepped
      · cases stepped
  | read id =>
      simp only [step] at stepped
      split at stepped
      · split at stepped
        · exact Discreet.nil.of_eq (Option.some.inj stepped)
        · cases stepped
      · cases stepped
  | abandon id =>
      simp only [step] at stepped
      split at stepped
      · split at stepped
        · exact (discreet_exitPlaced ..).of_eq (Option.some.inj stepped)
        · cases stepped
      · cases stepped
  | abandonFails id failure =>
      simp only [step] at stepped
      split at stepped
      · split at stepped
        · exact (discreet_exitPlaced ..).of_eq (Option.some.inj stepped)
        · cases stepped
      · cases stepped
  | cancel id =>
      simp only [step] at stepped
      split at stepped
      · split at stepped
        · exact (Discreet.cons rfl .nil).of_eq (Option.some.inj stepped)
        · exact (discreet_exitPlaced ..).of_eq (Option.some.inj stepped)
        · cases stepped
      · cases stepped
  | _ => cases about

/-- A shutdown begins without telling of an expiry. -/
theorem discreet_shutdown (hub : Hub) (id : CallId) (grace : Option Grace) :
    Discreet (hub.shutdown id grace).2 := by
  unfold shutdown
  dsimp only
  split
  · exact .cons rfl .nil
  · exact .nil

/-- A close returns without telling of an expiry. -/
theorem discreet_closeReturns (hub : Hub) (slot : Nat) (later : List Nat)
    (failure : Option Failure) : Discreet (hub.closeReturns slot later failure).2 := by
  unfold closeReturns
  split
  · exact .nil
  · exact .cons rfl (hub.discreet_closeNext later)
  · exact hub.discreet_closeNext later

/-- A drain that goes on tells that a grace is over exactly if its wait ended so. -/
theorem resumeDrain_told {expired : Option String} {shown : String} {count : Int}
    (resuming : hub.drain = .resuming expired)
    (told : .note (.graceExpired shown count) ∈ (hub.resumeDrain expired).2) :
    Expires hub .drainGoesOn shown count := by
  cases expired with
  | none => cases told
  | some grace =>
      cases List.mem_singleton.mp told
      exact .goesOn resuming

/-- Only the drain tells that a grace is over. -/
theorem expires_of_step {shown : String} {count : Int}
    (stepped : hub.step action = some (next, effects))
    (told : .note (.graceExpired shown count) ∈ effects) : Expires hub action shown count := by
  by_contra calm
  suffices discreet : Discreet effects from discreet.not_mem shown count told
  cases action with
  | begin | beginMany | firstRequest | respond | finish | fail | read | abandon | abandonFails
  | cancel => exact discreet_of_call rfl stepped
  | shutdown id grace =>
      simp only [step, Option.ite_none_right_eq_some, Option.some.injEq] at stepped
      exact (discreet_shutdown ..).of_eq stepped.2
  | shutdownNow id =>
      simp only [step, Option.ite_none_right_eq_some, Option.some.injEq] at stepped
      exact (Discreet.cons rfl .nil).of_eq stepped.2
  | cancelWaiter id =>
      simp only [step, Option.ite_none_right_eq_some, Option.some.injEq] at stepped
      exact Discreet.nil.of_eq stepped.2
  | tick seconds =>
      simp only [step, Option.ite_none_right_eq_some, Option.some.injEq] at stepped
      exact Discreet.nil.of_eq stepped.2
  | drainStarts =>
      simp only [step] at stepped
      split at stepped
      · exact Discreet.nil.of_eq (Option.some.inj stepped)
      · cases stepped
  | drainWakes =>
      simp only [step] at stepped
      split at stepped
      · simp only [Option.ite_none_right_eq_some, Option.some.injEq] at stepped
        exact Discreet.nil.of_eq stepped.2
      · cases stepped
  | drainExpires =>
      simp only [step] at stepped
      split at stepped
      · simp only [Option.ite_none_right_eq_some, Option.some.injEq] at stepped
        exact Discreet.nil.of_eq stepped.2
      · cases stepped
  | drainGoesOn =>
      simp only [step] at stepped
      split at stepped
      · rename_i expired resuming
        have resumed : hub.resumeDrain expired = (next, effects) := Option.some.inj stepped
        apply absurd (resumeDrain_told resuming _) calm
        rw [resumed]
        exact told
      · cases stepped
  | drainReturns =>
      simp only [step] at stepped
      split at stepped
      · exact Discreet.nil.of_eq (Option.some.inj stepped)
      · exact Discreet.nil.of_eq (Option.some.inj stepped)
      · cases stepped
  | teardownStarts =>
      simp only [step] at stepped
      split at stepped
      · exact (discreet_closeNext ..).of_eq (Option.some.inj stepped)
      · cases stepped
  | closeReturns failure =>
      simp only [step] at stepped
      split at stepped
      · exact (discreet_closeReturns ..).of_eq (Option.some.inj stepped)
      · cases stepped
  | waiterReturns id =>
      simp only [step] at stepped
      split at stepped
      · split at stepped
        · exact (Discreet.cons rfl .nil).of_eq (Option.some.inj stepped)
        · obtain ⟨abort, -, failed⟩ := Option.map_eq_some_iff.mp stepped
          exact (Discreet.cons rfl .nil).of_eq failed
      · cases stepped

/-- The drain does tell it, and nothing else. -/
theorem Expires.exists_step {shown : String} {count : Int}
    (expires : Expires hub action shown count) :
    ∃ next, hub.step action = some (next, [.note (.graceExpired shown count)]) := by
  cases expires with
  | goesOn resuming =>
      refine ⟨requestTeardown { hub with drain := .joining }, ?_⟩
      simp only [step, resuming, resumeDrain, noted, List.map_cons, List.map_nil]

/-- The deadline of a drain comes without the signal. -/
theorem step_drainExpires {deadline : Rat} {shown : String}
    (waiting : hub.drain = .waiting (some (deadline, shown))) (late : deadline ≤ hub.clock)
    (undrained : hub.drained = false) :
    hub.step .drainExpires = some ({ hub with drain := .resuming (some shown) }, []) := by
  have overdue : deadline ≤ hub.clock ∧ (!hub.drained) = true := ⟨late, by simp [undrained]⟩
  simp only [step, waiting, if_pos overdue]

/-! ### When a grace is told to be over -/

section
variable {rules : RuleTable} {limits : Limits} {start hub next : Hub} {past : List Moment}

/-- Calls that are in flight are counted. -/
theorem History.inFlight_nonneg (ran : History (fresh rules limits) past hub) :
    0 ≤ hub.inFlight := by
  rw [ran.balanced.inFlight]
  exact Int.natCast_nonneg _

/-- At some moment the grace of the first shutdown was over, and a call was in flight. -/
def RanOut (start : Hub) (past : List Moment) (grace : Grace) : Prop :=
  ∃ before after middle sooner, past = before ++ after ∧ History start before middle ∧
    FirstShutdown before (some grace) sooner ∧ grace.seconds ≤ elapsed sooner ∧
      0 < middle.inFlight

/-- A grace is told to be over. -/
structure Overdue (start : Hub) (past : List Moment) (hub : Hub) (shown : String)
    (count : Int) : Prop where
  counted : count = hub.inFlight
  /-- It is the grace of the first shutdown, and that much time has passed since.  If it
  is longer than nothing, a call was in flight at a moment when it was over. -/
  late : ∃ grace since, FirstShutdown past (some grace) since ∧ shown = grace.shown ∧
    grace.seconds ≤ elapsed since ∧ (0 < grace.seconds → RanOut start past grace)

/-- A wait that ended without the signal was too long, or there was nothing to wait for. -/
theorem History.overdue_of_ended (ran : History (fresh rules limits) past hub)
    {grace : Option Grace} {since : List Moment} {shown : String}
    (first : FirstShutdown past grace since)
    (ended : WaitEnded (fresh rules limits) past grace (some shown)) :
    Overdue (fresh rules limits) past hub shown hub.inFlight := by
  have forward := ran.draining.elapsed_since first
  cases ended with
  | @hasty limit nothing =>
      refine ⟨rfl, limit, since, first, rfl, nothing.trans forward, ?_⟩
      intro something
      exact absurd nothing (not_le_of_gt something)
  | @late limit before after sooner middle split reached begun something due undrained =>
      have flying : middle.inFlight ≠ 0 := by
        intro none
        -- Without a call in flight the signal would have been given.
        cases undrained.symm.trans (reached.signalled (reached.closing_of_first begun) none)
      refine ⟨rfl, limit, since, first, rfl, ?_, fun _ => ?_⟩
      · subst split
        rw [(first.unique (begun.append after)).2, elapsed_append]
        have later : 0 ≤ elapsed after :=
          elapsed_nonneg fun moment member => ran.draining.forward moment (by simp [member])
        linarith
      · exact ⟨before, after, middle, sooner, split, reached, begun, due,
          lt_of_le_of_ne reached.inFlight_nonneg flying.symm⟩

/-- When a drain tells that the grace of the first shutdown is over, that time has passed. -/
theorem History.overdue (ran : History (fresh rules limits) past hub) {action : Action}
    {shown : String} {count : Int} (expires : Expires hub action shown count) :
    Overdue (fresh rules limits) past hub shown count := by
  have announced := ran.draining.announced
  cases expires with
  | goesOn resuming =>
      rw [resuming] at announced
      cases announced with
      | resuming first clocked ended => exact ran.overdue_of_ended first ended

/-- A moment at which a grace was told to be over, with the state that it was told in. -/
theorem History.exists_overdue (ran : History (fresh rules limits) past hub) {shown : String}
    {count : Int} (told : .note (.graceExpired shown count) ∈ effectsOf past) :
    ∃ earlier later middle, past = earlier ++ later ∧
      Overdue (fresh rules limits) earlier middle shown count := by
  obtain ⟨moment, member, now⟩ := List.mem_flatMap.mp told
  obtain ⟨earlier, later, split⟩ := List.append_of_mem member
  rw [split] at ran
  obtain ⟨middle, first, second⟩ := ran.split
  obtain ⟨next, stepped, -⟩ := second.uncons
  exact ⟨earlier, moment :: later, middle, split, first.overdue (expires_of_step stepped now)⟩

/-- If no call was in flight at a moment since the first shutdown at which its grace was not
over yet, that grace never ran out. -/
theorem History.not_ranOut {before after since : List Moment} {idle : Hub} {grace : Grace}
    (reached : History (fresh rules limits) before idle) (none : idle.inFlight = 0)
    (split : past = before ++ after) (first : FirstShutdown before (some grace) since)
    (early : elapsed since < grace.seconds) : ¬RanOut (fresh rules limits) past grace := by
  rintro ⟨earlier, later, middle, sooner, divided, begun, shutdown, due, flying⟩
  rw [divided] at split
  rcases List.append_eq_append_iff.mp split with ⟨gap, same, rest⟩ | ⟨gap, same, rest⟩
  · -- It ran out before that moment, when even less time had passed.
    subst same
    rw [(first.unique (shutdown.append gap)).2, elapsed_append] at early
    have forward : 0 ≤ elapsed gap :=
      elapsed_nonneg fun moment member => reached.draining.forward moment (by simp [member])
    linarith
  · -- It ran out since that moment, from which on no call is in flight.
    subst same
    obtain ⟨rested, pause, onward⟩ := begun.split
    cases pause.unique reached
    have quiet := reached.quiet (reached.closing_of_first first) none
    rw [(quiet.run onward).1.idle] at flying
    exact lt_irrefl 0 flying

/-- Such a grace is never told to be over. -/
theorem History.not_overdue (ran : History (fresh rules limits) past hub)
    {before after since : List Moment} {idle : Hub} {grace : Option Grace}
    (split : past = before ++ after) (reached : History (fresh rules limits) before idle)
    (none : idle.inFlight = 0) (first : FirstShutdown before grace since)
    (early : ∀ limit, grace = some limit → elapsed since < limit.seconds) (shown : String)
    (count : Int) : .note (.graceExpired shown count) ∉ effectsOf past := by
  intro told
  obtain ⟨earlier, later, middle, divided, overdue⟩ := ran.exists_overdue told
  obtain ⟨limit, sofar, shutdown, -, -, ranOut⟩ := overdue.late
  have whole := shutdown.append later
  rw [← divided, split] at whole
  obtain ⟨rfl, -⟩ := (first.append after).unique whole
  have unfinished := early limit rfl
  have something : 0 < limit.seconds :=
    (reached.draining.elapsed_since first).trans_lt unfinished
  obtain ⟨ahead, behind, moment, sooner, cut, rest⟩ := ranOut something
  refine reached.not_ranOut none split first unfinished ?_
  exact ⟨ahead, behind ++ later, moment, sooner, by rw [divided, cut, List.append_assoc], rest⟩

/-- The wait for a grace of nothing or less ends without the signal. -/
theorem History.expires_of_hasty (ran : History (fresh rules limits) past hub) {grace : Grace}
    {since : List Moment} (first : FirstShutdown past (some grace) since)
    (nothing : grace.seconds ≤ 0) {expired : Option String}
    (resuming : hub.drain = .resuming expired) :
    Expires hub .drainGoesOn grace.shown hub.inFlight := by
  have announced := ran.draining.announced
  rw [resuming] at announced
  cases announced with
  | resuming begun clocked ended =>
      obtain ⟨rfl, -⟩ := begun.unique first
      cases ended with
      | signalled something => exact absurd nothing (not_le_of_gt (something grace rfl))
      | hasty hurried => exact .goesOn resuming
      | late split reached begun something => exact absurd nothing (not_le_of_gt something)

/-! ### What callers can rely on -/

/-- When a grace is told to be over, after a run. -/
structure TimelyGrace (start : Hub) (past : List Moment) (hub : Hub) : Prop where
  /-- It is the grace of the first shutdown, and that much time has passed since.  If it is
  longer than nothing, at least one call was in flight at a moment when it was over. -/
  overdue : ∀ action next effects shown count, hub.step action = some (next, effects) →
    .note (.graceExpired shown count) ∈ effects → Overdue start past hub shown count
  /-- If no call was in flight when the first shutdown began, or at a later moment at which its
  grace was not over yet, no grace has been told to be over. -/
  spared : ∀ before after idle grace since, past = before ++ after → History start before idle →
    idle.inFlight = 0 → FirstShutdown before grace since →
      (∀ limit, grace = some limit → elapsed since < limit.seconds) →
        ∀ shown count, .note (.graceExpired shown count) ∉ effectsOf past
  /-- A grace of nothing or less does not begin to wait, and is told to be over whatever is in
  flight, when the drain goes on. -/
  hasty : ∀ grace since, FirstShutdown past (some grace) since → grace.seconds ≤ 0 →
    (∀ given, hub.drain = .scheduled given →
      hub.step .drainStarts = some ({ hub with drain := .resuming (some grace.shown) }, [])) ∧
    ∀ next effects, hub.step .drainGoesOn = some (next, effects) →
      effects = [.note (.graceExpired grace.shown hub.inFlight)]

/-- A drain that knows of a first grace of nothing or less does not wait. -/
theorem History.hasty_start (ran : History (fresh rules limits) past hub) {grace : Grace}
    {since : List Moment} (first : FirstShutdown past (some grace) since)
    (nothing : grace.seconds ≤ 0) {given : Option Grace}
    (scheduled : hub.drain = .scheduled given) :
    hub.step .drainStarts = some ({ hub with drain := .resuming (some grace.shown) }, []) := by
  have announced := ran.draining.announced
  rw [scheduled] at announced
  cases announced with
  | scheduled begun =>
      obtain ⟨rfl, -⟩ := begun.unique first
      simp only [step, scheduled, startDrain, if_pos nothing]

/-- A grace that is longer than nothing is told to be over only if a call was in flight at a
moment when it was. -/
theorem History.timelyGrace (ran : History (fresh rules limits) past hub) :
    TimelyGrace (fresh rules limits) past hub where
  overdue _ _ _ _ _ stepped told := ran.overdue (expires_of_step stepped told)
  spared _ _ _ _ _ split reached none first early := ran.not_overdue split reached none first early
  hasty grace since first nothing := by
    refine ⟨fun _ scheduled => ran.hasty_start first nothing scheduled, ?_⟩
    intro next effects stepped
    cases drain : hub.drain with
    | resuming expired =>
        obtain ⟨last, told⟩ := (ran.expires_of_hasty first nothing drain).exists_step
        rw [stepped] at told
        cases told
        rfl
    | _ => simp [step, drain] at stepped

/-- The one call of a hub is still in flight when the grace of a shutdown is over; a second
shutdown, without patience, changes nothing in this. -/
theorem timelyGrace_in_flight :
    ∃ rules limits past hub,
      History (fresh rules limits) past hub ∧
        (∃ next, hub.step .drainGoesOn = some (next, [.note (.graceExpired "5" 1)])) ∧
        FirstShutdown past (some ⟨5, "5"⟩)
          [⟨.drainStarts, []⟩, ⟨.shutdown "c" (some ⟨0, "0"⟩), []⟩, ⟨.tick 5, []⟩,
            ⟨.drainExpires, []⟩] ∧
        hub.inFlight = 1 ∧ TimelyGrace (fresh rules limits) past hub := by
  have ran : History (fresh .empty ⟨1, 1, by decide, by decide⟩)
      ([] ++ [⟨.begin "a" .unaryUnary "get" .null none, _⟩] ++
        [⟨.shutdown "b" (some ⟨5, "5"⟩), _⟩] ++ [⟨.drainStarts, _⟩] ++
        [⟨.shutdown "c" (some ⟨0, "0"⟩), _⟩] ++ [⟨.tick 5, _⟩] ++ [⟨.drainExpires, _⟩]) _ :=
    .next (.next (.next (.next (.next (.next .begin rfl) rfl) rfl) rfl) rfl)
      (step_drainExpires rfl (le_refl _) rfl)
  refine ⟨_, _, _, _, ran, Expires.exists_step (.goesOn rfl), ?_, rfl, ran.timelyGrace⟩
  refine @FirstShutdown.first [_] _ "b" _ _ ?_
  simp [Action.isShutdown]

/-- A hub without calls is shut down with a grace of nothing: that is told to be over, although no
call is in flight and none was. -/
theorem idle_grace_told_over :
    ∃ rules limits past hub next,
      History (fresh rules limits) past hub ∧
        past.map (·.action) = [.shutdown "a" (some ⟨0, "0"⟩), .drainStarts] ∧
        hub.inFlight = 0 ∧ hub.drained = true ∧
        hub.step .drainGoesOn = some (next, [.note (.graceExpired "0" 0)]) := by
  have ran : History (fresh .empty ⟨1, 1, by decide, by decide⟩)
      ([] ++ [⟨.shutdown "a" (some ⟨0, "0"⟩), _⟩] ++ [⟨.drainStarts, _⟩]) _ :=
    .next (.next .begin rfl) rfl
  exact ⟨_, _, _, _, _, ran, rfl, rfl, rfl, rfl⟩

/-- The last call exits when the grace is over and the drain has not gone on yet: the grace is
told to be over with no call in flight. -/
theorem late_exit_told_over :
    ∃ rules limits past hub next,
      History (fresh rules limits) past hub ∧
        FirstShutdown past (some ⟨5, "5"⟩)
          [⟨.drainStarts, []⟩, ⟨.tick 5, []⟩, ⟨.drainExpires, []⟩,
            ⟨.respond "a" .null, [.exited "a" (.replied .null)]⟩] ∧
        hub.inFlight = 0 ∧
        hub.step .drainGoesOn = some (next, [.note (.graceExpired "5" 0)]) := by
  have ran : History (fresh .empty ⟨1, 1, by decide, by decide⟩)
      ([] ++ [⟨.begin "a" .unaryUnary "get" .null none, _⟩] ++
        [⟨.shutdown "b" (some ⟨5, "5"⟩), _⟩] ++ [⟨.drainStarts, _⟩] ++ [⟨.tick 5, _⟩] ++
        [⟨.drainExpires, _⟩] ++ [⟨.respond "a" .null, _⟩]) _ :=
    .next (.next (.next (.next (.next (.next .begin rfl) rfl) rfl) rfl)
      (step_drainExpires rfl (le_refl _) rfl)) rfl
  refine ⟨_, _, _, _, _, ran, ?_, rfl, rfl⟩
  refine @FirstShutdown.first [_] _ "b" _ _ ?_
  simp [Action.isShutdown]

end

end Hub

end AffinityPool
