/-
Module: AffinityPool.Proofs.Hub.Account
Purpose: The affinity index of a hub is what the journal of its calls says: one event for each call
  whose exchange succeeded, posted in the order in which the exchanges completed.
Main exports:
  Service.event?, Register.completion?, Register.event?, journal, Hub.Indexed.shows_step,
  Hub.Balanced.settles, Hub.History.shows, Hub.Bookkept
-/
import AffinityPool.Proofs.Affinity.Account
import AffinityPool.Proofs.Hub.Load

namespace AffinityPool

/-! ### The journal of a run -/

/-- What a call in service does to a key when its exchange succeeds with some
responses.  A bind takes the first key that a response has, an unbind the key of
the request; without a key there is no event. -/
def Service.event? (rules : RuleTable) (service : Service) (responses : List Message) :
    Option BindingEvent :=
  match rules.ruleFor service.method with
  | none => none
  | some rule =>
      match rule.command with
      | .bound => none
      | .bind => (responses.findSome? rule.keyIn?).map fun key => .bind key service.slot
      | .unbind => (service.opening.keyRequest?.bind rule.keyIn?).map .unbind

/-- The call whose exchange succeeds with an action, with all its responses: the
transport answers a call that brings one response, or ends a stream. -/
def Register.completion? (register : Register) : Action → Option (CallId × Service × List Message)
  | .respond id response =>
      match register.get? id with
      | some (some service) =>
          if service.shape.streamsResponses then none else some (id, service, [response])
      | _ => none
  | .finish id =>
      match register.get? id with
      | some (some service) =>
          if service.shape.streamsResponses then some (id, service, service.responses) else none
      | _ => none
  | _ => none

/-- The event of an action.  Only the success of an exchange has one: calls that
fail, are refused, cancelled or abandoned have none. -/
def Register.event? (register : Register) (rules : RuleTable) (action : Action) :
    Option BindingEvent :=
  match register.completion? action with
  | some (_, service, responses) => service.event? rules responses
  | none => none

/-- The events of a run that goes on from a register. -/
def journalFrom (rules : RuleTable) (register : Register) : List Moment → List BindingEvent
  | [] => []
  | moment :: later =>
      (register.event? rules moment.action).toList ++
        journalFrom rules (moment.effects.foldl Effect.register register) later

/-- The events of a run, in the order in which the exchanges completed. -/
def journal (rules : RuleTable) (past : List Moment) : List BindingEvent :=
  journalFrom rules [] past

/-- How a call exits whose exchange succeeds with an action, if nothing else is in
the way. -/
def Action.success? : Action → Option Outcome
  | .respond _ response => some (.replied response)
  | .finish _ => some .ended
  | _ => none

theorem journalFrom_append_singleton (rules : RuleTable) (register : Register)
    (past : List Moment) (moment : Moment) :
    journalFrom rules register (past ++ [moment]) =
      journalFrom rules register past ++
        (((effectsOf past).foldl Effect.register register).event? rules moment.action).toList := by
  induction past generalizing register with
  | nil => simp [journalFrom]
  | cons first later ih => simp [journalFrom, ih, List.foldl_append]

theorem journal_append_singleton (rules : RuleTable) (past : List Moment) (moment : Moment) :
    journal rules (past ++ [moment]) =
      journal rules past ++
        ((registerOf (effectsOf past)).event? rules moment.action).toList :=
  journalFrom_append_singleton ..

/-! ### Effects and events -/

/-- The event that an effect on the index is. -/
def IndexEffect.event? (slot : Nat) : IndexEffect → Option BindingEvent
  | .nothing => none
  | .bind key => some (.bind key slot)
  | .unbind key => some (.unbind key)

@[simp] theorem event?_binding (slot : Nat) (key : Option String) :
    (IndexEffect.binding key).event? slot = key.map fun key => .bind key slot := by
  cases key <;> rfl

@[simp] theorem event?_unbinding (slot : Nat) (key : Option String) :
    (IndexEffect.unbinding key).event? slot = key.map .unbind := by
  cases key <;> rfl

/-- The event of what is told about an exchange that succeeded.  If it cannot be
told, there is no event. -/
def toldEvent? (slot : Nat) : Except Failure (IndexEffect × List Note) → Option BindingEvent
  | .ok (effect, _) => effect.event? slot
  | .error _ => none

theorem toldEvent?_binding (slot : Nat) (rule : Rule) (message : Message) :
    toldEvent? slot ((rule.keyOf message).map fun (key, notes) => (.binding key, notes)) =
      (rule.keyIn? message).map fun key => .bind key slot := by
  cases read : rule.keyOf message with
  | error failure => simp [Except.map, toldEvent?, Rule.keyOf_error read]
  | ok found =>
      obtain ⟨key, notes⟩ := found
      simp [Except.map, toldEvent?, Rule.keyOf_ok read]

theorem toldEvent?_unbinding (slot : Nat) {rule : Rule} (unbinds : rule.command = .unbind)
    (request : Option Message) :
    toldEvent? slot
        ((requestKey (some rule) request).map fun (key, notes) => (.unbinding key, notes)) =
      (request.bind rule.keyIn?).map .unbind := by
  cases request with
  | none => rfl
  | some request =>
      simp only [requestKey, unbinds, Command.readsRequest, if_true, Option.bind_some]
      cases read : rule.keyOf request with
      | error failure => simp [Except.map, toldEvent?, Rule.keyOf_error read]
      | ok found =>
          obtain ⟨key, notes⟩ := found
          simp [Except.map, toldEvent?, Rule.keyOf_ok read]

/-- What is told about an answered call is the event of its service. -/
theorem toldEvent?_unaryEffect {rules : RuleTable} (service : Service) (response : Message) :
    toldEvent? service.slot
        (unaryEffect (rules.ruleFor service.method) service.opening.keyRequest? response) =
      service.event? rules [response] := by
  unfold unaryEffect Service.event?
  cases rules.ruleFor service.method with
  | none => rfl
  | some rule =>
      cases command : rule.command with
      | bound => simp [command, toldEvent?, IndexEffect.event?]
      | bind => simp [command, toldEvent?_binding]
      | unbind =>
          simp only [command]
          exact toldEvent?_unbinding service.slot command _

/-- What is told about a stream that ended is the event of its service. -/
theorem toldEvent?_streamEffect {rules : RuleTable} (service : Service) :
    toldEvent? service.slot
        (streamEffect (rules.ruleFor service.method) service.opening.keyRequest?
          (service.bindKey? (rules.ruleFor service.method))) =
      service.event? rules service.responses := by
  unfold streamEffect Service.event? Service.bindKey?
  cases rules.ruleFor service.method with
  | none => rfl
  | some rule =>
      cases command : rule.command with
      | bound => simp [command, toldEvent?, IndexEffect.event?]
      | bind =>
          simp only [command, if_true]
          cases service.responses.findSome? rule.keyIn? <;> rfl
      | unbind =>
          simp only [command]
          exact toldEvent?_unbinding service.slot command _

namespace Hub

/-! ### One step -/

theorem Completes.acts {call : Call} {opening : Opening} {firstKey : Option String} {id : CallId}
    {action : Action} {told : Except Failure (IndexEffect × List Note)} {success : Outcome}
    (completes : Completes call opening firstKey id action told success) :
    action.call? = some id ∧ action.success? = some success := by
  cases completes with
  | replied single => exact ⟨rfl, rfl⟩
  | ended streams => exact ⟨rfl, rfl⟩

namespace Registered

variable {hub next : Hub} {register : Register}

/-- The success of an exchange is a completion of the register, with the event
that is told of it. -/
theorem completion (known : Registered hub register) {id : CallId} {call : Call} {slot : Nat}
    {opening : Opening} {firstKey : Option String} {action : Action} {success : Outcome}
    {told : Except Failure (IndexEffect × List Note)} (live : hub.call? id = some call)
    (waiting : call.phase = .waiting slot opening firstKey)
    (completes : Completes call opening firstKey id action told success) :
    register.event? hub.rules action = toldEvent? slot told := by
  obtain ⟨service, found, rfl, rfl, shape, method, keyed⟩ := known.placed live (Or.inl waiting)
  have ruled : call.rule = hub.rules.ruleFor service.method := by
    rw [method]
    exact known.ruled live
  cases completes with
  | replied single =>
      rw [ruled, toldEvent?_unaryEffect]
      simp [Register.event?, Register.completion?, found, shape, single]
  | ended streams =>
      rw [keyed, ruled, toldEvent?_streamEffect]
      simp [Register.event?, Register.completion?, found, shape, streams]

/-- A step that completes no exchange has no event. -/
theorem eventless_of_streams (known : Registered hub register) {id : CallId} {call : Call}
    {slot : Nat} {opening : Opening} {firstKey : Option String} {response : Message}
    (live : hub.call? id = some call) (waiting : call.phase = .waiting slot opening firstKey)
    (streams : call.shape.streamsResponses = true) :
    register.event? hub.rules (.respond id response) = none := by
  obtain ⟨service, found, -, -, shape, -⟩ := known.placed live (Or.inl waiting)
  simp [Register.event?, Register.completion?, found, shape, streams]

theorem eventless_of_leaves (known : Registered hub register) {id : CallId} {call : Call}
    {slot : Nat} {action : Action} {outcome : Outcome} (live : hub.call? id = some call)
    (leaves : Leaves call id slot action outcome) :
    register.event? hub.rules action = none := by
  cases leaves with
  | failed waiting => rfl
  | cancelled waiting => rfl
  | abandoned paused => rfl
  | abandonFailed paused => rfl
  | unreadable waiting streams unread => exact known.eventless_of_streams live waiting streams
  | unanswered waiting completes => exact known.completion live waiting completes

/-- A step has no event and leaves the entries alone, unless it is the success of
an exchange. -/
theorem eventless_or_completed (known : Registered hub register) {action : Action}
    {effects : List Effect} (stepped : Stepped hub action next effects) :
    (register.event? hub.rules action = none ∧ next.entries = hub.entries) ∨
      ∃ id call slot opening firstKey effect notes success,
        hub.call? id = some call ∧ call.phase = .waiting slot opening firstKey ∧
          Completes call opening firstKey id action (.ok (effect, notes)) success ∧
          (next, effects) = (hub.applyEffect slot effect).2.1.exitPlaced id slot
            (success.afterEffect (hub.applyEffect slot effect).1) := by
  cases stepped with
  | refused begins fresh closing =>
      refine Or.inl ⟨?_, rfl⟩
      cases action <;> first | rfl | cases begins
  | waits fresh unclosed many reads => exact Or.inl ⟨rfl, rfl⟩
  | begins fresh unclosed starts dispatching =>
      refine Or.inl ⟨?_, ?_⟩
      · cases starts <;> rfl
      · exact dispatching.entries
  | peeked live peeking dispatching => exact Or.inl ⟨rfl, dispatching.entries⟩
  | gaveUp live peeking givesUp =>
      refine Or.inl ⟨?_, rfl⟩
      cases givesUp <;> rfl
  | delivered live waiting streams read =>
      exact Or.inl ⟨known.eventless_of_streams live waiting streams, rfl⟩
  | resumed live paused => exact Or.inl ⟨rfl, rfl⟩
  | completed live waiting completes =>
      exact Or.inr ⟨_, _, _, _, _, _, _, _, live, waiting, completes, rfl⟩
  | left live leaves =>
      exact Or.inl ⟨known.eventless_of_leaves live leaves, entries_exitPlaced ..⟩
  | background background =>
      refine Or.inl ⟨?_, background.sameCalls.entries⟩
      cases background <;> rfl

/-- A step has no event and leaves the entries alone, or its event is the effect of
a call on a slot, and it leaves the entries that the effect leaves. -/
theorem eventless_or_applied (known : Registered hub register) {action : Action}
    {effects : List Effect} (stepped : Stepped hub action next effects) :
    (register.event? hub.rules action = none ∧ next.entries = hub.entries) ∨
      ∃ id call slot opening firstKey effect,
        hub.call? id = some call ∧ call.phase = .waiting slot opening firstKey ∧
          register.event? hub.rules action = effect.event? slot ∧
          next.entries = (hub.applyEffect slot effect).2.1.entries := by
  rcases known.eventless_or_completed stepped with
    eventless | ⟨id, call, slot, opening, firstKey, effect, notes, success, live, waiting,
      completes, outcome⟩
  · exact Or.inl eventless
  · have entries := congrArg (fun result : Hub × List Effect => result.1.entries) outcome
    exact Or.inr ⟨id, call, slot, opening, firstKey, effect, live, waiting,
      known.completion live waiting completes, entries.trans (entries_exitPlaced ..)⟩

end Registered

/-- The effect of a call is its event: it is posted, and it fails exactly where
the account has a conflict. -/
theorem Indexed.shows_applyEffect {hub : Hub} (indexed : Indexed hub) {account : Account}
    (agrees : hub.affinity.Shows account) {slot : Nat} (inside : slot < hub.pool.size)
    (effect : IndexEffect) :
    (hub.applyEffect slot effect).2.1.affinity.Shows
        ((effect.event? slot).toList.foldl Account.post account) ∧
      (hub.applyEffect slot effect).1 =
        ((effect.event? slot).bind account.conflict?).elim (.ok ()) .error := by
  cases effect with
  | nothing => exact ⟨agrees, rfl⟩
  | bind key => exact agrees.bind key indexed.consistent inside indexed.numbered
  | unbind key => exact agrees.unbind key indexed.consistent

/-- One step posts its event. -/
theorem Indexed.shows_step {hub next : Hub} {register : Register} {account : Account}
    (indexed : Indexed hub) (known : Registered hub register)
    (agrees : hub.affinity.Shows account) {action : Action} {effects : List Effect}
    (stepped : Stepped hub action next effects) :
    next.affinity.Shows
      ((register.event? hub.rules action).toList.foldl Account.post account) := by
  rcases known.eventless_or_applied stepped with
    ⟨eventless, entries⟩ | ⟨id, call, slot, opening, firstKey, effect, live, waiting, posts,
      entries⟩
  · rw [eventless]
    exact agrees.of_entries entries
  · rw [posts]
    have inside := indexed.waiting_lt live waiting
    exact (indexed.shows_applyEffect agrees inside effect).1.of_entries entries

/-- A step with an event lets its call exit: with success, or with the conflict
that the event meets. -/
theorem Balanced.settles {hub next : Hub} {register : Register} {account : Account}
    (balanced : Balanced hub register) (indexed : Indexed hub) (known : Registered hub register)
    (agrees : hub.affinity.Shows account) {action : Action} {effects : List Effect}
    (stepped : Stepped hub action next effects) {event : BindingEvent}
    (posts : register.event? hub.rules action = some event) :
    ∃ id success, action.call? = some id ∧ action.success? = some success ∧
      effects = [.exited id ((account.conflict? event).elim success .failed)] := by
  rcases known.eventless_or_completed stepped with
    ⟨eventless, -⟩ | ⟨id, call, slot, opening, firstKey, effect, notes, success, live, waiting,
      completes, outcome⟩
  · rw [eventless] at posts
    cases posts
  · have told := known.completion live waiting completes
    rw [posts] at told
    have inside := indexed.waiting_lt live waiting
    have result := (indexed.shows_applyEffect agrees inside effect).2
    obtain ⟨service, found, rfl, -⟩ := known.placed live (Or.inl waiting)
    have exits := ((balanced.applyEffect service.slot effect).exit known.distinct found
      (success.afterEffect (hub.applyEffect service.slot effect).1)).1
    rw [← congrArg Prod.snd outcome, result,
      show effect.event? service.slot = some event from told.symm] at exits
    rw [Option.bind_some, Outcome.afterEffect_elim] at exits
    exact ⟨id, success, completes.acts.1, completes.acts.2, exits⟩

/-! ### Whole runs -/

/-- After every run the index shows what replaying the journal gives. -/
theorem History.shows {rules : RuleTable} {limits : Limits} {past : List Moment} {hub : Hub}
    (ran : History (fresh rules limits) past hub) :
    hub.affinity.Shows (replay (journal rules past)) := by
  induction ran with
  | begin =>
      intro key
      rfl
  | next earlier stepped ih =>
      have onward := earlier.indexed.shows_step earlier.registered ih (stepped_of_step stepped)
      rw [earlier.rules] at onward
      rw [journal_append_singleton, replay, List.foldl_append]
      exact onward

/-- What the next event of a run does to its call. -/
theorem History.settles {rules : RuleTable} {limits : Limits} {past : List Moment} {hub next : Hub}
    (ran : History (fresh rules limits) past hub) {action : Action} {effects : List Effect}
    {event : BindingEvent} (stepped : hub.step action = some (next, effects))
    (posts : (registerOf (effectsOf past)).event? rules action = some event) :
    ∃ id success, action.call? = some id ∧ action.success? = some success ∧
      withoutNotes effects =
        [.exited id (((replay (journal rules past)).conflict? event).elim success .failed)] := by
  have same : hub.rules = rules := ran.rules
  rw [← same] at posts
  exact ran.balanced.settles ran.indexed ran.registered ran.shows (stepped_of_step stepped) posts

/-- The books of a run: what its journal says, and what the next event will do. -/
structure Bookkept (rules : RuleTable) (past : List Moment) (hub : Hub) : Prop where
  /-- Read as a map, the index is the replayed journal. -/
  balance : ∀ key,
    ((hub.affinity.entry? key).map fun entry => (entry.slot, entry.refcount)) =
      (replay (journal rules past) key).map fun held => (held.slot, (held.count : Int))
  /-- An event is the one exit of its call: with success, or with a conflict that
  leaves the account as it is. -/
  settles : ∀ action next effects event, hub.step action = some (next, effects) →
    (registerOf (effectsOf past)).event? rules action = some event →
      ∃ id success, action.call? = some id ∧ action.success? = some success ∧
        withoutNotes effects =
          [.exited id (((replay (journal rules past)).conflict? event).elim success .failed)]
  /-- A call that exits without success has no event but the conflict it exits
  with. -/
  silent : ∀ action next effects id outcome event, hub.step action = some (next, effects) →
    .exited id outcome ∈ effects → action.success? ≠ some outcome →
      (registerOf (effectsOf past)).event? rules action = some event →
        ∃ failure, (replay (journal rules past)).conflict? event = some failure ∧
          outcome = .failed failure

/-- The books of every run are in order. -/
theorem History.bookkept {rules : RuleTable} {limits : Limits} {past : List Moment} {hub : Hub}
    (ran : History (fresh rules limits) past hub) : Bookkept rules past hub := by
  refine ⟨ran.shows, fun _ _ _ _ => ran.settles, ?_⟩
  intro action next effects id outcome event stepped exits unsuccessful posts
  obtain ⟨caller, success, -, succeeds, told⟩ := ran.settles stepped posts
  have shown : .exited id outcome ∈ withoutNotes effects := (mem_withoutNotes rfl).mpr exits
  rw [told, List.mem_singleton] at shown
  cases conflict : (replay (journal rules past)).conflict? event with
  | none =>
      rw [conflict] at shown
      cases shown
      exact absurd succeeds unsuccessful
  | some failure =>
      rw [conflict] at shown
      cases shown
      exact ⟨failure, rfl, rfl⟩

/-- A key that one call binds and another unbinds leaves two events and no
entry. -/
theorem bookkept_after_unbind :
    ∃ rules limits past hub,
      History (fresh rules limits) past hub ∧
        journal rules past = [.bind "k" 0, .unbind "k"] ∧ hub.entries = [] ∧
        Bookkept rules past hub := by
  have ran : History (fresh ⟨[⟨"open", .bind, "id"⟩, ⟨"close", .unbind, "id"⟩]⟩
      ⟨1, 1, by decide, by decide⟩)
      ([] ++ [⟨.begin "a" .unaryUnary "open" .null none, _⟩] ++
        [⟨.respond "a" (.dict [("id", .text "k")]), _⟩] ++
        [⟨.begin "b" .unaryUnary "close" (.dict [("id", .text "k")]) none, _⟩] ++
        [⟨.respond "b" .null, _⟩]) _ :=
    .next (.next (.next (.next .begin rfl) rfl) rfl) rfl
  exact ⟨_, _, _, _, ran, rfl, rfl, ran.bookkept⟩

end Hub

end AffinityPool
