/-
Module: AffinityPool.Proofs.Hub.Routing
Purpose: Where calls go: a key keeps its channel as long as it is bound, a call whose key is bound
  goes to the channel of the key, and every other call goes where the pool selects.
Main exports:
  RuleTable.routingKey?, Hub.Routes, Hub.Selected, Hub.Stepped.dispatching,
  Hub.Stepped.routes_of_places, Hub.BoundThroughout, Hub.RoutesByAffinity
-/
import AffinityPool.Proofs.Affinity.Locality
import AffinityPool.Proofs.Hub.Account
import AffinityPool.Proofs.Pool.Selection

namespace AffinityPool

/-! ### The key that routes a call -/

/-- The key that routes a call: the key of its request, if the rule of its method
reads requests.  For a sequence of requests this is the first one. -/
def RuleTable.routingKey? (rules : RuleTable) (method : String) (opening : Opening) :
    Option String :=
  match rules.ruleFor method with
  | none => none
  | some rule =>
      match rule.command with
      | .bind => none
      | .bound | .unbind => opening.keyRequest?.bind rule.keyIn?

/-- The rule of a method reads the request, and the request cannot be asked. -/
def RuleTable.Unreadable (rules : RuleTable) (method : String) (opening : Opening)
    (failure : Failure) : Prop :=
  requestKey (rules.ruleFor method) opening.keyRequest? = .error failure

/-- The routing key is what the request is found to say; one that cannot be asked
says nothing. -/
theorem RuleTable.routingKey?_eq (rules : RuleTable) (method : String) (opening : Opening) :
    rules.routingKey? method opening =
      match requestKey (rules.ruleFor method) opening.keyRequest? with
      | .ok (key, _) => key
      | .error _ => none := by
  unfold requestKey routingKey?
  cases rules.ruleFor method with
  | none => rfl
  | some rule =>
      cases opening.keyRequest? with
      | none => cases command : rule.command <;> simp [command]
      | some request =>
          cases command : rule.command with
          | bind => simp [command, Command.readsRequest]
          | bound | unbind =>
              simp only [command, Command.readsRequest, if_true, Option.bind_some]
              cases read : rule.keyOf request with
              | error failure => exact Rule.keyOf_error read
              | ok found => exact (Rule.keyOf_ok read).symm

theorem RuleTable.routingKey?_of_read {rules : RuleTable} {method : String} {opening : Opening}
    {key : Option String} {notes : List Note}
    (read : requestKey (rules.ruleFor method) opening.keyRequest? = .ok (key, notes)) :
    rules.routingKey? method opening = key := by
  rw [routingKey?_eq, read]

theorem RuleTable.routingKey?_of_unreadable {rules : RuleTable} {method : String}
    {opening : Opening} {failure : Failure} (unread : rules.Unreadable method opening failure) :
    rules.routingKey? method opening = none := by
  rw [routingKey?_eq, unread]

/-- What an action makes known of a call before the call is placed. -/
def Action.admission (action : Action) : List Effect :=
  match action.begins? with
  | some id => [.admitted id]
  | none => []

/-- Whether an effect belongs to placing a call: a channel is made or not made for
it, or it is handed to the transport. -/
def Effect.places : Effect → Bool
  | .created _ | .creationFailed | .dispatched .. => true
  | _ => false

namespace Hub

/-! ### Routing actions -/

/-- The action with which an admitted call is routed, and how the call opens.  A
call whose rule reads requests is routed when its first request has come. -/
inductive Routes (hub : Hub) (id : CallId) :
    Action → Call → Opening → Option Failure → Prop where
  | begins {action : Action} {call : Call} {opening : Opening} {supply : Option Failure}
      (unclosed : hub.closing = false) (starts : Starts hub id action call opening supply) :
      Routes hub id action call opening supply
  | peeked {call : Call} {first : Option Message} {supply : Option Failure}
      (live : hub.call? id = some call) (peeking : call.phase = .peeking) :
      Routes hub id (.firstRequest id (.ok first) supply) call (.ofFirst first) supply

theorem Starts.ruled {hub : Hub} {id : CallId} {action : Action} {call : Call}
    {opening : Opening} {supply : Option Failure}
    (starts : Starts hub id action call opening supply) :
    call.rule = hub.rules.ruleFor call.method := by
  cases starts <;> rfl

/-- A routing action asks for a channel, in a state with the same pool and the
same index. -/
theorem Stepped.dispatching {hub next : Hub} {action : Action} {effects : List Effect}
    {id : CallId} {call : Call} {opening : Opening} {supply : Option Failure}
    (stepped : Stepped hub action next effects)
    (routes : Routes hub id action call opening supply) :
    ∃ asking told, asking.pool = hub.pool ∧ asking.entries = hub.entries ∧
      Dispatching asking id call opening supply next told ∧
        effects = action.admission ++ told := by
  cases routes with
  | begins unclosed starts =>
      have begun := starts.begins
      cases stepped with
      | refused begins fresh closing =>
          rw [unclosed] at closing
          cases closing
      | waits fresh again many reads =>
          cases starts with
          | untouched many unread =>
              rw [unread] at reads
              cases reads
      | begins fresh again other dispatching =>
          have same := begun
          rw [other.begins] at same
          cases same
          have admission : action.admission = [.admitted id] := by rw [Action.admission, begun]
          rw [admission]
          refine ⟨hub.withAdmitted id call, _, rfl, rfl, ?_, rfl⟩
          cases starts <;> cases other <;> exact dispatching
      | gaveUp live peeking givesUp => cases givesUp <;> cases begun
      | completed live waiting completes =>
          rw [completes.begins] at begun
          cases begun
      | left live leaves =>
          rw [leaves.begins] at begun
          cases begun
      | background background =>
          rw [background.begins] at begun
          cases begun
      | _ => cases begun
  | peeked live peeking =>
      cases stepped with
      | refused begins fresh closing => cases begins
      | begins fresh unclosed starts dispatching => cases starts
      | peeked asking waits dispatching =>
          rw [live] at asking
          cases asking
          exact ⟨hub, _, rfl, rfl, dispatching, rfl⟩
      | gaveUp asking waits givesUp => cases givesUp
      | completed asking waiting completes => cases completes.acts.2
      | left asking leaves =>
          cases leaves with
          | unanswered waiting completes => cases completes.acts.2
      | background background => cases background

theorem routes_ruled {hub : Hub} {register : Register} (known : Registered hub register)
    {id : CallId} {action : Action} {call : Call} {opening : Opening} {supply : Option Failure}
    (routes : Routes hub id action call opening supply) :
    call.rule = hub.rules.ruleFor call.method := by
  cases routes with
  | begins unclosed starts => exact starts.ruled
  | peeked live peeking => exact known.ruled live

theorem places_exitPlaced {hub : Hub} {id : CallId} {slot : Nat} {outcome : Outcome}
    {effect : Effect} (member : effect ∈ (hub.exitPlaced id slot outcome).2) :
    effect.places = false := by
  obtain ⟨shown, exits⟩ := exitPlaced_effects hub id slot outcome
  rw [exits, List.mem_singleton] at member
  rw [member]
  rfl

/-- Only a routing action places a call. -/
theorem Stepped.routes_of_places {hub next : Hub} {action : Action} {effects : List Effect}
    (stepped : Stepped hub action next effects) {effect : Effect} (member : effect ∈ effects)
    (places : effect.places = true) :
    ∃ id call opening supply, Routes hub id action call opening supply := by
  cases stepped with
  | begins fresh unclosed starts dispatching => exact ⟨_, _, _, _, .begins unclosed starts⟩
  | peeked live peeking dispatching => exact ⟨_, _, _, _, .peeked live peeking⟩
  | completed live waiting completes => cases (places_exitPlaced member).symm.trans places
  | left live leaves => cases (places_exitPlaced member).symm.trans places
  | background background =>
      have late := background.effects effect member
      cases effect with
      | closing | returned | thwarted => cases places
      | _ => cases late
  | resumed live paused => cases member
  | _ =>
      rw [List.mem_singleton] at member
      subst member
      cases places

/-! ### Where a routed call goes -/

/-- A call goes where the pool selects, or it exits with the failure of the
selection. -/
inductive Selected (pool : Pool) (id : CallId) (call : Call) (opening : Opening)
    (supply : Option Failure) (next : Pool) : List Effect → Prop where
  | placed {acquired : Pool.Acquired} (acquires : pool.acquire supply = .ok acquired)
      (after : next = acquired.pool) :
      Selected pool id call opening supply next
        ((if acquired.created then [.created acquired.position] else []) ++
          [.dispatched id acquired.position call.shape call.method opening])
  | refused {failure : Failure} (refuses : pool.acquire supply = .error failure)
      (after : next = pool) :
      Selected pool id call opening supply next
        [.creationFailed, .exited id (.failed failure)]

/-- A call without a key, or with a key that is not bound, is placed where the pool
selects. -/
theorem Placing.acquires {hub : Hub} {key : Option String} {supply : Option Failure} {slot : Nat}
    {pool : Pool} {creation : List Effect} (placing : Placing hub key supply slot pool creation)
    (unbound : hub.Unbound key) :
    ∃ created, hub.pool.acquire supply = .ok ⟨slot, created, pool⟩ ∧
      creation = if created then [.created slot] else [] := by
  cases placing with
  | bound named found =>
      rw [unbound _ named] at found
      cases found
  | reused free reusable => exact ⟨false, Pool.acquire_of_reusable reusable supply, rfl⟩
  | made free saturated supplied =>
      subst supplied
      exact ⟨true, Pool.acquire_of_supplied saturated, rfl⟩

namespace Dispatching

variable {hub next : Hub} {id : CallId} {call : Call} {opening : Opening}
  {supply : Option Failure} {effects : List Effect} {rules : RuleTable}

/-- A call whose key is bound is placed on the channel of the key. -/
theorem of_bound (dispatching : Dispatching hub id call opening supply next effects)
    (ruled : call.rule = rules.ruleFor call.method) {key : String} {slot : Nat}
    (keyed : rules.routingKey? call.method opening = some key)
    (held : hub.affinity.lookup key = some slot) :
    effects = [.dispatched id slot call.shape call.method opening] ∧
      next.pool = hub.pool.acquireAt slot := by
  cases dispatching with
  | unreadable unread =>
      rw [ruled] at unread
      rw [RuleTable.routingKey?_of_unreadable unread] at keyed
      cases keyed
  | unsupplied read unbound saturated supplied =>
      rw [ruled] at read
      rw [RuleTable.routingKey?_of_read read] at keyed
      rw [unbound key keyed] at held
      cases held
  | placed read placing =>
      rw [ruled] at read
      rw [RuleTable.routingKey?_of_read read] at keyed
      cases placing with
      | bound named found =>
          rw [named] at keyed
          cases keyed
          rw [found] at held
          cases held
          exact ⟨rfl, rfl⟩
      | reused unbound reusable =>
          rw [unbound key keyed] at held
          cases held
      | made unbound saturated supplied =>
          rw [unbound key keyed] at held
          cases held

/-- A call without a key, or with a key that is not bound, goes where the pool
selects. -/
theorem of_unbound (dispatching : Dispatching hub id call opening supply next effects)
    (ruled : call.rule = rules.ruleFor call.method)
    (readable : ∀ failure, ¬rules.Unreadable call.method opening failure)
    (unbound : hub.Unbound (rules.routingKey? call.method opening)) :
    Selected hub.pool id call opening supply next.pool effects := by
  cases dispatching with
  | unreadable unread =>
      rw [ruled] at unread
      exact absurd unread (readable _)
  | unsupplied read free saturated supplied =>
      subst supplied
      exact .refused (Pool.acquire_of_unsupplied saturated _) rfl
  | placed read placing =>
      rw [ruled] at read
      rw [RuleTable.routingKey?_of_read read] at unbound
      obtain ⟨created, acquires, rfl⟩ := placing.acquires unbound
      exact .placed acquires rfl

/-- A call whose request cannot be asked exits before it is placed. -/
theorem of_unreadable (dispatching : Dispatching hub id call opening supply next effects)
    (ruled : call.rule = rules.ruleFor call.method) {failure : Failure}
    (unread : rules.Unreadable call.method opening failure) :
    effects = [.exited id (.failed failure)] ∧ next.pool = hub.pool := by
  rw [RuleTable.Unreadable, ← ruled] at unread
  cases dispatching with
  | unreadable told =>
      rw [unread] at told
      cases told
      exact ⟨rfl, rfl⟩
  | unsupplied read unbound saturated supplied =>
      rw [unread] at read
      cases read
  | placed read placing =>
      rw [unread] at read
      cases read

/-- Only the call that asks is dispatched, with what it opens with. -/
theorem dispatched (dispatching : Dispatching hub id call opening supply next effects)
    {other : CallId} {slot : Nat} {shape : Shape} {method : String} {first : Opening}
    (member : .dispatched other slot shape method first ∈ effects) :
    other = id ∧ shape = call.shape ∧ method = call.method ∧ first = opening := by
  cases dispatching with
  | unreadable unread => simp at member
  | unsupplied read unbound saturated supplied => simp at member
  | @placed _ _ chosen _ _ read placing =>
      have last : Effect.dispatched other slot shape method first ∈
          [Effect.dispatched id chosen call.shape call.method opening] := by
        cases placing with
        | bound named found => exact member
        | reused unbound reusable => exact member
        | made unbound saturated supplied => simpa using member
      rw [List.mem_singleton] at last
      cases last
      exact ⟨rfl, rfl, rfl, rfl⟩

end Dispatching

/-! ### A key keeps its channel -/

/-- The key is bound in every state that a run passes through. -/
def BoundThroughout (start : Hub) (key : String) (past : List Moment) : Prop :=
  ∀ before after middle, past = before ++ after → History start before middle →
    middle.affinity.lookup key ≠ none

/-- The effect of a call takes a key away from its channel or leaves it there. -/
theorem lookup_applyEffect {hub : Hub} {key : String} {channel : Nat}
    (held : hub.affinity.lookup key = some channel) (slot : Nat) (effect : IndexEffect) :
    (hub.applyEffect slot effect).2.1.affinity.lookup key = none ∨
      (hub.applyEffect slot effect).2.1.affinity.lookup key = some channel := by
  cases effect with
  | nothing => exact Or.inr held
  | bind other =>
      right
      by_cases same : key = other
      · subst same
        have kept := hub.affinity.lookup_bind_self key slot
        rw [held] at kept
        exact kept
      · exact (hub.affinity.lookup_bind_of_ne same slot).trans held
  | unbind other =>
      by_cases same : key = other
      · subst same
        have kept := hub.affinity.lookup_unbind_self key
        rw [held] at kept
        exact kept
      · exact Or.inr ((hub.affinity.lookup_unbind_of_ne same).trans held)

theorem entry_of_entries {hub next : Hub} (same : next.entries = hub.entries) (key : String) :
    next.affinity.entry? key = hub.affinity.entry? key := by
  unfold Affinity.entry?
  rw [affinity, same]
  rfl

theorem lookup_of_entries {hub next : Hub} (same : next.entries = hub.entries) (key : String) :
    next.affinity.lookup key = hub.affinity.lookup key := by
  rw [Affinity.lookup, entry_of_entries same, Affinity.lookup]

/-- A step takes a key away from its channel or leaves it there. -/
theorem Stepped.lookup {hub next : Hub} {register : Register} (known : Registered hub register)
    {action : Action} {effects : List Effect} (stepped : Stepped hub action next effects)
    {key : String} {channel : Nat} (held : hub.affinity.lookup key = some channel) :
    next.affinity.lookup key = none ∨ next.affinity.lookup key = some channel := by
  rcases known.eventless_or_applied stepped with
    ⟨-, entries⟩ | ⟨id, call, slot, opening, firstKey, effect, live, waiting, posts, entries⟩
  · rw [lookup_of_entries entries, held]
    exact Or.inr rfl
  · rw [lookup_of_entries entries]
    exact lookup_applyEffect held slot effect

/-- A key keeps its channel as long as it is bound. -/
theorem History.lookup {rules : RuleTable} {limits : Limits} {past later : List Moment}
    {hub last : Hub} (ran : History (fresh rules limits) past hub)
    (onward : History hub later last) {key : String} {channel : Nat}
    (held : hub.affinity.lookup key = some channel) (bound : BoundThroughout hub key later) :
    last.affinity.lookup key = some channel := by
  induction onward with
  | begin => exact held
  | @next later middle last action effects earlier stepped ih =>
      have sofar : middle.affinity.lookup key = some channel := by
        apply ih
        intro before after state split reached
        exact bound before (after ++ [⟨action, effects⟩]) state (by rw [split, List.append_assoc])
          reached
      have known := (ran.append earlier).registered
      rcases (stepped_of_step stepped).lookup known sofar with gone | kept
      · exact absurd gone (bound _ [] _ (by simp) (earlier.next stepped))
      · exact kept

/-! ### What callers can rely on -/

/-- How the calls of a hub are routed from a state on. -/
structure RoutesByAffinity (hub : Hub) : Prop where
  /-- A key keeps its channel as long as it is bound. -/
  kept : ∀ key channel later last, hub.affinity.lookup key = some channel →
    History hub later last → BoundThroughout hub key later →
      last.affinity.lookup key = some channel
  /-- A call whose key is bound is dispatched on the channel of the key and nowhere
  else, and no channel is made or asked for. -/
  bound : ∀ action next effects id call opening supply key channel,
    hub.step action = some (next, effects) → Routes hub id action call opening supply →
      hub.rules.routingKey? call.method opening = some key →
        hub.affinity.lookup key = some channel →
          withoutNotes effects = action.admission ++
              [.dispatched id channel call.shape call.method opening] ∧
            next.pool = hub.pool.acquireAt channel
  /-- Every other call goes where the pool selects. -/
  unbound : ∀ action next effects id call opening supply,
    hub.step action = some (next, effects) → Routes hub id action call opening supply →
      (∀ failure, ¬hub.rules.Unreadable call.method opening failure) →
        hub.Unbound (hub.rules.routingKey? call.method opening) →
          ∃ told, withoutNotes effects = action.admission ++ told ∧
            Selected hub.pool id call opening supply next.pool told
  /-- A call whose request cannot be asked for its key fails before it is routed. -/
  unreadable : ∀ action next effects id call opening supply failure,
    hub.step action = some (next, effects) → Routes hub id action call opening supply →
      hub.rules.Unreadable call.method opening failure →
        withoutNotes effects = action.admission ++ [.exited id (.failed failure)] ∧
          next.pool = hub.pool
  /-- Channels are made, and the transport is called, for routed calls only. -/
  routed : ∀ action next effects effect, hub.step action = some (next, effects) →
    effect ∈ effects → effect.places = true →
      ∃ id call opening supply, Routes hub id action call opening supply

/-- Calls are routed by affinity after every run. -/
theorem History.routesByAffinity {rules : RuleTable} {limits : Limits} {past : List Moment}
    {hub : Hub} (ran : History (fresh rules limits) past hub) : RoutesByAffinity hub := by
  have known := ran.registered
  refine ⟨?_, ?_, ?_, ?_, ?_⟩
  · intro key channel later last held onward bound
    exact ran.lookup onward held bound
  · intro action next effects id call opening supply key channel stepped routes keyed held
    obtain ⟨asking, told, pool, entries, dispatching, effects⟩ :=
      (stepped_of_step stepped).dispatching routes
    rw [← lookup_of_entries entries] at held
    obtain ⟨rfl, after⟩ := dispatching.of_bound (routes_ruled known routes) keyed held
    rw [pool] at after
    exact ⟨effects, after⟩
  · intro action next effects id call opening supply stepped routes readable unbound
    obtain ⟨asking, told, pool, entries, dispatching, effects⟩ :=
      (stepped_of_step stepped).dispatching routes
    refine ⟨told, effects, ?_⟩
    rw [← pool]
    apply dispatching.of_unbound (routes_ruled known routes) readable
    intro key keyed
    rw [lookup_of_entries entries]
    exact unbound key keyed
  · intro action next effects id call opening supply failure stepped routes unread
    obtain ⟨asking, told, pool, entries, dispatching, effects⟩ :=
      (stepped_of_step stepped).dispatching routes
    obtain ⟨rfl, after⟩ := dispatching.of_unreadable (routes_ruled known routes) unread
    rw [pool] at after
    exact ⟨effects, after⟩
  · intro action next effects effect stepped member places
    have silent : effect.isNote = false := by cases effect <;> first | rfl | cases places
    exact (stepped_of_step stepped).routes_of_places ((mem_withoutNotes silent).mpr member) places

/-- A key that is bound draws its calls to its channel when that is at its ceiling
and another one could be made. -/
theorem routesByAffinity_over_ceiling :
    ∃ rules limits past hub next effects,
      History (fresh rules limits) past hub ∧ hub.affinity.lookup "k" = some 0 ∧
        (hub.pool.slotAt 0).activeCalls = limits.ceiling ∧ hub.pool.size < limits.maxSize ∧
        hub.step (.begin "c" .unaryUnary "get" (.dict [("id", .text "k")]) none) =
          some (next, effects) ∧
        withoutNotes effects =
          [.admitted "c",
            .dispatched "c" 0 .unaryUnary "get" (.single (.dict [("id", .text "k")]))] ∧
        RoutesByAffinity hub := by
  have ran : History (fresh ⟨[⟨"open", .bind, "id"⟩, ⟨"get", .bound, "id"⟩]⟩
      ⟨2, 1, by decide, by decide⟩)
      ([] ++ [⟨.begin "a" .unaryUnary "open" .null none, _⟩] ++
        [⟨.respond "a" (.dict [("id", .text "k")]), _⟩] ++
        [⟨.begin "b" .unaryUnary "get" (.dict [("id", .text "k")]) none, _⟩]) _ :=
    .next (.next (.next .begin rfl) rfl) rfl
  exact ⟨_, _, _, _, _, _, ran, rfl, rfl, by decide, rfl, rfl, ran.routesByAffinity⟩

end Hub

end AffinityPool
