/-
Module: AffinityPool.Proofs.Hub.Confinement
Purpose: How far the success of a call reaches into the bindings: a bind to its own channel, an
  unbind to the channel that holds its key by then.
Main exports:
  Hub.SameBindings, Hub.Confined, Hub.Since, Hub.History.since, Hub.Since.held, Hub.KeyedReach,
  Hub.released_elsewhere
-/
import AffinityPool.Proofs.Hub.Routing

namespace AffinityPool

/-! ### Calls in service -/

/-- What made it known that a call is in service. -/
def Service.dispatch (service : Service) (id : CallId) : Effect :=
  .dispatched id service.slot service.shape service.method service.opening

/-- A call in service after an effect was dispatched with it, or was in service
before and did not exit. -/
theorem Effect.serving {register : Register} {effect : Effect} {id : CallId} {service : Service}
    (found : (Effect.register register effect).get? id = some (some service)) :
    effect = service.dispatch id ∨
      (∀ outcome, effect ≠ .exited id outcome) ∧
        ∃ earlier, register.get? id = some (some earlier) ∧
          earlier.dispatch id = service.dispatch id := by
  cases effect with
  | admitted other =>
      rw [Effect.register, Ledger.get?_put] at found
      split at found
      · cases found
      · exact Or.inr ⟨by simp, service, found, rfl⟩
  | dispatched other slot shape method opening =>
      rw [Effect.register, Ledger.get?_put] at found
      split at found
      · rename_i same
        cases found
        exact Or.inl (congrArg (Effect.dispatched · slot shape method opening) same.symm)
      · exact Or.inr ⟨by simp, service, found, rfl⟩
  | delivered other response =>
      refine Or.inr ⟨by simp, ?_⟩
      simp only [Effect.register] at found
      split at found
      · rename_i earlier known
        rw [Ledger.get?_put] at found
        split at found
        · rename_i same
          cases found
          exact ⟨earlier, same ▸ known, rfl⟩
        · exact ⟨service, found, rfl⟩
      · exact ⟨service, found, rfl⟩
  | exited other outcome =>
      rw [Effect.register, Ledger.get?_drop] at found
      split at found
      · cases found
      · rename_i differs
        refine Or.inr ⟨?_, service, found, rfl⟩
        intro shown same
        cases same
        exact differs rfl
  | _ => exact Or.inr ⟨by simp, service, found, rfl⟩

/-- A call in service after some effects was dispatched among them, or was in
service before and did not exit. -/
theorem serving_foldl {register : Register} {effects : List Effect} {id : CallId}
    {service : Service}
    (found : (effects.foldl Effect.register register).get? id = some (some service)) :
    service.dispatch id ∈ effects ∨
      (∀ outcome, .exited id outcome ∉ effects) ∧
        ∃ earlier, register.get? id = some (some earlier) ∧
          earlier.dispatch id = service.dispatch id := by
  induction effects using List.reverseRecOn generalizing service with
  | nil => exact Or.inr ⟨by simp, service, found, rfl⟩
  | append_singleton effects last ih =>
      rw [List.foldl_append] at found
      rcases Effect.serving found with rfl | ⟨stays, middle, known, same⟩
      · exact Or.inl (by simp)
      · rcases ih known with dispatched | ⟨serves, earlier, before, alike⟩
        · rw [same] at dispatched
          exact Or.inl (List.mem_append_left _ dispatched)
        · refine Or.inr ⟨?_, earlier, before, alike.trans same⟩
          intro outcome member
          rcases List.mem_append.mp member with early | late
          · exact serves outcome early
          · exact stays outcome (List.mem_singleton.mp late).symm

/-- The call that completes is in service. -/
theorem Register.serving_of_completion {register : Register} {action : Action} {id : CallId}
    {service : Service} {responses : List Message}
    (completes : register.completion? action = some (id, service, responses)) :
    register.get? id = some (some service) := by
  unfold Register.completion? at completes
  split at completes
  · split at completes
    · rename_i found
      split at completes
      · cases completes
      · cases completes
        exact found
    · cases completes
  · split at completes
    · rename_i found
      split at completes
      · cases completes
        exact found
      · cases completes
    · cases completes
  · cases completes

/-- A bind goes to the channel that serves the call. -/
theorem Service.slot_of_bind {rules : RuleTable} {service : Service} {responses : List Message}
    {key : String} {slot : Nat}
    (binds : service.event? rules responses = some (.bind key slot)) : slot = service.slot := by
  unfold Service.event? at binds
  split at binds
  · cases binds
  · split at binds
    · cases binds
    · obtain ⟨found, -, same⟩ := Option.map_eq_some_iff.mp binds
      cases same
      rfl
    · obtain ⟨found, -, same⟩ := Option.map_eq_some_iff.mp binds
      cases same

/-- An unbind is about the key that routed the call. -/
theorem Service.routingKey?_of_unbind {rules : RuleTable} {service : Service}
    {responses : List Message} {key : String}
    (unbinds : service.event? rules responses = some (.unbind key)) :
    rules.routingKey? service.method service.opening = some key := by
  unfold Service.event? at unbinds
  unfold RuleTable.routingKey?
  split at unbinds
  · cases unbinds
  · rename_i rule ruled
    split at unbinds
    · cases unbinds
    · obtain ⟨found, -, same⟩ := Option.map_eq_some_iff.mp unbinds
      cases same
    · rename_i command
      obtain ⟨found, keyed, same⟩ := Option.map_eq_some_iff.mp unbinds
      cases same
      simpa [ruled, command] using keyed

namespace Hub

/-! ### How far one effect reaches -/

/-- The bindings are as they were, and the channels count as many keys. -/
structure SameBindings (hub next : Hub) : Prop where
  entries : next.entries = hub.entries
  counted : ∀ channel,
    (next.pool.slotAt channel).boundKeys = (hub.pool.slotAt channel).boundKeys

/-- Bindings change on one channel at most. -/
structure Confined (hub next : Hub) (slot : Nat) : Prop where
  /-- No binding of another channel is released or counted differently. -/
  kept : ∀ key channel, hub.affinity.lookup key = some channel → channel ≠ slot →
    next.affinity.entry? key = hub.affinity.entry? key
  /-- No other channel gets a binding. -/
  made : ∀ key channel, next.affinity.lookup key = some channel → channel ≠ slot →
    next.affinity.entry? key = hub.affinity.entry? key
  /-- The other channels count as many keys as before. -/
  counted : ∀ channel, channel ≠ slot →
    (next.pool.slotAt channel).boundKeys = (hub.pool.slotAt channel).boundKeys

theorem Confined.congr {hub changed next : Hub} {slot : Nat} (confined : Confined hub changed slot)
    (same : SameBindings changed next) : Confined hub next slot where
  kept := by
    intro key channel held differs
    rw [entry_of_entries same.entries]
    exact confined.kept key channel held differs
  made := by
    intro key channel held differs
    rw [lookup_of_entries same.entries] at held
    rw [entry_of_entries same.entries]
    exact confined.made key channel held differs
  counted := by
    intro channel differs
    rw [same.counted]
    exact confined.counted channel differs

/-- A bind reaches the channel it binds to and no other, also when it meets a
conflict. -/
theorem confined_bind (hub : Hub) (slot : Nat) (key : String) :
    Confined hub (hub.applyEffect slot (.bind key)).2.1 slot where
  kept := by
    intro other channel held differs
    by_cases same : other = key
    · subst same
      exact congrArg (Affinity.entry? · other) (hub.affinity.bind_of_elsewhere held differs)
    · exact hub.affinity.entry_bind_of_ne same slot
  made := by
    intro other channel held differs
    by_cases same : other = key
    · subst same
      have kept := (hub.affinity.lookup_bind_self other slot).symm.trans held
      cases before : hub.affinity.lookup other with
      | none =>
          rw [before] at kept
          cases kept
          exact absurd rfl differs
      | some home =>
          rw [before] at kept
          cases kept
          exact congrArg (Affinity.entry? · other) (hub.affinity.bind_of_elsewhere before differs)
    · exact hub.affinity.entry_bind_of_ne same slot
  counted := fun channel differs => hub.affinity.boundKeys_bind_of_ne key differs

/-- An unbind reaches the channel that holds its key and no other, whatever the
channel of its call. -/
theorem confined_unbind {hub : Hub} {key : String} {channel : Nat}
    (held : hub.affinity.lookup key = some channel) (slot : Nat) :
    Confined hub (hub.applyEffect slot (.unbind key)).2.1 channel where
  kept := by
    intro other home kept differs
    have apart : other ≠ key := by
      rintro rfl
      rw [held] at kept
      cases kept
      exact differs rfl
    exact hub.affinity.entry_unbind_of_ne apart
  made := by
    intro other home kept differs
    have apart : other ≠ key := by
      rintro rfl
      rcases hub.affinity.lookup_unbind_self other with gone | stays
      · cases gone.symm.trans kept
      · cases (stays.trans held).symm.trans kept
        exact differs rfl
    exact hub.affinity.entry_unbind_of_ne apart
  counted := by
    intro other differs
    apply hub.affinity.boundKeys_unbind_of_ne
    rw [held]
    intro same
    cases same
    exact differs rfl

/-- An unbind of a key that is not bound does nothing. -/
theorem sameBindings_unbind {hub : Hub} {key : String}
    (unbound : hub.affinity.lookup key = none) (slot : Nat) :
    SameBindings hub (hub.applyEffect slot (.unbind key)).2.1 where
  entries := congrArg Affinity.entries (hub.affinity.unbind_of_unbound unbound)
  counted := fun channel =>
    congrArg (fun state => (Slots.at (Affinity.slots state) channel).boundKeys)
      (hub.affinity.unbind_of_unbound unbound)

/-! ### How far one step reaches -/

theorem SameBindings.trans {first second third : Hub} (one : SameBindings first second)
    (other : SameBindings second third) : SameBindings first third :=
  ⟨other.entries.trans one.entries, fun channel =>
    (other.counted channel).trans (one.counted channel)⟩

/-- The counters of the channels follow from the entries. -/
theorem Indexed.sameBindings {hub next : Hub} (indexed : Indexed hub) (after : Indexed next)
    (same : next.entries = hub.entries) : SameBindings hub next where
  entries := same
  counted := by
    intro channel
    have before := indexed.consistent.counted channel
    have later := after.consistent.counted channel
    rw [Affinity.keyCount, affinity] at before later
    rw [same] at later
    exact later.trans before.symm

/-- A step changes bindings only by the effect that its event is. -/
theorem Registered.reach {hub next : Hub} {register : Register} (known : Registered hub register)
    (indexed : Indexed hub) {action : Action} {effects : List Effect}
    (stepped : Stepped hub action next effects) :
    register.event? hub.rules action = none ∧ SameBindings hub next ∨
      ∃ slot effect, register.event? hub.rules action = effect.event? slot ∧
        SameBindings (hub.applyEffect slot effect).2.1 next := by
  have after := indexed.step stepped
  rcases known.eventless_or_applied stepped with
    ⟨eventless, entries⟩ | ⟨id, call, slot, opening, firstKey, effect, live, waiting, posts,
      entries⟩
  · exact Or.inl ⟨eventless, indexed.sameBindings after entries⟩
  · have inside := indexed.waiting_lt live waiting
    exact Or.inr ⟨slot, effect, posts,
      (indexed.applyEffect inside effect).sameBindings after entries⟩

/-! ### Since a call was routed -/

/-- The state in which a call was routed, and how the run has gone on since: the
call was dispatched in the first of the moments since, and it has not exited in
the others. -/
inductive Since (start : Hub) (id : CallId) (service : Service) :
    List Moment → Hub → List Moment → Prop where
  | routed {before later : List Moment} {moment : Moment} {asking : Hub}
      (reached : History start before asking) (dispatched : service.dispatch id ∈ moment.effects)
      (serves : ∀ outcome, .exited id outcome ∉ effectsOf later) :
      Since start id service (before ++ moment :: later) asking (moment :: later)

/-- Every call in service was routed at some moment of the run. -/
theorem History.since {start hub : Hub} {past : List Moment} (ran : History start past hub)
    {id : CallId} {service : Service}
    (found : (registerOf (effectsOf past)).get? id = some (some service)) :
    ∃ asking later, Since start id service past asking later := by
  induction ran generalizing service with
  | begin => cases found
  | @next past hub _ action effects earlier stepped ih =>
      rw [effectsOf_append, registerOf_append, effectsOf_cons, effectsOf_nil,
        List.append_nil] at found
      -- The call was dispatched just now, or it was in service before and has not left.
      rcases serving_foldl found with dispatched | ⟨stays, before, known, same⟩
      · exact ⟨hub, [⟨action, effects⟩], .routed earlier dispatched (by simp)⟩
      · obtain ⟨asking, later, since⟩ := ih known
        cases since with
        | @routed first later moment _ reached dispatched serves =>
            rw [same] at dispatched
            refine ⟨asking, moment :: (later ++ [⟨action, effects⟩]), ?_⟩
            rw [List.append_assoc, List.cons_append]
            refine .routed reached dispatched ?_
            intro outcome member
            rw [effectsOf_append, effectsOf_cons, effectsOf_nil, List.append_nil] at member
            rcases List.mem_append.mp member with early | late
            · exact serves outcome early
            · exact stays outcome late

/-- A call that was routed by a key is on the channel of the key for as long as the
key stays bound. -/
theorem Since.held {rules : RuleTable} {limits : Limits} {past later : List Moment}
    {hub asking : Hub} {id : CallId} {service : Service}
    (since : Since (fresh rules limits) id service past asking later)
    (ran : History (fresh rules limits) past hub) {key : String}
    (keyed : rules.routingKey? service.method service.opening = some key)
    (bound : BoundThroughout asking key later) :
    hub.affinity.lookup key = some service.slot := by
  cases since with
  | @routed before rest moment _ reached dispatched serves =>
      obtain ⟨middle, first, onward⟩ := ran.split
      cases first.unique reached
      obtain ⟨next, stepped, -⟩ := onward.uncons
      obtain ⟨channel, held⟩ :=
        Option.ne_none_iff_exists'.mp (bound [] _ _ rfl .begin)
      -- Only a routing action dispatches, so the service shows the key the call was routed by.
      have shown := (mem_withoutNotes rfl).mpr dispatched
      have transition := stepped_of_step stepped
      obtain ⟨other, call, opening, supply, routes⟩ := transition.routes_of_places shown rfl
      obtain ⟨placing, told, -, entries, dispatching, effects⟩ := transition.dispatching routes
      have among : service.dispatch id ∈ told := by
        rw [effects] at shown
        rcases List.mem_append.mp shown with early | late
        · unfold Action.admission at early
          split at early
          · cases List.mem_singleton.mp early
          · cases early
        · exact late
      obtain ⟨rfl, -, method, opens⟩ := dispatching.dispatched among
      rw [method, opens] at keyed
      have ruled := routes_ruled reached.registered routes
      rw [show asking.rules = rules from reached.rules] at ruled
      rw [← lookup_of_entries entries] at held
      obtain ⟨rfl, -⟩ := dispatching.of_bound ruled keyed held
      -- It was placed where the key was then, and the key has not moved since.
      have same := List.mem_singleton.mp among
      rw [Service.dispatch, Effect.dispatched.injEq] at same
      rw [lookup_of_entries entries, ← same.2.1] at held
      exact reached.lookup onward held bound

/-! ### What callers can rely on -/

/-- A step with which the exchange of a call succeeds, and its event. -/
inductive Settles (past : List Moment) (hub : Hub) :
    Hub → CallId → Service → BindingEvent → Prop where
  | succeeds {action : Action} {next : Hub} {effects : List Effect} {id : CallId}
      {service : Service} {responses : List Message} {event : BindingEvent}
      (stepped : hub.step action = some (next, effects))
      (completes : (registerOf (effectsOf past)).completion? action =
        some (id, service, responses))
      (posts : service.event? hub.rules responses = some event) :
      Settles past hub next id service event

/-- How far calls reach into the bindings after a run.  A bind reaches the channel
that serves its call; an unbind goes by its key, and reaches the channel that
holds the key by then. -/
structure KeyedReach (start : Hub) (past : List Moment) (hub : Hub) : Prop where
  /-- Nothing but the success of an exchange with a key reaches a binding. -/
  quiet : ∀ action next effects, hub.step action = some (next, effects) →
    (registerOf (effectsOf past)).event? hub.rules action = none → SameBindings hub next
  /-- A bind reaches the channel that serves its call, and no other. -/
  bind : ∀ next id service key slot, Settles past hub next id service (.bind key slot) →
    Confined hub next service.slot
  /-- An unbind reaches the channel that holds its key, and no other. -/
  unbind : ∀ next id service key channel, Settles past hub next id service (.unbind key) →
    hub.affinity.lookup key = some channel → Confined hub next channel
  /-- An unbind of a key that no channel holds reaches nothing. -/
  unbound : ∀ next id service key, Settles past hub next id service (.unbind key) →
    hub.affinity.lookup key = none → SameBindings hub next
  /-- Other keys keep their entries. -/
  keyed : ∀ next id service event other, Settles past hub next id service event →
    other ≠ event.key → next.affinity.entry? other = hub.affinity.entry? other
  /-- The call of an unbind was routed at some moment of the run.  If its key has
  been bound ever since, the channel that holds the key is the one that serves the
  call. -/
  serving : ∀ next id service key, Settles past hub next id service (.unbind key) →
    ∃ asking later, Since start id service past asking later ∧
      (BoundThroughout asking key later →
        hub.affinity.lookup key = some service.slot ∧ Confined hub next service.slot)

/-- The event of a step is the effect that the step has on the index. -/
theorem History.settled {rules : RuleTable} {limits : Limits} {past : List Moment}
    {hub next : Hub} (ran : History (fresh rules limits) past hub) {id : CallId}
    {service : Service} {event : BindingEvent} (settles : Settles past hub next id service event) :
    ∃ slot effect, effect.event? slot = some event ∧
      SameBindings (hub.applyEffect slot effect).2.1 next := by
  cases settles with
  | @succeeds action _ _ _ _ responses _ stepped completes posts =>
      have event : (registerOf (effectsOf past)).event? hub.rules action = some event := by
        rw [Register.event?, completes]
        exact posts
      rcases ran.registered.reach ran.indexed (stepped_of_step stepped) with
        ⟨eventless, -⟩ | ⟨slot, effect, same, reach⟩
      · rw [event] at eventless
        cases eventless
      · exact ⟨slot, effect, same.symm.trans event, reach⟩

theorem entry_applyEffect_of_ne {hub : Hub} {slot : Nat} {effect : IndexEffect}
    {event : BindingEvent} (posts : effect.event? slot = some event) {other : String}
    (differs : other ≠ event.key) :
    (hub.applyEffect slot effect).2.1.affinity.entry? other = hub.affinity.entry? other := by
  cases effect with
  | nothing => cases posts
  | bind key =>
      cases posts
      exact hub.affinity.entry_bind_of_ne differs slot
  | unbind key =>
      cases posts
      exact hub.affinity.entry_unbind_of_ne differs

/-- The bindings are reached by key after every run. -/
theorem History.keyedReach {rules : RuleTable} {limits : Limits} {past : List Moment} {hub : Hub}
    (ran : History (fresh rules limits) past hub) :
    KeyedReach (fresh rules limits) past hub := by
  have reaches : ∀ next id service key channel, Settles past hub next id service (.unbind key) →
      hub.affinity.lookup key = some channel → Confined hub next channel := by
    intro next id service key channel settles held
    obtain ⟨slot, effect, posts, reach⟩ := ran.settled settles
    cases effect <;> cases posts
    exact (confined_unbind held slot).congr reach
  refine ⟨?_, ?_, reaches, ?_, ?_, ?_⟩
  · intro action next effects stepped eventless
    rcases ran.registered.reach ran.indexed (stepped_of_step stepped) with
      ⟨-, same⟩ | ⟨slot, effect, posts, reach⟩
    · exact same
    · cases effect with
      | nothing => exact reach
      | bind key => cases posts.symm.trans eventless
      | unbind key => cases posts.symm.trans eventless
  · intro next id service key slot settles
    obtain ⟨position, effect, posts, reach⟩ := ran.settled settles
    cases settles with
    | succeeds stepped completes binds =>
        cases Service.slot_of_bind binds
        cases effect <;> cases posts
        exact (confined_bind hub _ key).congr reach
  · intro next id service key settles unbound
    obtain ⟨slot, effect, posts, reach⟩ := ran.settled settles
    cases effect <;> cases posts
    exact (sameBindings_unbind unbound slot).trans reach
  · intro next id service event other settles differs
    obtain ⟨slot, effect, posts, reach⟩ := ran.settled settles
    rw [entry_of_entries reach.entries]
    exact entry_applyEffect_of_ne posts differs
  · intro next id service key settles
    cases settles with
    | succeeds stepped completes unbinds =>
        obtain ⟨asking, later, since⟩ := ran.since (Register.serving_of_completion completes)
        refine ⟨asking, later, since, ?_⟩
        intro bound
        have keyed := Service.routingKey?_of_unbind unbinds
        rw [show hub.rules = rules from ran.rules] at keyed
        have held := since.held ran keyed bound
        exact ⟨held, reaches next id service key service.slot (.succeeds stepped completes unbinds)
          held⟩

/-- An unbind whose key stays bound while it is in flight releases the binding of
its own channel. -/
theorem keyedReach_while_bound :
    ∃ rules limits past hub next service,
      History (fresh rules limits) past hub ∧
        Settles past hub next "b" service (.unbind "k") ∧ service.slot = 0 ∧
        hub.affinity.lookup "k" = some 0 ∧ next.affinity.lookup "k" = none ∧
        KeyedReach (fresh rules limits) past hub := by
  have ran : History (fresh ⟨[⟨"open", .bind, "id"⟩, ⟨"close", .unbind, "id"⟩]⟩
      ⟨1, 1, by decide, by decide⟩)
      ([] ++ [⟨.begin "a" .unaryUnary "open" .null none, _⟩] ++
        [⟨.respond "a" (.dict [("id", .text "k")]), _⟩] ++
        [⟨.begin "b" .unaryUnary "close" (.dict [("id", .text "k")]) none, _⟩]) _ :=
    .next (.next (.next .begin rfl) rfl) rfl
  exact ⟨_, _, _, _, _, ⟨0, .unaryUnary, "close", .single (.dict [("id", .text "k")]), []⟩, ran,
    @Settles.succeeds _ _ (.respond "b" .null) _ _ _ _ [.null] _ rfl rfl rfl, rfl, rfl, rfl,
    ran.keyedReach⟩

/-- An unbind can release a binding that another call has made on another channel
while it was in flight.  The calls b and c unbind the key that a has bound to
channel 0, and are both served there; c releases it, d binds it again on channel 1,
and b releases that. -/
theorem released_elsewhere :
    ∃ hub next before effects service,
      (fresh ⟨[⟨"open", .bind, "id"⟩, ⟨"close", .unbind, "id"⟩]⟩
          ⟨2, 1, by decide, by decide⟩).run
          [.begin "a" .unaryUnary "open" .null none,
            .respond "a" (.dict [("id", .text "k")]),
            .begin "b" .unaryUnary "close" (.dict [("id", .text "k")]) none,
            .begin "c" .unaryUnary "close" (.dict [("id", .text "k")]) none,
            .respond "c" .null,
            .begin "d" .unaryUnary "open" .null none,
            .respond "d" (.dict [("id", .text "k")])] = some (hub, before) ∧
        hub.step (.respond "b" .null) = some (next, effects) ∧
        (registerOf before).completion? (.respond "b" .null) = some ("b", service, [.null]) ∧
        service.slot = 0 ∧
        hub.entries = [⟨"k", 1, 1⟩] ∧ (hub.pool.slotAt 1).boundKeys = 1 ∧
        next.entries = [] ∧ (next.pool.slotAt 1).boundKeys = 0 ∧
        ¬Confined hub next service.slot := by
  refine ⟨_, _, _, _, _, rfl, rfl, rfl, rfl, rfl, rfl, rfl, rfl, ?_⟩
  intro confined
  exact absurd (confined.counted 1 (by decide)) (by decide)

end Hub

end AffinityPool
