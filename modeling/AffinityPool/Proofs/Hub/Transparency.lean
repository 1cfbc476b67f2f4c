/-
Module: AffinityPool.Proofs.Hub.Transparency
Purpose: A hub is transparent: a call that is left alone is handed to the transport once, as its
  caller gave it, and the caller sees what the transport brought.
Main exports:
  Hub.History.stage, Hub.Transparent, Hub.History.transparent
-/
import AffinityPool.Proofs.Hub.Stage

namespace AffinityPool.Hub

/-! ### Runs -/

variable {rules : RuleTable} {limits : Limits} {before later : List Moment} {start : Moment}
  {hub middle last : Hub} {id : CallId} {shape : Shape} {method : String} {requests : Requests}

/-- A call that is left alone is at one of the stages all the time. -/
theorem History.stage (ran : History (fresh rules limits) before hub)
    (onward : History hub (start :: later) last)
    (sends : start.action.Sends id shape method requests)
    (admitted : .admitted id ∈ start.effects)
    (alone : ∀ moment ∈ later, moment.action.begins? ≠ some id)
    (undisturbed : ∀ moment ∈ start :: later, moment.action.call? = some id →
      moment.Undisturbed) :
    Stage start.action id shape method (Conflicted rules limits before id (start :: later)) last
      (traffic id (start :: later)) := by
  obtain ⟨middle, stepped, afterwards⟩ := onward.uncons
  have first : History hub [start] middle := .next .begin stepped
  induction afterwards with
  | begin =>
      have calm := undisturbed start List.mem_cons_self (Action.call?_of_begins sends.begins)
      have told := (mem_withoutNotes rfl).mpr admitted
      rw [traffic_singleton, ← traffic_withoutNotes]
      exact (stepped_of_step stepped).stage_of_admitted sends told calm.withoutNotes
  | @next past here after action effects earlier further ih =>
      have reached : History hub (start :: past) here := first.append earlier
      have stage := ih reached
        (fun moment member => alone moment (List.mem_append_left _ member))
        (fun moment member => undisturbed moment (List.mem_append_left [_] member))
      rw [← List.cons_append, traffic_append, traffic_singleton]
      refine stage.step (ran.append reached) further (alone ⟨action, effects⟩ (by simp))
        (undisturbed ⟨action, effects⟩ (by simp)) (fun conflicted => conflicted.extend _) ?_
      intro key bound serving binds
      exact .conflict binds

/-- Nothing passes for a call that has exited, unless its name is used again. -/
theorem History.traffic_of_dead (ran : History hub later last) (dead : hub.call? id = none)
    (alone : ∀ moment ∈ later, moment.action.begins? ≠ some id) :
    last.call? id = none ∧ traffic id later = .none := by
  obtain ⟨still, silent⟩ := ran.silent_of_dead dead alone
  refine ⟨still, ?_⟩
  clear still
  induction ran with
  | begin => rfl
  | @next past here after action effects earlier stepped ih =>
      have before := ih (fun moment member => alone moment (List.mem_append_left _ member))
        fun moment member => silent moment (List.mem_append_left _ member)
      rw [traffic_append, traffic_singleton, before,
        traffic_of_other stepped (silent ⟨action, effects⟩ (by simp))]
      rfl

/-- A bind of a key that another channel holds ends a call in service, with the
conflict. -/
theorem History.exit_conflicting {past : List Moment} {next : Hub} {action : Action}
    {effects : List Effect} {key : String} {bound serving : Nat}
    (ran : History (fresh rules limits) past hub)
    (stepped : hub.step action = some (next, effects))
    (binds : BindsElsewhere rules limits past action id key bound serving) :
    (∃ call, hub.call? id = some call) ∧ next.call? id = none ∧
      (Moment.traffic id ⟨action, effects⟩).shown =
        [.failed (.bindingConflict key bound serving)] := by
  rcases ran.registered.eventless_or_completed (stepped_of_step stepped) with
    ⟨eventless, -⟩ | ⟨caller, call, slot, opening, firstKey, effect, notes, success, live, waiting,
      completes, outcome⟩
  · have posts := binds.binds
    rw [ran.rules] at eventless
    exact absurd (eventless.symm.trans posts) (by simp)
  · have same := completes.about
    rw [binds.about] at same
    cases same
    refine ⟨⟨call, live⟩, ?_, ?_⟩
    · have after := congrArg Prod.fst outcome
      simp only at after
      rw [after]
      exact call?_of_drop_self (calls_completed ..)
    · obtain ⟨again, reached, held⟩ := binds.held
      cases reached.unique ran
      obtain ⟨asking, shown, about, -, told⟩ := ran.settles stepped binds.binds
      rw [binds.about] at about
      cases about
      rw [ran.shows.conflict?_of_lookup held binds.other] at told
      rw [← traffic_withoutNotes, told]
      simp [Moment.traffic, Effect.arrival?, Outcome.arrival?]

/-- When a call ends in a conflict, its caller has seen all that came before, and
nothing comes later. -/
theorem History.shown_of_binds {others after : List Moment} {moment : Moment} {key : String}
    {bound serving : Nat} (ran : History (fresh rules limits) before hub)
    (onward : History hub (start :: (others ++ moment :: after)) last)
    (sends : start.action.Sends id shape method requests)
    (admitted : .admitted id ∈ start.effects)
    (alone : ∀ passing ∈ others ++ moment :: after, passing.action.begins? ≠ some id)
    (undisturbed : ∀ passing ∈ start :: (others ++ moment :: after),
      passing.action.call? = some id → passing.Undisturbed)
    (binds : BindsElsewhere rules limits (before ++ start :: others) moment.action id key bound
      serving) :
    (traffic id (start :: (others ++ moment :: after))).shown =
      (traffic id (start :: others)).brought ++ [.failed (.bindingConflict key bound serving)] := by
  rw [← List.cons_append] at onward undisturbed ⊢
  obtain ⟨middle, reached, onward⟩ := onward.split
  obtain ⟨next, stepped, afterwards⟩ := onward.uncons
  obtain ⟨⟨call, live⟩, dead, conflict⟩ := (ran.append reached).exit_conflicting stepped binds
  have sofar := ran.stage reached sends admitted
    (fun passing member => alone passing (List.mem_append_left _ member))
    (fun passing member => undisturbed passing (List.mem_append_left _ member))
  have silent := (afterwards.traffic_of_dead dead fun passing member =>
    alone passing (List.mem_append_right _ (List.mem_cons_of_mem _ member))).2
  rw [traffic_append, traffic_cons id moment, silent, Traffic.join_none]
  simp only [Traffic.join]
  rw [sofar.shown_eq_brought live, conflict]

/-- A call that waits for the transport takes whatever it brings. -/
theorem exists_step_of_arrival {call : Call} {slot : Nat} {opening : Opening}
    {firstKey : Option String} {arrival : Arrival} (live : hub.call? id = some call)
    (waiting : call.phase = .waiting slot opening firstKey)
    (ends : arrival = .ended → call.shape.streamsResponses = true) :
    ∃ action, action.arrival? id = some arrival ∧ (hub.step action).isSome = true := by
  cases arrival with
  | response response =>
      exact ⟨.respond id response, by simp [Action.arrival?], by simp [step, live, waiting]⟩
  | ended =>
      exact ⟨.finish id, by simp [Action.arrival?], by simp [step, live, waiting, ends rfl]⟩
  | failed failure =>
      exact ⟨.fail id failure, by simp [Action.arrival?], by simp [step, live, waiting]⟩

/-! ### What callers can rely on -/

/-- How a call fares that starts at the beginning of a course of moments. -/
structure Transparent (rules : RuleTable) (limits : Limits) (before : List Moment) (id : CallId)
    (shape : Shape) (method : String) (requests : Requests) (course : List Moment)
    (last : Hub) : Prop where
  /-- The transport is called once, for the channel that serves the call and with the
  caller's method, as soon as the first request need not be waited for. -/
  once : ((traffic id course).handed = [] ∧
      ∃ call, last.call? id = some call ∧ call.phase = .peeking) ∨
    ∃ slot opening, (traffic id course).handed = [(⟨slot, shape, method⟩, opening)] ∧
      ∀ call, last.call? id = some call → call.phase.slot? = some slot
  /-- The transport is handed what the caller sends, although some of it may have been
  taken to look for a key. -/
  whole : ∀ dispatch opening rest, (dispatch, opening) ∈ (traffic id course).handed →
    requests.Yields (traffic id course).taken rest → rest.handedOver opening = requests
  /-- Whatever the transport brings to a call that waits for it is taken. -/
  receptive : ∀ call slot opening firstKey arrival, last.call? id = some call →
    call.phase = .waiting slot opening firstKey →
      (arrival = .ended → shape.streamsResponses = true) →
        ∃ action, action.arrival? id = some arrival ∧ (last.step action).isSome = true
  /-- The caller sees what the transport brought, in order and up to the end, whatever
  keys there are and whether they are found. -/
  faithful : ¬Conflicted rules limits before id course →
    (traffic id course).shown = (traffic id course).brought
  /-- The only exception is a completed bind of a key that another channel holds: the
  caller has seen all that came before, and then sees the conflict. -/
  deviating : ∀ during moment after key bound serving, course = during ++ moment :: after →
    BindsElsewhere rules limits (before ++ during) moment.action id key bound serving →
      (traffic id course).shown =
        (traffic id during).brought ++ [.failed (.bindingConflict key bound serving)]

/-- Calls that are left alone fare as if there were no hub. -/
theorem History.transparent (ran : History (fresh rules limits) before hub)
    (onward : History hub (start :: later) last)
    (sends : start.action.Sends id shape method requests)
    (admitted : .admitted id ∈ start.effects)
    (alone : ∀ moment ∈ later, moment.action.begins? ≠ some id)
    (undisturbed : ∀ moment ∈ start :: later, moment.action.call? = some id →
      moment.Undisturbed) :
    Transparent rules limits before id shape method requests (start :: later) last := by
  have stage := ran.stage onward sends admitted alone undisturbed
  refine ⟨stage.once, ?_, ?_, stage.faithful, ?_⟩
  · intro dispatch opening rest handed yields
    exact (stage.handsOver handed).whole sends yields
  · intro call slot opening firstKey arrival live waiting ends
    rw [← stage.shape_eq live] at ends
    exact exists_step_of_arrival live waiting ends
  · intro during moment after key bound serving split binds
    cases during with
    | nil =>
        -- The call starts here, and a start is no bind.
        cases split
        have posts := binds.binds
        rw [sends.eventless] at posts
        cases posts
    | cons first others =>
        obtain ⟨rfl, rfl⟩ : start = first ∧ later = others ++ moment :: after := by
          simpa using split
        exact ran.shown_of_binds onward sends admitted alone undisturbed binds

/-- A call whose first request was looked into goes to the transport with all its
requests, and its caller sees the response and the end. -/
theorem transparent_after_peek :
    ∃ rules limits id start later last requests,
      History (fresh rules limits) (start :: later) last ∧
        requests.Yields (traffic id (start :: later)).taken ⟨[.ok (.text "more")], false⟩ ∧
        (traffic id (start :: later)).shown = [.response .null, .ended] ∧
        Transparent rules limits [] id .streamStream "watch" requests (start :: later) last := by
  have ran : History (fresh ⟨[⟨"watch", .bound, "id"⟩]⟩ ⟨1, 1, by decide, by decide⟩)
      ([] ++ [⟨.beginMany "a" .streamStream "watch" none, _⟩] ++
        [⟨.firstRequest "a" (.ok (some (.dict [("id", .text "k")]))) none, _⟩] ++
        [⟨.respond "a" .null, _⟩] ++ [⟨.read "a", _⟩] ++ [⟨.finish "a", _⟩]) _ :=
    .next (.next (.next (.next (.next .begin rfl) rfl) rfl) rfl) rfl
  have keyed : (Message.dict [("id", .text "k")]).Candid := by
    apply Message.Candid.dict
    intro member inside
    cases List.mem_singleton.mp inside
    exact .text "k"
  refine ⟨_, _, "a", _, _, _,
    ⟨[.ok (.dict [("id", .text "k")]), .ok (.text "more")], false⟩, ran, .request rfl .nothing, rfl,
    History.transparent .begin ran .many (by simp) ?_ ?_⟩
  · decide
  · intro moment member about
    rcases member with _ | ⟨_, _ | ⟨_, _ | ⟨_, _ | ⟨_, _ | ⟨_, none⟩⟩⟩⟩⟩
    · exact ⟨rfl, by simp, fun message passes => by cases passes⟩
    · refine ⟨rfl, ?_, fun message passes => ?_⟩
      · change Effect.creationFailed ∉
          [Effect.note _, Effect.created _, Effect.note _, Effect.note _, Effect.dispatched ..]
        simp
      · cases List.mem_singleton.mp passes
        exact keyed
    · refine ⟨rfl, by simp, fun message passes => ?_⟩
      cases List.mem_singleton.mp passes
      exact .null
    · exact ⟨rfl, by simp, fun message passes => by cases passes⟩
    · refine ⟨rfl, ?_, fun message passes => by cases passes⟩
      change Effect.creationFailed ∉ [Effect.exited ..]
      simp
    · cases none

/-- A key that is bound to one channel is brought by another, which is the one
exception. -/
example :
    ∃ past hub,
      History (fresh ⟨[⟨"open", .bind, "id"⟩]⟩ ⟨2, 1, by decide, by decide⟩) past hub ∧
        (traffic "b" past).brought = [.response (.dict [("id", .text "k")])] ∧
        (traffic "b" past).shown = [.failed (.bindingConflict "k" 0 1)] := by
  have ran : History (fresh ⟨[⟨"open", .bind, "id"⟩]⟩ ⟨2, 1, by decide, by decide⟩)
      ([] ++ [⟨.begin "a" .unaryUnary "open" .null none, _⟩] ++
        [⟨.begin "b" .unaryUnary "open" .null none, _⟩] ++
        [⟨.respond "a" (.dict [("id", .text "k")]), _⟩] ++
        [⟨.respond "b" (.dict [("id", .text "k")]), _⟩]) _ :=
    .next (.next (.next (.next .begin rfl) rfl) rfl) rfl
  exact ⟨_, _, ran, rfl, rfl⟩

end AffinityPool.Hub
