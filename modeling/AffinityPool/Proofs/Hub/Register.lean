/-
Module: AffinityPool.Proofs.Hub.Register
Purpose: The live calls of a hub as they can be told from what was made known, and the agreement
  of that register with the calls the hub keeps.
Main exports:
  Rule.keyIn?, Service, Register, Effect.register, registerOf, Service.bindKey?, Hub.Known,
  Hub.Registered, Hub.History.registered
-/
import AffinityPool.Proofs.Hub.Frame
import AffinityPool.Proofs.Ledger.Agreement

namespace AffinityPool

/-- The key a rule finds in a message. -/
def Rule.keyIn? (rule : Rule) (message : Message) : Option String :=
  (message.affinityKey rule.keyPath).toOption

/-- A rule that can be asked of a message finds the key that is in it, if one is. -/
theorem Rule.keyOf_ok {rule : Rule} {message : Message} {key : Option String}
    {notes : List Note} (read : rule.keyOf message = .ok (key, notes)) :
    key = rule.keyIn? message := by
  unfold keyOf at read
  unfold keyIn?
  split at read
  · rename_i found affinity
    cases read
    simp [affinity, Except.toOption]
  · rename_i absence affinity
    cases read
    simp [affinity, Except.toOption]
  · cases read

/-- A message that cannot be asked has no key. -/
theorem Rule.keyOf_error {rule : Rule} {message : Message} {failure : Failure}
    (unread : rule.keyOf message = .error failure) : rule.keyIn? message = none := by
  unfold keyOf at unread
  unfold keyIn?
  split at unread
  · cases unread
  · cases unread
  · rename_i affinity
    simp [affinity, Except.toOption]

/-! ### The register -/

/-- What has been made known of a call in service: where and how it was
dispatched, and the responses passed to its reader so far. -/
structure Service where
  slot : Nat
  shape : Shape
  method : String
  opening : Opening
  responses : List Message

/-- The calls that have been admitted and have not exited; those that were
dispatched, with their service. -/
abbrev Register := Ledger (Option Service)

/-- Note one effect in the register. -/
def Effect.register (register : Register) : Effect → Register
  | .admitted id => register.put id none
  | .dispatched id slot shape method opening =>
      register.put id (some ⟨slot, shape, method, opening, []⟩)
  | .delivered id response =>
      match register.get? id with
      | some (some service) =>
          register.put id (some { service with responses := service.responses ++ [response] })
      | _ => register
  | .exited id _ => register.drop id
  | _ => register

/-- The register after some effects. -/
def registerOf (effects : List Effect) : Register := effects.foldl Effect.register []

/-- A register is written on by what comes later. -/
theorem registerOf_append (before after : List Effect) :
    registerOf (before ++ after) = after.foldl Effect.register (registerOf before) := by
  simp [registerOf]

/-- Notes do not show in the register. -/
theorem foldl_register_withoutNotes (register : Register) (effects : List Effect) :
    (withoutNotes effects).foldl Effect.register register =
      effects.foldl Effect.register register := by
  induction effects generalizing register with
  | nil => rfl
  | cons effect rest ih =>
      cases effect with
      | note note => exact ih register
      | _ => exact ih _

/-- The key that a stream has brought for a bind so far. -/
def Service.bindKey? (rule : Option Rule) (service : Service) : Option String :=
  match rule with
  | some rule =>
      if rule.command = .bind then service.responses.findSome? rule.keyIn? else none
  | none => none

/-- One more response changes the key of a bind only if there was none. -/
theorem Service.bindKey?_deliver {rule : Option Rule} {service : Service} {response : Message}
    {key : Option String} (read : keyAfter rule (service.bindKey? rule) response = .ok key) :
    key = Service.bindKey? rule
      { service with responses := service.responses ++ [response] } := by
  unfold bindKey? at read ⊢
  cases rule with
  | none =>
      cases read
      rfl
  | some rule =>
      by_cases binds : rule.command = .bind
      · simp only [binds, if_true, List.findSome?_append] at read ⊢
        cases known : service.responses.findSome? rule.keyIn? with
        | some first =>
            simp only [known, keyAfter, Except.ok.injEq] at read
            rw [← read]
            rfl
        | none =>
            simp only [known, keyAfter, binds, if_true] at read
            cases kept : rule.keyOf response with
            | error failure => simp [kept, Except.map] at read
            | ok found =>
                obtain ⟨found, notes⟩ := found
                simp only [kept, Except.map, Except.ok.injEq] at read
                rw [← read, Rule.keyOf_ok kept]
                cases own : rule.keyIn? response <;> simp [own]
      · simp only [binds, if_false, keyAfter, Except.ok.injEq] at read ⊢
        exact read.symm

namespace Hub

/-- What the register says of a call agrees with what the hub keeps of it. -/
inductive Known (rules : RuleTable) : Call → Option Service → Prop where
  | unplaced {call : Call} (ruled : call.rule = rules.ruleFor call.method)
      (peeking : call.phase = .peeking) : Known rules call none
  | placed {call : Call} {service : Service} {firstKey : Option String}
      (ruled : call.rule = rules.ruleFor call.method) (shape : service.shape = call.shape)
      (method : service.method = call.method)
      (stands : call.phase = .waiting service.slot service.opening firstKey ∨
        call.phase = .paused service.slot service.opening firstKey)
      (keyed : firstKey = service.bindKey? call.rule) : Known rules call (some service)

/-- The register of a run agrees with the live calls of the hub it led to. -/
structure Registered (hub : Hub) (register : Register) : Prop where
  distinct : register.Distinct
  agree : Ledger.Agree (Known hub.rules) hub.calls register

/-- A call that is known goes by the rule of its method. -/
theorem Known.ruled {rules : RuleTable} {call : Call} {standing : Option Service}
    (known : Known rules call standing) : call.rule = rules.ruleFor call.method := by
  cases known with
  | unplaced ruled peeking => exact ruled
  | placed ruled shape method stands keyed => exact ruled

/-- A call that waits for the transport is in service. -/
theorem Known.service {rules : RuleTable} {call : Call} {standing : Option Service}
    {slot : Nat} {opening : Opening} {firstKey : Option String}
    (known : Known rules call standing)
    (stands : call.phase = .waiting slot opening firstKey ∨
      call.phase = .paused slot opening firstKey) :
    ∃ service, standing = some service ∧ service.slot = slot ∧ service.opening = opening ∧
      service.shape = call.shape ∧ service.method = call.method ∧
      firstKey = service.bindKey? call.rule := by
  cases known with
  | unplaced ruled peeking => simp [peeking] at stands
  | @placed service key ruled shape method phase keyed =>
      rcases stands with waiting | paused
      · rcases phase with here | there
        · rw [here] at waiting
          cases waiting
          exact ⟨service, rfl, rfl, rfl, shape, method, keyed⟩
        · simp [there] at waiting
      · rcases phase with here | there
        · simp [here] at paused
        · rw [there] at paused
          cases paused
          exact ⟨service, rfl, rfl, rfl, shape, method, keyed⟩

/-! ### What one step preserves -/

/-- What a shutdown tells is not written down. -/
theorem foldl_register_background (register : Register) {effects : List Effect}
    (background : ∀ effect ∈ effects, effect.isOfShutdown = true) :
    effects.foldl Effect.register register = register := by
  induction effects with
  | nil => rfl
  | cons effect rest ih =>
      have onward := ih fun other member => background other (List.mem_cons_of_mem _ member)
      have late := background effect List.mem_cons_self
      cases effect with
      | closing | returned | thwarted => exact onward
      | _ => cases late

/-- Where a call is placed does not show in the register before it is dispatched. -/
theorem Placing.foldl_register {hub : Hub} {key : Option String} {supply : Option Failure}
    {slot : Nat} {pool : Pool} {creation : List Effect}
    (placing : Placing hub key supply slot pool creation) (register : Register) :
    creation.foldl Effect.register register = register := by
  cases placing with
  | bound keyed found => rfl
  | reused unbound reusable => rfl
  | made unbound saturated supplied => rfl

namespace Registered

variable {hub next : Hub} {register : Register}

/-- A live call goes by the rule of its method. -/
theorem ruled (known : Registered hub register) {id : CallId} {call : Call}
    (live : hub.call? id = some call) : call.rule = hub.rules.ruleFor call.method := by
  obtain ⟨standing, -, told⟩ := known.agree.get? live
  exact told.ruled

/-- A call that waits for its first request is not in service. -/
theorem unplaced (known : Registered hub register) {id : CallId} {call : Call}
    (live : hub.call? id = some call) (peeking : call.phase = .peeking) :
    register.get? id = some none := by
  obtain ⟨standing, found, told⟩ := known.agree.get? live
  cases told with
  | unplaced ruled waits => exact found
  | placed ruled shape method stands keyed => simp [peeking] at stands

/-- A call that was dispatched is in service. -/
theorem placed (known : Registered hub register) {id : CallId} {call : Call} {slot : Nat}
    {opening : Opening} {firstKey : Option String} (live : hub.call? id = some call)
    (stands : call.phase = .waiting slot opening firstKey ∨
      call.phase = .paused slot opening firstKey) :
    ∃ service, register.get? id = some (some service) ∧ service.slot = slot ∧
      service.opening = opening ∧ service.shape = call.shape ∧ service.method = call.method ∧
      firstKey = service.bindKey? call.rule := by
  obtain ⟨standing, found, told⟩ := known.agree.get? live
  obtain ⟨service, rfl, facts⟩ := told.service stands
  exact ⟨service, found, facts⟩

/-- A live call that is on a channel is written down as served there. -/
theorem occupied (known : Registered hub register) {id : CallId} {call : Call} {slot : Nat}
    (live : hub.call? id = some call) (occupies : call.phase.slot? = some slot) :
    ∃ service, register.get? id = some (some service) ∧ service.slot = slot := by
  cases phase : call.phase with
  | peeking =>
      rw [phase] at occupies
      cases occupies
  | waiting position opening firstKey =>
      rw [phase] at occupies
      cases occupies
      obtain ⟨service, found, here, -⟩ := known.placed live (Or.inl phase)
      exact ⟨service, found, here⟩
  | paused position opening firstKey =>
      rw [phase] at occupies
      cases occupies
      obtain ⟨service, found, here, -⟩ := known.placed live (Or.inr phase)
      exact ⟨service, found, here⟩

/-- An admitted call is written down as not served yet. -/
theorem enter (known : Registered hub register) (id : CallId) (shape : Shape)
    (method : String) :
    Registered (hub.withAdmitted id (hub.newCall shape method)) (register.put id none) where
  distinct := Ledger.distinct_put known.distinct id none
  agree := known.agree.put (Known.unplaced rfl rfl)

/-- A call that exits is struck out. -/
theorem forget (known : Registered hub register) {id : CallId} (rules : next.rules = hub.rules)
    (calls : next.calls = Ledger.drop hub.calls id) : Registered next (register.drop id) where
  distinct := Ledger.distinct_drop known.distinct id
  agree := by
    rw [rules, calls]
    exact known.agree.drop id

/-- A call that asks for a channel is written down as served, or struck out. -/
theorem dispatching (known : Registered hub register) {id : CallId} {call : Call}
    {opening : Opening} {supply : Option Failure} {effects : List Effect}
    (live : hub.call? id = some call)
    (dispatching : Dispatching hub id call opening supply next effects) :
    Registered next (effects.foldl Effect.register register) := by
  cases dispatching with
  | unreadable unread => exact known.forget rfl rfl
  | unsupplied read unbound saturated supplied => exact known.forget rfl rfl
  | @placed key notes slot pool creation read placing =>
      obtain ⟨standing, -, told⟩ := known.agree.get? live
      rw [List.foldl_append, placing.foldl_register]
      refine ⟨Ledger.distinct_put known.distinct id _, known.agree.put ?_⟩
      refine .placed told.ruled rfl rfl (Or.inl rfl) ?_
      cases rule : call.rule <;> simp [Service.bindKey?]

/-- A response that is passed on is written down behind those before it. -/
theorem delivered (known : Registered hub register) {id : CallId} {call : Call} {slot : Nat}
    {opening : Opening} {firstKey key : Option String} {response : Message}
    (live : hub.call? id = some call) (waiting : call.phase = .waiting slot opening firstKey)
    (read : keyAfter call.rule firstKey response = .ok key) :
    Registered (hub.setCall id { call with phase := .paused slot opening key })
      (Effect.register register (.delivered id response)) := by
  obtain ⟨standing, found, told⟩ := known.agree.get? live
  obtain ⟨service, rfl, rfl, rfl, shape, method, keyed⟩ := told.service (Or.inl waiting)
  simp only [Effect.register, found]
  refine ⟨Ledger.distinct_put known.distinct id _, known.agree.put ?_⟩
  refine .placed told.ruled shape method (Or.inr rfl) ?_
  exact Service.bindKey?_deliver (keyed ▸ read)

/-- A stream that is read on stays as it is written down. -/
theorem resumed (known : Registered hub register) {id : CallId} {call : Call} {slot : Nat}
    {opening : Opening} {firstKey : Option String} (live : hub.call? id = some call)
    (paused : call.phase = .paused slot opening firstKey) :
    Registered (hub.setCall id { call with phase := .waiting slot opening firstKey })
      register := by
  obtain ⟨standing, found, told⟩ := known.agree.get? live
  obtain ⟨service, rfl, rfl, rfl, shape, method, keyed⟩ := told.service (Or.inr paused)
  refine ⟨known.distinct, ?_⟩
  rw [← Ledger.put_self found known.distinct]
  exact known.agree.put (.placed told.ruled shape method (Or.inl rfl) keyed)

/-- One step keeps the register in agreement with the live calls. -/
theorem step (known : Registered hub register) {action : Action} {effects : List Effect}
    (stepped : Stepped hub action next effects) :
    Registered next (effects.foldl Effect.register register) := by
  cases stepped with
  | @refused _ id begins fresh closing =>
      have absent := known.agree.get?_none fresh
      rw [List.foldl_cons, List.foldl_nil, Effect.register, Ledger.drop_of_unknown absent]
      exact known
  | waits fresh unclosed many reads => exact known.enter ..
  | @begins _ id call opening supply _ effects fresh unclosed starts dispatching =>
      have admitted : Registered (hub.withAdmitted id call) (register.put id none) := by
        cases starts <;> exact known.enter ..
      refine admitted.dispatching ?_ dispatching
      exact Ledger.get?_put_self hub.calls id call
  | peeked live peeking dispatching => exact known.dispatching live dispatching
  | gaveUp live peeking givesUp => exact known.forget rfl rfl
  | delivered live waiting streams read => exact known.delivered live waiting read
  | resumed live paused => exact known.resumed live paused
  | completed live waiting completes =>
      obtain ⟨shown, told⟩ := exitPlaced_effects _ _ _ _
      rw [told]
      exact known.forget (by simp) (by simp)
  | left live leaves =>
      obtain ⟨shown, told⟩ := exitPlaced_effects _ _ _ _
      rw [told]
      exact known.forget (by simp) (by simp)
  | background background =>
      obtain ⟨rules, -, -, -, calls⟩ := background.sameCalls
      rw [foldl_register_background register background.effects]
      refine ⟨known.distinct, ?_⟩
      rw [rules, calls]
      exact known.agree

end Registered

/-- The register of a whole run agrees with the live calls at its end. -/
theorem History.registered {rules : RuleTable} {limits : Limits} {past : List Moment} {hub : Hub}
    (ran : History (fresh rules limits) past hub) :
    Registered hub (registerOf (effectsOf past)) := by
  induction ran with
  | begin => exact ⟨List.nodup_nil, .nil⟩
  | next earlier stepped ih =>
      have onward := ih.step (stepped_of_step stepped)
      rw [foldl_register_withoutNotes] at onward
      simpa [registerOf_append] using onward

end Hub

end AffinityPool
