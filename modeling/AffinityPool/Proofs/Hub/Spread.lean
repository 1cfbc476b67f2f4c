/-
Module: AffinityPool.Proofs.Hub.Spread
Purpose: Binds that are all in flight at once: which channels serve them, and what the index holds
  when the last of them has exited.
Main exports:
  Action.OpensBind, answersOf, Register.binding?, Hub.InBind, Hub.Launched, Hub.Settling,
  Hub.Settling.step, Hub.Spread, Hub.History.spread
-/
import AffinityPool.Proofs.Hub.Confinement
import AffinityPool.Proofs.Hub.Separation
import AffinityPool.Proofs.Pool.Filling

namespace AffinityPool

/-!
First a number of binds is started, one after the other, and none of them exits.
Then they exit one after the other in any order and in any way, and no other call
starts.
-/

/-- An action with which no call goes on: a bind with one request and one response
starts while channels can be made, or the action is about no call. -/
inductive Action.OpensBind (rules : RuleTable) : Action → Prop where
  | begins {id : CallId} {method : String} {request : Message} {rule : Rule}
      (ruled : rules.ruleFor method = some rule) (binds : rule.command = .bind) :
      OpensBind rules (.begin id .unaryUnary method request none)
  | background {action : Action} (nobody : action.call? = none) : OpensBind rules action

/-- The call that is handed to the transport. -/
def Effect.dispatched? : Effect → Option CallId
  | .dispatched id .. => some id
  | _ => none

/-- The call that exits with a response, and the response. -/
def Effect.answer? : Effect → Option (CallId × Message)
  | .exited id (.replied response) => some (id, response)
  | _ => none

/-- The calls that succeed in a course of moments, with their responses, in the
order of their exits. -/
def answersOf (course : List Moment) : List (CallId × Message) :=
  (effectsOf course).filterMap Effect.answer?

@[simp] theorem answersOf_nil : answersOf [] = [] := rfl

theorem answersOf_append_singleton (course : List Moment) (moment : Moment) :
    answersOf (course ++ [moment]) =
      answersOf course ++ (withoutNotes moment.effects).filterMap Effect.answer? := by
  have notes : ∀ note, Effect.answer? (.note note) = none := fun note => rfl
  rw [filterMap_withoutNotes notes]
  simp [answersOf]

/-- The binding that a successful call leaves if no other call is about its key: the
key that its response has for its rule, once, on the channel that serves it. -/
def Register.binding? (rules : RuleTable) (launched : Register) (answer : CallId × Message) :
    Option Binding :=
  match launched.get? answer.1 with
  | some (some service) =>
      match rules.ruleFor service.method with
      | some rule => (rule.keyIn? answer.2).map fun key => ⟨key, service.slot, 1⟩
      | none => none
  | _ => none

theorem Register.binding?_of_launched {rules : RuleTable} {launched : Register} {id : CallId}
    {service : Service} {rule : Rule} (launch : launched.get? id = some (some service))
    (ruled : rules.ruleFor service.method = some rule) (response : Message) :
    launched.binding? rules (id, response) =
      (rule.keyIn? response).map fun key => ⟨key, service.slot, 1⟩ := by
  simp [binding?, launch, ruled]

/-- The bindings of several successful calls. -/
def Register.bindings (rules : RuleTable) (launched : Register)
    (answers : List (CallId × Message)) : List Binding :=
  answers.filterMap (launched.binding? rules)

theorem Register.bindings_append_singleton (rules : RuleTable) (launched : Register)
    (answers : List (CallId × Message)) (answer : CallId × Message) :
    launched.bindings rules (answers ++ [answer]) =
      launched.bindings rules answers ++ (launched.binding? rules answer).toList := by
  rw [bindings, List.filterMap_append, List.filterMap_cons, List.filterMap_nil]
  cases launched.binding? rules answer <;> rfl

theorem Register.servedBy_of_binding {rules : RuleTable} {launched : Register}
    {answer : CallId × Message} {binding : Binding}
    (leaves : launched.binding? rules answer = some binding) (channel : Nat) :
    servedBy channel ((launched.get? answer.1).getD none) = decide (binding.slot = channel) := by
  unfold Register.binding? at leaves
  split at leaves
  · rename_i service launch
    split at leaves
    · obtain ⟨key, -, rfl⟩ := Option.map_eq_some_iff.mp leaves
      rw [launch]
      rfl
    · cases leaves
  · cases leaves

/-- Bindings of successful calls, told apart by the channels that serve the calls. -/
theorem Register.countP_bindings {rules : RuleTable} {launched : Register}
    {answers : List (CallId × Message)} {bindings : List Binding}
    (answered : answers.map (launched.binding? rules) = bindings.map some) (channel : Nat) :
    (bindings.countP fun binding => binding.slot = channel) =
      answers.countP fun answer => servedBy channel ((launched.get? answer.1).getD none) := by
  induction answers generalizing bindings with
  | nil =>
      cases bindings with
      | nil => rfl
      | cons binding rest => cases answered
  | cons answer rest ih =>
      cases bindings with
      | nil => cases answered
      | cons binding others =>
          obtain ⟨first, later⟩ := List.cons_eq_cons.mp answered
          rw [List.countP_cons, List.countP_cons, ih later, Register.servedBy_of_binding first]

namespace Hub

/-! ### Calls in flight -/

/-- A live call is a bind that has been dispatched and waits for its response. -/
structure InBind (rules : RuleTable) (call : Call) (service : Service) : Prop where
  single : call.shape = .unaryUnary
  binds : ∃ rule, rules.ruleFor service.method = some rule ∧ call.rule = some rule ∧
    rule.command = .bind
  waits : ∃ opening, call.phase = .waiting service.slot opening none

/-- All live calls are among the launched ones.  The index holds the bindings of
those that have succeeded, unless one of them met a key of another. -/
structure Settling (rules : RuleTable) (launched : Register) (answers : List (CallId × Message))
    (hub : Hub) : Prop where
  inBind : ∀ id call, hub.call? id = some call →
    ∃ service, launched.get? id = some (some service) ∧ InBind rules call service
  entries : ((launched.bindings rules answers).map (·.key)).Nodup →
    hub.entries = launched.bindings rules answers

/-- Some binds have been launched in order, and none has exited.  They fill the pool,
each on the home of its place. -/
structure Launched (rules : RuleTable) (limits : Limits) (order : List CallId)
    (launched : Register) (hub : Hub) : Prop where
  ruled : hub.rules = rules
  listed : launched.map (·.1) = order
  filled : Pool.Filled limits launched.length hub.pool
  served : ∀ place entry, launched[place]? = some entry →
    ∃ service, entry.2 = some service ∧ service.slot = limits.home place
  settling : Settling rules launched [] hub

theorem launched_fresh (rules : RuleTable) (limits : Limits) :
    Launched rules limits [] [] (fresh rules limits) where
  ruled := rfl
  listed := rfl
  filled := Pool.filled_empty limits
  served := by
    intro place entry there
    cases there
  settling := by
    constructor
    · intro id call live
      cases live
    · intro distinct
      rfl

/-! ### The launch -/

section Launch

variable {rules : RuleTable} {limits : Limits} {order : List CallId} {launched : Register}
  {hub next : Hub}

theorem requestKey_of_bind {rule : Rule} (binds : rule.command = .bind)
    (request : Option Message) : requestKey (some rule) request = .ok (none, []) := by
  cases request with
  | none => rfl
  | some request => simp [requestKey, binds, Command.readsRequest]

/-- One more call is launched. -/
theorem Settling.put (settling : Settling rules launched [] hub) {id : CallId} {call : Call}
    {service : Service} (inBind : InBind rules call service)
    (calls : ∀ other, next.call? other = if other = id then some call else hub.call? other)
    (entries : next.entries = hub.entries) :
    Settling rules (launched.put id (some service)) [] next := by
  constructor
  · intro other known live
    rw [calls] at live
    rw [Ledger.get?_put]
    split at live
    · rename_i same
      cases live
      rw [if_pos same]
      exact ⟨service, rfl, inBind⟩
    · rename_i differs
      rw [if_neg differs]
      exact settling.inBind other known live
  · intro distinct
    rw [entries]
    exact settling.entries List.nodup_nil

/-- One more call is served on the home of its place. -/
theorem Launched.served_put (ready : Launched rules limits order launched hub) {id : CallId}
    {service : Service} (unknown : launched.get? id = none)
    (slot : service.slot = limits.home launched.length) :
    ∀ place entry, (launched.put id (some service))[place]? = some entry →
      ∃ standing, entry.2 = some standing ∧ standing.slot = limits.home place := by
  intro place entry there
  rw [Ledger.put_of_unknown _ unknown] at there
  rcases Nat.lt_trichotomy place launched.length with before | here | beyond
  · rw [List.getElem?_append_left before] at there
    exact ready.served place entry there
  · subst here
    rw [List.getElem?_concat_length] at there
    cases there
    exact ⟨service, rfl, slot⟩
  · rw [List.getElem?_eq_none (by simpa using Nat.succ_le_of_lt beyond)] at there
    cases there

/-- A bind that asks for a channel is dispatched on the home of its place. -/
theorem Launched.dispatching (ready : Launched rules limits order launched hub) {id : CallId}
    {method : String} {request : Message} {rule : Rule} {effects : List Effect}
    (unknown : launched.get? id = none) (ruled : rules.ruleFor method = some rule)
    (binds : rule.command = .bind)
    (dispatching : Dispatching (hub.withAdmitted id (hub.newCall .unaryUnary method)) id
      (hub.newCall .unaryUnary method) (.single request) none next effects) :
    ∃ service : Service, service.slot = limits.home launched.length ∧
      service.dispatch id ∈ effects ∧
      effects.foldl Effect.register (launched.put id none) = launched.put id (some service) ∧
      Launched rules limits (order ++ effects.filterMap Effect.dispatched?)
        (launched.put id (some service)) next := by
  have own : (hub.newCall .unaryUnary method).rule = some rule := by
    rw [newCall, ready.ruled, ruled]
  have unasked : ∀ asked, requestKey (hub.newCall .unaryUnary method).rule asked =
      .ok (none, []) := by
    intro asked
    rw [own, requestKey_of_bind binds]
  cases dispatching with
  | unreadable unread =>
      rw [unasked] at unread
      cases unread
  | unsupplied read unbound saturated supplied => cases supplied
  | @placed key notes slot pool creation read placing =>
      rw [unasked] at read
      cases read
      have silent : creation.filterMap Effect.dispatched? = [] := by
        cases placing <;> rfl
      obtain ⟨created, acquires, -⟩ := placing.acquires (unbound_none _)
      obtain ⟨fresh, after, selects, filled⟩ := ready.filled.acquire
      rw [pool_withAdmitted, selects] at acquires
      cases acquires
      let service : Service :=
        ⟨limits.home launched.length, .unaryUnary, method, .single request, []⟩
      refine ⟨service, rfl, by simp [Service.dispatch, newCall, service], ?_, ready.ruled, ?_, ?_,
        ?_, ?_⟩
      · rw [List.foldl_append, placing.foldl_register]
        exact Ledger.put_put_of_unknown _ _ unknown
      · rw [Ledger.put_of_unknown _ unknown, List.map_append, ready.listed, List.filterMap_append,
          silent]
        rfl
      · rw [Ledger.put_of_unknown _ unknown, List.length_append]
        exact filled
      · exact ready.served_put unknown rfl
      · have waiting : InBind rules
            { hub.newCall .unaryUnary method with
              phase := .waiting service.slot (.single request) none } service :=
          ⟨rfl, ⟨rule, ruled, own, binds⟩, _, rfl⟩
        apply ready.settling.put waiting
        · intro other
          rw [call?_eq, calls_setCall, Ledger.get?_put]
          split
          · rfl
          · rename_i differs
            exact call?_withAdmitted_other _ differs
        · rfl

/-- One step launches a bind or leaves everything as it is. -/
theorem Launched.step (ready : Launched rules limits order launched hub)
    (known : Registered hub launched) {action : Action} {effects : List Effect}
    (opens : action.OpensBind rules) (stepped : Stepped hub action next effects) :
    Launched rules limits (order ++ effects.filterMap Effect.dispatched?)
      (effects.foldl Effect.register launched) next := by
  cases opens with
  | background nobody =>
      rcases stepped.carries_or_background with carries | background
      · obtain ⟨id, about⟩ := carries.about
        rw [nobody] at about
        cases about
      · obtain ⟨ruled, pool, entries, -, calls⟩ := background.sameCalls
        rw [foldl_register_background launched background.effects]
        have silent : effects.filterMap Effect.dispatched? = [] := by
          apply List.filterMap_eq_nil_iff.mpr
          intro effect member
          have late := background.effects effect member
          cases effect with
          | closing | returned | thwarted => rfl
          | _ => cases late
        rw [silent, List.append_nil]
        constructor
        · rw [ruled, ready.ruled]
        · exact ready.listed
        · rw [pool]
          exact ready.filled
        · exact ready.served
        · constructor
          · intro id call live
            rw [call?_eq, calls] at live
            exact ready.settling.inBind id call live
          · intro distinct
            rw [entries]
            exact ready.settling.entries distinct
  | @begins id method request rule ruled binds =>
      cases stepped with
      | refused begins fresh closing =>
          cases begins
          rw [List.foldl_cons, List.foldl_nil, Effect.register,
            Ledger.drop_of_unknown (known.agree.get?_none fresh)]
          have same : order ++ [Effect.exited id (.failed .poolClosed)].filterMap
              Effect.dispatched? = order := List.append_nil order
          rw [same]
          exact ready
      | begins fresh unclosed starts dispatching =>
          cases starts with
          | single one =>
              have unknown := known.agree.get?_none fresh
              obtain ⟨service, -, -, registers, onward⟩ :=
                ready.dispatching unknown ruled binds dispatching
              rw [List.foldl_cons, Effect.register, registers]
              exact onward
      | gaveUp live peeking givesUp => cases givesUp
      | completed live waiting completes => cases completes.begins
      | left live leaves => cases leaves.begins
      | background background => cases background

/-- A bind that starts while the hub is open is dispatched on the home of its
place. -/
theorem Launched.start (ready : Launched rules limits order launched hub)
    (known : Registered hub launched) {id : CallId} {method : String} {rule : Rule}
    (request : Message) (fresh : hub.call? id = none) (unclosed : hub.closing = false)
    (ruled : rules.ruleFor method = some rule) (binds : rule.command = .bind) :
    ∃ next effects,
      hub.step (.begin id .unaryUnary method request none) = some (next, effects) ∧
        .dispatched id (limits.home launched.length) .unaryUnary method (.single request) ∈
          effects := by
  have possible : hub.step (.begin id .unaryUnary method request none) =
      some (hub.begin id .unaryUnary method request none) := by
    simp [Hub.step, fresh, Shape.streamsRequests]
  generalize hub.begin id .unaryUnary method request none = outcome at possible
  obtain ⟨next, effects⟩ := outcome
  refine ⟨next, effects, possible, (mem_withoutNotes rfl).mp ?_⟩
  have stepped := stepped_of_step possible
  generalize withoutNotes effects = told at stepped
  cases stepped with
  | refused begins unknown closing =>
      rw [unclosed] at closing
      cases closing
  | begins unknown still starts dispatching =>
      cases starts with
      | single one =>
          obtain ⟨service, slot, member, -⟩ :=
            ready.dispatching (known.agree.get?_none fresh) ruled binds dispatching
          obtain ⟨-, shape, named, opening⟩ := dispatching.dispatched member
          rw [Service.dispatch, slot, shape, named, opening] at member
          exact List.mem_cons_of_mem _ member
  | gaveUp live peeking givesUp => cases givesUp
  | completed live waiting completes => cases completes.begins
  | left live leaves => cases leaves.begins
  | background background => cases background

end Launch

/-- Binds that are all in flight fill the pool. -/
theorem History.launched {rules : RuleTable} {limits : Limits} {past : List Moment} {hub : Hub}
    (ran : History (fresh rules limits) past hub)
    (opens : ∀ moment ∈ past, moment.action.OpensBind rules) :
    Launched rules limits ((effectsOf past).filterMap Effect.dispatched?)
      (registerOf (effectsOf past)) hub := by
  have notes : ∀ note, Effect.dispatched? (.note note) = none := fun note => rfl
  induction ran with
  | begin => exact launched_fresh rules limits
  | @next past _ _ action effects earlier stepped ih =>
      have ready := ih fun moment member => opens moment (List.mem_append_left _ member)
      have onward := ready.step earlier.registered (opens ⟨action, effects⟩ (by simp))
        (stepped_of_step stepped)
      rw [foldl_register_withoutNotes, filterMap_withoutNotes notes] at onward
      simpa [registerOf_append] using onward

/-! ### The exits -/

section Exits

variable {rules : RuleTable} {launched register : Register} {answers : List (CallId × Message)}
  {hub next : Hub} {id : CallId} {call : Call} {service : Service} {action : Action}
  {effects : List Effect}

theorem InBind.eq_of_waiting (inBind : InBind rules call service) {slot : Nat}
    {opening : Opening} {firstKey : Option String}
    (waiting : call.phase = .waiting slot opening firstKey) : slot = service.slot := by
  obtain ⟨other, waits⟩ := inBind.waits
  rw [waits] at waiting
  cases waiting
  rfl

theorem InBind.not_peeking (inBind : InBind rules call service) : call.phase ≠ .peeking := by
  obtain ⟨opening, waits⟩ := inBind.waits
  rw [waits]
  intro same
  cases same

theorem InBind.not_paused (inBind : InBind rules call service) {slot : Nat} {opening : Opening}
    {firstKey : Option String} : call.phase ≠ .paused slot opening firstKey := by
  obtain ⟨other, waits⟩ := inBind.waits
  rw [waits]
  intro same
  cases same

/-- A bind in flight succeeds with a response, which its rule asks for its key. -/
theorem InBind.completes (inBind : InBind rules call service) {opening : Opening}
    {firstKey : Option String} {told : Except Failure (IndexEffect × List Note)}
    {success : Outcome} (completes : Completes call opening firstKey id action told success) :
    ∃ response rule, action = .respond id response ∧ success = .replied response ∧
      rules.ruleFor service.method = some rule ∧
      told = (rule.keyOf response).map fun (key, notes) => (.binding key, notes) := by
  obtain ⟨rule, ruled, own, binds⟩ := inBind.binds
  cases completes with
  | @replied response single =>
      refine ⟨response, rule, rfl, rfl, ruled, ?_⟩
      rw [own]
      simp only [unaryEffect, binds]
  | ended streams =>
      rw [inBind.single] at streams
      cases streams

/-- The effect of a bind is the key that its rule finds in the response. -/
theorem binding_of_keyOf {rule : Rule} {response : Message} {effect : IndexEffect}
    {notes : List Note}
    (told : .ok (effect, notes) =
      (rule.keyOf response).map fun (key, notes) => (IndexEffect.binding key, notes)) :
    effect = .binding (rule.keyIn? response) := by
  cases read : rule.keyOf response with
  | error failure =>
      rw [read] at told
      cases told
  | ok found =>
      rw [read] at told
      cases told
      rw [Rule.keyOf_ok read]

/-- A bind in flight that leaves without success is no answer. -/
theorem InBind.unanswered (inBind : InBind rules call service) {slot : Nat} {outcome : Outcome}
    (leaves : Leaves call id slot action outcome) : ∃ failure, outcome = .failed failure := by
  cases leaves with
  | abandoned paused => exact absurd paused inBind.not_paused
  | _ => exact ⟨_, rfl⟩

/-- A bind in flight exits, and nothing else happens to the calls. -/
theorem Settling.exit (settling : Settling rules launched answers hub)
    (calls : next.calls = Ledger.drop hub.calls id) {more : List (CallId × Message)}
    (entries : ((launched.bindings rules more).map (·.key)).Nodup →
      next.entries = launched.bindings rules more) : Settling rules launched more next := by
  constructor
  · intro other known live
    rw [call?_eq, calls, Ledger.get?_drop] at live
    split at live
    · cases live
    · exact settling.inBind other known live
  · exact entries

/-- A key that is new among the keys of the successful calls is not in the index. -/
theorem Settling.add (settling : Settling rules launched answers hub)
    {answer : CallId × Message} {binding : Binding}
    (leaves : launched.binding? rules answer = some binding)
    (distinct : ((launched.bindings rules (answers ++ [answer])).map (·.key)).Nodup) :
    (∀ entry ∈ hub.entries, entry.key ≠ binding.key) ∧
      hub.entries ++ [binding] = launched.bindings rules (answers ++ [answer]) := by
  rw [Register.bindings_append_singleton, leaves, Option.toList_some] at distinct ⊢
  rw [List.map_append, List.nodup_append] at distinct
  obtain ⟨before, -, apart⟩ := distinct
  rw [settling.entries before]
  refine ⟨?_, rfl⟩
  intro entry member
  exact apart entry.key (List.mem_map_of_mem member) binding.key (by simp)

/-- The effect of a bind with a response goes well and leaves the binding of the
response, or it fails and leaves the index alone. -/
theorem Settling.bindEffect (settling : Settling rules launched answers hub) {slot : Nat}
    {key : Option String} {answer : CallId × Message}
    (leaves : launched.binding? rules answer = key.map fun key => ⟨key, slot, 1⟩) :
    ((hub.applyEffect slot (.binding key)).1 = .ok () ∧
        (((launched.bindings rules (answers ++ [answer])).map (·.key)).Nodup →
          (hub.applyEffect slot (.binding key)).2.1.entries =
            launched.bindings rules (answers ++ [answer]))) ∨
      ∃ failure, (hub.applyEffect slot (.binding key)).1 = .error failure ∧
        (hub.applyEffect slot (.binding key)).2.1.entries = hub.entries := by
  cases key with
  | none =>
      left
      refine ⟨rfl, ?_⟩
      rw [Register.bindings_append_singleton, leaves, Option.map_none, Option.toList_none,
        List.append_nil]
      exact settling.entries
  | some key =>
      rw [Option.map_some] at leaves
      rcases hub.affinity.bind_added_or_refused key slot with
        ⟨count, added, entries⟩ | ⟨failure, refused, same⟩
      · left
        refine ⟨congrArg (Except.map fun _ => ()) added, ?_⟩
        intro distinct
        obtain ⟨absent, more⟩ := settling.add leaves distinct
        exact (entries absent).trans more
      · right
        exact ⟨failure, congrArg (Except.map fun _ => ()) refused, congrArg Affinity.entries same⟩

/-- A bind in flight succeeds: the key of its response is bound, unless another
channel holds it. -/
theorem Settling.complete (settling : Settling rules launched answers hub)
    (known : Registered hub register) (balanced : Balanced hub register)
    (live : hub.call? id = some call) {slot : Nat} {opening : Opening}
    {firstKey : Option String} {effect : IndexEffect} {notes : List Note} {success : Outcome}
    (waiting : call.phase = .waiting slot opening firstKey)
    (completes : Completes call opening firstKey id action (.ok (effect, notes)) success) :
    Settling rules launched
      (answers ++ ((hub.applyEffect slot effect).2.1.exitPlaced id slot
        (success.afterEffect (hub.applyEffect slot effect).1)).2.filterMap Effect.answer?)
      ((hub.applyEffect slot effect).2.1.exitPlaced id slot
        (success.afterEffect (hub.applyEffect slot effect).1)).1 := by
  obtain ⟨service, launch, inBind⟩ := settling.inBind id call live
  obtain rfl := inBind.eq_of_waiting waiting
  obtain ⟨response, rule, rfl, rfl, ruled, told⟩ := inBind.completes completes
  obtain rfl := binding_of_keyOf told
  have exits := balanced.exit_after_effect known live (by rw [waiting]; rfl)
  have leaves := Register.binding?_of_launched launch ruled response
  apply settling.exit (calls_completed ..)
  rw [entries_exitPlaced]
  rcases settling.bindEffect leaves with ⟨goesWell, entries⟩ | ⟨failure, fails, same⟩
  · rw [exits, goesWell]
    exact entries
  · rw [exits, fails, same]
    intro distinct
    have before : answers ++ [Effect.exited id (.failed failure)].filterMap Effect.answer? =
        answers := List.append_nil answers
    rw [Outcome.afterEffect, before] at distinct ⊢
    exact settling.entries distinct

/-- A response with a key that is not bound is a success. -/
theorem Settling.answered (settling : Settling rules launched answers hub)
    (known : Registered hub register) (balanced : Balanced hub register)
    (live : hub.call? id = some call) {response : Message} {binding : Binding}
    (leaves : launched.binding? rules (id, response) = some binding)
    (absent : hub.affinity.lookup binding.key = none)
    (stepped : Stepped hub (.respond id response) next effects) :
    effects = [.exited id (.replied response)] := by
  obtain ⟨service, launch, inBind⟩ := settling.inBind id call live
  cases stepped with
  | refused begins fresh closing => cases begins
  | begins fresh unclosed starts dispatching => cases starts
  | gaveUp found peeking givesUp => cases givesUp
  | delivered found waiting streams read =>
      rw [live] at found
      cases found
      rw [inBind.single] at streams
      cases streams
  | @completed _ asking _ slot opening firstKey effect notes success found waiting completes =>
      obtain rfl : id = asking := Option.some.inj completes.about
      rw [live] at found
      cases found
      obtain ⟨message, rule, same, rfl, ruled, told⟩ := inBind.completes completes
      cases same
      obtain rfl := binding_of_keyOf told
      rw [Register.binding?_of_launched launch ruled] at leaves
      obtain ⟨key, keyed, rfl⟩ := Option.map_eq_some_iff.mp leaves
      have goesWell : (hub.applyEffect slot (.binding (some key))).1 = .ok () := by
        simp [applyEffect, IndexEffect.binding, Affinity.bind,
          Affinity.lookup_eq_none_iff.mp absent, Except.map]
      rw [balanced.exit_after_effect known live (by rw [waiting]; rfl), keyed, goesWell]
      rfl
  | @left _ asking _ slot outcome found leave =>
      obtain rfl : id = asking := Option.some.inj leave.about
      rw [live] at found
      cases found
      cases leave with
      | unreadable waiting streams unread =>
          rw [inBind.single] at streams
          cases streams
      | unanswered waiting completes =>
          obtain ⟨message, rule, same, -, ruled, told⟩ := inBind.completes completes
          cases same
          rw [Register.binding?_of_launched launch ruled] at leaves
          obtain ⟨key, keyed, rfl⟩ := Option.map_eq_some_iff.mp leaves
          cases read : rule.keyOf response with
          | error failure =>
              rw [Rule.keyOf_error read] at keyed
              cases keyed
          | ok found =>
              rw [read] at told
              cases told
  | background background => cases background

/-- One step while no call starts: nothing happens to the calls, or one of them
exits. -/
theorem Settling.step (settling : Settling rules launched answers hub)
    (known : Registered hub register) (balanced : Balanced hub register)
    (startless : action.begins? = none) (stepped : Stepped hub action next effects) :
    Settling rules launched (answers ++ effects.filterMap Effect.answer?) next := by
  cases stepped with
  | refused begins fresh closing =>
      rw [startless] at begins
      cases begins
  | waits fresh unclosed many reads => cases startless
  | begins fresh unclosed starts dispatching =>
      rw [starts.begins] at startless
      cases startless
  | peeked live peeking dispatching =>
      obtain ⟨service, -, inBind⟩ := settling.inBind _ _ live
      exact absurd peeking inBind.not_peeking
  | gaveUp live peeking givesUp =>
      obtain ⟨service, -, inBind⟩ := settling.inBind _ _ live
      exact absurd peeking inBind.not_peeking
  | delivered live waiting streams read =>
      obtain ⟨service, -, inBind⟩ := settling.inBind _ _ live
      rw [inBind.single] at streams
      cases streams
  | resumed live paused =>
      obtain ⟨service, -, inBind⟩ := settling.inBind _ _ live
      exact absurd paused inBind.not_paused
  | completed live waiting completes =>
      exact settling.complete known balanced live waiting completes
  | @left _ id call slot outcome live leaves =>
      obtain ⟨service, -, inBind⟩ := settling.inBind id call live
      obtain ⟨failure, rfl⟩ := inBind.unanswered leaves
      have exits := balanced.exit_after_effect known live leaves.occupies .nothing
        (.failed failure)
      have before : answers ++ [Effect.exited id (.failed failure)].filterMap Effect.answer? =
          answers := List.append_nil answers
      rw [show (hub.exitPlaced id slot (.failed failure)).2 = _ from exits, before]
      apply settling.exit (calls_exitPlaced ..)
      rw [entries_exitPlaced]
      exact settling.entries
  | background background =>
      obtain ⟨-, -, entries, -, calls⟩ := background.sameCalls
      have silent : effects.filterMap Effect.answer? = [] := by
        apply List.filterMap_eq_nil_iff.mpr
        intro effect member
        have late := background.effects effect member
        cases effect with
        | closing | returned | thwarted => rfl
        | _ => cases late
      rw [silent, List.append_nil]
      constructor
      · intro id call live
        rw [call?_eq, calls] at live
        exact settling.inBind id call live
      · rw [entries]
        exact settling.entries

end Exits

/-- Binds that were all in flight exit in any order and in any way. -/
theorem History.settling {rules : RuleTable} {limits : Limits} {past later : List Moment}
    {hub last : Hub} {launched : Register} (ran : History (fresh rules limits) past hub)
    (settling : Settling rules launched [] hub) (onward : History hub later last)
    (startless : ∀ moment ∈ later, moment.action.begins? = none) :
    Settling rules launched (answersOf later) last := by
  induction onward with
  | begin => exact settling
  | @next later middle last action effects earlier stepped ih =>
      have sofar := ih fun moment member => startless moment (List.mem_append_left _ member)
      have reached := ran.append earlier
      rw [answersOf_append_singleton]
      exact sofar.step reached.registered reached.balanced
        (startless ⟨action, effects⟩ (by simp)) (stepped_of_step stepped)

/-! ### What callers can rely on -/

/-- Binds that are all in flight, after some of them were dispatched in order.
`launched` are the calls with their service. -/
structure Spread (rules : RuleTable) (limits : Limits) (order : List CallId)
    (launched : Register) (hub : Hub) : Prop where
  listed : launched.map (·.1) = order
  /-- Each call is served by the channel that is the home of its place. -/
  served : ∀ place entry, launched[place]? = some entry →
    ∃ service, entry.2 = some service ∧ service.slot = limits.home place
  size : hub.pool.size = min limits.maxSize (launched.length ⌈/⌉ limits.ceiling)
  /-- One more bind can be launched, whatever its request. -/
  starts : ∀ id method request rule, hub.call? id = none → hub.closing = false →
    rules.ruleFor method = some rule → rule.command = .bind →
      ∃ next effects, hub.step (.begin id .unaryUnary method request none) =
          some (next, effects) ∧
        .dispatched id (limits.home launched.length) .unaryUnary method (.single request) ∈
          effects
  /-- As long as a call is in flight it can fail, it can be cancelled, and it can be
  answered.  A response with a key that is not bound is a success. -/
  ends : ∀ later last id call, History hub later last →
    (∀ moment ∈ later, moment.action.begins? = none) → last.call? id = some call →
      (∀ failure, ∃ next,
        last.step (.fail id failure) = some (next, [.exited id (.failed failure)])) ∧
      (∃ next, last.step (.cancel id) = some (next, [.exited id (.failed .cancelled)])) ∧
      ∀ response, ∃ next effects, last.step (.respond id response) = some (next, effects) ∧
        ∀ binding, launched.binding? rules (id, response) = some binding →
          last.affinity.lookup binding.key = none →
            withoutNotes effects = [.exited id (.replied response)]
  /-- When all calls have exited, in any order and in any way, and those that have
  succeeded have brought keys that differ from each other, then these are the keys of
  the index, each bound once to the channel that served its call. -/
  settled : ∀ later last bindings, History hub later last →
    (∀ moment ∈ later, moment.action.begins? = none) → last.calls = [] →
      (answersOf later).map (launched.binding? rules) = bindings.map some →
      (bindings.map (·.key)).Nodup →
        last.entries = bindings ∧ last.inFlight = 0 ∧
        ∀ channel, (last.pool.slotAt channel).activeCalls = 0 ∧
          (last.pool.slotAt channel).boundKeys =
            (answersOf later).countP fun answer =>
              servedBy channel ((launched.get? answer.1).getD none)

/-- Binds that are all in flight spread over the channels. -/
theorem History.spread {rules : RuleTable} {limits : Limits} {past : List Moment} {hub : Hub}
    (ran : History (fresh rules limits) past hub)
    (opens : ∀ moment ∈ past, moment.action.OpensBind rules) :
    Spread rules limits ((effectsOf past).filterMap Effect.dispatched?)
      (registerOf (effectsOf past)) hub := by
  have ready := ran.launched opens
  refine ⟨ready.listed, ready.served, ready.filled.size, ?_, ?_, ?_⟩
  · intro id method request rule fresh unclosed ruled binds
    exact ready.start ran.registered request fresh unclosed ruled binds
  · intro later last id call onward startless live
    have settling := ran.settling ready.settling onward startless
    have reached := ran.append onward
    obtain ⟨service, -, inBind⟩ := settling.inBind id call live
    obtain ⟨opening, waits⟩ := inBind.waits
    have exits := fun outcome =>
      reached.balanced.exit_after_effect reached.registered live (by rw [waits]; rfl) .nothing
        outcome
    refine ⟨?_, ?_, ?_⟩
    · intro failure
      refine ⟨(last.exitPlaced id service.slot (.failed failure)).1, ?_⟩
      simp only [step, live, waits]
      rw [← exits]
      rfl
    · refine ⟨(last.exitPlaced id service.slot (.failed .cancelled)).1, ?_⟩
      simp only [step, live, waits]
      rw [← exits]
      rfl
    · intro response
      have possible : last.step (.respond id response) =
          some (last.respond id call service.slot opening none response) := by
        simp only [step, live, waits]
      refine ⟨_, _, possible, ?_⟩
      intro binding leaves absent
      exact settling.answered reached.registered reached.balanced live leaves absent
        (stepped_of_step possible)
  · intro later last bindings onward startless idle answered distinct
    have settling := ran.settling ready.settling onward startless
    have reached := ran.append onward
    have leaves : Register.bindings rules (registerOf (effectsOf past)) (answersOf later) =
        bindings := by
      have all := congrArg (List.filterMap id) answered
      rw [List.filterMap_map, List.filterMap_map] at all
      exact all.trans List.filterMap_some
    have entries := settling.entries (by rw [leaves]; exact distinct)
    rw [leaves] at entries
    have nobody : registerOf (effectsOf (past ++ later)) = [] := by
      have agree := reached.registered.agree
      rw [idle] at agree
      exact List.forall₂_nil_left_iff.mp agree
    have balanced := reached.balanced
    rw [nobody] at balanced
    refine ⟨entries, balanced.inFlight, ?_⟩
    intro channel
    refine ⟨balanced.active channel, ?_⟩
    rw [← Register.countP_bindings answered channel, ← entries]
    exact reached.indexed.consistent.counted channel

/-- Three binds on two channels with a ceiling of one: the third one shares the first
channel.  When two of them have failed, the index holds the key of the other. -/
theorem spread_over_ceiling :
    ∃ rules limits past later hub last,
      History (fresh rules limits) past hub ∧ History hub later last ∧
        (hub.pool.slotAt 0).activeCalls = 2 ∧ (hub.pool.slotAt 1).activeCalls = 1 ∧
        last.calls = [] ∧ last.entries = [⟨"k", 0, 1⟩] ∧
        Spread rules limits ["a", "b", "c"] (registerOf (effectsOf past)) hub := by
  have ran : History (fresh ⟨[⟨"open", .bind, "id"⟩]⟩ ⟨2, 1, by decide, by decide⟩)
      ([] ++ [⟨.begin "a" .unaryUnary "open" .null none, _⟩] ++
        [⟨.begin "b" .unaryUnary "open" .null none, _⟩] ++
        [⟨.begin "c" .unaryUnary "open" .null none, _⟩]) _ :=
    .next (.next (.next .begin rfl) rfl) rfl
  refine ⟨_, _, _, [] ++ [⟨.cancel "b", _⟩] ++
    [⟨.respond "c" (.dict [("id", .text "k")]), _⟩] ++ [⟨.fail "a" .poolClosed, _⟩], _, _, ran,
    .next (.next (.next .begin rfl) rfl) rfl, rfl, rfl, rfl, rfl, ?_⟩
  apply ran.spread
  intro moment member
  simp only [List.nil_append, List.cons_append, List.mem_cons, List.not_mem_nil,
    or_false] at member
  rcases member with rfl | rfl | rfl <;> exact .begins rfl rfl

end Hub

end AffinityPool
