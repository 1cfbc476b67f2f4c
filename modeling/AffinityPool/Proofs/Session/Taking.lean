/-
Module: AffinityPool.Proofs.Session.Taking
Purpose: What one gets that takes every request of a sequence, whatever it is wrapped in and
  whenever its parts arrive; how a transport that collects requests goes through it.
Main exports:
  Gives, gives_requests_iff, gives_prepend_iff, Transport.Prepared, Transport.Collects,
  Transport.collects_of_advance
-/
import AffinityPool.Transport.Exchange
import Mathlib.Data.List.Forall2

namespace AffinityPool

/-! ### Taking everything -/

/-- Whoever takes all from a source gets these requests, in this order, and then the
end, or a failure. -/
inductive Gives {α : Type} (pull : α → Requests.Pull × α) :
    α → List Message → Option Failure → Prop where
  | ended {source rest : α} (pulled : pull source = (.ended, rest)) : Gives pull source [] none
  | failed {source rest : α} {failure : Failure} (pulled : pull source = (.failure failure, rest)) :
      Gives pull source [] (some failure)
  | request {source rest : α} {first : Message} {later : List Message} {fault : Option Failure}
      (pulled : pull source = (.request first, rest)) (onward : Gives pull rest later fault) :
      Gives pull source (first :: later) fault

/-- What is handed over gives what it holds. -/
theorem gives_requests_iff {handover : Handover} {items : List Message} {fault : Option Failure} :
    Gives Requests.pull handover.requests items fault ↔
      Gives Handover.pull handover items fault := by
  constructor
  · intro gives
    generalize held : handover.requests = requests at gives
    induction gives generalizing handover with
    | ended pulled =>
        rw [← held, handover.pull_requests, Prod.mk.injEq] at pulled
        exact .ended (Prod.ext pulled.1 rfl)
    | failed pulled =>
        rw [← held, handover.pull_requests, Prod.mk.injEq] at pulled
        exact .failed (Prod.ext pulled.1 rfl)
    | request pulled onward ih =>
        rw [← held, handover.pull_requests, Prod.mk.injEq] at pulled
        exact .request (Prod.ext pulled.1 rfl) (ih pulled.2)
  · intro gives
    induction gives with
    | ended pulled => exact .ended (by rw [Handover.pull_requests, pulled])
    | failed pulled => exact .failed (by rw [Handover.pull_requests, pulled])
    | request pulled onward ih =>
        refine .request ?_ ih
        rw [Handover.pull_requests, pulled]

namespace Requests

variable {requests rest : Requests} {first : Message} {items : List Message}
  {fault : Option Failure}

/-- What was put in front is pulled first. -/
theorem pull_prepend_cons (requests : Requests) (first : Message) (head : List Message) :
    (requests.prepend (first :: head)).pull = (.request first, requests.prepend head) := rfl

theorem prepend_nil (requests : Requests) : requests.prepend [] = requests := rfl

/-- Messages that are put in front one after the other can be put in front at once. -/
theorem prepend_prepend (requests : Requests) (front head : List Message) :
    (requests.prepend head).prepend front = requests.prepend (front ++ head) := by
  simp [prepend]

/-- A request that was taken belongs in front of what is left. -/
theorem eq_prepend_of_pull (pulled : requests.pull = (.request first, rest)) :
    requests = rest.prepend [first] := (restore_of_pull pulled).symm

/-- Only requests that are at their end have ended, and they stay so. -/
theorem eq_empty_of_pull (pulled : requests.pull = (.ended, rest)) :
    requests = .empty ∧ rest = .empty := by
  obtain ⟨pending, isOpen⟩ := requests
  match pending with
  | .ok request :: others => simp [pull] at pulled
  | .error failure :: others => simp [pull] at pulled
  | [] =>
      cases isOpen with
      | true => simp [pull] at pulled
      | false => exact ⟨rfl, (congrArg Prod.snd pulled).symm⟩

/-- A sequence that fails next also fails next when more is added. -/
theorem pull_feed_of_failure {failure : Failure} (pulled : requests.pull = (.failure failure, rest))
    (fed : List Fed) : (requests.feed fed).pull = (.failure failure, .empty) := by
  have front : ∃ others, requests.pending = .error failure :: others := by
    obtain ⟨pending, isOpen⟩ := requests
    match pending with
    | .ok request :: others => simp [pull] at pulled
    | .error cause :: others =>
        have same := congrArg Prod.fst pulled
        cases same
        exact ⟨others, rfl⟩
    | [] => cases isOpen <;> simp [pull] at pulled
  clear pulled
  induction fed generalizing requests with
  | nil =>
      obtain ⟨others, first⟩ := front
      simp [feed, pull, first]
  | cons next later ih =>
      apply ih
      obtain ⟨others, first⟩ := front
      obtain ⟨pending, isOpen⟩ := requests
      cases isOpen <;> cases next <;> simp_all [feedOne]

end Requests

section

variable {requests rest : Requests} {first : Message} {head items : List Message}
  {fault : Option Failure} {later : List Requests.Fed}

/-- Requests at their end give nothing more, and no failure. -/
theorem gives_empty_iff :
    Gives Requests.pull .empty items fault ↔ items = [] ∧ fault = none := by
  constructor
  · intro gives
    cases gives with
    | ended pulled => exact ⟨rfl, rfl⟩
    | failed pulled => cases pulled
    | request pulled onward => cases pulled
  · rintro ⟨rfl, rfl⟩
    exact .ended rfl

/-- Requests in front of a sequence are given before it. -/
theorem gives_prepend_iff :
    Gives Requests.pull (requests.prepend head) items fault ↔
      ∃ left, items = head ++ left ∧ Gives Requests.pull requests left fault := by
  induction head generalizing items with
  | nil => simp [Requests.prepend_nil]
  | cons first head ih =>
      constructor
      · intro gives
        cases gives with
        | ended pulled => cases pulled
        | failed pulled => cases pulled
        | request pulled onward =>
            rw [Requests.pull_prepend_cons, Prod.mk.injEq, Requests.Pull.request.injEq] at pulled
            obtain ⟨rfl, rfl⟩ := pulled
            obtain ⟨left, rfl, behind⟩ := ih.mp onward
            exact ⟨left, rfl, behind⟩
      · rintro ⟨left, rfl, onward⟩
        exact .request (requests.pull_prepend_cons first head) (ih.mpr ⟨left, rfl, onward⟩)

/-- What a sequence gives next is the first of what it gives in all, however much is added
to it. -/
theorem Gives.of_request (gives : Gives Requests.pull (requests.feed later) items fault)
    (pulled : requests.pull = (.request first, rest)) :
    ∃ left, items = first :: left ∧ Gives Requests.pull (rest.feed later) left fault := by
  rw [Requests.eq_prepend_of_pull pulled, Requests.feed_prepend] at gives
  exact gives_prepend_iff.mp gives

/-- Behind a failure no requests are given. -/
theorem Gives.of_failure {failure : Failure}
    (gives : Gives Requests.pull (requests.feed later) items fault)
    (pulled : requests.pull = (.failure failure, rest)) : items = [] ∧ fault = some failure := by
  have fails := Requests.pull_feed_of_failure pulled later
  cases gives with
  | ended other => rw [fails] at other; cases other
  | failed other =>
      rw [fails] at other
      cases other
      exact ⟨rfl, rfl⟩
  | request other onward => rw [fails] at other; cases other

/-- Behind the end no requests are given. -/
theorem Gives.of_ended (gives : Gives Requests.pull (requests.feed later) items fault)
    (pulled : requests.pull = (.ended, rest)) : items = [] ∧ fault = none := by
  rw [(Requests.eq_empty_of_pull pulled).1, Requests.feed_empty] at gives
  exact gives_empty_iff.mp gives

end

/-! ### Collecting -/

namespace Transport

variable {σ ρ : Type} {transport : Transport σ ρ} {state : σ} {id : CallId} {dispatch : Dispatch}
  {seen left taken : List Message} {rest : Handover} {fault : Option Failure}

/-- Requests in the form in which a transport sends them. -/
def Prepared (transport : Transport σ ρ) : List Message → List Message → Prop :=
  List.Forall₂ fun request sent => transport.prepare request = .ok sent

/-- What a transport does next that collects the requests `items` of a call and has come so
far with it. -/
inductive Collects (transport : Transport σ ρ) (state : σ) (id : CallId) (dispatch : Dispatch)
    (items : List Message) (fault : Option Failure) (taken : List Message) :
    Advance σ ρ → Prop where
  /-- The next request is taken. -/
  | takes {request sent : Message} {rest : Handover} (next : items[taken.length]? = some request)
      (prepared : transport.prepare request = .ok sent) :
      Collects transport state id dispatch items fault taken
        (.quiet (.collecting dispatch (taken ++ [sent]) rest) state)
  /-- The next request is none that can be sent. -/
  | unsendable {request : Message} {failure : Failure} {exchange : Exchange}
      (next : items[taken.length]? = some request)
      (refused : transport.prepare request = .error failure) :
      Collects transport state id dispatch items fault taken (.failing failure exchange state)
  /-- The call starts, with all requests. -/
  | starts (all : transport.Prepared items taken) (complete : fault = none) :
      Collects transport state id dispatch items fault taken
        (transport.begin state id dispatch (.many taken))
  /-- The caller's sequence has failed behind the last request. -/
  | breaks {failure : Failure} {exchange : Exchange} (all : taken.length = items.length)
      (broken : fault = some failure) :
      Collects transport state id dispatch items fault taken (.failing failure exchange state)

/-- Collecting goes through the requests one by one, in order and to the end. -/
theorem collects_of_advance {later : List Requests.Fed} {advance : Advance σ ρ}
    (prepared : transport.Prepared seen taken)
    (gives : Gives Requests.pull (rest.requests.feed later) left fault)
    (advanced : transport.advance state id (.collecting dispatch taken rest) = some advance) :
    transport.Collects state id dispatch (seen ++ left) fault taken advance := by
  have length : taken.length = seen.length := prepared.length_eq.symm
  have pulled := rest.pull_requests
  cases taking : rest.pull with
  | mk next others =>
      simp only [Transport.advance, taking] at advanced
      rw [taking] at pulled
      cases next with
      | waiting => cases advanced
      | ended =>
          obtain ⟨rfl, complete⟩ := gives.of_ended pulled
          cases advanced
          rw [List.append_nil]
          exact .starts prepared complete
      | failure failure =>
          obtain ⟨rfl, broken⟩ := gives.of_failure pulled
          cases advanced
          rw [List.append_nil]
          exact .breaks length broken
      | request request =>
          obtain ⟨later, rfl, onward⟩ := gives.of_request pulled
          have there : (seen ++ request :: later)[taken.length]? = some request := by
            rw [length]
            simp
          cases sending : transport.prepare request with
          | error failure =>
              simp only [sending, Option.some.injEq] at advanced
              subst advanced
              exact .unsendable there sending
          | ok sent =>
              simp only [sending, Option.some.injEq] at advanced
              subst advanced
              exact .takes there sending

end Transport

end AffinityPool
