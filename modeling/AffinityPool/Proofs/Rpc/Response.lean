/-
Module: AffinityPool.Proofs.Rpc.Response
Purpose: What becomes of a document that stands where a response of JSON-RPC should stand.
Main exports:
  Json.Hollow, Json.isBlank_iff, Rpc.Reports, Rpc.Verdict, Rpc.verdict_unwrap, Rpc.Classified,
  Rpc.classified
-/
import AffinityPool.Http.ResponseStream
import Mathlib

namespace AffinityPool

/-! ### Documents that count as nothing -/

/-- A document whose place a default may take. -/
inductive Json.Hollow : Json → Prop where
  | null : Hollow .null
  | no : Hollow (.bool false)
  | zero : Hollow (.int 0)
  | zeroFloat (negative : Bool) (exponent : Int) : Hollow (.float (.finite negative 0 exponent))
  | text : Hollow (.text "")
  | array : Hollow (.array [])
  | object : Hollow (.object [])

theorem Json.isBlank_iff (document : Json) : document.isBlank = true ↔ document.Hollow := by
  constructor
  · intro blank
    cases document with
    | null => exact .null
    | bool value =>
        cases value with
        | false => exact .no
        | true => cases blank
    | int value =>
        have zero : value = 0 := of_decide_eq_true blank
        rw [zero]
        exact .zero
    | float value =>
        cases value with
        | finite negative mantissa exponent =>
            have zero : mantissa = 0 := of_decide_eq_true blank
            rw [zero]
            exact .zeroFloat negative exponent
        | infinite negative => cases blank
        | nan => cases blank
    | text value =>
        obtain ⟨letters⟩ := value
        have none : letters = [] := List.isEmpty_iff.mp blank
        rw [none]
        exact .text
    | array items =>
        have none : items = [] := List.isEmpty_iff.mp blank
        rw [none]
        exact .array
    | object members =>
        have none : members = [] := List.isEmpty_iff.mp blank
        rw [none]
        exact .object
  · intro blank
    cases blank <;> rfl

namespace Rpc

/-! ### The outcomes of a response -/

/-- An object has an error member that is an object, or one that counts as nothing and then
says nothing. -/
inductive Reports (members : Json.Members) : Json.Members → Prop where
  | said {detail : Json.Members}
      (failing : Json.Members.get? members "error" = some (.object detail)) :
      Reports members detail
  | unsaid {error : Json} (failing : Json.Members.get? members "error" = some error)
      (blank : error.Hollow) : Reports members []

/-- An object has an error member that nothing can be read from. -/
inductive Misreports (members : Json.Members) : Prop where
  | intro {error : Json} (failing : Json.Members.get? members "error" = some error)
      (solid : ¬error.Hollow) (bare : ∀ detail, error ≠ .object detail) : Misreports members

/-- The ways that a response can go, each with its outcome. -/
inductive Verdict (response : Json) : Except Failure Json → Prop where
  | result {members : Json.Members} {result : Json} (object : response = .object members)
      (sound : Json.Members.get? members "error" = none)
      (given : Json.Members.get? members "result" = some result) : Verdict response (.ok result)
  | remote {members detail : Json.Members} (object : response = .object members)
      (reports : Reports members detail) : Verdict response (.error (failureOf detail))
  | misreport {members : Json.Members} (object : response = .object members)
      (misreports : Misreports members) : Verdict response (.error .errorNotAnObject)
  | void {members : Json.Members} (object : response = .object members)
      (sound : Json.Members.get? members "error" = none)
      (lacking : Json.Members.get? members "result" = none) :
      Verdict response (.error (.noResult response))
  | foreign (bare : ∀ members, response ≠ .object members) :
      Verdict response (.error (.notAResponse response))

/-- An object with an error member. -/
theorem verdict_of_error {members : Json.Members} {error : Json}
    (failing : Json.Members.get? members "error" = some error) :
    Verdict (.object members) (unwrap (.object members)) := by
  unfold unwrap
  simp only [failing]
  by_cases blank : error.isBlank = true
  · rw [if_pos blank]
    apply Verdict.remote rfl
    exact .unsaid failing ((Json.isBlank_iff error).mp blank)
  · rw [if_neg blank]
    have solid : ¬error.Hollow := fun none => blank ((Json.isBlank_iff error).mpr none)
    cases error with
    | object detail =>
        apply Verdict.remote rfl
        exact .said failing
    | null | bool _ | int _ | float _ | text _ | array _ =>
        apply Verdict.misreport rfl
        exact .intro failing solid (by simp)

/-- An object without an error member. -/
theorem verdict_of_sound {members : Json.Members}
    (sound : Json.Members.get? members "error" = none) :
    Verdict (.object members) (unwrap (.object members)) := by
  unfold unwrap
  simp only [sound]
  cases given : Json.Members.get? members "result" with
  | none => exact .void rfl sound given
  | some result => exact .result rfl sound given

theorem verdict_unwrap (response : Json) : Verdict response (unwrap response) := by
  cases response with
  | object members =>
      cases failing : Json.Members.get? members "error" with
      | none => exact verdict_of_sound failing
      | some error => exact verdict_of_error failing
  | null | bool _ | int _ | float _ | text _ | array _ => exact .foreign (by simp)

/-- Each way has its own outcome. -/
theorem Verdict.unwrap_eq {response : Json} {outcome : Except Failure Json}
    (verdict : Verdict response outcome) : unwrap response = outcome := by
  cases verdict with
  | result object sound given =>
      subst object
      unfold unwrap
      simp only [sound, given]
  | @remote members detail object reports =>
      subst object
      unfold unwrap
      cases reports with
      | said failing =>
          simp only [failing]
          cases detail <;> rfl
      | unsaid failing blank =>
          simp only [failing]
          rw [if_pos ((Json.isBlank_iff _).mpr blank)]
  | misreport object misreports =>
      subst object
      obtain ⟨failing, solid, bare⟩ := misreports
      unfold unwrap
      simp only [failing]
      rw [if_neg fun blank => solid ((Json.isBlank_iff _).mp blank)]
  | void object sound lacking =>
      subst object
      unfold unwrap
      simp only [sound, lacking]
  | foreign bare =>
      cases response with
      | object members => exact absurd rfl (bare members)
      | null | bool _ | int _ | float _ | text _ | array _ => rfl

theorem unwrap_eq_iff {response : Json} {outcome : Except Failure Json} :
    unwrap response = outcome ↔ Verdict response outcome := by
  constructor
  · rintro rfl
    exact verdict_unwrap response
  · exact Verdict.unwrap_eq

/-- The body of a successful answer is read as a response. -/
theorem result_of_letters {answer : Http.Answer} {letters : List Text.Letter} (maxDepth : Nat)
    (success : Http.isSuccess answer.status = true)
    (text : Text.decodeBody? answer.octets = some letters) :
    answer.result maxDepth = readResponse maxDepth letters := by
  unfold Http.Answer.result
  simp only [success, if_true, text]

/-! ### Complete classification -/

/-- What becomes of a document in the place of a response, however it arrives. -/
structure Classified (response : Json) : Prop where
  /-- A result is what the result member says, if there is one and no error member. -/
  returned : ∀ result, unwrap response = .ok result ↔
    ∃ members, response = .object members ∧ Json.Members.get? members "error" = none ∧
      Json.Members.get? members "result" = some result
  /-- An error object, or an error that counts as nothing, is a failure of the remote side with
  its code, its message and its data, which are zero, empty and null unless it says so. -/
  remote : ∀ code message data, unwrap response = .error (.remote code message data) ↔
    ∃ members detail, response = .object members ∧ Reports members detail ∧
      code = (Json.Members.get? detail "code").getD (.int 0) ∧
      message = (Json.Members.get? detail "message").getD (.text "") ∧
      data = (Json.Members.get? detail "data").getD .null
  /-- Anything but an object is refused, and so is an object with neither member. -/
  refused : (unwrap response = .error (.notAResponse response) ∨
      unwrap response = .error (.noResult response)) ↔
    ∀ members, response = .object members → Json.Members.get? members "error" = none ∧
      Json.Members.get? members "result" = none
  /-- An error member that is neither an object nor counts as nothing is none of this. -/
  escaped : unwrap response = .error .errorNotAnObject ↔
    ∃ members, response = .object members ∧ Misreports members
  /-- Nothing else happens. -/
  covered : (∃ result, unwrap response = .ok result) ∨
    (∃ code message data, unwrap response = .error (.remote code message data)) ∨
    (unwrap response = .error (.notAResponse response) ∨
      unwrap response = .error (.noResult response)) ∨
    unwrap response = .error .errorNotAnObject
  /-- The body of a successful answer that reads as the document comes to the same, however deep
  documents may nest. -/
  unary : ∀ (maxDepth : Nat) (answer : Http.Answer) letters,
    Http.isSuccess answer.status = true → Text.decodeBody? answer.octets = some letters →
      Json.readLetters (dialect maxDepth) letters = .ok response →
        answer.result maxDepth = unwrap response
  /-- The data of an event that reads as the document comes to the same. -/
  streamed : ∀ (stream : Http.ResponseStream) (event : Http.Event) (left : List Http.Event),
    Json.readLetters (dialect stream.maxDepth) event.data.letters = .ok response →
      (stream.resultOf event left).1 =
        match unwrap response with
        | .ok result => .result result
        | .error failure => .failed failure

/-- Every document is classified. -/
theorem classified (response : Json) : Classified response where
  returned result := by
    rw [unwrap_eq_iff]
    constructor
    · intro verdict
      cases verdict with
      | result object sound given => exact ⟨_, object, sound, given⟩
    · rintro ⟨members, object, sound, given⟩
      exact .result object sound given
  remote code message data := by
    rw [unwrap_eq_iff]
    constructor
    · intro verdict
      cases verdict with
      | remote object reports => exact ⟨_, _, object, reports, rfl, rfl, rfl⟩
    · rintro ⟨members, detail, object, reports, rfl, rfl, rfl⟩
      exact .remote object reports
  refused := by
    simp only [unwrap_eq_iff]
    constructor
    · rintro (verdict | verdict) members object
      · cases verdict with
        | foreign bare => exact absurd object (bare members)
      · cases verdict with
        | void same sound lacking =>
            rw [object] at same
            cases same
            exact ⟨sound, lacking⟩
    · intro lacks
      by_cases bare : ∀ members, response ≠ .object members
      · exact Or.inl (.foreign bare)
      · push Not at bare
        obtain ⟨members, object⟩ := bare
        obtain ⟨sound, lacking⟩ := lacks members object
        exact Or.inr (.void object sound lacking)
  escaped := by
    rw [unwrap_eq_iff]
    constructor
    · intro verdict
      cases verdict with
      | misreport object misreports => exact ⟨_, object, misreports⟩
    · rintro ⟨members, object, misreports⟩
      exact .misreport object misreports
  covered := by
    have verdict := verdict_unwrap response
    generalize unwrap response = outcome at verdict ⊢
    cases verdict with
    | result object sound given => exact Or.inl ⟨_, rfl⟩
    | remote object reports => exact Or.inr (Or.inl ⟨_, _, _, rfl⟩)
    | void object sound lacking => exact Or.inr (Or.inr (Or.inl (Or.inr rfl)))
    | foreign bare => exact Or.inr (Or.inr (Or.inl (Or.inl rfl)))
    | misreport object misreports => exact Or.inr (Or.inr (Or.inr rfl))
  unary maxDepth answer letters success text reads := by
    rw [result_of_letters maxDepth success text]
    unfold readResponse
    simp only [reads]
  streamed stream event left reads := by
    unfold Http.ResponseStream.resultOf readResponse
    simp only [reads]
    cases unwrap response <;> rfl

/-- An error member that is a text. -/
def errorText : String := "\x7b\"error\":\"boom\"\x7d"

/-- A text in the place of an error object is neither a failure of the remote side nor refused, in
the body of an answer as in an event. -/
theorem error_text_escapes :
    Json.readLetters (dialect 1) (Text.LooseText.ofString errorText).letters =
        .ok (.object [("error", .text "boom")]) ∧
      readResponse 1 (Text.LooseText.ofString errorText).letters = .error .errorNotAnObject ∧
      (⟨200, [0x7B, 0x22, 0x65, 0x72, 0x72, 0x6F, 0x72, 0x22, 0x3A, 0x22, 0x62, 0x6F, 0x6F, 0x6D,
        0x22, 0x7D]⟩ : Http.Answer).result 1 = .error .errorNotAnObject := by
  have read : Json.readLetters (dialect 1) (Text.LooseText.ofString errorText).letters =
      .ok (.object [("error", .text "boom")]) := by cbv
  have escapes : readResponse 1 (Text.LooseText.ofString errorText).letters =
      .error .errorNotAnObject := by
    unfold readResponse
    rw [read]
    rfl
  have text : Text.decodeBody? [0x7B, 0x22, 0x65, 0x72, 0x72, 0x6F, 0x72, 0x22, 0x3A, 0x22, 0x62,
      0x6F, 0x6F, 0x6D, 0x22, 0x7D] = some (Text.LooseText.ofString errorText).letters := by decide
  refine ⟨read, escapes, ?_⟩
  rw [result_of_letters 1 rfl text]
  exact escapes

end Rpc
end AffinityPool
