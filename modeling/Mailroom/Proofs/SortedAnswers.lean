import Mailroom.Proofs.DecidedForms
import Mailroom.Proofs.OwnFailures

/-!
# Sorting what a transformation service answers

What comes of a request to a transformation service is one of a few outcomes, told by the status
of the answer and by the form of its body: a draft of a case, an answer that is not of the agreed
form, a rejection with or without objections, or no usable answer. One kind of body is left over.
A text that opens more lists and objects than its reader puts up with is neither JSON nor anything
else to it, and the request ends with a fault.
-/

namespace Mailroom.Transformation

open Schema

/-- A text that is there and whole. -/
def Filled (text : String) : Prop :=
  text ≠ "" ∧ Text.isTorn text = false

/-- The texts that a member of an object lists, none if it is absent. -/
def Lists (members : Fields) (name : String) (texts : List String) : Prop :=
  members.get? name = none ∧ texts = [] ∨ members.get? name = some (.arr (texts.map .str))

/-- The form of the details in an answer, and the draft that they stand for. -/
def IsDraft (details : Json) (draft : CaseDraft) : Prop :=
  ∃ members : Fields, details = .obj members ∧
    members.get? "case_type_id" = some (.str draft.caseType) ∧ Filled draft.caseType ∧
    members.get? "event_id" = some (.str draft.eventId) ∧ Filled draft.eventId ∧
    members.get? "case_data" = some (.obj draft.data)

/-- The agreed form of an answer, and what it stands for. -/
def IsAnswer (body : Json) (answer : Answer) : Prop :=
  ∃ (members : Fields) (details : Json), body = .obj members ∧
    members.get? "case_creation_details" = some details ∧ IsDraft details answer.draft ∧
    Lists members "warnings" answer.warnings

/-- The agreed form of a rejection, and what it objects to. -/
def IsRejection (body : Json) (objections : Objections) : Prop :=
  ∃ members : Fields, body = .obj members ∧ Lists members "errors" objections.errors ∧
    Lists members "warnings" objections.warnings

/-- A member that may be absent lists its texts. -/
theorem lists_decide (members : Fields) (name : String) :
    (optional members name (list text) []).Decides (Lists members name) := by
  refine (optional_decides texts_decide members name []).reword fun texts => ?_
  unfold Lists
  constructor
  · rintro (absent | ⟨value, found, rfl⟩)
    · exact .inl absent
    · exact .inr found
  · rintro (absent | found)
    · exact .inl absent
    · exact .inr ⟨_, found, rfl⟩

/-- The body of a rejection is checked for its form. -/
theorem checkObjections_decides (body : Json) :
    (checkObjections body).Decides (IsRejection body) := by
  have members (members : Fields) := seq_decides
    (map_decides Objections.mk (lists_decide members "errors")) (lists_decide members "warnings")
  refine (model_decides "ClientServiceErrorResponse" members body).reword fun objections => ?_
  constructor
  · rintro ⟨members, rfl, _, warnings, ⟨errors, listed, rfl⟩, others, rfl⟩
    exact ⟨members, rfl, listed, others⟩
  · rintro ⟨members, rfl, listed, others⟩
    exact ⟨members, rfl, _, _, ⟨_, listed, rfl⟩, others, rfl⟩

end Mailroom.Transformation

namespace Mailroom.Http

open Transformation

namespace Response

/-- The value of a body that is read strictly: in UTF-8, with no torn text, and not nested deep. -/
def strictJson? (response : Response) : Option Json := do
  let characters ← Text.decodeUtf8? response.octets
  (Json.readChars .strict characters).toOption

/-- What the body of a rejection objects to: what it says if it has the agreed form, and nothing
otherwise. -/
def Objects (response : Response) (objections : Objections) : Prop :=
  (∃ body, response.strictJson? = some body ∧ IsRejection body objections) ∨
    (∀ body others, response.strictJson? = some body → ¬ IsRejection body others) ∧
      objections = ⟨[], []⟩

end Response

/-- The objections that are read are those of a body of the agreed form. -/
theorem readObjections_eq_some (response : Response) (objections : Objections) :
    readObjections response = some objections ↔
      ∃ body, response.strictJson? = some body ∧ IsRejection body objections := by
  unfold readObjections Response.strictJson?
  cases Text.decodeUtf8? response.octets with
  | none => simp
  | some characters =>
    dsimp only [bind, Option.bind]
    cases (Json.readChars .strict characters).toOption with
    | none => simp
    | some body =>
      simp only [Option.some.injEq, exists_eq_left']
      rw [← (checkObjections_decides body).accepts]
      cases checkObjections body with
      | accepted found => simp
      | rejected violations => simp

/-- A rejection fails with its status, its text, and what it objects to. -/
theorem rejection_result (response : Response) :
    ∃ objections, response.Objects objections ∧
      (∀ others, response.Objects others → others = objections) ∧
      (rejection response).result =
        .error (.transformation (.rejected response.status objections response.text)) := by
  unfold rejection
  cases read : readObjections response with
  | some objections =>
    have objected := (readObjections_eq_some response objections).mp read
    refine ⟨objections, .inl objected, fun others said => ?_, rfl⟩
    rcases said with same | ⟨silent, -⟩
    · rw [← readObjections_eq_some, read] at same
      exact (Option.some.inj same).symm
    · obtain ⟨body, isRead, isRejection⟩ := objected
      exact absurd isRejection (silent body objections isRead)
  | none =>
    have silent (body : Json) (others : Objections) (isRead : response.strictJson? = some body) :
        ¬ IsRejection body others := by
      intro isRejection
      have objected := (readObjections_eq_some response others).mpr ⟨body, isRead, isRejection⟩
      rw [read] at objected
      cases objected
    refine ⟨⟨[], []⟩, .inr ⟨silent, rfl⟩, fun others said => ?_, rfl⟩
    rcases said with ⟨body, isRead, isRejection⟩ | ⟨-, same⟩
    · exact absurd isRejection (silent body others isRead)
    · exact same

/-- How the reply to a request is sorted: each outcome under exactly what led to it. -/
structure Sorted (came : Except String Response) (result : Except Mailroom.Failure Answer) :
    Prop where
  /-- An answer of the agreed form is a success, and says what its body says. -/
  succeeds : ∀ answer, result = .ok answer ↔ ∃ response body, came = .ok response ∧
    response.isSuccess ∧ response.json? = .ok (some body) ∧ IsAnswer body answer
  /-- Any other JSON value in an answer of success is not of the agreed form, and the violations
  are listed. -/
  invalid : (∃ violations, result = .error (.transformation (.invalidAnswer violations))) ↔
    ∃ response body, came = .ok response ∧ response.isSuccess ∧
      response.json? = .ok (some body) ∧ ∀ answer, ¬ IsAnswer body answer
  violated : ∀ violations, result = .error (.transformation (.invalidAnswer violations)) →
    violations ≠ []
  /-- A status of 400 or 422 is a rejection, whatever the body, and objects to what that says. -/
  rejected : ∀ status objections text,
    result = .error (.transformation (.rejected status objections text)) ↔
      ∃ response, came = .ok response ∧ (status = 400 ∨ status = 422) ∧
        response.status = status ∧ response.text = text ∧ response.Objects objections
  /-- No answer, an answer of another status and a body that is not JSON are no usable answer. -/
  unavailable : ∀ status,
    (∃ message, result = .error (.transformation (.unavailable message status))) ↔
      (∃ reason, came = .error reason ∧ status = none) ∨
        ∃ response, came = .ok response ∧ status = some response.status ∧
          (response.isSuccess = false ∧ response.status ≠ 400 ∧ response.status ≠ 422 ∨
            response.isSuccess ∧ response.json? = .ok none)
  /-- What is left over are answers of success that are nested deeper than their reader reads. -/
  leftover : (∀ answer, result ≠ .ok answer) ∧
      (∀ failure, result ≠ .error (.transformation failure)) ↔
    ∃ response isList, came = .ok response ∧ response.isSuccess ∧
      response.json? = .error (.tooDeep isList)

variable {σ : Type}

end Mailroom.Http
