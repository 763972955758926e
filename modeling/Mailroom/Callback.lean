import Mailroom.Case
import Mailroom.Schema.Scalar
import Mailroom.Service

/-!
# Callbacks

The case store calls back when a caseworker asks for a new case, with the event
and the exception record it runs on. The answer is the data to store, or
warnings and errors to show.
-/

namespace Mailroom.Callback

open Schema

/-- A request of a caseworker. -/
structure Request where
  eventId : String
  record : Option Case
  ignoreWarnings : Bool

/-- Check the case in a callback. Type and data are known by two names each. -/
def checkCase : Json → Checked Case :=
  model "CaseDetailsSchema" fun members =>
    (fun id jurisdiction caseType state data =>
      { id
        jurisdiction := .ofText? jurisdiction
        caseType := .ofText? caseType
        state := .ofText? state
        data : Case })
    <$> maybe members "id" integer
    <*> maybe members "jurisdiction" text
    <*> memberOr members ["case_type_id", "case_type"] (nullable text) (.accepted none)
    <*> maybe members "state" text
    <*> memberOr members ["case_data", "data"] object (.accepted [])

/-- Check a callback. -/
def checkRequest : Json → Checked Request :=
  model "CcdCallbackRequestSchema" fun members =>
    Request.mk
    <$> required members "event_id" text
    <*> maybe members "case_details" checkCase
    <*> optional members "ignore_warning" boolean false

/-- The outcome of a callback: data to store, or what to show instead. The case
is named when it was created in this callback. -/
structure Result where
  data : Fields := []
  warnings : List String := []
  errors : List String := []
  caseId : Option Int := none

/-- The outcome as the body of an answer. -/
def Result.body (result : Result) : Json :=
  .obj [
    ("data", .obj result.data),
    ("warnings", .arr (result.warnings.map .str)),
    ("errors", .arr (result.errors.map .str))]

/-- Why a callback cannot be dealt with at all. -/
structure Refusal where
  message : String
  deriving DecidableEq, Repr

/-- The service that an exception record belongs to, read off its case type. -/
def serviceOf (record : Option Case) : Except (Refusal ⊕ Fault) String :=
  match (record.map (·.caseType)).getD .null with
  | .null => .error (.inl ⟨"No case type ID supplied"⟩)
  | .str caseType =>
    if caseType.endsWith Service.recordSuffix && caseType != Service.recordSuffix then
      .ok (Text.lower (String.ofList
        (caseType.toList.take (caseType.length - Service.recordSuffix.length))))
    else .error (.inl ⟨"Case type ID (" ++ caseType ++ ") has invalid format"⟩)
  | _ => .error (.inr .noSuchOperation)

/-- What stands before the ending of the case type of records is the name of their
service in upper case. -/
theorem stem_recordCaseType (name : String) :
    String.ofList ((Service.recordCaseType name).toList.take
      ((Service.recordCaseType name).length - Service.recordSuffix.length)) = Text.upper name := by
  unfold Service.recordCaseType
  rw [String.length_append, Nat.add_sub_cancel, String.toList_append, ← String.length_toList,
    List.take_left, String.ofList_toList]

end Mailroom.Callback
