import Mailroom.CaseAccess
import Mailroom.Routing.LogContext

/-!
# Finding the case of an envelope

An envelope may carry the reference of a case, or the one that the case has in
an older system. The first is tried before the second. A reference that leads
nowhere is no failure; a legacy reference that leads to several cases is none
either, and finds no case.
-/

namespace Mailroom.Office

variable {σ : Type}

/-- What a log line says of the reference that an envelope carries. -/
def referenceContext (envelope : Envelope) (reference : String) : String :=
  "Ref: " ++ reference ++ ", jurisdiction: " ++ envelope.jurisdiction

/-- The case that the reference on an envelope names. -/
def findByReference (office : Office σ) (envelope : Envelope) : Flow σ (Option Case) :=
  match envelope.caseRef with
  | none => return none
  | some reference => do
    if reference.isEmpty then return none
    else
      match ← Flow.attempt (office.fetchCase (Text.trim reference) envelope.jurisdiction) with
      | .ok case => return some case
      | .error (.call (.caseNotFound _)) =>
        Flow.log .info ("Case not found. " ++ referenceContext envelope reference)
        return none
      | .error (.call (.invalidReference _)) =>
        Flow.log .info ("Invalid case ID. " ++ referenceContext envelope reference)
        return none
      | .error failure => Flow.fail failure

/-- The one case that has the legacy reference. -/
def findByLegacyId (office : Office σ) (envelope : Envelope) (legacyRef : String) :
    Flow σ (Option Case) := do
  match ← office.casesByLegacyId legacyRef envelope.container with
  | [] => return none
  | [id] => some <$> office.fetchCase (Case.idText id) envelope.jurisdiction
  | ids =>
    Flow.log .warning ("Multiple cases found by legacy ID " ++ legacyRef ++ ": " ++ idList ", " ids)
    return none

/-- The case that an envelope belongs to. -/
def findCase (office : Office σ) (envelope : Envelope) : Flow σ (Option Case) := do
  match ← office.findByReference envelope with
  | some case => return some case
  | none =>
    match envelope.legacyCaseRef with
    | none => return none
    | some legacyRef =>
      if legacyRef.isEmpty then return none else office.findByLegacyId envelope legacyRef

end Mailroom.Office
