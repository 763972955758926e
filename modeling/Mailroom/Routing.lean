import Mailroom.Routing.AutomaticCase
import Mailroom.Routing.CaseFinding
import Mailroom.Routing.Evidence
import Mailroom.Routing.PaymentNotice
import Mailroom.Routing.RecordFiling

/-!
# Routing envelopes

Each envelope leads to one action on the case store. Evidence goes to the case
it belongs to, a new application becomes a case, and whatever cannot be dealt
with in this way gets an exception record. After the action the payments
service is told.
-/

namespace Mailroom

/-- What was done with an envelope. -/
inductive EnvelopeAction where
  | caseCreated
  | attachedToCase
  | recordFiled
  deriving DecidableEq, Repr

/-- The name of an action. -/
def EnvelopeAction.name : EnvelopeAction → String
  | .caseCreated => "CASE_CREATION"
  | .attachedToCase => "AUTO_ATTACHED_TO_CASE"
  | .recordFiled => "EXCEPTION_RECORD"

/-- The case or record that an envelope led to, and the action. -/
structure Routed where
  caseId : Option Int
  action : EnvelopeAction
  deriving DecidableEq, Repr

namespace Office

variable {σ : Type}

/-- File an exception record and register the payments against it. -/
def routeToRecord (office : Office σ) (envelope : Envelope) : Flow σ Routed := do
  let recordId ← office.fileRecord envelope
  office.registerPayments envelope recordId true
  return ⟨recordId, .recordFiled⟩

/-- Attach evidence to its case, or file a record. -/
def routeEvidence (office : Office σ) (envelope : Envelope) : Flow σ Routed := do
  match ← office.findCase envelope with
  | none => office.routeToRecord envelope
  | some case =>
    if ← office.attachEvidence envelope case then
      office.registerPayments envelope case.id false
      return ⟨case.id, .attachedToCase⟩
    else
      Flow.log .info ("Creating exception record as supplementary evidence failed for envelope "
        ++ envelope.id ++ " case " ++ Case.idText case.id)
      office.routeToRecord envelope

/-- Create a case from a new application, or file a record. -/
def routeApplication (office : Office σ) (envelope : Envelope) : Flow σ Routed := do
  let outcome ← office.createAutomatically envelope
  if outcome.hasCase then
    office.registerPayments envelope outcome.caseId false
    return ⟨outcome.caseId, .caseCreated⟩
  else office.routeToRecord envelope

/-- Deal with an envelope by its classification. -/
def route (office : Office σ) (envelope : Envelope) : Flow σ Routed :=
  match envelope.classification.classification? with
  | some .supplementaryEvidence => office.routeEvidence envelope
  | some .supplementaryEvidenceWithOcr | some .exception => office.routeToRecord envelope
  | some .newApplication => office.routeApplication envelope
  | none => Flow.fail (.unknownClassification envelope.classification.text)

end Office
end Mailroom
