import Mailroom.Peers
import Mailroom.Routing.LogContext

/-!
# Telling the payments service

The payments of an envelope are registered against the case or record that the
envelope led to. When a case is created from an exception record, its payments
move to the case. Without payments nothing is sent.
-/

namespace Mailroom.Office

variable {σ : Type}

/-- The command that registers the payments of an envelope. -/
def createCommand (envelope : Envelope) (caseId : Option Int) (isRecord : Bool) :
    Payments.Create :=
  { envelopeId := envelope.id
    reference := Case.idText caseId
    jurisdiction := envelope.jurisdiction
    service := envelope.container
    poBox := envelope.poBox
    isRecord
    controlNumbers := envelope.payments }

/-- Register the payments of an envelope against a case or a record. -/
def registerPayments (office : Office σ) (envelope : Envelope) (caseId : Option Int)
    (isRecord : Bool) : Flow σ Unit := do
  if envelope.payments.isEmpty then
    Flow.log .info ("Envelope has no payments, not sending create command. Envelope ID: "
      ++ envelope.id)
  else
    Flow.log .info ("Sending create payments command. Envelope ID: " ++ envelope.id
      ++ ", CCD reference: " ++ Case.idText caseId)
    Flow.ask (office.peers.pay (.create (createCommand envelope caseId isRecord)))

/-- Move the payments of an exception record to the case created from it. -/
def movePayments (office : Office σ) (record : ExceptionRecord) (jurisdiction : Json)
    (recordId : String) (caseId : Option Int) : Flow σ Unit := do
  if record.containsPayments then
    Flow.log .info ("Sending update payments command. Exception record: " ++ recordId
      ++ ", new case: " ++ Case.idText caseId)
    Flow.ask (office.peers.pay (.update
      { recordId
        caseReference := Case.idText caseId
        envelopeId := record.envelopeId
        jurisdiction }))

end Mailroom.Office
