/-!
# Names in case data

The members of case data that are read or written by name, the events that are
started on cases, and the actions that are recorded against an envelope.
-/

namespace Mailroom

namespace CaseField

/-- Reference to the exception record that a case was created from. -/
def bulkScanCaseReference : String := "bulkScanCaseReference"
/-- References to the envelopes that created or changed a case. -/
def bulkScanEnvelopes : String := "bulkScanEnvelopes"
/-- The scanned documents of a case. -/
def scannedDocuments : String := "scannedDocuments"
/-- What the sender wants done with an envelope. -/
def journeyClassification : String := "journeyClassification"
/-- The post office box of an envelope. -/
def poBox : String := "poBox"
/-- The jurisdiction that owns the post office box. -/
def poBoxJurisdiction : String := "poBoxJurisdiction"
/-- The form that was scanned. -/
def formType : String := "formType"
/-- When the envelope was delivered. -/
def deliveryDate : String := "deliveryDate"
/-- When the envelope was opened. -/
def openingDate : String := "openingDate"
/-- Data read from the scanned form. -/
def scanOcrData : String := "scanOCRData"
/-- The envelope of an exception record. -/
def envelopeId : String := "envelopeId"
/-- Whether the record is handled without a caseworker. -/
def isAutomatedProcess : String := "isAutomatedProcess"
/-- Whether the envelope holds payments. -/
def containsPayments : String := "containsPayments"
/-- Whether payments of the envelope are still being processed. -/
def awaitingPaymentProcessing : String := "awaitingPaymentDCNProcessing"
/-- The case reference that came with the envelope. -/
def envelopeCaseReference : String := "envelopeCaseReference"
/-- The reference of an older system that came with the envelope. -/
def envelopeLegacyCaseReference : String := "envelopeLegacyCaseReference"
/-- The case that was created from an exception record. -/
def caseReference : String := "caseReference"
/-- Whether warnings are shown to the caseworker. -/
def displayWarnings : String := "displayWarnings"
/-- Warnings about the data of the scanned form. -/
def ocrDataValidationWarnings : String := "ocrDataValidationWarnings"

end CaseField

namespace EventName

/-- The event that creates a case. -/
def createNewCase : String := "createNewCase"
/-- The event that attaches documents to a case. -/
def attachScannedDocs : String := "attachScannedDocs"
/-- The event that creates an exception record. -/
def createException : String := "createException"

end EventName

/-- What an envelope did to a case. -/
inductive EnvelopeEffect where
  | create
  | update
  deriving DecidableEq, Repr

/-- The effect as it is recorded on the case. -/
def EnvelopeEffect.text : EnvelopeEffect → String
  | .create => "create"
  | .update => "update"

/-- The answer yes in case data. -/
def yes : String := "Yes"

/-- The answer no in case data. -/
def no : String := "No"

end Mailroom
