import Mailroom.Proofs.OwnFailures

/-!
# Failures that nobody foresees

A collaborator over the network turns what goes wrong into a failure of its own, so that its
callers can tell what to do. A few answers slip through. They have the status of success, and a
body that is nested deeper than its reader reads, that is no object where an identity service
ought to answer with one, or that names a case by a number without bound. What reads them ends
with a fault that nobody foresees.
-/

namespace Mailroom

open Http.CaseStore (isUnexpected)

section Strays

variable {ε α β : Type} {own : ε → Prop}

end Strays

namespace OpenData

end OpenData

namespace Http

variable {σ : Type} {transport : Transport σ} {wire : Request} {peer : σ}

namespace CaseStore

end CaseStore

namespace IdentityService

end IdentityService

/-- A question to a collaborator over the network. -/
inductive Question where
  | search (caller : CaseStore.Caller) (types query : String)
  | fetch (caller : CaseStore.Caller) (reference : String)
  | start (caller : CaseStore.Caller) (target : CaseStore.Target) (event : String)
  | submit (caller : CaseStore.Caller) (target : CaseStore.Target) (submission : Submission)
  | login (user : Login)
  | details (token : String)
  | lease
  | transform (url : String) (request : Transformation.Request) (token : String)
  | pay (command : Payments.Command)

namespace Question

/-- The request of a question. -/
def draft (settings : Settings) : Question → Draft
  | search caller types query =>
    (CaseStore.searchCall types query).draft (baseAddress settings.caseStoreUrl) caller
  | fetch caller reference =>
    (CaseStore.fetchCall reference).draft (baseAddress settings.caseStoreUrl) caller
  | start caller target event =>
    (CaseStore.startCall target event).draft (baseAddress settings.caseStoreUrl) caller
  | submit caller target submission =>
    (CaseStore.submitCall target submission).draft (baseAddress settings.caseStoreUrl) caller
  | login user => (identityService settings).loginDraft user
  | details token => (identityService settings).detailsDraft token
  | lease => leaseDraft settings.leaseUrl settings.leaseName
  | transform url request token => transformDraft url request token
  | pay command => paymentDraft settings.paymentsUrl command

/-- A question ends with a failure. -/
def FailsWith (peers : Peers σ) (question : Question) (peer : σ) (failure : Failure) : Prop :=
  match question with
  | search caller types query =>
    (peers.cases.search caller types query peer).1.result = .error failure
  | fetch caller reference => (peers.cases.fetch caller reference peer).1.result = .error failure
  | start caller target event =>
    (peers.cases.start caller target event peer).1.result = .error failure
  | submit caller target submission =>
    (peers.cases.submit caller target submission peer).1.result = .error failure
  | login user => (peers.login user peer).1.result = .error failure
  | details token => (peers.userDetails token peer).1.result = .error failure
  | lease => (peers.lease peer).1.result = .error failure
  | transform url request token =>
    (peers.transform (some url) request token peer).1.result = .error failure
  | pay command => (peers.pay command peer).1.result = .error failure

end Question

/-- Settings for collaborators on the same host. -/
def localSettings : Settings where
  caseStoreUrl := "http://localhost:4452"
  identityUrl := "http://localhost:5000"
  clientId := "client"
  clientSecret := "secret"
  redirectUri := "http://localhost/receiver"
  users := []
  leaseUrl := "http://localhost:4552"
  leaseName := "mailroom"
  documentUrl := "http://localhost:3453"
  documentPath := "documents"
  paymentsUrl := "http://localhost:8583"
  timeout := .ofInt 30
  services := []
  brokerUrl := "redis://localhost:6379/0"
  resultBackend := none
  queueName := "envelopes"
  logLevel := "INFO"
  logsJson := true
  environment := "development"

end Http
end Mailroom
