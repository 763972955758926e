import Mailroom.Callback.Process
import Mailroom.Delivery

/-!
# The mail room's work as a whole

A delivery and a callback are put together from a few operations on the case store and a
few questions to the other collaborators. A property that goes from pieces of work to the
work composed of them holds of a whole delivery and of a whole callback as soon as it holds
of these operations and questions. Here both are gone through once, for any such property.

The routing of an envelope is gone through by itself, since it counts no envelope and tells
the payments service only at its end. Its operations are put together from single questions
and from what is done to the kept credentials, so that a property of these is enough, too.
-/

namespace Mailroom

/-- A property of work that composed work has when its pieces have it, and that the log does
not matter to. -/
structure Composable {σ : Type} (property : ∀ {α : Type}, Flow σ α → Prop) : Prop where
  pure : ∀ {α : Type} (value : α), property (Pure.pure value)
  fail : ∀ {α : Type} (failure : Failure), property (Flow.fail failure : Flow σ α)
  bind : ∀ {α β : Type} {work : Flow σ α} {next : α → Flow σ β}, property work →
    (∀ value, property (next value)) → property (work >>= next)
  attempt : ∀ {α : Type} {work : Flow σ α}, property work → property (Flow.attempt work)
  log : ∀ level message, property (Flow.log level message)

/-- A property of work that composed work has when its pieces have it, and that neither
the log nor the counters nor the correlation matter to. -/
structure Compositional {σ : Type} (property : ∀ {α : Type}, Flow σ α → Prop) : Prop where
  pure : ∀ {α : Type} (value : α), property (Pure.pure value)
  fail : ∀ {α : Type} (failure : Failure), property (Flow.fail failure : Flow σ α)
  bind : ∀ {α β : Type} {work : Flow σ α} {next : α → Flow σ β}, property work →
    (∀ value, property (next value)) → property (work >>= next)
  attempt : ∀ {α : Type} {work : Flow σ α}, property work → property (Flow.attempt work)
  log : ∀ level message, property (Flow.log level message)
  count : ∀ metric, property (Flow.count metric)
  correlated : ∀ {α : Type} {work : Flow σ α} (correlation : Option String), property work →
    property (Flow.correlated correlation work)

namespace Composable

variable {σ α β : Type} {property : ∀ {α : Type}, Flow σ α → Prop}

/-- A result without effects. -/
theorem lift (composable : Composable property) (result : Except Failure α) :
    property (Flow.lift result) := by
  cases result with
  | ok value => exact composable.pure value
  | error failure => exact composable.fail failure

/-- A value that was read. -/
theorem reading (composable : Composable property) (result : Except Fault α) :
    property (Flow.reading result) := by
  cases result with
  | ok value => exact composable.pure value
  | error fault => exact composable.fail (.faulty fault)

/-- Work goes on after a line in the log. -/
theorem after_log (composable : Composable property) {level : LogLevel} {message : String}
    {next : Unit → Flow σ β} (goesOn : property (next ())) :
    property (Flow.log level message >>= next) :=
  composable.bind (composable.log level message) fun _ => goesOn

/-- A line in the log is followed by a value. -/
theorem log_pure (composable : Composable property) {level : LogLevel} {message : String}
    (value : α) : property (Flow.log level message >>= fun _ => Pure.pure value) :=
  composable.after_log (composable.pure value)

/-- Looking a service up. -/
theorem serviceNamed (composable : Composable property) (office : Office σ)
    (name : Option String) : property (office.serviceNamed name) := by
  unfold Office.serviceNamed
  split
  · exact composable.pure _
  · exact composable.fail _

end Composable

namespace Compositional

variable {σ α β : Type} {property : ∀ {α : Type}, Flow σ α → Prop}

/-- What neither counters nor correlation matter to may be asked of composed work. -/
theorem composable (compositional : Compositional property) : Composable property where
  pure := compositional.pure
  fail := compositional.fail
  bind := compositional.bind
  attempt := compositional.attempt
  log := compositional.log

/-- A result without effects. -/
theorem lift (compositional : Compositional property) (result : Except Failure α) :
    property (Flow.lift result) :=
  compositional.composable.lift result

/-- Work goes on after a line in the log. -/
theorem after_log (compositional : Compositional property) {level : LogLevel} {message : String}
    {next : Unit → Flow σ β} (goesOn : property (next ())) :
    property (Flow.log level message >>= next) :=
  compositional.composable.after_log goesOn

/-- A line in the log is followed by a value. -/
theorem log_pure (compositional : Compositional property) {level : LogLevel} {message : String}
    (value : α) : property (Flow.log level message >>= fun _ => Pure.pure value) :=
  compositional.composable.log_pure value

end Compositional

namespace Office

variable {σ : Type}

/-- A compositional property that searches have, and the questions to the collaborators
other than the case store. -/
structure Parts (office : Office σ) (property : ∀ {α : Type}, Flow σ α → Prop) : Prop extends
    Compositional property where
  search : ∀ service types field value, property (office.searchIds service types field value)
  lease : property (Flow.ask office.peers.lease)
  transform : ∀ url request token, property (Flow.ask (office.peers.transform url request token))
  pay : ∀ command, property (Flow.ask (office.peers.pay command))

/-- A property of the operations that a delivery is put together from. -/
structure DeliveryParts (office : Office σ) (property : ∀ {α : Type}, Flow σ α → Prop) : Prop
    extends office.Parts property where
  fetch : ∀ reference jurisdiction, property (office.fetchCase reference jurisdiction)
  create : ∀ jurisdiction caseType event envelopeId data context,
    property (office.createCase jurisdiction caseType event (caseDraft envelopeId data) context)
  file : ∀ envelope, property (office.fileNewRecord envelope)
  attach : ∀ envelope case, property (office.attachTo envelope case)

/-- A composable property of the operations that cases are found, created and changed by. -/
structure CaseParts (office : Office σ) (property : ∀ {α : Type}, Flow σ α → Prop) : Prop
    extends Composable property where
  search : ∀ service types field value, property (office.searchIds service types field value)
  lease : property (Flow.ask office.peers.lease)
  transform : ∀ url request token, property (Flow.ask (office.peers.transform url request token))
  fetch : ∀ reference jurisdiction, property (office.fetchCase reference jurisdiction)
  create : ∀ jurisdiction caseType event envelopeId data context,
    property (office.createCase jurisdiction caseType event (caseDraft envelopeId data) context)
  file : ∀ envelope, property (office.fileNewRecord envelope)
  attach : ∀ envelope case, property (office.attachTo envelope case)

/-- A composable property of the operations that the routing of an envelope is put together
from before the payments are registered. -/
structure RoutingParts (office : Office σ) (property : ∀ {α : Type}, Flow σ α → Prop) : Prop
    extends office.CaseParts property where
  creation : ∀ container result, property (Flow.count (.caseCreation container result))

/-- A composable property of every question but the command about payments, and of what is
done to the kept credentials. -/
structure Enquiries (office : Office σ) (property : ∀ {α : Type}, Flow σ α → Prop) : Prop
    extends Composable property where
  cached : ∀ key, property (cached? key)
  store : ∀ key credential, property (storeIfAbsent key credential)
  drop : ∀ jurisdiction, property (invalidate jurisdiction)
  login : ∀ login, property (Flow.ask (office.peers.login login))
  details : ∀ token, property (Flow.ask (office.peers.userDetails token))
  lease : property (Flow.ask office.peers.lease)
  transform : ∀ url request token, property (Flow.ask (office.peers.transform url request token))
  find : ∀ caller types query, property (Flow.ask (office.peers.cases.search caller types query))
  fetch : ∀ caller reference, property (Flow.ask (office.peers.cases.fetch caller reference))
  start : ∀ caller target event,
    property (Flow.ask (office.peers.cases.start caller target event))
  submit : ∀ caller target submission,
    property (Flow.ask (office.peers.cases.submit caller target submission))

/-- A property of the enquiries that the counters of creations do not matter to. -/
structure Groundwork (office : Office σ) (property : ∀ {α : Type}, Flow σ α → Prop) : Prop
    extends office.Enquiries property where
  creation : ∀ container result, property (Flow.count (.caseCreation container result))

/-- A property of the operations that a callback is put together from. -/
structure CallbackParts (office : Office σ) (property : ∀ {α : Type}, Flow σ α → Prop) : Prop
    extends office.Parts property where
  openCase : ∀ caller userId jurisdiction caseType event record service data context,
    property (office.createForCaseworker caller userId jurisdiction caseType event
      (office.newCaseDraft record service data) context)

variable {office : Office σ} {property : ∀ {α : Type}, Flow σ α → Prop}

namespace Enquiries

/-- Logging a system user in. -/
theorem logIn (enquiries : office.Enquiries property) (login : Login) :
    property (office.logIn login) :=
  enquiries.bind (enquiries.login login) fun token =>
    enquiries.bind (enquiries.details token) fun _ => enquiries.pure _

/-- Getting a credential. -/
theorem credential (enquiries : office.Enquiries property) (jurisdiction : Option String) :
    property (office.credential jurisdiction) := by
  refine enquiries.bind (enquiries.reading _) fun key =>
    enquiries.bind (enquiries.cached key) fun found => ?_
  split
  · exact enquiries.pure _
  · dsimp only
    split
    · exact enquiries.fail _
    · exact enquiries.after_log (enquiries.bind (enquiries.pure _) fun _ =>
        enquiries.bind (enquiries.logIn _) fun credential => enquiries.store key credential)

/-- Leasing a token. -/
theorem caller (enquiries : office.Enquiries property) (userToken : String) :
    property (office.caller userToken) :=
  enquiries.bind enquiries.lease fun _ => enquiries.pure _

/-- A guard around work. -/
theorem guarded (enquiries : office.Enquiries property) {α : Type} {work : Flow σ α}
    (jurisdiction : Option String) (law : property work) :
    property (guarded jurisdiction work) := by
  refine enquiries.bind (enquiries.attempt law) fun outcome => ?_
  split
  · exact enquiries.pure _
  · split
    · exact enquiries.bind (enquiries.drop _) fun _ => enquiries.fail _
    · exact enquiries.fail _
  · exact enquiries.fail _

/-- Searching. -/
theorem searchIds (enquiries : office.Enquiries property) (service : Service)
    (types field value : String) : property (office.searchIds service types field value) := by
  refine enquiries.bind (enquiries.credential _) fun credential =>
    enquiries.bind (enquiries.guarded _ ?_) fun _ => enquiries.pure _
  exact enquiries.bind (enquiries.caller _) fun caller => enquiries.find caller _ _

/-- Fetching a case. -/
theorem fetchCase (enquiries : office.Enquiries property) (reference jurisdiction : String) :
    property (office.fetchCase reference jurisdiction) := by
  refine enquiries.bind (enquiries.credential _) fun credential =>
    enquiries.bind (enquiries.attempt (enquiries.guarded _ ?_)) fun outcome => ?_
  · exact enquiries.bind (enquiries.caller _) fun caller => enquiries.fetch caller _
  · split
    · exact enquiries.pure _
    · exact enquiries.fail _
    · exact enquiries.fail _

/-- Writing with the credential of a system user. -/
theorem writeAs (enquiries : office.Enquiries property) (credential : Credential)
    (jurisdiction : String) (caseType : Json) (caseRef : Option String) (event : String)
    (draft : Draft) (context : String) :
    property (office.writeAs credential jurisdiction caseType caseRef event draft context) := by
  refine enquiries.guarded _ (enquiries.bind (enquiries.caller _) fun caller => ?_)
  refine enquiries.bind (enquiries.start caller _ _) fun started => enquiries.after_log ?_
  exact enquiries.bind (enquiries.lift _) fun submission => enquiries.submit caller _ _

/-- Attaching the documents of an envelope. -/
theorem attachTo (enquiries : office.Enquiries property) (envelope : Envelope) (case : Case) :
    property (office.attachTo envelope case) := by
  refine enquiries.bind (enquiries.credential _) fun credential =>
    enquiries.bind (enquiries.attempt (enquiries.writeAs _ _ _ _ _ _ _)) fun outcome => ?_
  split
  · exact enquiries.pure _
  · split
    · exact enquiries.fail _
    · exact enquiries.fail _
  · exact enquiries.fail _

/-- What single questions have, the operations on cases have. -/
theorem caseParts (enquiries : office.Enquiries property) : office.CaseParts property where
  toComposable := enquiries.toComposable
  search := enquiries.searchIds
  lease := enquiries.lease
  transform := enquiries.transform
  fetch := enquiries.fetchCase
  create _ _ _ _ _ _ :=
    enquiries.bind (enquiries.credential _) fun credential =>
      enquiries.bind (enquiries.writeAs credential _ _ _ _ _ _) fun _ => enquiries.pure _
  file _ :=
    enquiries.after_log (enquiries.bind (enquiries.credential _) fun credential =>
      enquiries.bind (enquiries.writeAs credential _ _ _ _ _ _) fun _ => enquiries.log_pure _)
  attach := enquiries.attachTo

end Enquiries

/-- What single questions have, the operations of the routing have. -/
theorem Groundwork.routing (groundwork : office.Groundwork property) :
    office.RoutingParts property where
  toCaseParts := groundwork.caseParts
  creation := groundwork.creation

namespace CaseParts

/-- Searching the cases of a service. -/
theorem searchServiceCases (parts : office.CaseParts property) (name field value description : String) :
    property (office.searchServiceCases name field value description) := by
  refine parts.bind (parts.serviceNamed office _) fun service => ?_
  split
  · exact parts.log_pure _
  · exact parts.search _ _ _ _

/-- Searching the records of an envelope. -/
theorem recordsByEnvelope (parts : office.CaseParts property) (envelopeId name : String) :
    property (office.recordsByEnvelope envelopeId name) :=
  parts.bind (parts.serviceNamed office _) fun _ => parts.search _ _ _ _

/-- Having an envelope transformed. -/
theorem transformEnvelope (parts : office.CaseParts property) (envelope : Envelope)
    (context : String) : property (office.transformEnvelope envelope context) := by
  refine parts.bind parts.lease fun token => ?_
  refine parts.bind (parts.serviceNamed office _) fun service => ?_
  refine parts.bind (parts.lift _) fun request => ?_
  exact parts.bind (parts.transform _ _ _) fun _ => parts.log_pure _

/-- What a failed transformation comes to. -/
theorem transformationOutcome (parts : office.CaseParts property) (context : String)
    (failure : Failure) : property (transformationOutcome (σ := σ) context failure) := by
  unfold Office.transformationOutcome
  split
  · exact parts.log_pure _
  · split
    · exact parts.log_pure _
    · exact parts.log_pure _
  · exact parts.log_pure _

/-- What a failed creation comes to. -/
theorem creationFailureOutcome (parts : office.CaseParts property) (context : String)
    (failure : Failure) : property (creationFailureOutcome (σ := σ) context failure) := by
  unfold Office.creationFailureOutcome
  split
  · split
    · exact parts.log_pure _
    · exact parts.log_pure _
    · exact parts.log_pure _
  · exact parts.log_pure _

/-- Creating a case. -/
theorem createNewCase (parts : office.CaseParts property) (envelope : Envelope)
    (context : String) : property (office.createNewCase envelope context) := by
  refine parts.bind (parts.attempt (parts.transformEnvelope envelope context)) fun outcome => ?_
  split
  · refine parts.bind (parts.attempt (parts.create _ _ _ _ _ _)) fun created => ?_
    split
    · exact parts.log_pure _
    · exact parts.creationFailureOutcome _ _
  · exact parts.transformationOutcome _ _

/-- Creating a case unless it exists. -/
theorem createUnlessExists (parts : office.CaseParts property) (envelope : Envelope)
    (context : String) : property (office.createUnlessExists envelope context) := by
  refine parts.bind (parts.searchServiceCases _ _ _ _) fun ids => ?_
  split
  · exact parts.createNewCase envelope context
  · exact parts.log_pure _
  · exact parts.log_pure _

end CaseParts

namespace RoutingParts

/-- Creating a case automatically. -/
theorem createAutomatically (parts : office.RoutingParts property) (envelope : Envelope) :
    property (office.createAutomatically envelope) := by
  refine parts.after_log (parts.bind (parts.serviceNamed office _) fun service => ?_)
  have counted (outcome : CreationOutcome) : property (do
      Flow.count (.caseCreation envelope.container outcome.name)
      return outcome) :=
    parts.bind (parts.creation _ _) fun _ => parts.pure _
  dsimp only
  split
  · exact parts.bind (parts.createUnlessExists _ _) counted
  · exact parts.after_log (parts.bind (parts.pure _) counted)

/-- Finding the case that a reference names. -/
theorem findByReference (parts : office.RoutingParts property) (envelope : Envelope) :
    property (office.findByReference envelope) := by
  unfold Office.findByReference
  split
  · exact parts.pure _
  · split
    · exact parts.pure _
    · refine parts.bind (parts.attempt (parts.fetch _ _)) fun outcome => ?_
      split
      · exact parts.pure _
      · exact parts.log_pure _
      · exact parts.log_pure _
      · exact parts.fail _

/-- Finding the case of a legacy reference. -/
theorem findByLegacyId (parts : office.RoutingParts property) (envelope : Envelope)
    (legacyRef : String) : property (office.findByLegacyId envelope legacyRef) := by
  refine parts.bind (parts.searchServiceCases _ _ _ _) fun ids => ?_
  split
  · exact parts.pure _
  · exact parts.bind (parts.fetch _ _) fun _ => parts.pure _
  · exact parts.log_pure _

/-- Finding the case of an envelope. -/
theorem findCase (parts : office.RoutingParts property) (envelope : Envelope) :
    property (office.findCase envelope) := by
  refine parts.bind (parts.findByReference envelope) fun found => ?_
  split
  · exact parts.pure _
  · split
    · exact parts.pure _
    · split
      · exact parts.pure _
      · exact parts.findByLegacyId _ _

/-- Attaching evidence. -/
theorem attachEvidence (parts : office.RoutingParts property) (envelope : Envelope) (case : Case) :
    property (office.attachEvidence envelope case) := by
  refine parts.bind (parts.reading _) fun existing => ?_
  split
  · exact parts.log_pure _
  · refine parts.after_log (parts.bind (parts.attempt (parts.attach _ _)) fun outcome => ?_)
    split
    · exact parts.log_pure _
    · split
      · exact parts.log_pure _
      · exact parts.fail _

/-- Filing a record. -/
theorem fileRecord (parts : office.RoutingParts property) (envelope : Envelope) :
    property (office.fileRecord envelope) := by
  refine parts.bind (parts.recordsByEnvelope _ _) fun ids => ?_
  split
  · exact parts.file envelope
  · exact parts.log_pure _
  · exact parts.fail _

/-- Registering payments. -/
theorem registerPayments (parts : office.RoutingParts property)
    (pays : ∀ command, property (Flow.ask (office.peers.pay command))) (envelope : Envelope)
    (caseId : Option Int) (isRecord : Bool) :
    property (office.registerPayments envelope caseId isRecord) := by
  unfold Office.registerPayments
  split
  · exact parts.log _ _
  · exact parts.after_log (pays _)

/-- Filing a record and registering the payments against it. -/
theorem routeToRecord (parts : office.RoutingParts property)
    (pays : ∀ command, property (Flow.ask (office.peers.pay command))) (envelope : Envelope) :
    property (office.routeToRecord envelope) :=
  parts.bind (parts.fileRecord envelope) fun _ =>
    parts.bind (parts.registerPayments pays _ _ _) fun _ => parts.pure _

/-- Dealing with an envelope has the property when its operations and the command about
payments have it. -/
theorem route (parts : office.RoutingParts property)
    (pays : ∀ command, property (Flow.ask (office.peers.pay command))) (envelope : Envelope) :
    property (office.route envelope) := by
  unfold Office.route
  split
  · refine parts.bind (parts.findCase envelope) fun found => ?_
    split
    · exact parts.routeToRecord pays _
    · refine parts.bind (parts.attachEvidence _ _) fun attached => ?_
      split
      · exact parts.bind (parts.registerPayments pays _ _ _) fun _ => parts.pure _
      · exact parts.after_log (parts.routeToRecord pays _)
  · exact parts.routeToRecord pays _
  · exact parts.routeToRecord pays _
  · refine parts.bind (parts.createAutomatically envelope) fun outcome => ?_
    split
    · exact parts.bind (parts.registerPayments pays _ _ _) fun _ => parts.pure _
    · exact parts.routeToRecord pays _
  · exact parts.fail _

end RoutingParts

namespace Parts

/-- Searching the cases of a record. -/
theorem casesByRecord (parts : office.Parts property) (recordId : String) (name : Option String) :
    property (office.casesByRecord recordId name) :=
  parts.bind (parts.composable.serviceNamed office _) fun _ => parts.search _ _ _ _

/-- Moving payments. -/
theorem movePayments (parts : office.Parts property) (record : ExceptionRecord)
    (jurisdiction : Json) (recordId : String) (caseId : Option Int) :
    property (office.movePayments record jurisdiction recordId caseId) := by
  unfold Office.movePayments
  split
  · exact parts.after_log (parts.pay _)
  · exact parts.pure _

end Parts

namespace DeliveryParts

/-- The routing of an envelope has the operations of a delivery. -/
theorem routing (parts : office.DeliveryParts property) : office.RoutingParts property where
  toComposable := parts.composable
  creation _ _ := parts.count _
  search := parts.search
  lease := parts.lease
  transform := parts.transform
  fetch := parts.fetch
  create := parts.create
  file := parts.file
  attach := parts.attach

/-- One attempt at a delivery. -/
theorem attemptRoute (parts : office.DeliveryParts property) (envelope : Envelope)
    (retries : Nat) : property (Delivery.attempt office.route envelope retries) := by
  refine parts.after_log (parts.bind (parts.attempt (parts.routing.route parts.pay envelope)) fun result => ?_)
  refine parts.bind (parts.count _) fun _ => ?_
  split
  · unfold settleFailure
    split
    · exact parts.after_log (parts.bind (parts.count _) fun _ => parts.pure _)
    · exact parts.after_log (parts.bind (parts.count _) fun _ => parts.pure _)
  · exact parts.bind (parts.count _) fun _ => parts.log_pure _

/-- A delivery with all its attempts. -/
theorem deliverWithin (parts : office.DeliveryParts property) (envelope : Envelope) (left : Nat) :
    property (Delivery.within office.route envelope left) := by
  induction left with
  | zero =>
    refine parts.bind (parts.correlated _ (parts.attemptRoute envelope _)) fun outcome => ?_
    split
    · exact parts.pure _
    · exact parts.pure _
  | succ left inductionHypothesis =>
    refine parts.bind (parts.correlated _ (parts.attemptRoute envelope _)) fun outcome => ?_
    split
    · exact parts.pure _
    · exact parts.bind inductionHypothesis fun _ => parts.pure _

/-- A whole delivery has the property when its parts have it. -/
theorem deliver (parts : office.DeliveryParts property) (message : Json) :
    property (office.deliver message) := by
  unfold Office.deliver Delivery.ofMessage
  split
  · exact parts.deliverWithin _ _
  · exact parts.after_log (parts.bind (parts.count _) fun _ => parts.pure _)

end DeliveryParts

namespace CallbackParts

/-- What a failed transformation means. -/
theorem transformationRefusal (parts : office.CallbackParts property) (record : ExceptionRecord)
    (service : Service) (failure : Failure) :
    property (transformationRefusal (σ := σ) record service failure) := by
  unfold Office.transformationRefusal
  split
  · split
    · exact parts.log_pure _
    · exact parts.fail _
  · exact parts.fail _
  · exact parts.fail _
  · exact parts.fail _

/-- Creating a case for a record. -/
theorem createForRecord (parts : office.CallbackParts property) (record : ExceptionRecord)
    (service : Service) (ignoreWarnings : Bool) (userToken userId : String) :
    property (office.createForRecord record service ignoreWarnings userToken userId) := by
  refine parts.bind (parts.attempt ?_) fun transformed => ?_
  · refine parts.bind parts.lease fun token => parts.bind (parts.lift _) fun request => ?_
    exact parts.bind (parts.transform _ _ _) fun _ => parts.pure _
  split
  · exact parts.transformationRefusal _ _ _
  · split
    · exact parts.pure _
    · refine parts.bind (parts.attempt (parts.openCase _ _ _ _ _ _ _ _ _)) fun created => ?_
      split
      · exact parts.log_pure _
      · exact parts.fail _
      · exact parts.fail _

/-- Linking the case of a record. -/
theorem linkCase (parts : office.CallbackParts property) (record : ExceptionRecord)
    (service : Service) (case : Case) (ignoreWarnings : Bool) (userToken userId : String) :
    property (office.linkCase record service case ignoreWarnings userToken userId) := by
  refine parts.bind (parts.casesByRecord _ _) fun ids => ?_
  split
  · refine parts.bind (parts.createForRecord _ _ _ _ _) fun outcome => ?_
    split
    · exact parts.pure _
    · exact parts.pure _
    · refine parts.bind (parts.attempt (parts.movePayments _ _ _ _)) fun moved => ?_
      split
      · exact parts.pure _
      · exact parts.log_pure _
      · exact parts.fail _
  · exact parts.log_pure _
  · exact parts.fail _

/-- The value of a header. -/
theorem neededHeader (parts : office.CallbackParts property) (value : Option String)
    (complaint : String) : property (neededHeader (σ := σ) value complaint) := by
  unfold Office.neededHeader
  split
  · split
    · exact parts.fail _
    · exact parts.pure _
  · exact parts.fail _

/-- The service of a callback. -/
theorem callbackService (parts : office.CallbackParts property) (name : String) :
    property (office.callbackService name) := by
  unfold Office.callbackService
  split
  · exact parts.fail _
  · split
    · exact parts.fail _
    · exact parts.pure _

/-- Dealing with the record of a callback. -/
theorem processRecord (parts : office.CallbackParts property) (request : Callback.Request)
    (service : Service) (userToken userId : String) :
    property (office.processRecord request service userToken userId) := by
  unfold Office.processRecord
  dsimp only
  split
  · exact parts.pure _
  · split
    · exact parts.pure _
    · exact parts.linkCase _ _ _ _ _ _

/-- A whole callback has the property when its parts have it. -/
theorem process (parts : office.CallbackParts property) (request : Callback.Request)
    (userToken userId : Option String) : property (office.process request userToken userId) := by
  unfold Office.process
  split
  · exact parts.fail _
  have known (name : String) : property (do
      let service ← office.callbackService name
      let userToken ← Office.neededHeader userToken
        "Callback has no Idam token received in the header"
      let userId ← Office.neededHeader userId "Callback has no user id received in the header"
      office.processRecord request service userToken userId) := by
    refine parts.bind (parts.callbackService name) fun service => ?_
    refine parts.bind (parts.neededHeader _ _) fun token => ?_
    exact parts.bind (parts.neededHeader _ _) fun user => parts.processRecord _ _ _ _
  dsimp only
  split
  · exact parts.bind (parts.pure _) known
  · exact parts.bind (parts.fail _) known
  · exact parts.bind (parts.fail _) known

end CallbackParts
end Office
end Mailroom
