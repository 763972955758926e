import Mailroom.Proofs.OfficeWithPayments
import Mailroom.Proofs.ReadMoments
import Mailroom.Proofs.Transcript
import Mailroom.Web

/-!
# Which failures of a callback are heard

A caseworker hears of a failure when the answer to the callback says it. Only some failures are
turned into messages: those that the transformation service and the payments service report, and
those of the case store while a case is created. Any other failed call, such as a search, a login
or a lease, ends the callback unheard, with an internal error in the place of an answer.

The callback is gone through once with the transcript of its calls. Work in which every call so
far was answered or heard goes on; the first other call ends it.
-/

namespace Mailroom

open Mailroom.Flow

namespace Failure

/-- A failure that is turned into a message wherever it comes from. -/
def IsMessage : Failure → Prop
  | .callback _ | .ambiguous _ => True
  | _ => False

/-- A failure that no part of a callback turns into a message. -/
def IsForeign : Failure → Prop
  | .authentication _ | .faulty _ | .invalid .. | .unknownService _ => True
  | _ => False

end Failure

/-- Whether a call was answered, or failed in a way that the caseworker hears of. -/
def Dealing.isHeard : Dealing → Bool
  | .login _ (.error _) | .details _ (.error _) | .lease (.error _) => false
  | .search _ _ _ (.error _) | .fetch _ _ (.error _) => false
  | .start _ _ _ (.error failure) => (failure matches .store _)
  | .submit _ _ _ (.error failure) => (failure matches .store _)
  | .transform _ _ _ (.error failure) => (failure matches .transformation _)
  | .pay _ (.error failure) => (failure matches .payments _)
  | _ => true

/-- A transcript in which every call was answered or heard. -/
def Heard (said : List Dealing) : Prop :=
  ∀ call ∈ said, call.isHeard = true

/-- One more call that is answered or heard. -/
theorem Heard.append {said : List Dealing} (heard : Heard said) {call : Dealing}
    (isHeard : call.isHeard = true) : Heard (said ++ [call]) :=
  List.forall_mem_append.mpr ⟨heard, List.forall_mem_singleton.mpr isHeard⟩

/-- A call that is not heard is in the transcript for good. -/
theorem not_heard_of_last {said : List Dealing} {call : Dealing} (unheard : call.isHeard = false) :
    ¬ Heard (said ++ [call]) := by
  intro heard
  have isHeard := heard call (List.mem_append_right _ (List.mem_singleton_self call))
  rw [unheard] at isHeard
  cases isHeard

/-- Work that failed in a way of a kind: after a call that was not heard, or because the callback
was hindered. -/
def Lost (hindered : Prop) (kind : Failure → Prop) (failure : Failure) (said : List Dealing) :
    Prop :=
  kind failure ∧ (¬ Heard said ∨ hindered)

/-- A way to fail may be counted among others. -/
theorem Lost.widen {hindered : Prop} {kind wider : Failure → Prop} {failure : Failure}
    {said : List Dealing} (lost : Lost hindered kind failure said)
    (within : ∀ failure, kind failure → wider failure) : Lost hindered wider failure said :=
  ⟨within failure lost.1, lost.2⟩

/-- Work that failed in a way that is reported, with all calls heard, or that was lost. -/
def Reported (hindered : Prop) (reported kind : Failure → Prop) (failure : Failure)
    (said : List Dealing) : Prop :=
  reported failure ∧ Heard said ∨ Lost hindered kind failure said

namespace Reported

variable {hindered : Prop} {reported kind : Failure → Prop} {failure : Failure}
  {said : List Dealing}

/-- A failure that nothing is lost with came with all calls heard. -/
theorem heard (ended : Reported hindered reported kind failure said) (kept : ¬ kind failure) :
    Heard said :=
  ended.elim And.right fun lost => absurd lost.1 kept

/-- A failure that is not reported is lost. -/
theorem lost (ended : Reported hindered reported kind failure said)
    (unreported : ¬ reported failure) : Lost hindered kind failure said :=
  ended.resolve_left fun isReported => unreported isReported.1

end Reported

/-- Work that goes on as long as all calls are heard, and is lost otherwise. -/
abbrev Flow.Listens {σ α : Type} (hindered : Prop) (kind : Failure → Prop)
    (work : Flow (σ × List Dealing) α) : Prop :=
  work.Tells Heard (fun _ => Heard) (Lost hindered kind)

/-- A question none of whose failures is heard. -/
theorem Flow.ask_listens {σ α : Type} {hindered : Prop} {kind : Failure → Prop}
    (call : Except Failure α → Dealing) (question : Ask σ α)
    (answers : ∀ value, (call (.ok value)).isHeard = true)
    (fails : ∀ state failure, (question state).1.result = .error failure →
      kind failure ∧ (call (.error failure)).isHeard = false) :
    (ask (Dealing.written call question)).Listens hindered kind := by
  refine Assures.ask _ fun state heard => ?_
  dsimp only [Dealing.written]
  cases answered : (question state.1).1.result with
  | ok value => exact heard.append (answers value)
  | error failure =>
    obtain ⟨ofKind, unheard⟩ := fails state.1 failure answered
    exact ⟨ofKind, .inl (not_heard_of_last unheard)⟩

/-- A question whose failures are heard, if they are its collaborator's own. -/
theorem Flow.ask_reports {σ α Reason : Type} {hindered : Prop} {own : Reason → Failure}
    (call : Except Failure α → Dealing) (question : Ask σ α)
    (answers : ∀ value, (call (.ok value)).isHeard = true)
    (reports : ∀ reason, (call (.error (own reason))).isHeard = true)
    (faulty : ∀ fault, (call (.error (.faulty fault))).isHeard = false)
    (fails : ∀ state failure, (question state).1.result = .error failure → failure.IsOf own) :
    (ask (Dealing.written call question)).Tells Heard (fun _ => Heard)
      (Reported hindered (fun failure => ∃ reason, failure = own reason) Failure.IsForeign) := by
  refine Assures.ask _ fun state heard => ?_
  dsimp only [Dealing.written]
  cases answered : (question state.1).1.result with
  | ok value => exact heard.append (answers value)
  | error failure =>
    obtain ⟨reason, rfl⟩ | ⟨fault, rfl⟩ := fails state.1 failure answered
    · exact .inl ⟨⟨reason, rfl⟩, heard.append (reports reason)⟩
    · exact .inr ⟨trivial, .inl (not_heard_of_last (faulty fault))⟩

namespace Failure

/-- A failure to identify somebody is foreign to a callback. -/
theorem foreign_of_identity {failure : Failure} (ofKind : failure.IsOf .authentication) :
    failure.IsForeign := by
  obtain ⟨reason, rfl⟩ | ⟨fault, rfl⟩ := ofKind
  · trivial
  · trivial

end Failure

namespace Office

variable {σ : Type} {office : Office σ} {hindered : Prop}

/-- A login that fails is lost. -/
theorem logIn_listens (documented : office.peers.Documented) (login : Login) :
    (office.transcribed.logIn login).Listens hindered Failure.IsForeign := by
  have asksLogin : (ask (office.transcribed.peers.login login)).Listens hindered
      Failure.IsForeign :=
    ask_listens (.login login) _ (fun _ => rfl) fun state failure failed =>
      ⟨Failure.foreign_of_identity (documented.login login state failure failed), rfl⟩
  have asksDetails (token : String) :
      (ask (office.transcribed.peers.userDetails token)).Listens hindered Failure.IsForeign :=
    ask_listens (.details token) _ (fun _ => rfl) fun state failure failed =>
      ⟨Failure.foreign_of_identity (documented.details token state failure failed), rfl⟩
  exact Assures.bind asksLogin fun token => Assures.bind (asksDetails token) fun details =>
    Assures.pure _ fun _ => id

/-- A lease that fails is lost. -/
theorem lease_listens (documented : office.peers.Documented) :
    (ask office.transcribed.peers.lease).Listens hindered Failure.IsForeign :=
  ask_listens .lease _ (fun _ => rfl) fun state failure failed =>
    ⟨Failure.foreign_of_identity (documented.lease state failure failed), rfl⟩

/-- So is a call that gets no lease. -/
theorem caller_listens (documented : office.peers.Documented) (userToken : String) :
    (office.transcribed.caller userToken).Listens hindered Failure.IsForeign :=
  Assures.bind (lease_listens documented) fun _ => Assures.pure _ fun _ => id

/-- Getting a credential is lost when the system user cannot be identified. -/
theorem credential_listens (documented : office.peers.Documented) (jurisdiction : Option String)
    (staffed : (∀ name, jurisdiction = some name → office.user? (Text.lower name) = none) →
      hindered) :
    (office.transcribed.credential jurisdiction).Listens hindered Failure.IsForeign := by
  cases jurisdiction with
  | none => exact Assures.fail _ fun _ _ => ⟨trivial, .inr (staffed nofun)⟩
  | some name =>
    refine credential_passes name (fun absent _ _ => ⟨trivial, .inr (staffed fun other same => ?_)⟩)
      (logIn_listens documented)
    rw [← Option.some.inj same]
    exact absent

/-- A failure that nobody hears of when it comes from a search. -/
def IsUnheard (failure : Failure) : Prop := failure.IsForeign ∨ failure.IsOf .store

/-- Such a failure is no message. -/
theorem IsUnheard.not_message {failure : Failure} (unheard : IsUnheard failure) :
    ¬ failure.IsMessage := by
  intro isMessage
  obtain foreign | ⟨⟨reason, rfl⟩ | ⟨fault, rfl⟩⟩ := unheard
  · cases failure with
    | callback | ambiguous => exact foreign
    | _ => exact isMessage
  · exact isMessage
  · exact isMessage

/-- A search that fails is lost. -/
theorem searchIds_listens (documented : office.peers.Documented) (service : Service)
    (types field value : String)
    (staffed : (∀ name, service.jurisdiction = some name →
      office.user? (Text.lower name) = none) → hindered) :
    (office.transcribed.searchIds service types field value).Listens hindered IsUnheard := by
  have wider (failure : Failure) (state : σ × List Dealing)
      (lost : Lost hindered Failure.IsForeign failure state.2) :
      Lost hindered IsUnheard failure state.2 := lost.widen fun _ => .inl
  unfold searchIds
  cases named : service.jurisdiction with
  | none =>
    exact Assures.fail _ fun _ _ => ⟨.inl trivial, .inr (staffed (by simp [named]))⟩
  | some jurisdiction =>
    refine Assures.bind ((credential_listens documented _ (named ▸ staffed)).to_end (fun _ _ => id)
      wider) fun credential => ?_
    refine Assures.through (fun _ state => Heard state.2) (guarded_passes jurisdiction ?_)
      fun cases => Assures.pure _ fun _ => id
    refine Assures.bind ((caller_listens documented _).to_end (fun _ _ => id) wider) fun caller => ?_
    exact ask_listens (.search caller types _) _ (fun _ => rfl) fun state failure failed =>
      ⟨.inr (documented.search _ _ _ state failure failed), rfl⟩

variable {record : ExceptionRecord} {service : Service}

/-- A transformation reports its own failures, and everything else that fails it is lost. -/
theorem transformRecord_reports (documented : office.peers.Documented)
    (buildable : (∀ request, Transformation.Request.ofRecord record ≠ .ok request) → hindered) :
    (office.transcribed.transformRecord record service).Tells Heard (fun _ => Heard)
      (Reported hindered (fun failure => ∃ reason, failure = .transformation reason)
        Failure.IsForeign) := by
  refine Assures.bind ((lease_listens documented).to_end (fun _ _ => id) fun _ _ => .inr)
    fun token => ?_
  refine Assures.through (fun _ state => Heard state.2) ?_ fun request => ?_
  · cases built : Transformation.Request.ofRecord record with
    | ok request => exact Assures.pure request fun _ => id
    | error reason =>
      refine Assures.fail _ fun _ _ => .inr ⟨?_, .inr (buildable (by simp [built]))⟩
      cases reason <;> trivial
  · exact Assures.bind (ask_reports (.transform _ request token) _ (fun _ => rfl) (fun _ => rfl)
      (fun _ => rfl) (documented.transform _ _ _)) fun answer => Assures.pure _ fun _ => id

/-- A reported failure of a transformation is told to the caseworker. -/
theorem transformationRefusal_tells (failure : Failure) :
    (transformationRefusal (σ := σ × List Dealing) record service failure).Tells
      (Reported hindered (fun failure => ∃ reason, failure = .transformation reason)
        Failure.IsForeign failure)
      (fun _ => Heard) (Reported hindered Failure.IsMessage Failure.IsForeign) := by
  unfold transformationRefusal
  split
  · split
    · exact Assures.after_log (Assures.pure _ fun _ ended => ended.heard id)
    · exact Assures.fail _ fun _ ended => .inl ⟨trivial, ended.heard id⟩
  · exact Assures.fail _ fun _ ended => .inl ⟨trivial, ended.heard id⟩
  · exact Assures.fail _ fun _ ended => .inl ⟨trivial, ended.heard id⟩
  case h_4 rejected invalid unavailable =>
    refine Assures.fail _ fun _ ended => .inr (ended.lost ?_)
    rintro ⟨reason, rfl⟩
    cases reason with
    | invalidAnswer violations => exact invalid violations rfl
    | rejected status objections body => exact rejected status objections body rfl
    | unavailable message status => exact unavailable message status rfl

/-- A creation reports the failures of the case store, and everything else that fails it is
lost. -/
theorem createForCaseworker_reports (hindered : Prop) (documented : office.peers.Documented)
    (caller : CaseStore.Caller) (userId : String) (jurisdiction : Option String)
    (caseType event : String) (data : Fields) (context : String) :
    (office.transcribed.createForCaseworker caller userId jurisdiction caseType event
      (office.transcribed.newCaseDraft record service data) context).Tells Heard (fun _ => Heard)
      (Reported hindered (fun failure => ∃ reason, failure = .store reason) Failure.IsForeign) := by
  refine Assures.through (fun _ state => Heard state.2) ?_ fun case => Assures.pure _ fun _ => id
  refine Assures.bind (ask_reports (.start caller _ event) _ (fun _ => rfl) (fun _ => rfl)
    (fun _ => rfl) (documented.start _ _ _)) fun started => Assures.after_log ?_
  exact ask_reports (.submit caller _ _) _ (fun _ => rfl) (fun _ => rfl) (fun _ => rfl)
    (documented.submit _ _ _)

/-- Turning a record into a case ends with all calls heard, with a message, or lost. -/
theorem createForRecord_tells (documented : office.peers.Documented)
    (buildable : (∀ request, Transformation.Request.ofRecord record ≠ .ok request) → hindered)
    (ignoreWarnings : Bool) (userToken userId : String) :
    (office.transcribed.createForRecord record service ignoreWarnings userToken userId).Tells Heard
      (fun _ => Heard) (Reported hindered Failure.IsMessage Failure.IsForeign) := by
  refine Assures.attempting _ _ (transformRecord_reports documented buildable) fun outcome => ?_
  split
  · exact transformationRefusal_tells _
  · split
    · exact Assures.pure _ fun _ => id
    · refine Assures.attempting _ _ (createForCaseworker_reports hindered documented _ _ _ _ _ _ _)
        fun created => ?_
      split
      · exact Assures.after_log (Assures.pure _ fun _ => id)
      · dsimp only [Ending]
        exact Assures.fail _ fun _ ended => .inl ⟨trivial, ended.heard id⟩
      case h_3 failure unreported =>
        dsimp only [Ending]
        refine Assures.fail _ fun _ ended => .inr (ended.lost ?_)
        rintro ⟨reason, rfl⟩
        exact unreported reason rfl

/-- Linking a new case ends with all calls heard, with a message, or lost. -/
theorem linkNewCase_tells (documented : office.peers.Documented) (case : Case)
    (caseId : Option Int) :
    (office.transcribed.linkNewCase record case caseId).Tells Heard (fun _ => Heard)
      (Reported hindered Failure.IsMessage Failure.IsForeign) := by
  have moves : (office.transcribed.movePayments record case.jurisdiction (Case.idText case.id)
      caseId).Tells Heard (fun _ => Heard)
      (Reported hindered (fun failure => ∃ reason, failure = .payments reason)
        Failure.IsForeign) := by
    unfold movePayments
    split
    · exact Assures.after_log (ask_reports (.pay _) _ (fun _ => rfl) (fun _ => rfl)
        (fun _ => rfl) (documented.pay _))
    · exact Assures.pure _ fun _ => id
  refine Assures.attempting _ _ moves fun moved => ?_
  split
  · exact Assures.pure _ fun _ => id
  · dsimp only [Ending]
    exact Assures.after_log (Assures.pure _ fun _ ended => ended.heard id)
  case h_3 failure unreported =>
    dsimp only [Ending]
    refine Assures.fail _ fun _ ended => .inr (ended.lost ?_)
    rintro ⟨reason, rfl⟩
    exact unreported reason rfl

/-- What may keep a callback from an answer although all its calls are heard. -/
inductive Hindered (office : Office σ) (callback : Callback.Request)
    (userToken userId : Option String) : Prop
  /-- Nobody is configured who may search the cases of its service. -/
  | unstaffed {name : String} {service : Service}
      (names : Callback.serviceOf callback.record = .ok name)
      (known : office.services.get (some name) = .ok service)
      (unstaffed : ∀ jurisdiction, service.jurisdiction = some jurisdiction →
        office.user? (Text.lower jurisdiction) = none)
  /-- Its service is not configured under its own name. -/
  | misnamed {name : String} {service : Service}
      (names : Callback.serviceOf callback.record = .ok name)
      (known : office.services.get (some name) = .ok service)
      (misnamed : office.services.get service.name ≠ .ok service)
  /-- No request to the transformation service can be built from its record. -/
  | unbuildable {record : ExceptionRecord}
      (validated : ExceptionRecord.validate (callback.record.getD {}) callback.eventId = .ok record)
      (unbuildable : ∀ request, Transformation.Request.ofRecord record ≠ .ok request)
  /-- It can have a result that cannot be written down. -/
  | unwritable {run : Run (σ × List Dealing)} {result : Callback.Result} {fault : Fault}
      (ends : ((Web.answerCallback office.transcribed callback userToken userId).run run).1 =
        .ok result)
      (unwritable : Web.answerBody result = .error fault)

variable {callback : Callback.Request} {userToken userId : Option String}

/-- Linking the case of a record ends with all calls heard, with a message, or lost. -/
theorem linkCase_tells (documented : office.peers.Documented)
    (staffed : (∀ name, service.jurisdiction = some name →
      office.user? (Text.lower name) = none) → hindered)
    (named : office.services.get service.name ≠ .ok service → hindered)
    (buildable : (∀ request, Transformation.Request.ofRecord record ≠ .ok request) → hindered)
    (case : Case) (ignoreWarnings : Bool) (userToken userId : String) :
    (office.transcribed.linkCase record service case ignoreWarnings userToken userId).Tells Heard
      (fun _ => Heard) (Reported hindered Failure.IsMessage IsUnheard) := by
  have wider (failure : Failure) (state : σ × List Dealing)
      (ended : Reported hindered Failure.IsMessage Failure.IsForeign failure state.2) :
      Reported hindered Failure.IsMessage IsUnheard failure state.2 :=
    ended.imp_right fun lost => lost.widen fun _ => .inl
  have searches : (office.transcribed.casesByRecord record.id service.name).Listens hindered
      IsUnheard := by
    unfold casesByRecord serviceNamed
    cases found : office.transcribed.services.get service.name with
    | ok other =>
      simp only [pure_bind]
      refine searchIds_listens documented other _ _ _ fun unstaffed => ?_
      by_cases same : other = service
      · exact staffed (same ▸ unstaffed)
      · exact named fun known => same (Except.ok.inj (found.symm.trans known))
    | error unknown =>
      refine Assures.fail _ fun _ _ => ⟨.inl trivial, .inr (named fun known => ?_)⟩
      cases found.symm.trans known
  refine Assures.bind (searches.to_end (fun _ _ => id) fun _ _ => .inr) fun ids => ?_
  split
  · refine Assures.bind ((createForRecord_tells documented buildable _ _ _).to_end (fun _ _ => id)
      wider) fun outcome => ?_
    split
    · exact Assures.pure _ fun _ => id
    · exact Assures.pure _ fun _ => id
    · exact (linkNewCase_tells documented case _).to_end (fun _ _ => id) wider
  · exact Assures.after_log (Assures.pure _ fun _ => id)
  · exact Assures.fail _ fun _ heard => .inl ⟨trivial, heard⟩

/-- A callback ends with all calls heard, with a message, or lost. -/
theorem process_tells (documented : office.peers.Documented)
    (readable : ∀ fault, Callback.serviceOf callback.record ≠ .error (.inr fault)) :
    (office.transcribed.process callback userToken userId).Tells Heard (fun _ => Heard)
      (Reported (office.Hindered callback userToken userId) Failure.IsMessage IsUnheard) := by
  have refused {α : Type} (refusal : Callback.Refusal) :
      (Flow.fail (.callback refusal) : Flow (σ × List Dealing) α).Tells Heard (fun _ => Heard)
        (Reported (office.Hindered callback userToken userId) Failure.IsMessage IsUnheard) :=
    Assures.fail _ fun _ heard => .inl ⟨trivial, heard⟩
  unfold process
  split
  · exact refused _
  cases names : Callback.serviceOf callback.record with
  | error reason =>
    cases reason with
    | inl refusal => exact refused refusal
    | inr fault => exact absurd names (readable fault)
  | ok name =>
    simp only [pure_bind]
    obtain ⟨service, known, -, isService⟩ | ⟨refusal, isRefused⟩ :=
      callbackService_cases office.transcribed name
    case inr =>
      rw [isRefused]
      exact refused refusal
    obtain ⟨token, -, isToken⟩ | ⟨refusal, isRefused⟩ := neededHeader_cases
      (σ := σ × List Dealing) userToken "Callback has no Idam token received in the header"
    case inr =>
      rw [isService, isRefused]
      exact refused refusal
    obtain ⟨user, -, isUser⟩ | ⟨refusal, isRefused⟩ := neededHeader_cases
      (σ := σ × List Dealing) userId "Callback has no user id received in the header"
    case inr =>
      rw [isService, isToken, isRefused]
      exact refused refusal
    rw [isService, isToken, isUser]
    simp only [pure_bind]
    unfold processRecord
    dsimp only
    split
    · exact Assures.pure _ fun _ => id
    case h_2 record validated =>
      split
      · exact Assures.pure _ fun _ => id
      · exact linkCase_tells documented (.unstaffed names known) (.misnamed names known)
          (.unbuildable validated) _ _ _ _

end Office

namespace Callback

open Schema

/-- The type of a case that was checked is a text or missing. -/
theorem checkCase_ensures (value : Json) :
    (checkCase value).Ensures fun case => ∃ name, case.caseType = .ofText? name := by
  unfold checkCase model
  split
  case h_2 => exact refuse_ensures _
  case h_1 members =>
    refine seq_ensures_of_any (seq_ensures_of_any (seq_ensures_of_any (seq_ensures_of_any ?_)))
    exact map_ensures fun id jurisdiction caseType state data => ⟨caseType, rfl⟩

/-- So is that of the record in a callback that was checked. -/
theorem checkRequest_ensures (value : Json) :
    (checkRequest value).Ensures fun callback =>
      ∀ case ∈ callback.record, ∃ name, case.caseType = .ofText? name := by
  unfold checkRequest model
  split
  case h_2 => exact refuse_ensures _
  case h_1 members =>
    refine seq_ensures_of_any (seq_ensures ?_ (maybe_ensures checkCase_ensures members _))
    exact map_ensures fun eventId record named ignoreWarnings => named

/-- Reading the service off a case type that is a text or missing is no fault. -/
theorem serviceOf_readable {record : Option Case}
    (named : ∀ case ∈ record, ∃ name, case.caseType = .ofText? name) (fault : Fault) :
    serviceOf record ≠ .error (.inr fault) := by
  unfold serviceOf
  cases record with
  | none => simp
  | some case =>
    obtain ⟨name, isName⟩ := named case rfl
    rw [Option.map_some, Option.getD_some, isName]
    cases name with
    | none => simp [Json.ofText?]
    | some text =>
      dsimp only [Json.ofText?]
      split <;> simp

end Callback

namespace Web

open Office

variable {σ : Type} {office : Office σ} {callback : Callback.Request}

/-- A callback that was read is dealt with, with all calls heard, or is lost. -/
theorem answerCallback_listens (documented : office.peers.Documented)
    (readable : ∀ fault, Callback.serviceOf callback.record ≠ .error (.inr fault))
    (userToken userId : Option String) :
    (answerCallback office.transcribed callback userToken userId).Listens
      (office.Hindered callback userToken userId) IsUnheard := by
  refine Assures.after_log (Assures.attempting _ _ (process_tells documented readable)
    fun outcome => ?_)
  have problem (text recordId : String) :
      (do
        Flow.log .error
          ("Failed to process callback for exception record " ++ recordId ++ ": " ++ text)
        Flow.count (.callbackAnswered callback.eventId "failed")
        return { errors := [text] } : Flow (σ × List Dealing) Callback.Result).Tells Heard
        (fun _ => Heard) (Lost (office.Hindered callback userToken userId) IsUnheard) :=
    Assures.after_log (Assures.through (fun _ state => Heard state.2) (Assures.count _ fun _ => id)
      fun _ => Assures.pure _ fun _ => id)
  split
  · exact (problem _ _).from_start fun _ ended => ended.heard fun lost => lost.not_message trivial
  · exact (problem _ _).from_start fun _ ended => ended.heard fun lost => lost.not_message trivial
  case h_3 failure notRefusal notAmbiguous =>
    refine Assures.fail _ fun _ ended => ended.lost fun isMessage => ?_
    cases failure with
    | callback refusal => exact notRefusal refusal rfl
    | ambiguous ambiguity => exact notAmbiguous ambiguity rfl
    | _ => exact isMessage
  · refine Assures.through (fun _ state => Heard state.2) (Assures.count _ fun _ => id) fun _ => ?_
    split
    · exact Assures.after_log (Assures.pure _ fun _ => id)
    · exact Assures.pure _ fun _ => id

/-- A callback that was read is answered with its result, with all calls heard, or is lost. -/
theorem serveCallback_tells (documented : office.peers.Documented) {request : Request}
    {content : Content}
    (isRead : readContent (request.header? "content-type") request.octets = .ok content)
    (accepted : checkContent Callback.checkRequest content = .accepted callback)
    (readable : ∀ fault, Callback.serviceOf callback.record ≠ .error (.inr fault)) :
    (serveCallback office.transcribed request).Tells Heard
      (fun answer said => Heard said ∧
        ∃ result : Callback.Result, answer = .ofValue 200 (writable result.body))
      (fun _ said => ¬ Heard said ∨ office.Hindered callback (request.header? "authorization")
        (request.header? "user-id")) := by
  unfold serveCallback
  rw [isRead]
  dsimp only
  rw [accepted]
  dsimp only
  refine Assures.bind ((answerCallback_listens documented readable _ _).seen.to_end
    (fun _ _ => id) fun _ _ lost => lost.2.2) fun result => Assures.given fun ⟨run, ends⟩ => ?_
  refine Assures.through (fun body state => body = writable result.body ∧ Heard state.2)
    (Assures.reading _ ?_) fun body => Assures.pure _ ?_
  · intro state heard
    split
    case h_1 body written =>
      unfold answerBody at written
      dsimp only at written
      split at written
      · cases written
      · obtain ⟨-, -, same⟩ := bind_eq_ok.mp written
        exact ⟨(Except.ok.inj same).symm, heard⟩
    case h_2 fault failed => exact .inr (.unwritable ends failed)
  · rintro state ⟨rfl, heard⟩
    exact ⟨heard, result, rfl⟩

/-- The answer to a callback: its result with status 200 when all calls were heard, or an internal
error when one was not or something hindered the callback. -/
inductive Answered (office : Office σ) (callback : Callback.Request) (request : Request)
    (said : List Dealing) (answer : Answer) : Prop
  /-- The caseworker gets data, warnings or errors. -/
  | told (heard : Heard said) (ok : answer.status = 200) (result : Callback.Result)
      (body : answer.body = .value (writable result.body))
  /-- The caseworker hears nothing. -/
  | lost (failed : answer.status = 500)
      (reason : ¬ Heard said ∨ office.Hindered callback (request.header? "authorization")
        (request.header? "user-id"))

/-- The content of a body that is accepted as a callback names a service or none. -/
theorem readable_of_accepted {content : Content}
    (accepted : checkContent Callback.checkRequest content = .accepted callback) (fault : Fault) :
    Callback.serviceOf callback.record ≠ .error (.inr fault) := by
  cases content with
  | value value =>
    dsimp only [checkContent] at accepted
    split at accepted
    case h_1 checked =>
      cases accepted
      exact Callback.serviceOf_readable (Callback.checkRequest_ensures value _ checked) fault
    case h_2 => cases accepted
  | nothing => cases accepted
  | octets => cases accepted

/-- A callback whose body is of the expected form is always answered. -/
theorem respond_tells (documented : office.peers.Documented) {request : Request}
    (posted : request.method = "POST") (addressed : request.path = callbackPath)
    {content : Content}
    (isRead : readContent (request.header? "content-type") request.octets = .ok content)
    (accepted : checkContent Callback.checkRequest content = .accepted callback)
    (ping : Except String Unit) :
    (respond office.transcribed request ping).Tells Heard
      (fun answer said => Answered office callback request said answer) (fun _ _ => False) := by
  have served : serve office.transcribed request ping = serveCallback office.transcribed request := by
    unfold serve
    rw [addressed, posted]
    rfl
  have logged : (serveLogged office.transcribed request ping).Tells Heard
      (fun answer said => Heard said ∧ answer.status = 200 ∧
        ∃ result : Callback.Result, answer.body = .value (writable result.body))
      (fun _ said => ¬ Heard said ∨ office.Hindered callback (request.header? "authorization")
        (request.header? "user-id")) := by
    unfold serveLogged
    rw [served]
    have served := serveCallback_tells documented isRead accepted (readable_of_accepted accepted)
    dsimp only
    split
    on_goal 2 => refine Assures.after_log ?_
    all_goals
      refine Assures.attempting _ _ served fun outcome => ?_
      split
      · exact Assures.after_log (Assures.fail _ fun _ => id)
      · have answers {said : List Dealing} {answer : Answer} (ended : Heard said ∧
            ∃ result : Callback.Result, answer = .ofValue 200 (writable result.body)) :
            Heard said ∧ answer.status = 200 ∧
              ∃ result : Callback.Result, answer.body = .value (writable result.body) := by
          obtain ⟨heard, result, rfl⟩ := ended
          exact ⟨heard, rfl, result, rfl⟩
        split
        · exact Assures.after_log (Assures.pure _ fun _ => answers)
        · exact Assures.pure _ fun _ => answers
  refine Assures.attempting _ _ (Assures.correlated _ logged) fun outcome => ?_
  split
  · exact Assures.pure _ fun _ ⟨heard, ok, result, body⟩ => .told heard ok result body
  · exact Assures.after_log (Assures.pure _ fun _ reason => .lost rfl reason)

/-- A callback is lost only unheard. A request to the callback endpoint whose body is of the
expected form is always answered. Its answer has status 200 and data, warnings or errors when every
call that was made for it was answered, or failed in a way that the transformation service, the
payments service or a creation reports; it has status 500 when some other call has failed, such as
a search, a login or a lease, or when the services, the record or the result hinder it.

Proof: the work is gone through with the transcript of its calls, which shows up to any point that
all calls were heard; the first that is not ends the work with a failure that nothing catches. -/
theorem callback_is_lost_only_unheard (documented : office.peers.Documented) {request : Request}
    (posted : request.method = "POST") (addressed : request.path = callbackPath)
    {content : Content}
    (isRead : readContent (request.header? "content-type") request.octets = .ok content)
    (accepted : checkContent Callback.checkRequest content = .accepted callback)
    (ping : Except String Unit) (run : Run σ) :
    let ended := (respond office.transcribed request ping).run (run.withPeers (run.peers, []))
    ∃ answer, ended.1 = .ok answer ∧ Answered office callback request ended.2.peers.2 answer := by
  intro ended
  have told := respond_tells documented posted addressed isRead accepted ping
    (run.withPeers (run.peers, [])) fun _ said => absurd said List.not_mem_nil
  change Flow.Ending _ _ ended.1 ended.2.peers at told
  revert told
  cases ended.1 with
  | ok answer => exact fun answered => ⟨answer, rfl, answered⟩
  | error failure => exact False.elim

open Simulation

/-- The body of a caseworker's request for a case of a record with payments. -/
def paidBody : Json :=
  .obj [
    ("event_id", .str EventName.createNewCase),
    ("case_details", .obj [
      ("id", .int 7),
      ("jurisdiction", paidRecord.jurisdiction),
      ("case_type_id", paidRecord.caseType),
      ("case_data", .obj paidRecord.data)]),
    ("ignore_warning", .bool true)]

/-- The request with this body. -/
def paidPost : Request where
  method := "POST"
  path := callbackPath
  headers := [("content-type", "application/json"), ("authorization", "token"),
    ("user-id", "user")]
  octets := Text.utf8Octets (Json.writeChars .compact paidBody)

/-- The body of this request is of the expected form. -/
theorem paidPost_accepted : ∃ content callback,
    readContent (paidPost.header? "content-type") paidPost.octets = .ok content ∧
      checkContent Callback.checkRequest content = .accepted callback := by
  have shown : (match readContent (paidPost.header? "content-type") paidPost.octets with
      | .ok content => (checkContent Callback.checkRequest content matches .accepted _)
      | .error _ => false) = true := by
    decide +kernel
  split at shown
  case h_1 content isRead =>
    split at shown
    case h_1 callback accepted => exact ⟨content, callback, isRead, accepted⟩
    case h_2 => cases shown
  case h_2 => cases shown

/-- What the mail room answers to this request, starting from a state. -/
def paidAnswer (state : PaymentsBook) : Except Failure Answer × Run PaymentsBook :=
  (respond (PaymentsBook.office (.ok sampleAnswer)) paidPost (.ok ())).run { peers := state }

/-- The request is answered when its first payment is refused, which is heard. -/
theorem refused_payment_is_told :
    let run : Run PaymentsBook := { peers := { refusals := 1 } }
    let office := PaymentsBook.office (.ok sampleAnswer)
    let ended := (respond office.transcribed paidPost (.ok ())).run
      (run.withPeers (run.peers, []))
    ∃ callback answer, ended.1 = .ok answer ∧ answer.status = 200 ∧
      Answered office callback paidPost ended.2.peers.2 answer := by
  intro run office ended
  obtain ⟨content, callback, isRead, accepted⟩ := paidPost_accepted
  have documented : office.peers.Documented := PaymentsBook.peers_documented _ fun _ => nofun
  obtain ⟨answer, answered, told⟩ :=
    callback_is_lost_only_unheard documented rfl rfl isRead accepted (.ok ()) run
  have shown : ended.1.toOption.any (·.status == 200) = true := by decide +kernel
  obtain ⟨same, isAnswer, ok⟩ := ok_of_any shown
  rw [answered] at isAnswer
  cases isAnswer
  refine ⟨callback, answer, answered, eq_of_beq ok, ?_⟩
  with_reducible exact told

/-- A search that fails is not told: the body is of the expected form, but the answer is an
internal error. -/
theorem failed_search_is_not_told : ∃ content callback answer,
    readContent (paidPost.header? "content-type") paidPost.octets = .ok content ∧
      checkContent Callback.checkRequest content = .accepted callback ∧
      (paidAnswer { book := { failures := [(.search, .status (some 503))] } }).1 = .ok answer ∧
      answer.status = 500 := by
  obtain ⟨content, callback, isRead, accepted⟩ := paidPost_accepted
  have shown : (paidAnswer { book := { failures := [(.search, .status (some 503))] } }).1.toOption.any
      (·.status == 500) = true := by
    decide +kernel
  obtain ⟨answer, answered, failed⟩ := ok_of_any shown
  exact ⟨content, callback, answer, isRead, accepted, answered, eq_of_beq failed⟩

end Web
end Mailroom
