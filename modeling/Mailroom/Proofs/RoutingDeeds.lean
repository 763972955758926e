import Mailroom.Proofs.Deeds

/-!
# What a delivery does

Routing an envelope does deeds for that envelope only, whether it succeeds or
fails. When it succeeds, the case or record that it names is the one that a
search finds afterwards. Each law is put together from the laws of the calls, in
the order in which the work makes them.
-/

namespace Mailroom.Office

open Mailroom.Flow

variable {σ α : Type} {office : Office σ} {view : StoreView σ} {keys : String → Prop}
variable {stored : List Case} {envelope : Envelope}

/-- Services whose cases can be searched for, and none of whose types is that of
exception records. -/
structure WellConfigured (services : Services) : Prop where
  searchable : services.Searchable
  ordinary : ∀ name service, services.get name = .ok service →
    ∀ caseType ∈ service.caseTypes, ∀ other, caseType ≠ Service.recordCaseType other

/-- The transformation service of an envelope answers with a type of that service. -/
def AnswersWithin (office : Office σ) (envelope : Envelope) : Prop :=
  ∀ service request token state answer,
    office.services.get (some envelope.container) = .ok service →
    Transformation.Request.ofEnvelope office.documents envelope = .ok request →
    (office.peers.transform service.transformationUrl request token state).1.result = .ok answer →
    answer.draft.caseType ∈ service.caseTypes

/-- Work that starts wherever a property holds may be looked at from one list of
stored cases at a time. -/
theorem assures_of_each {work : Flow σ α} {property : List Case → Prop} {done : α → σ → Prop}
    {failed : Failure → σ → Prop}
    (law : ∀ stored, property stored → work.Assures (view.Holds stored) done failed) :
    work.Assures (view.Meets property) done failed :=
  fun run start => law _ start.2 run ⟨start.1, rfl⟩

/-- Registering payments leaves the stored cases alone. -/
theorem registerPayments_keeps {kept : σ → Prop} (quiet : office.peers.Quiet kept)
    (caseId : Option Int) (isRecord : Bool) :
    (office.registerPayments envelope caseId isRecord).Keeps kept := by
  unfold registerPayments
  split
  · exact Keeps.log _ _
  · exact Keeps.bind (Keeps.log _ _) fun _ => Keeps.ask (quiet.pay _)

/-- One hit of a search, and its identity. -/
theorem Found.single {types path : List String} {key : String} {id : Option Int}
    (found : Found stored types path key [id]) (whole : ∀ caseType ∈ types, ',' ∉ caseType.toList) :
    (hits stored types path key).map (·.id) = [id] :=
  List.perm_singleton.mp (found whole).symm

/-- No hit of a search. -/
theorem Found.nothing {types path : List String} {key : String}
    (found : Found stored types path key []) (whole : ∀ caseType ∈ types, ',' ∉ caseType.toList) :
    hits stored types path key = [] := by
  simpa using (found whole).symm.eq_nil

/-- What a creation adds is a new case. -/
theorem added_new {caseType : Json} {data : Fields} {case : Case}
    (founded : Case.Founded caseType data stored case) : case.New stored :=
  ⟨founded.named, founded.fresh⟩

/-- A case that is added where a search finds nothing is what the search finds then. -/
theorem hits_added {types path : List String} {key : String} {case : Case}
    (unfound : hits stored types path key = []) (ofType : case.isOfType types = true)
    (holds : case.holds path key = true) : hits (stored ++ [case]) types path key = [case] := by
  unfold hits at unfound ⊢
  rw [List.filter_append, unfound, List.nil_append, List.filter_eq_self]
  intro other same
  rw [List.mem_singleton.mp same, ofType, holds]
  rfl

/-- The one record of an envelope, as a search finds it. -/
def RecordFor (envelope : Envelope) (stored : List Case) (id : Option Int) : Prop :=
  ',' ∉ (Service.recordCaseType envelope.container).toList →
    (hits stored [Service.recordCaseType envelope.container] recordEnvelopePath envelope.id).map
      (·.id) = [id]

/-- A case that is filed as a record is found as one. -/
theorem recordFor_filed {case : Case} (filed : Files envelope stored case) :
    RecordFor envelope (stored ++ [case]) case.id := by
  intro whole
  have ofType : case.isOfType [Service.recordCaseType envelope.container] = true := by
    simp [Case.isOfType, filed.caseType]
  have holds : case.holds recordEnvelopePath envelope.id = true := Case.holds_text filed.marked
  rw [hits_added (filed.unfound whole) ofType holds]
  rfl

/-- Carrying out what was drafted for a record files it. -/
theorem files_of_wrote {after : List Case} {id : Option Int}
    (unfound :
      Found stored [Service.recordCaseType envelope.container] recordEnvelopePath envelope.id [])
    (wrote : Wrote (office.recordDraft envelope) (.str (Service.recordCaseType envelope.container))
      none stored after id) :
    ∃ case, Files envelope stored case ∧ case.id = id ∧ after = stored ++ [case] := by
  obtain ⟨started, submission, -, drafted, case, founded, named, rfl⟩ := wrote
  unfold recordDraft at drafted
  split at drafted
  case h_2 fault _ => cases drafted
  case h_1 data built =>
    obtain rfl := Except.ok.inj drafted
    have marks := ExceptionRecord.dataOf_marks built
    refine ⟨case, ⟨added_new founded, founded.caseType, fun whole => ?_, ?_, ?_⟩, named, rfl⟩
    · exact unfound.nothing (by simpa using whole)
    · rw [founded.data, marks.1]
    · rw [founded.data, marks.2]

/-- A state in which nothing has been done yet. -/
theorem undone {state : σ} (held : view.Holds stored state) :
    view.Meets (office.Deeds envelope stored) state :=
  ⟨held.1, held.2 ▸ .refl⟩

/-- A record is filed where none was found. -/
theorem fileNewRecord_assures (faithful : Faithful office.peers view keys)
    (unfound : Found stored [Service.recordCaseType envelope.container] recordEnvelopePath
      envelope.id []) :
    (office.fileNewRecord envelope).Assures (view.Holds stored)
      (fun id => view.Meets fun after =>
        office.Deeds envelope stored after ∧ RecordFor envelope after id)
      (fun _ => view.Meets (office.Deeds envelope stored)) := by
  refine Assures.after_log ?_
  refine Assures.bind ((credential_keeps (faithful.quiet _) _).to_end (fun _ _ => id)
    fun _ _ => undone) fun credential => ?_
  refine Assures.through (fun created => view.Meets fun after =>
    office.Deeds envelope stored after ∧ RecordFor envelope after created.id) ?_ fun created =>
      Assures.after_log (Assures.pure _ fun _ => id)
  refine (writeAs_writes faithful credential _ _ none (fun _ => nofun) _ _ _).to_end ?_ ?_
  · rintro created state ⟨sound, wrote⟩
    obtain ⟨case, filed, named, grown⟩ := files_of_wrote unfound wrote
    change case.id = created.id at named
    refine ⟨sound, ?_⟩
    rw [grown, ← named]
    exact ⟨.single (.filed filed), recordFor_filed filed⟩
  · rintro failure state ⟨sound, same | ⟨id, wrote⟩⟩
    · exact undone ⟨sound, same⟩
    · obtain ⟨case, filed, -, grown⟩ := files_of_wrote unfound wrote
      exact ⟨sound, grown ▸ .single (.filed filed)⟩

/-- The record of an envelope is found or filed. -/
theorem fileRecord_assures (faithful : Faithful office.peers view keys)
    (searched : keys envelope.id) :
    (office.fileRecord envelope).Assures (view.Holds stored)
      (fun id => view.Meets fun after =>
        office.Deeds envelope stored after ∧ RecordFor envelope after id)
      (fun _ => view.Meets (office.Deeds envelope stored)) := by
  refine Assures.bind ((recordsByEnvelope_assures faithful searched _).to_end (fun _ _ => id)
    fun _ _ => undone) fun ids => Assures.given fun found => ?_
  split
  case h_1 => exact fileNewRecord_assures faithful found
  case h_2 id =>
    refine Assures.after_log (Assures.pure id fun state held => ⟨held.1, ?_⟩)
    rw [held.2]
    exact ⟨.refl, fun whole => found.single (by simpa using whole)⟩
  case h_3 => exact Assures.fail _ fun _ => undone

/-- Filing a record and registering the payments against it. -/
theorem routeToRecord_assures (faithful : Faithful office.peers view keys)
    (searched : keys envelope.id) :
    (office.routeToRecord envelope).Assures (view.Holds stored)
      (fun routed => view.Meets fun after => office.Deeds envelope stored after ∧
        routed.action = .recordFiled ∧ RecordFor envelope after routed.caseId)
      (fun _ => view.Meets (office.Deeds envelope stored)) := by
  refine Assures.bind (fileRecord_assures faithful searched) fun recordId => ?_
  refine Assures.bind ((registerPayments_keeps (faithful.quiet _) recordId true).to_end
    (fun _ _ => id) fun _ state filed => ⟨filed.1, filed.2.1⟩) fun _ => ?_
  exact Assures.pure _ fun state filed => ⟨filed.1, filed.2.1, rfl, filed.2.2⟩

/-- The one case of a new application, as a search finds it. -/
def CaseFor (office : Office σ) (envelope : Envelope) (stored : List Case) (id : Option Int) :
    Prop :=
  ∃ service, office.services.get (some envelope.container) = .ok service ∧
    envelope.classification.classification? = some .newApplication ∧
    (hits stored service.caseTypes envelopePath envelope.id).map (·.id) = [id]

/-- There is not one case of a new application whose service creates cases. -/
def NotOneCaseFor (office : Office σ) (envelope : Envelope) (stored : List Case) : Prop :=
  ∀ service, office.services.get (some envelope.container) = .ok service →
    service.createsCasesAutomatically = true →
    (hits stored service.caseTypes envelopePath envelope.id).length ≠ 1

/-- A case that is created is found as the one of its application. -/
theorem caseFor_created {service : Service} {case : Case}
    (created : office.Creates envelope service stored case) :
    office.CaseFor envelope (stored ++ [case]) case.id := by
  refine ⟨service, created.known, created.application, ?_⟩
  have holds := Case.holds_of_refers ((Case.refers_single created.marked).mpr ⟨rfl, rfl⟩)
  rw [hits_added created.unfound created.ofService holds]
  rfl

/-- What an attempt to create a case comes to: deeds for the envelope, and the
case that the outcome names, if it names one. -/
def Tried (office : Office σ) (envelope : Envelope) (stored : List Case)
    (outcome : CreationOutcome) (after : List Case) : Prop :=
  office.Deeds envelope stored after ∧
    match outcome with
    | .created id | .alreadyExists id => office.CaseFor envelope after id
    | _ => office.NotOneCaseFor envelope stored

/-- An outcome without a case, whatever has been done. -/
theorem tried_without {outcome : CreationOutcome} {after : List Case}
    (done : office.Deeds envelope stored after) (absent : office.NotOneCaseFor envelope stored)
    (without : outcome.hasCase = false) : office.Tried envelope stored outcome after := by
  cases outcome <;> first | exact ⟨done, absent⟩ | cases without

/-- Transforming an envelope leaves the stored cases alone and answers with a type
of the service. -/
theorem transformEnvelope_assures (faithful : Faithful office.peers view keys)
    (answers : office.AnswersWithin envelope) (context : String) :
    (office.transformEnvelope envelope context).Assures (view.Holds stored)
      (fun answer state => (∀ service, office.services.get (some envelope.container) = .ok service →
        answer.draft.caseType ∈ service.caseTypes) ∧ view.Holds stored state)
      (fun _ => view.Holds stored) := by
  have quiet := faithful.quiet (· = stored)
  refine Assures.bind (Keeps.ask quiet.lease) fun token => ?_
  refine Assures.bind (serviceNamed_assures _) fun service => Assures.given fun known => ?_
  refine Assures.through (fun request state =>
    Transformation.Request.ofEnvelope office.documents envelope = .ok request ∧
      view.Holds stored state) ?_ fun request => Assures.given fun built => ?_
  · refine Assures.lift _ fun state held => ?_
    cases Transformation.Request.ofEnvelope office.documents envelope with
    | error failure => exact held
    | ok request => exact ⟨rfl, held⟩
  refine Assures.through (fun answer state =>
    answer.draft.caseType ∈ service.caseTypes ∧ view.Holds stored state)
    (Assures.ask _ fun state held => ?_) fun answer => Assures.given fun within => ?_
  · have kept := quiet.transform service.transformationUrl request token state held
    cases answered :
        (office.peers.transform service.transformationUrl request token state).1.result with
    | error failure => exact kept
    | ok answer => exact ⟨answers service request token state answer known built answered, kept⟩
  · refine Assures.after_log (Assures.pure _ fun state held => ⟨?_, held⟩)
    intro other alsoKnown
    obtain rfl : service = other := Except.ok.inj (known.symm.trans alsoKnown)
    exact within

/-- A line in the log and an outcome without a case. -/
theorem logged_assures {before : σ → Prop} {failed : Failure → σ → Prop} (level : LogLevel)
    (message : String) {outcome : CreationOutcome} (without : outcome.hasCase = false) :
    (Flow.log level message >>= fun _ => pure outcome : Flow σ CreationOutcome).Assures before
      (fun outcome state => outcome.hasCase = false ∧ before state) failed :=
  Assures.after_log (Assures.pure _ fun _ held => ⟨without, held⟩)

/-- A failed transformation has an outcome without a case. -/
theorem transformationOutcome_assures {before : σ → Prop} {failed : Failure → σ → Prop}
    (context : String) (failure : Failure) :
    (transformationOutcome context failure).Assures before
      (fun outcome state => outcome.hasCase = false ∧ before state) failed := by
  unfold transformationOutcome
  split
  · exact logged_assures _ _ rfl
  · split
    · exact logged_assures _ _ rfl
    · exact logged_assures _ _ rfl
  · exact logged_assures _ _ rfl

/-- A failed creation has an outcome without a case. -/
theorem creationFailureOutcome_assures {before : σ → Prop} {failed : Failure → σ → Prop}
    (context : String) (failure : Failure) :
    (creationFailureOutcome context failure).Assures before
      (fun outcome state => outcome.hasCase = false ∧ before state) failed := by
  unfold creationFailureOutcome
  split
  · split
    · exact logged_assures _ _ rfl
    · exact logged_assures _ _ rfl
    · exact logged_assures _ _ rfl
  · exact logged_assures _ _ rfl

/-- Carrying out what was drafted for a case creates it. -/
theorem creates_of_wrote {service : Service} {data : Fields} {caseType : String}
    {after : List Case} {id : Option Int}
    (application : envelope.classification.classification? = some .newApplication)
    (known : office.services.get (some envelope.container) = .ok service)
    (allowed : service.createsCasesAutomatically = true)
    (unfound : hits stored service.caseTypes envelopePath envelope.id = [])
    (within : caseType ∈ service.caseTypes)
    (wrote : Wrote (caseDraft envelope.id data) (.str caseType) none stored after id) :
    ∃ case, office.Creates envelope service stored case ∧ case.id = id ∧
      after = stored ++ [case] := by
  obtain ⟨started, submission, -, drafted, case, founded, named, rfl⟩ := wrote
  obtain rfl := Except.ok.inj drafted
  refine ⟨case, ⟨added_new founded, application, known, allowed, ?_, unfound, ?_⟩, named, rfl⟩
  · simpa [Case.isOfType, founded.caseType] using within
  · rw [founded.data]
    exact Fields.get?_set_self _ _ _

/-- Creating a case from an answer creates it, or has an outcome without a case. -/
theorem createFromAnswer_assures (faithful : Faithful office.peers view keys) {service : Service}
    (application : envelope.classification.classification? = some .newApplication)
    (known : office.services.get (some envelope.container) = .ok service)
    (allowed : service.createsCasesAutomatically = true)
    (unfound : hits stored service.caseTypes envelopePath envelope.id = [])
    (context : String) {answer : Transformation.Answer}
    (within : answer.draft.caseType ∈ service.caseTypes) {failed : Failure → σ → Prop} :
    (office.createFromAnswer envelope context answer).Assures (view.Holds stored)
      (fun outcome => view.Meets (office.Tried envelope stored outcome)) failed := by
  have absent : office.NotOneCaseFor envelope stored := by
    intro other alsoKnown _
    obtain rfl : service = other := Except.ok.inj (known.symm.trans alsoKnown)
    simp [unfound]
  have creates {after : List Case} {id : Option Int}
      (wrote : Wrote (caseDraft envelope.id answer.draft.data) (.str answer.draft.caseType) none
        stored after id) :=
    creates_of_wrote application known allowed unfound within wrote
  refine Assures.attempting
    (fun id => view.Meets fun after =>
      office.Deeds envelope stored after ∧ office.CaseFor envelope after id)
    (fun _ => view.Meets (office.Deeds envelope stored))
    ((createCase_writes faithful _ _ _ _ _).to_end ?_ ?_) fun outcome => ?_
  · rintro id state ⟨sound, wrote⟩
    obtain ⟨case, created, named, grown⟩ := creates wrote
    change case.id = id at named
    refine ⟨sound, ?_⟩
    rw [grown, ← named]
    exact ⟨.single (.created created), caseFor_created created⟩
  · rintro failure state ⟨sound, same | ⟨id, wrote⟩⟩
    · exact undone ⟨sound, same⟩
    · obtain ⟨case, created, -, grown⟩ := creates wrote
      exact ⟨sound, grown ▸ .single (.created created)⟩
  · split
    · exact Assures.after_log (Assures.pure _ fun _ => id)
    · refine (creationFailureOutcome_assures context _).to_end ?_ fun _ _ => id
      exact fun outcome state ended => ⟨ended.2.1, tried_without ended.2.2 absent ended.1⟩

/-- An envelope without a case is turned into one, or the outcome names none. -/
theorem createNewCase_assures (faithful : Faithful office.peers view keys) {service : Service}
    (answers : office.AnswersWithin envelope)
    (application : envelope.classification.classification? = some .newApplication)
    (known : office.services.get (some envelope.container) = .ok service)
    (allowed : service.createsCasesAutomatically = true)
    (unfound : hits stored service.caseTypes envelopePath envelope.id = []) (context : String)
    {failed : Failure → σ → Prop} :
    (office.createNewCase envelope context).Assures (view.Holds stored)
      (fun outcome => view.Meets (office.Tried envelope stored outcome)) failed := by
  have absent : office.NotOneCaseFor envelope stored := by
    intro other alsoKnown _
    obtain rfl : service = other := Except.ok.inj (known.symm.trans alsoKnown)
    simp [unfound]
  refine Assures.attempting
    (fun answer state => answer.draft.caseType ∈ service.caseTypes ∧ view.Holds stored state)
    (fun _ => view.Holds stored)
    ((transformEnvelope_assures faithful answers context).to_end
      (fun answer state ended => ⟨ended.1 service known, ended.2⟩) fun _ _ => id) fun outcome => ?_
  split
  · exact Assures.given fun within =>
      createFromAnswer_assures faithful application known allowed unfound context within
  · refine (transformationOutcome_assures context _).to_end ?_ fun _ _ => id
    exact fun outcome state ended =>
      ⟨ended.2.1, tried_without (ended.2.2 ▸ .refl) absent ended.1⟩

/-- A case is created unless there is one; several are left alone. -/
theorem createUnlessExists_assures (faithful : Faithful office.peers view keys) {service : Service}
    (searchable : office.services.Searchable) (answers : office.AnswersWithin envelope)
    (searched : keys envelope.id)
    (application : envelope.classification.classification? = some .newApplication)
    (known : office.services.get (some envelope.container) = .ok service)
    (allowed : service.createsCasesAutomatically = true) (context : String) :
    (office.createUnlessExists envelope context).Assures (view.Holds stored)
      (fun outcome => view.Meets (office.Tried envelope stored outcome))
      (fun _ => view.Meets (office.Deeds envelope stored)) := by
  have whole := (searchable _ _ known).whole_types
  refine Assures.bind ((casesByEnvelope_assures faithful searchable searched _).to_end
    (fun _ _ => id) fun _ _ => undone) fun ids => Assures.given fun ⟨other, alsoKnown, found⟩ => ?_
  obtain rfl : service = other := Except.ok.inj (known.symm.trans alsoKnown)
  split
  case h_1 =>
    exact createNewCase_assures faithful answers application known allowed (found.nothing whole)
      context
  case h_2 id =>
    refine Assures.after_log (Assures.pure _ fun state held => ⟨held.1, ?_⟩)
    rw [held.2]
    exact ⟨.refl, service, known, application, found.single whole⟩
  case h_3 noneFound notOne =>
    have absent : office.NotOneCaseFor envelope stored := by
      intro other alsoKnown _
      obtain rfl : service = other := Except.ok.inj (known.symm.trans alsoKnown)
      intro one
      have length := (found whole).length_eq
      rw [List.length_map, one] at length
      obtain ⟨id, rfl⟩ := List.length_eq_one_iff.mp length
      exact notOne id rfl
    refine Assures.after_log (Assures.pure _ fun state held => ⟨held.1, ?_⟩)
    exact tried_without (held.2 ▸ .refl) absent rfl

/-- A case is created automatically where the service allows it. -/
theorem createAutomatically_assures (faithful : Faithful office.peers view keys)
    (searchable : office.services.Searchable) (answers : office.AnswersWithin envelope)
    (searched : keys envelope.id)
    (application : envelope.classification.classification? = some .newApplication) :
    (office.createAutomatically envelope).Assures (view.Holds stored)
      (fun outcome => view.Meets (office.Tried envelope stored outcome))
      (fun _ => view.Meets (office.Deeds envelope stored)) := by
  refine Assures.after_log ?_
  refine Assures.bind ((serviceNamed_assures _).to_end (fun _ _ => id) fun _ _ => undone)
    fun service => Assures.given fun known => ?_
  have counted (outcome : CreationOutcome) :
      (Flow.count (.caseCreation envelope.container outcome.name) >>= fun _ => pure outcome :
        Flow σ CreationOutcome).Assures (view.Meets (office.Tried envelope stored outcome))
        (fun outcome => view.Meets (office.Tried envelope stored outcome))
        (fun _ => view.Meets (office.Deeds envelope stored)) :=
    Assures.through (fun _ => view.Meets (office.Tried envelope stored outcome))
      (Assures.count _ fun _ => id) fun _ => Assures.pure _ fun _ => id
  dsimp only
  split
  case isTrue allowed =>
    exact Assures.bind (createUnlessExists_assures faithful searchable answers searched application
      known allowed _) counted
  case isFalse forbidden =>
    have absent : office.NotOneCaseFor envelope stored := by
      intro other alsoKnown allowed
      obtain rfl : service = other := Except.ok.inj (known.symm.trans alsoKnown)
      exact absurd allowed forbidden
    refine Assures.after_log ?_
    have aborted : Assures (Pure.pure CreationOutcome.aborted : Flow σ _) (view.Holds stored)
        (fun outcome => view.Meets (office.Tried envelope stored outcome))
        (fun _ => view.Meets (office.Deeds envelope stored)) :=
      Assures.pure _ fun state held => ⟨held.1, tried_without (held.2 ▸ .refl) absent rfl⟩
    exact Assures.bind aborted counted

/-- The case that evidence was attached to, which lacked some of its documents if
the case that was fetched is a stored one. -/
structure AttachedTo (office : Office σ) (view : StoreView σ) (envelope : Envelope)
    (stored after : List Case) (id : Option Int) : Prop where
  attaches : office.Attaches envelope id stored after
  lacking : office.peers.FetchesStored view → ∃ case ∈ stored, case.id = id ∧ ∃ existing,
    Document.onCase (some case.data) = .ok existing ∧
    Document.notAmong existing envelope.documents ≠ []

/-- What a routed envelope says of the cases before and after it. -/
def Justified (office : Office σ) (view : StoreView σ) (envelope : Envelope)
    (stored after : List Case) (routed : Routed) : Prop :=
  match routed.action with
  | .caseCreated => office.CaseFor envelope after routed.caseId
  | .recordFiled => RecordFor envelope after routed.caseId ∧
    (envelope.classification.classification? = some .newApplication →
      office.NotOneCaseFor envelope stored)
  | .attachedToCase => office.AttachedTo view envelope stored after routed.caseId

/-- What a delivery assures: deeds for its envelope, and a justified result. -/
def Delivers (office : Office σ) (work : Flow σ Routed) (view : StoreView σ) (envelope : Envelope)
    (stored : List Case) : Prop :=
  work.Assures (view.Holds stored)
    (fun routed => view.Meets fun after =>
      office.Deeds envelope stored after ∧ office.Justified view envelope stored after routed)
    (fun _ => view.Meets (office.Deeds envelope stored))

/-- A record may be filed after other deeds for the envelope, as long as those of
an application left none that is the one. -/
theorem routeToRecord_after (faithful : Faithful office.peers view keys)
    (searched : keys envelope.id)
    (absent : envelope.classification.classification? = some .newApplication →
      office.NotOneCaseFor envelope stored) :
    (office.routeToRecord envelope).Assures (view.Meets (office.Deeds envelope stored))
      (fun routed => view.Meets fun after =>
        office.Deeds envelope stored after ∧ office.Justified view envelope stored after routed)
      (fun _ => view.Meets (office.Deeds envelope stored)) := by
  refine assures_of_each fun middle earlier => (routeToRecord_assures faithful searched).to_end ?_ ?_
  · rintro routed state ⟨sound, later, filed, found⟩
    refine ⟨sound, earlier.trans later, ?_⟩
    unfold Justified
    rw [filed]
    exact ⟨found, absent⟩
  · exact fun failure state ended => ⟨ended.1, earlier.trans ended.2⟩

/-- A new application becomes a case or gets a record. -/
theorem routeApplication_delivers (faithful : Faithful office.peers view keys)
    (searchable : office.services.Searchable) (answers : office.AnswersWithin envelope)
    (searched : keys envelope.id)
    (application : envelope.classification.classification? = some .newApplication) :
    office.Delivers (office.routeApplication envelope) view envelope stored := by
  refine Assures.bind (createAutomatically_assures faithful searchable answers searched application)
    fun outcome => ?_
  split
  case isTrue hasCase =>
    have named {after : List Case} (tried : office.Tried envelope stored outcome after) :
        office.CaseFor envelope after outcome.caseId := by
      cases outcome with
      | created id => exact tried.2
      | alreadyExists id => exact tried.2
      | _ => cases hasCase
    refine Assures.bind ((registerPayments_keeps (faithful.quiet _) outcome.caseId false).to_end
      (fun _ _ => id) fun _ state tried => ⟨tried.1, tried.2.1⟩) fun _ => ?_
    exact Assures.pure _ fun state tried => ⟨tried.1, tried.2.1, named tried.2⟩
  case isFalse without =>
    have absent {after : List Case} (tried : office.Tried envelope stored outcome after) :
        office.NotOneCaseFor envelope stored := by
      cases outcome with
      | created id => exact absurd rfl without
      | alreadyExists id => exact absurd rfl without
      | _ => exact tried.2
    have filing (absent : office.NotOneCaseFor envelope stored) :=
      routeToRecord_after faithful searched fun _ => absent
    exact (Assures.given filing).from_start fun state tried =>
      ⟨absent tried.2, tried.1, tried.2.1⟩

/-- What was drafted from the case of an identity supplements that case. -/
theorem supplements_of_wrote (distinct : Distinct stored) {caseType : Json}
    {id written : Option Int} {after : List Case}
    (wrote : Wrote (office.evidenceDraft envelope) caseType (some (Case.idText id)) stored after
      written) :
    List.Forall₂ (fun old new =>
      if old.id = id then Case.Supplemented office.documents envelope old new else new = old)
      stored after := by
  obtain ⟨started, submission, current, drafted, updated⟩ := wrote
  obtain ⟨case, isStored, named, snapshot⟩ := current _ rfl
  unfold evidenceDraft at drafted
  rw [snapshot] at drafted
  split at drafted
  case h_2 fault _ => cases drafted
  case h_1 data built =>
    obtain rfl := Except.ok.inj drafted
    have both := (List.forall₂_and_left _ _).mpr ⟨fun old (isOld : old ∈ stored) => isOld, updated⟩
    refine both.imp fun old new ⟨isOld, revised⟩ => ?_
    dsimp only at revised
    by_cases same : old.id = id
    · rw [if_pos (congrArg Case.idText same)] at revised
      have isCase : old = case := List.inj_on_of_nodup_map distinct isOld isStored
        (same.trans (Case.idText_injective named).symm)
      rw [if_pos same]
      exact Case.supplemented_of_revised (isCase ▸ built) revised
    · rw [if_neg fun text => same (Case.idText_injective text)] at revised
      rw [if_neg same]
      exact revised

/-- What was drafted for evidence attaches it. -/
theorem attaches_of_wrote (distinct : Distinct stored)
    (evidence : envelope.classification.classification? = some .supplementaryEvidence)
    {caseType : Json} {id written : Option Int} {after : List Case}
    (wrote : Wrote (office.evidenceDraft envelope) caseType (some (Case.idText id)) stored after
      written) : office.Attaches envelope id stored after :=
  ⟨evidence, supplements_of_wrote distinct wrote⟩

/-- Attaching evidence changes the case of the identity and no other. -/
theorem attachTo_assures (faithful : Faithful office.peers view keys) (distinct : Distinct stored)
    (evidence : envelope.classification.classification? = some .supplementaryEvidence)
    (case : Case) :
    (office.attachTo envelope case).Assures (view.Holds stored)
      (fun _ => view.Meets (office.Attaches envelope case.id stored))
      (fun _ => view.Meets (office.Deeds envelope stored)) := by
  refine Assures.bind ((credential_keeps (faithful.quiet _) _).to_end (fun _ _ => id)
    fun _ _ => undone) fun credential => ?_
  refine (attachDocuments_writes faithful credential _ _ ⟨_, rfl⟩ _ _ _).to_end ?_ ?_
  · rintro - state ⟨sound, id, wrote⟩
    exact ⟨sound, attaches_of_wrote distinct evidence wrote⟩
  · rintro failure state ⟨sound, same | ⟨id, wrote⟩⟩
    · exact undone ⟨sound, same⟩
    · exact ⟨sound, .single (.attached (attaches_of_wrote distinct evidence wrote))⟩

/-- Evidence is attached to a case that lacks some of it, or nothing is attached
as far as the answer goes. -/
theorem attachEvidence_assures (faithful : Faithful office.peers view keys)
    (distinct : Distinct stored)
    (evidence : envelope.classification.classification? = some .supplementaryEvidence)
    {case : Case} (isStored : office.peers.FetchesStored view → case ∈ stored) :
    (office.attachEvidence envelope case).Assures (view.Holds stored)
      (fun attached => view.Meets fun after => office.Deeds envelope stored after ∧
        (attached = true → office.AttachedTo view envelope stored after case.id))
      (fun _ => view.Meets (office.Deeds envelope stored)) := by
  refine Assures.through (fun existing state =>
    Document.onCase (some case.data) = .ok existing ∧ view.Holds stored state)
    (Assures.reading _ fun state held => ?_) fun existing => Assures.given fun read => ?_
  · cases Document.onCase (some case.data) with
    | error fault => exact undone held
    | ok existing => exact ⟨rfl, held⟩
  split
  case isTrue nothingNew =>
    refine Assures.after_log (Assures.pure _ fun state held => ⟨held.1, ?_⟩)
    exact ⟨held.2 ▸ .refl, fun impossible => by cases impossible⟩
  case isFalse lacking =>
    refine Assures.after_log ?_
    refine Assures.attempting _ _ (attachTo_assures faithful distinct evidence case)
      fun outcome => ?_
    split
    · refine Assures.after_log (Assures.pure _ fun state ended => ?_)
      refine ⟨ended.1, .single (.attached ended.2), fun _ => ⟨ended.2, fun fetches => ?_⟩⟩
      exact ⟨case, isStored fetches, rfl, existing, read, by simpa using lacking⟩
    · split
      · refine Assures.after_log (Assures.pure _ fun state ended => ?_)
        exact ⟨ended.1, ended.2, fun impossible => by cases impossible⟩
      · exact Assures.fail _ fun _ => id

/-- The stored cases are as they were, and a case that was found is one of them where
fetches find stored cases. -/
def Fetched (office : Office σ) (view : StoreView σ) (stored : List Case) (found : Option Case)
    (state : σ) : Prop :=
  (office.peers.FetchesStored view → ∀ case ∈ found, case ∈ stored) ∧ view.Holds stored state

/-- No case was found. -/
theorem fetched_none :
    Assures (Pure.pure none : Flow σ (Option Case)) (view.Holds stored)
      (office.Fetched view stored) (fun _ => view.Holds stored) :=
  Assures.pure _ fun _ held => ⟨by simp, held⟩

/-- The case that the reference of an envelope names is a stored one. -/
theorem findByReference_assures (faithful : Faithful office.peers view keys) (envelope : Envelope) :
    (office.findByReference envelope).Assures (view.Holds stored)
      (office.Fetched view stored) (fun _ => view.Holds stored) := by
  unfold findByReference
  split
  · exact fetched_none
  · split
    · exact fetched_none
    · refine Assures.attempting _ _ (fetchCase_assures faithful _ _) fun outcome => ?_
      split
      · exact Assures.pure _ fun state found => ⟨by simpa using found.1, found.2⟩
      · exact Assures.after_log fetched_none
      · exact Assures.after_log fetched_none
      · exact Assures.fail _ fun _ => id

/-- The case of an envelope is a stored one. -/
theorem findCase_assures (faithful : Faithful office.peers view keys) (envelope : Envelope) :
    (office.findCase envelope).Assures (view.Holds stored)
      (office.Fetched view stored) (fun _ => view.Holds stored) := by
  have quiet := faithful.quiet (· = stored)
  refine Assures.bind (findByReference_assures faithful envelope) fun found =>
    Assures.given fun isStored => ?_
  split
  · exact Assures.pure _ fun _ held => ⟨isStored, held⟩
  · split
    · exact fetched_none
    · split
      · exact fetched_none
      · refine Assures.bind (casesByLegacyId_keeps quiet _ _) fun ids => ?_
        split
        · exact fetched_none
        · refine Assures.bind (fetchCase_assures faithful _ _) fun case => ?_
          exact Assures.pure _ fun state found => ⟨by simpa using found.1, found.2⟩
        · exact Assures.after_log fetched_none

/-- Evidence is attached to its case or gets a record. -/
theorem routeEvidence_delivers (faithful : Faithful office.peers view keys)
    (distinct : Distinct stored) (searched : keys envelope.id)
    (evidence : envelope.classification.classification? = some .supplementaryEvidence) :
    office.Delivers (office.routeEvidence envelope) view envelope stored := by
  have noApplication : envelope.classification.classification? = some .newApplication →
      office.NotOneCaseFor envelope stored := by simp [evidence]
  have filing := routeToRecord_after faithful searched noApplication
  refine Assures.bind ((findCase_assures faithful envelope).to_end (fun _ _ => id)
    fun _ _ => undone) fun found => Assures.given fun isStored => ?_
  split
  · exact filing.from_start fun _ => undone
  · refine Assures.bind (attachEvidence_assures faithful distinct evidence
      fun fetches => isStored fetches _ rfl)
      fun attached => ?_
    split
    case isTrue attachedIt =>
      refine Assures.bind ((registerPayments_keeps (faithful.quiet _) _ false).to_end
        (fun _ _ => id) fun _ state ended => ⟨ended.1, ended.2.1⟩) fun _ => ?_
      exact Assures.pure _ fun state ended => ⟨ended.1, ended.2.1, ended.2.2 attachedIt⟩
    case isFalse =>
      exact Assures.after_log (filing.from_start fun state ended => ⟨ended.1, ended.2.1⟩)

/-- Whatever the class of an envelope, its delivery does deeds for it alone, and
its result is justified by the stored cases. -/
theorem route_delivers (faithful : Faithful office.peers view keys)
    (searchable : office.services.Searchable) (answers : office.AnswersWithin envelope)
    (searched : keys envelope.id) (distinct : Distinct stored) :
    office.Delivers (office.route envelope) view envelope stored := by
  unfold route
  split
  case h_1 evidence => exact routeEvidence_delivers faithful distinct searched evidence
  case h_2 other =>
    exact (routeToRecord_after faithful searched (by simp [other])).from_start fun _ => undone
  case h_3 other =>
    exact (routeToRecord_after faithful searched (by simp [other])).from_start fun _ => undone
  case h_4 application =>
    exact routeApplication_delivers faithful searchable answers searched application
  case h_5 => exact Assures.fail _ fun _ => undone

end Mailroom.Office
