import Mailroom.Proofs.FaithfulStore

/-!
# Access to a faithful store

What the calls of the mail room come to when the store keeps its word. Getting
a credential, leasing a token, fetching and searching leave the stored cases
alone, and a search finds what is stored. Writing in two phases adds one case
or updates those of one reference, or changes nothing; only a failed write
leaves open which.
-/

namespace Mailroom

/-- Any failure but the mail room's own finding that several cases belong to one key. -/
def Failure.IsPlain : Failure → Prop
  | .ambiguous _ => False
  | _ => True

/-- Questions that are put before anything is written. They keep a property,
whatever is answered, and fail in ways of one kind; the mail room's own failures
are of that kind, except for the one that several cases were found. -/
structure Peers.Calm {σ : Type} (peers : Peers σ) (kept : σ → Prop) (kind : Failure → Prop) :
    Prop where
  own : ∀ failure, failure.IsPlain → kind failure
  search : ∀ caller types query, (Flow.ask (peers.cases.search caller types query)).Confines kept kind
  login : ∀ login, (Flow.ask (peers.login login)).Confines kept kind
  details : ∀ token, (Flow.ask (peers.userDetails token)).Confines kept kind
  lease : (Flow.ask peers.lease).Confines kept kind
  transform : ∀ url request token, (Flow.ask (peers.transform url request token)).Confines kept kind

/-- Quiet collaborators are calm about every failure. -/
theorem Peers.Quiet.calm {σ : Type} {peers : Peers σ} {kept : σ → Prop}
    (quiet : peers.Quiet kept) : peers.Calm kept fun _ => True where
  own _ _ := trivial
  search caller types query := (Flow.Keeps.ask (quiet.search caller types query)).confines
  login login := (Flow.Keeps.ask (quiet.login login)).confines
  details token := (Flow.Keeps.ask (quiet.details token)).confines
  lease := (Flow.Keeps.ask quiet.lease).confines
  transform url request token := (Flow.Keeps.ask (quiet.transform url request token)).confines

/-- Questions that are calm in two ways are calm in both at once. -/
theorem Peers.Calm.both {σ : Type} {peers : Peers σ} {kept kept' : σ → Prop}
    {kind kind' : Failure → Prop} (first : peers.Calm kept kind) (second : peers.Calm kept' kind') :
    peers.Calm (fun state => kept state ∧ kept' state)
      (fun failure => kind failure ∧ kind' failure) where
  own failure isPlain := ⟨first.own failure isPlain, second.own failure isPlain⟩
  search caller types query := (first.search caller types query).both (second.search caller types query)
  login login := (first.login login).both (second.login login)
  details token := (first.details token).both (second.details token)
  lease := first.lease.both second.lease
  transform url request token :=
    (first.transform url request token).both (second.transform url request token)

end Mailroom

namespace Mailroom.Office

open Mailroom.Flow

variable {σ α : Type} {kept : σ → Prop} {kind : Failure → Prop}

/-- Looking a credential up is confined. -/
theorem cached_confines (key : String) : (cached? (σ := σ) key).Confines kept kind :=
  Assures.look fun _ => Assures.pure _ fun _ seen => seen.2

/-- Storing a credential is confined. -/
theorem storeIfAbsent_confines (key : String) (credential : Credential) :
    (storeIfAbsent (σ := σ) key credential).Confines kept kind := by
  refine Assures.look fun seen => Assures.through (fun _ => kept) (Assures.replace _ ?_)
    fun _ => Assures.pure _ fun _ => id
  rintro state ⟨rfl, held⟩
  exact held

/-- Dropping a credential changes nothing but the cache, and fails only when the jurisdiction is
not named. -/
theorem invalidate_assures (jurisdiction : Option String) {failed : Failure → σ → Prop}
    (unnamed : jurisdiction = none → ∀ fault state, kept state → failed (.faulty fault) state) :
    (invalidate (σ := σ) jurisdiction).Assures kept (fun _ => kept) failed := by
  refine Assures.through (fun _ => kept) ?_ fun key => Assures.look fun seen => ?_
  · cases jurisdiction with
    | none => exact Assures.reading _ (unnamed rfl _)
    | some name => exact Assures.reading _ fun _ => id
  · split
    · refine Assures.through (fun _ => kept) (Assures.replace _ ?_) fun _ => ?_
      · rintro state ⟨rfl, held⟩
        exact held
      · exact Assures.through (fun _ => kept) (Assures.count _ fun _ => id) fun _ =>
          Assures.log _ _ fun _ => id
    · exact Assures.pure _ fun _ seenHere => seenHere.2

/-- Dropping a credential is confined where faults are of the kind. -/
theorem invalidate_confines (ofKind : ∀ fault, kind (.faulty fault))
    (jurisdiction : Option String) : (invalidate (σ := σ) jurisdiction).Confines kept kind :=
  invalidate_assures jurisdiction fun _ fault _ held => ⟨ofKind fault, held⟩

variable {office : Office σ}

/-- Logging in is confined like the questions about users. -/
theorem logIn_confines (calm : office.peers.Calm kept kind) (login : Login) :
    (office.logIn login).Confines kept kind :=
  Confines.bind (calm.login login) fun token =>
    Confines.bind (calm.details token) fun _ => Confines.pure _

/-- Getting the credential of a jurisdiction fails only where nobody is configured for it, or as a
login does; the kept credentials make no difference to that. -/
theorem credential_passes (jurisdiction : String) {before : σ → Prop}
    {failed : Failure → σ → Prop}
    (unstaffed : office.user? (Text.lower jurisdiction) = none → ∀ state, before state →
      failed (.authentication (.noUser jurisdiction)) state)
    (logsIn : ∀ login, (office.logIn login).Assures before (fun _ => before) failed) :
    (office.credential (some jurisdiction)).Assures before (fun _ => before) failed := by
  have unfailing {α : Type} {work : Flow σ α} (law : work.Confines before fun _ => False) :
      work.Assures before (fun _ => before) failed :=
    Assures.to_end law (fun _ _ => id) fun _ _ ended => ended.1.elim
  refine Assures.through (fun key state => key = Text.lower jurisdiction ∧ before state)
    (Assures.pure _ fun _ => .intro rfl) fun key => Assures.given fun named => ?_
  refine Assures.bind (unfailing (cached_confines key)) fun found => ?_
  split
  · exact Assures.pure _ fun _ => id
  · dsimp only
    split
    case h_1 absent => exact Assures.fail _ (unstaffed (named ▸ absent))
    case h_2 login _ =>
      refine Assures.after_log (Assures.through (fun _ => before) (Assures.pure () fun _ => id)
        fun _ => ?_)
      exact Assures.bind (logsIn login) fun credential =>
        unfailing (storeIfAbsent_confines key credential)

/-- Getting a credential is confined like the questions about users. -/
theorem credential_confines (calm : office.peers.Calm kept kind) (jurisdiction : Option String) :
    (office.credential jurisdiction).Confines kept kind := by
  cases jurisdiction with
  | none => exact Confines.fail (calm.own _ trivial)
  | some name =>
    exact credential_passes name (fun _ _ held => ⟨calm.own _ trivial, held⟩) (logIn_confines calm)

/-- Getting a credential keeps what the questions about users keep. -/
theorem credential_keeps (quiet : office.peers.Quiet kept) (jurisdiction : Option String) :
    (office.credential jurisdiction).Keeps kept :=
  (credential_confines quiet.calm jurisdiction).keeps

/-- Leasing a token is confined like the lease. -/
theorem caller_confines (calm : office.peers.Calm kept kind) (userToken : String) :
    (office.caller userToken).Confines kept kind :=
  Confines.bind calm.lease fun _ => Confines.pure _

/-- Leasing a token keeps what the lease keeps. -/
theorem caller_keeps (quiet : office.peers.Quiet kept) (userToken : String) :
    (office.caller userToken).Keeps kept :=
  (caller_confines quiet.calm userToken).keeps

/-- Looking a service up keeps everything. -/
theorem serviceNamed_keeps (name : Option String) : (office.serviceNamed name).Keeps kept := by
  unfold serviceNamed
  split
  · exact Keeps.pure _
  · exact Keeps.fail _

/-- A guard changes neither what the work assures of its value nor what it
leaves behind when it fails, and adds only a fault to its failures. -/
theorem guarded_confines {before left : σ → Prop} {done : α → σ → Prop}
    {work : Flow σ α} (ofKind : ∀ fault, kind (.faulty fault))
    (law : work.Assures before done fun failure state => kind failure ∧ left state)
    (jurisdiction : Option String) :
    (guarded jurisdiction work).Assures before done fun failure state =>
      kind failure ∧ left state := by
  refine Assures.through (Ending done fun failure state => kind failure ∧ left state)
    (Assures.attempt law) fun outcome => ?_
  split
  · exact Assures.pure _ fun _ => id
  case h_2 failure =>
    refine Assures.given fun isKind => ?_
    have again : (Flow.fail (.store failure) : Flow σ α).Assures left done fun failure state =>
        kind failure ∧ left state :=
      Assures.fail _ fun _ held => ⟨isKind, held⟩
    split
    · exact Assures.through (fun _ => left) (invalidate_confines ofKind jurisdiction) fun _ => again
    · exact again
  · exact Assures.fail _ fun _ => id

/-- A guard changes neither what the work assures of its value nor what it
leaves behind when it fails. -/
theorem guarded_assures {before : σ → Prop} {done : α → σ → Prop} {left : σ → Prop}
    {work : Flow σ α} (law : work.Assures before done fun _ => left)
    (jurisdiction : Option String) :
    (guarded jurisdiction work).Assures before done fun _ => left := by
  have confined : work.Assures before done fun _ state => True ∧ left state :=
    law.to_end (fun _ _ => id) fun _ _ => And.intro trivial
  exact (guarded_confines (fun _ => trivial) confined jurisdiction).to_end (fun _ _ => id)
    fun _ _ => And.right

/-- A guard for a jurisdiction that is named changes nothing that the work assures, for it ends
with the failure of the work. -/
theorem guarded_passes {before : σ → Prop} {done : α → σ → Prop} {failed : Failure → σ → Prop}
    {work : Flow σ α} (jurisdiction : String) (law : work.Assures before done failed) :
    (guarded (some jurisdiction) work).Assures before done failed := by
  refine Assures.attempting _ _ law fun outcome => ?_
  split
  · exact Assures.pure _ fun _ => id
  case h_2 failure =>
    have again : (Flow.fail (.store failure) : Flow σ α).Assures (failed (.store failure)) done
        failed := Assures.fail _ fun _ => id
    split
    · exact Assures.bind (invalidate_assures _ nofun) fun _ => again
    · exact again
  · exact Assures.fail _ fun _ => id

/-- A question whose failures are of a kind is confined to it. -/
theorem confines_of_kind {question : Ask σ α}
    (fails : ∀ state failure, (question state).1.result = .error failure → kind failure) :
    (Flow.ask question).Confines (fun _ => True) kind := by
  refine Assures.ask question fun state _ => ?_
  cases answered : (question state).1.result with
  | ok value => trivial
  | error failure => exact ⟨fails state failure answered, trivial⟩

/-- A question that is confined, and whose answers are known to have a property. -/
theorem ask_confines {question : Ask σ α} {fact : α → Prop}
    (law : (Flow.ask question).Confines kept kind)
    (known : ∀ state value, kept state → (question state).1.result = .ok value → fact value) :
    (Flow.ask question).Assures kept (fun value state => fact value ∧ kept state)
      fun failure state => kind failure ∧ kept state := by
  have answers : (Flow.ask question).Assures kept (fun value _ => fact value) fun _ _ => True := by
    refine Assures.ask question fun state held => ?_
    cases answered : (question state).1.result with
    | ok value => exact known state value held answered
    | error failure => trivial
  refine (answers.both law).weaken (fun _ held => ⟨held, held⟩) (fun _ _ => id) ?_
  exact fun _ _ ended => ended.2

/-- Searching is confined like the questions about users and cases, and names what
was found. -/
theorem searchIds_confines (calm : office.peers.Calm kept kind) (service : Service)
    (caseTypes field value : String) (finds : List (Option Int) → Prop)
    (found : ∀ caller state cases, kept state →
      (office.peers.cases.search caller caseTypes (matchQuery field (.str value)) state).1.result =
        .ok cases → finds (cases.map (·.id))) :
    (office.searchIds service caseTypes field value).Assures kept
      (fun ids state => finds ids ∧ kept state) fun failure state => kind failure ∧ kept state := by
  refine Assures.bind (credential_confines calm _) fun credential => ?_
  refine Assures.through (fun cases state => finds (cases.map (·.id)) ∧ kept state)
    (guarded_confines (fun _ => calm.own _ trivial) ?_ _) fun _ => Assures.pure _ fun _ => id
  refine Assures.bind (caller_confines calm _) fun caller => ?_
  exact ask_confines (calm.search caller _ _) (found caller)

/-- Searching for anything keeps what the questions about users and cases keep. -/
theorem searchIds_keeps (quiet : office.peers.Quiet kept) (service : Service)
    (caseTypes field value : String) :
    (office.searchIds service caseTypes field value).Keeps kept :=
  (searchIds_confines quiet.calm service caseTypes field value (fun _ => True)
    fun _ _ _ _ _ => trivial).to_end (fun _ _ => And.right) fun _ _ => And.right

/-- Searching by a legacy reference keeps what the questions keep. -/
theorem casesByLegacyId_keeps (quiet : office.peers.Quiet kept) (legacyId service : String) :
    (office.casesByLegacyId legacyId service).Keeps kept := by
  refine Keeps.bind (serviceNamed_keeps _) fun service => ?_
  split
  · exact Keeps.bind (Keeps.log _ _) fun _ => Keeps.pure _
  · exact searchIds_keeps quiet _ _ _ _

/-- Searching for the cases of a record is confined like the questions about users
and cases, and names what was found among those of the service. -/
theorem casesByRecord_confines (calm : office.peers.Calm kept kind) {service : Service}
    {name : Option String} (known : office.services.get name = .ok service) (recordId : String)
    (finds : List (Option Int) → Prop)
    (found : ∀ caller state cases, kept state →
      (office.peers.cases.search caller (caseTypeList service)
        (matchQuery caseRecordField (.str recordId)) state).1.result = .ok cases →
      finds (cases.map (·.id))) :
    (office.casesByRecord recordId name).Assures kept (fun ids state => finds ids ∧ kept state)
      fun failure state => kind failure ∧ kept state := by
  unfold casesByRecord serviceNamed
  simp only [known, pure_bind]
  exact searchIds_confines calm service _ _ _ finds found

variable {view : StoreView σ} {keys : String → Prop} {stored : List Case}

/-- A fetch leaves the stored cases alone, and finds one of them where fetches do. -/
theorem fetchCase_assures (faithful : Faithful office.peers view keys)
    (reference jurisdiction : String) :
    (office.fetchCase reference jurisdiction).Assures (view.Holds stored)
      (fun case state => (office.peers.FetchesStored view → case ∈ stored) ∧
        view.Holds stored state)
      (fun _ => view.Holds stored) := by
  have quiet := faithful.quiet (· = stored)
  refine Assures.bind (credential_keeps quiet _) fun credential => ?_
  refine Assures.attempting
    (fun case state => (office.peers.FetchesStored view → case ∈ stored) ∧ view.Holds stored state)
    (fun _ => view.Holds stored)
    (guarded_assures (Assures.bind (caller_keeps quiet _) fun caller => Assures.ask _ ?_) _)
    fun outcome => ?_
  · intro state held
    have kept := quiet.fetch caller reference state held
    cases answered : (office.peers.cases.fetch caller reference state).1.result with
    | error failure => exact kept
    | ok case =>
      refine ⟨fun fetches => ?_, kept⟩
      rw [← held.2]
      exact fetches caller reference state case held.1 answered
  · split
    · exact Assures.pure _ fun _ => id
    · exact Assures.fail _ fun _ => id
    · exact Assures.fail _ fun _ => id

/-- The stored cases of some types that hold a key. -/
def hits (stored : List Case) (types path : List String) (key : String) : List Case :=
  stored.filter fun case => case.isOfType types && case.holds path key

/-- The identities are those of the hits of a search, provided that the types
can be told apart in the list that names them. -/
def Found (stored : List Case) (types path : List String) (key : String)
    (ids : List (Option Int)) : Prop :=
  (∀ caseType ∈ types, ',' ∉ caseType.toList) → ids.Perm ((hits stored types path key).map (·.id))

/-- A search for a key is answered with the stored cases of the searched types that
hold it. -/
theorem found_of_search (faithful : Faithful office.peers view keys) {types path : List String}
    {key : String} (some_types : types ≠ []) (known_path : path ∈ searchPaths)
    (searched : keys key) (caller : CaseStore.Caller) (state : σ) (cases : List Case)
    (held : view.Holds stored state)
    (answered : (office.peers.cases.search caller (",".intercalate types)
      (matchQuery (dataField path) (.str key)) state).1.result = .ok cases) :
    Found stored types path key (cases.map (·.id)) := by
  intro whole_types
  have exactly := faithful.search_exact caller types path key state cases held.1 some_types
    whole_types known_path searched answered
  rw [held.2] at exactly
  exact exactly.map _

/-- A search leaves the stored cases alone and names exactly those that it is
for: the ones of the searched types that hold the key. -/
theorem searchIds_assures (faithful : Faithful office.peers view keys) (service : Service)
    {types path : List String} {key : String} (some_types : types ≠ [])
    (known_path : path ∈ searchPaths) (searched : keys key) :
    (office.searchIds service (",".intercalate types) (dataField path) key).Assures
      (view.Holds stored)
      (fun ids state => Found stored types path key ids ∧ view.Holds stored state)
      (fun _ => view.Holds stored) :=
  (searchIds_confines (faithful.quiet _).calm service _ _ _ (Found stored types path key)
    (found_of_search faithful some_types known_path searched)).to_end (fun _ _ => id)
      fun _ _ => And.right

/-- The service of a name, when there is one. -/
theorem serviceNamed_assures (name : Option String) {before : σ → Prop} :
    (office.serviceNamed name).Assures before
      (fun service state => office.services.get name = .ok service ∧ before state)
      (fun _ => before) := by
  unfold serviceNamed
  split
  case h_1 service known => exact Assures.pure service fun _ started => ⟨known, started⟩
  case h_2 unknown _ => exact Assures.fail _ fun _ => id

/-- The cases that name an envelope are found among those of its service. -/
theorem casesByEnvelope_assures (faithful : Faithful office.peers view keys)
    (searchable : office.services.Searchable) {envelopeId : String} (searched : keys envelopeId)
    (name : String) :
    (office.casesByEnvelope envelopeId name).Assures (view.Holds stored)
      (fun ids state => (∃ service, office.services.get (some name) = .ok service ∧
        Found stored service.caseTypes envelopePath envelopeId ids) ∧ view.Holds stored state)
      (fun _ => view.Holds stored) := by
  refine Assures.bind (serviceNamed_assures (some name)) fun service => Assures.given fun known => ?_
  have some_types := (searchable (some name) service known).some_types
  have field : caseEnvelopeField = dataField envelopePath := by decide
  rw [if_neg (by simpa using some_types), field]
  refine (searchIds_assures faithful service some_types (by decide) searched).to_end ?_ fun _ _ => id
  exact fun ids state found => ⟨⟨service, known, found.1⟩, found.2⟩

/-- The records of an envelope are found. -/
theorem recordsByEnvelope_assures (faithful : Faithful office.peers view keys) {envelopeId : String}
    (searched : keys envelopeId) (name : String) :
    (office.recordsByEnvelope envelopeId name).Assures (view.Holds stored)
      (fun ids state => Found stored [Service.recordCaseType name] recordEnvelopePath envelopeId ids ∧
        view.Holds stored state)
      (fun _ => view.Holds stored) := by
  refine Assures.bind (serviceNamed_assures (some name)) fun service => Assures.given fun _ => ?_
  have field : recordEnvelopeField = dataField recordEnvelopePath := by decide
  have types : Service.recordCaseType name = ",".intercalate [Service.recordCaseType name] := rfl
  rw [field, types]
  exact searchIds_assures faithful service (List.cons_ne_nil _ _) (by decide) searched

/-- A write was carried out: some start was answered, with the stored case when
it was for one, and what was drafted from the answer has been submitted. -/
def Wrote (draft : Draft) (caseType : Json) (caseRef : Option String) (stored after : List Case)
    (id : Option Int) : Prop :=
  ∃ started submission,
    (∀ reference, caseRef = some reference →
      ∃ case ∈ stored, Case.idText case.id = reference ∧ started.case = some case) ∧
    draft started = .ok submission ∧
    Submitted caseType caseRef submission.data stored after id

/-- A write that failed: nothing has changed, or it was carried out all the same. -/
def Attempted (draft : Draft) (caseType : Json) (caseRef : Option String)
    (stored after : List Case) : Prop :=
  after = stored ∨ ∃ id, Wrote draft caseType caseRef stored after id

/-- Work that carries out a write when it succeeds, and may have when it fails. -/
def Writes (work : Flow σ α) (identity : α → Option Int) (view : StoreView σ) (draft : Draft)
    (caseType : Json) (caseRef : Option String) (stored : List Case) : Prop :=
  work.Assures (view.Holds stored)
    (fun value => view.Meets fun after => Wrote draft caseType caseRef stored after (identity value))
    (fun _ => view.Meets (Attempted draft caseType caseRef stored))

/-- A state that holds the cases as they were has had nothing written to it. -/
theorem attempted_of_holds {draft : Draft} {caseType : Json} {caseRef : Option String} (state : σ)
    (held : view.Holds stored state) : view.Meets (Attempted draft caseType caseRef stored) state :=
  ⟨held.1, .inl held.2⟩

/-- The two phases write what was drafted. -/
theorem write_writes (faithful : Faithful office.peers view keys) (caller : CaseStore.Caller)
    (target : CaseStore.Target) (identified : target.Identified) (event : String) (draft : Draft)
    (context : String) :
    Writes (office.write caller target event draft context) (·.id) view draft target.caseType
      target.caseRef stored := by
  let current (started : StartedEvent) : Prop := ∀ reference, target.caseRef = some reference →
    ∃ case ∈ stored, Case.idText case.id = reference ∧ started.case = some case
  refine Assures.through (fun started state => current started ∧ view.Holds stored state)
    (Assures.ask _ fun state held => ?_) fun started => Assures.given fun isCurrent => ?_
  · have kept := faithful.start_quiet _ caller target event state held
    cases answered : (office.peers.cases.start caller target event state).1.result with
    | error failure => exact attempted_of_holds _ kept
    | ok started =>
      refine ⟨fun reference targeted => ?_, kept⟩
      rw [← held.2]
      exact faithful.start_current caller target event state started reference held.1 identified
        targeted answered
  refine Assures.after_log ?_
  refine Assures.through (fun submission state =>
    draft started = .ok submission ∧ view.Holds stored state) ?_ fun submission =>
      Assures.given fun drafted => Assures.ask _ fun state held => ?_
  · cases drafted : draft started with
    | error failure => exact Assures.fail failure attempted_of_holds
    | ok submission => exact Assures.pure submission fun _ held => ⟨rfl, held⟩
  · obtain ⟨sound, submitted⟩ := faithful.submit caller target submission state held.1
      identified
    rw [held.2] at submitted
    cases answered : (office.peers.cases.submit caller target submission state).1.result with
    | error failure =>
      rw [answered] at submitted
      refine ⟨sound, submitted.imp id ?_⟩
      exact fun ⟨id, done⟩ => ⟨id, started, submission, isCurrent, drafted, done⟩
    | ok answer =>
      rw [answered] at submitted
      exact ⟨sound, started, submission, isCurrent, drafted, submitted⟩

/-- A write with the credential of a system user is a write. -/
theorem writeAs_writes (faithful : Faithful office.peers view keys) (credential : Credential)
    (jurisdiction : String) (caseType : Json) (caseRef : Option String)
    (identified : ∀ reference, caseRef = some reference → ∃ id, Case.idText id = reference)
    (event : String) (draft : Draft) (context : String) :
    Writes (office.writeAs credential jurisdiction caseType caseRef event draft context) (·.id) view
      draft caseType caseRef stored := by
  refine guarded_assures (Assures.through (fun _ => view.Holds stored) ?_ fun caller => ?_) _
  · exact (caller_keeps (faithful.quiet _) _).to_end (fun _ _ => id) fun _ => attempted_of_holds
  · exact write_writes faithful caller ⟨_, _, _, caseRef⟩ identified event draft context

/-- Work after a credential was got, which leaves the stored cases alone. -/
theorem writes_after_credential (faithful : Faithful office.peers view keys)
    (jurisdiction : Option String) {next : Credential → Flow σ α} {identity : α → Option Int}
    {draft : Draft} {caseType : Json} {caseRef : Option String}
    (law : ∀ credential, Writes (next credential) identity view draft caseType caseRef stored) :
    Writes (office.credential jurisdiction >>= next) identity view draft caseType caseRef stored := by
  refine Assures.through (fun _ => view.Holds stored) ?_ law
  exact (credential_keeps (faithful.quiet _) _).to_end (fun _ _ => id) fun _ => attempted_of_holds

/-- The creation of a case names the case that it creates. -/
theorem createCase_writes (faithful : Faithful office.peers view keys)
    (jurisdiction caseType event : String) (draft : Draft) (context : String) :
    Writes (office.createCase jurisdiction caseType event draft context) id view draft
      (.str caseType) none stored := by
  refine writes_after_credential faithful _ fun credential => ?_
  refine Assures.bind (writeAs_writes faithful credential jurisdiction _ none (fun _ => nofun)
    event draft context) fun case => ?_
  exact Assures.pure case.id fun _ => id

/-- Attaching documents writes to the case that they are attached to. -/
theorem attachDocuments_writes (faithful : Faithful office.peers view keys) (credential : Credential)
    (jurisdiction : String) (caseType : Json) {caseRef : String}
    (identified : ∃ id, Case.idText id = caseRef) (event : String) (draft : Draft)
    (context : String) :
    (office.attachDocuments credential jurisdiction caseType caseRef event draft context).Assures
      (view.Holds stored)
      (fun _ => view.Meets fun after => ∃ id, Wrote draft caseType (some caseRef) stored after id)
      (fun _ => view.Meets (Attempted draft caseType (some caseRef) stored)) := by
  refine Assures.attempting _ _ (writeAs_writes faithful credential jurisdiction caseType
    (some caseRef) (fun _ same => Option.some.inj same ▸ identified) event draft context)
    fun outcome => ?_
  split
  · exact Assures.pure _ fun _ wrote => ⟨wrote.1, _, wrote.2⟩
  · split
    · exact Assures.fail _ fun _ => id
    · exact Assures.fail _ fun _ => id
  · exact Assures.fail _ fun _ => id

end Mailroom.Office
