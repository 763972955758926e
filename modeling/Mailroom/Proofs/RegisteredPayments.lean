import Mailroom.Proofs.RoutingDeeds
import Mailroom.Proofs.Transcript

/-!
# Payments are registered for what happened

When an envelope has been dealt with, its payments are registered against the case or record
that it led to, in one command after all that was asked of the case store. What the envelope led
to is not taken from the result but from the transcript: the last call before the command names
the case or record, and did with it what the result says.
-/

namespace Mailroom

open Mailroom.Flow

/-- A transcript without commands about payments. -/
def Unsent (said : List Dealing) : Prop :=
  ∀ call ∈ said, call.isPayment = false

/-- Only a command about payments ends such a transcript. -/
theorem unsent_lasting : Lasting Unsent := by
  intro said call aside unsent
  exact List.forall_mem_append.mpr ⟨unsent, List.forall_mem_singleton.mpr aside⟩

/-- What has been said stays said. -/
theorem Flow.Lasting.and_mem {kept : List Dealing → Prop} (lasting : Lasting kept) (call : Dealing) :
    Lasting fun said => kept said ∧ call ∈ said :=
  fun said next aside held => ⟨lasting said next aside held.1, List.mem_append_left _ held.2⟩

namespace Office

variable {σ : Type}

/-- A call that decides what an envelope led to, and what that is. -/
inductive Decides (office : Office σ) (envelope : Envelope) : Dealing → Routed → Prop
  /-- A case was created from the envelope. -/
  | created {caller target started data submission case} (creates : target.caseRef = none)
      (drafted : caseDraft envelope.id data started = .ok submission) :
      Decides office envelope (.submit caller target submission (.ok case)) ⟨case.id, .caseCreated⟩
  /-- The one case that names the envelope was found. -/
  | found {caller types case} :
      Decides office envelope
        (.search caller types (matchQuery caseEnvelopeField (.str envelope.id)) (.ok [case]))
        ⟨case.id, .caseCreated⟩
  /-- The documents of the envelope were attached to a case. -/
  | attached {caller target started submission answer id}
      (updates : target.caseRef = some (Case.idText id))
      (drafted : office.evidenceDraft envelope started = .ok submission) :
      Decides office envelope (.submit caller target submission (.ok answer)) ⟨id, .attachedToCase⟩
  /-- A record of the envelope was filed. -/
  | filed {caller target started submission case} (creates : target.caseRef = none)
      (ofRecords : target.caseType = .str (Service.recordCaseType envelope.container))
      (drafted : office.recordDraft envelope started = .ok submission) :
      Decides office envelope (.submit caller target submission (.ok case)) ⟨case.id, .recordFiled⟩
  /-- The one record of the envelope was found. -/
  | onFile {caller case} :
      Decides office envelope
        (.search caller (Service.recordCaseType envelope.container)
          (matchQuery recordEnvelopeField (.str envelope.id)) (.ok [case]))
        ⟨case.id, .recordFiled⟩

/-- The transcript of an envelope that has been dealt with: no command about payments was sent,
the last call decided what the envelope led to, and a case to which its documents were attached
was fetched before. -/
structure DealtWith (office : Office σ) (envelope : Envelope) (routed : Routed)
    (said : List Dealing) : Prop where
  decided : EndsWith Unsent (office.Decides envelope · routed) said
  fetched : routed.action = .attachedToCase →
    ∃ caller reference case, .fetch caller reference (.ok case) ∈ said ∧ case.id = routed.caseId

variable {office : Office σ} {envelope : Envelope} {kept : List Dealing → Prop}

/-- A call that decides is no command about payments. -/
theorem Decides.aside {call : Dealing} {routed : Routed}
    (decides : office.Decides envelope call routed) : call.isPayment = false := by
  cases decides <;> rfl

/-- What lasts still holds when the last call has just decided. -/
theorem kept_of_decided (lasting : Lasting kept) {routed : Routed} {said : List Dealing}
    (decided : EndsWith kept (office.Decides envelope · routed) said) : kept said := by
  obtain ⟨earlier, call, rfl, held, decides⟩ := decided
  exact lasting _ _ decides.aside held

/-- Everything that is not attached is dealt with by the call that decides it. -/
theorem DealtWith.of_decided {routed : Routed} {said : List Dealing}
    (decided : EndsWith Unsent (office.Decides envelope · routed) said)
    (other : routed.action ≠ .attachedToCase) : office.DealtWith envelope routed said :=
  ⟨decided, fun attached => absurd attached other⟩

/-- Cases that name an envelope are searched for by questions alone, and a single one is found by
the last of them. -/
theorem casesByEnvelope_tells (lasting : Lasting kept) (office : Office σ) (envelope : Envelope) :
    (office.transcribed.casesByEnvelope envelope.id envelope.container).Tells kept
      (fun ids said => kept said ∧ ∀ id, ids = [id] →
        EndsWith kept (office.Decides envelope · ⟨id, .caseCreated⟩) said)
      (fun _ => kept) := by
  have groundwork := lasting.groundwork office
  refine Assures.bind (groundwork.serviceNamed _ _) fun service => ?_
  split
  · refine Assures.after_log (Assures.pure _ fun _ held => ⟨held, ?_⟩)
    exact fun _ => nofun
  · refine (searchIds_tells lasting office service _ _ _).to_end ?_ fun _ _ => id
    rintro ids state ⟨earlier, call, same, held, caller, cases, rfl, rfl⟩
    refine ⟨same ▸ lasting _ _ rfl held, fun id single => ?_⟩
    obtain ⟨case, rfl, rfl⟩ := List.map_eq_singleton_iff.mp single
    exact ⟨earlier, _, same, held, .found⟩

/-- Records of an envelope are searched for by questions alone, and a single one is found by the
last of them. -/
theorem recordsByEnvelope_tells (lasting : Lasting kept) (office : Office σ) (envelope : Envelope) :
    (office.transcribed.recordsByEnvelope envelope.id envelope.container).Tells kept
      (fun ids said => kept said ∧ ∀ id, ids = [id] →
        EndsWith kept (office.Decides envelope · ⟨id, .recordFiled⟩) said)
      (fun _ => kept) := by
  have groundwork := lasting.groundwork office
  refine Assures.bind (groundwork.serviceNamed _ _) fun service => ?_
  refine (searchIds_tells lasting office service _ _ _).to_end ?_ fun _ _ => id
  rintro ids state ⟨earlier, call, same, held, caller, cases, rfl, rfl⟩
  refine ⟨same ▸ lasting _ _ rfl held, fun id single => ?_⟩
  obtain ⟨case, rfl, rfl⟩ := List.map_eq_singleton_iff.mp single
  exact ⟨earlier, _, same, held, .onFile⟩

/-- A new record is decided by its submission. -/
theorem fileNewRecord_tells (lasting : Lasting kept) (office : Office σ) (envelope : Envelope) :
    (office.transcribed.fileNewRecord envelope).Tells kept
      (fun id => EndsWith kept (office.Decides envelope · ⟨id, .recordFiled⟩))
      (fun _ => kept) := by
  have groundwork := lasting.groundwork office
  refine Assures.after_log (Assures.bind (groundwork.credential _) fun credential => ?_)
  refine Assures.bind (writeAs_tells lasting office credential _ _ _ _ _ _) fun case => ?_
  refine Assures.after_log (Assures.pure _ fun state written => ?_)
  obtain ⟨earlier, call, same, held, caller, userId, started, submission, drafted, rfl⟩ := written
  exact ⟨earlier, _, same, held, .filed rfl rfl drafted⟩

/-- The record of an envelope is decided by the last call. -/
theorem fileRecord_tells (lasting : Lasting kept) (office : Office σ) (envelope : Envelope) :
    (office.transcribed.fileRecord envelope).Tells kept
      (fun id => EndsWith kept (office.Decides envelope · ⟨id, .recordFiled⟩))
      (fun _ => kept) := by
  refine Assures.bind (recordsByEnvelope_tells lasting office envelope) fun ids => ?_
  split
  · exact (fileNewRecord_tells lasting office envelope).from_start fun _ => And.left
  · exact Assures.after_log (Assures.pure _ fun _ found => found.2 _ rfl)
  · exact Assures.fail _ fun _ => And.left

/-- Attaching documents is decided by the submission of the new ones. -/
theorem attachTo_tells (lasting : Lasting kept) (office : Office σ) (envelope : Envelope)
    (case : Case) :
    (office.transcribed.attachTo envelope case).Tells kept
      (fun _ => EndsWith kept (office.Decides envelope · ⟨case.id, .attachedToCase⟩))
      (fun _ => kept) := by
  have groundwork := lasting.groundwork office
  refine Assures.bind (groundwork.credential _) fun credential => ?_
  refine Assures.attempting _ _ (writeAs_tells lasting office credential _ _ _ _ _ _) fun outcome => ?_
  split
  · refine Assures.pure _ fun state written => ?_
    obtain ⟨earlier, call, same, held, caller, userId, started, submission, drafted, rfl⟩ := written
    exact ⟨earlier, _, same, held, .attached rfl drafted⟩
  · split
    · exact Assures.fail _ fun _ => id
    · exact Assures.fail _ fun _ => id
  · exact Assures.fail _ fun _ => id

/-- Evidence that was attached is decided by the last call. -/
theorem attachEvidence_tells (lasting : Lasting kept)
    (unsent : ∀ said, kept said → Unsent said) (office : Office σ) (envelope : Envelope)
    (case : Case) :
    (office.transcribed.attachEvidence envelope case).Tells kept
      (fun attached said => Unsent said ∧ (attached = true →
        EndsWith kept (office.Decides envelope · ⟨case.id, .attachedToCase⟩) said))
      (fun _ => Unsent) := by
  have groundwork := lasting.groundwork office
  refine Assures.bind ((groundwork.reading _).to_end (fun _ _ => id) fun _ _ => unsent _)
    fun existing => ?_
  split
  · exact Assures.after_log (Assures.pure _ fun _ held => ⟨unsent _ held, nofun⟩)
  · refine Assures.after_log (Assures.attempting _ _ (attachTo_tells lasting office envelope case)
      fun outcome => ?_)
    split
    · refine Assures.after_log (Assures.pure _ fun state written => ⟨?_, fun _ => written⟩)
      obtain ⟨earlier, call, same, held, decides⟩ := written
      exact same ▸ unsent_lasting _ _ decides.aside (unsent _ held)
    · split
      · exact Assures.after_log (Assures.pure _ fun _ held => ⟨unsent _ held, nofun⟩)
      · exact Assures.fail _ fun _ => unsent _

/-- A case that is found was fetched. -/
def WasFetched (case : Case) (said : List Dealing) : Prop :=
  ∃ caller reference, Unsent said ∧ .fetch caller reference (.ok case) ∈ said

/-- What was fetched stays fetched. -/
theorem fetched_lasting (case : Case) : Lasting (WasFetched case) := by
  rintro said call aside ⟨caller, reference, fetched⟩
  exact ⟨caller, reference, unsent_lasting.and_mem _ said call aside fetched⟩

/-- A fetch is in the transcript of what comes of it. -/
theorem fetchCase_fetches (office : Office σ) (reference jurisdiction : String) :
    (office.transcribed.fetchCase reference jurisdiction).Tells Unsent WasFetched (fun _ => Unsent) := by
  refine (fetchCase_tells unsent_lasting office reference jurisdiction).to_end ?_ fun _ _ => id
  rintro case state ⟨earlier, call, same, unsent, caller, rfl⟩
  refine ⟨caller, reference, same ▸ unsent_lasting _ _ rfl unsent, ?_⟩
  rw [same]
  exact List.mem_append_right _ (List.mem_singleton_self _)

/-- The case of an envelope is one that was fetched, so what every fetch tells of its case is told
of this one. -/
theorem findCase_tells_of (lasting : Lasting kept) {told : Case → List Dealing → Prop}
    (holds : ∀ case said, told case said → kept said) (office : Office σ)
    (fetches : ∀ reference jurisdiction,
      (office.transcribed.fetchCase reference jurisdiction).Tells kept told (fun _ => kept))
    (envelope : Envelope) :
    (office.transcribed.findCase envelope).Tells kept
      (fun found said => kept said ∧ ∀ case, found = some case → told case said)
      (fun _ => kept) := by
  have none_found : Assures (σ := σ × List Dealing) (pure none) (fun state => kept state.2)
      (fun found state => kept state.2 ∧ ∀ case, found = some case → told case state.2)
      (fun _ state => kept state.2) :=
    Assures.pure _ fun _ held => ⟨held, fun _ => nofun⟩
  have found {case : Case} {said : List Dealing} (fetched : told case said) :
      kept said ∧ ∀ other, some case = some other → told other said := by
    refine ⟨holds case said fetched, fun other same => ?_⟩
    rwa [← Option.some.inj same]
  refine Assures.through (fun found state => kept state.2 ∧ ∀ case, found = some case →
    told case state.2) ?_ fun byReference => ?_
  · unfold findByReference
    split
    · exact none_found
    · split
      · exact none_found
      · refine Assures.attempting _ _ (fetches _ _) fun outcome => ?_
        split
        · exact Assures.pure _ fun _ => found
        · exact Assures.after_log none_found
        · exact Assures.after_log none_found
        · exact Assures.fail _ fun _ => id
  · split
    · exact Assures.pure _ fun _ => id
    · refine Assures.from_start ?_ fun _ => And.left
      split
      · exact none_found
      · split
        · exact none_found
        · have groundwork := lasting.groundwork office
          refine Assures.bind (groundwork.routing.searchServiceCases _ _ _ _) fun ids => ?_
          split
          · exact none_found
          · exact Assures.bind (fetches _ _) fun case => Assures.pure _ fun _ => found
          · exact Assures.after_log none_found

/-- The case of an envelope is one that was fetched. -/
theorem findCase_tells (office : Office σ) (envelope : Envelope) :
    (office.transcribed.findCase envelope).Tells Unsent
      (fun found said => Unsent said ∧ ∀ case, found = some case → WasFetched case said)
      (fun _ => Unsent) :=
  findCase_tells_of unsent_lasting (fun _ _ fetched => fetched.choose_spec.choose_spec.1) office
    (fetchCase_fetches office) envelope

/-- An outcome that has a case is decided by the last call, after something that lasts. -/
def Grounded (kept : List Dealing → Prop) (office : Office σ) (envelope : Envelope)
    (outcome : CreationOutcome) (said : List Dealing) : Prop :=
  kept said ∧ (outcome.hasCase →
    EndsWith kept (office.Decides envelope · ⟨outcome.caseId, .caseCreated⟩) said)

/-- An outcome without a case needs no ground. -/
theorem grounded_of_caseless {outcome : CreationOutcome} {said : List Dealing}
    (without : outcome.hasCase = false) (held : kept said) :
    office.Grounded kept envelope outcome said :=
  ⟨held, fun has => by rw [without] at has; cases has⟩

/-- A case is created by the last call, or there is none. -/
theorem createFromAnswer_tells (lasting : Lasting kept) (office : Office σ) (envelope : Envelope)
    (context : String) (answer : Transformation.Answer) :
    (office.transcribed.createFromAnswer envelope context answer).Tells kept
      (office.Grounded kept envelope) (fun _ => kept) := by
  have groundwork := lasting.groundwork office
  refine Assures.attempting (fun id state => EndsWith kept
    (office.Decides envelope · ⟨id, .caseCreated⟩) state.2) (fun _ state => kept state.2)
    ?_ fun outcome => ?_
  · refine Assures.bind (groundwork.credential _) fun credential => ?_
    refine Assures.bind (writeAs_tells lasting office credential _ _ _ _ _ _) fun case => ?_
    refine Assures.pure _ fun state written => ?_
    obtain ⟨earlier, call, same, held, caller, userId, started, submission, drafted, rfl⟩ := written
    exact ⟨earlier, _, same, held, .created rfl drafted⟩
  · split
    · exact Assures.after_log (Assures.pure _ fun _ decided =>
      ⟨kept_of_decided lasting decided, fun _ => decided⟩)
    · exact (creationFailureOutcome_assures context _).to_end
        (fun _ _ ended => grounded_of_caseless ended.1 ended.2) fun _ _ => id

/-- A case is created or found by the last call, or there is none. -/
theorem createUnlessExists_tells (lasting : Lasting kept) (office : Office σ) (envelope : Envelope)
    (context : String) :
    (office.transcribed.createUnlessExists envelope context).Tells kept
      (office.Grounded kept envelope) (fun _ => kept) := by
  have parts := (lasting.groundwork office).routing
  refine Assures.bind (casesByEnvelope_tells lasting office envelope) fun ids => ?_
  split
  · refine Assures.from_start ?_ fun _ => And.left
    refine Assures.attempting (fun _ (state : σ × List Dealing) => kept state.2)
      (fun _ state => kept state.2) (parts.transformEnvelope _ _) fun outcome => ?_
    split
    · exact createFromAnswer_tells lasting office envelope _ _
    · exact (transformationOutcome_assures context _).to_end
        (fun _ _ ended => grounded_of_caseless ended.1 ended.2) fun _ _ => id
  · exact Assures.after_log (Assures.pure _ fun _ found => ⟨found.1, fun _ => found.2 _ rfl⟩)
  · exact Assures.after_log (Assures.pure _ fun _ found => grounded_of_caseless rfl found.1)

/-- An automatic creation has its ground when it has a case. -/
theorem createAutomatically_tells (lasting : Lasting kept) (office : Office σ)
    (envelope : Envelope) :
    (office.transcribed.createAutomatically envelope).Tells kept (office.Grounded kept envelope)
      (fun _ => kept) := by
  have parts := (lasting.groundwork office).routing
  have counted (outcome : CreationOutcome) :
      (Flow.count (.caseCreation envelope.container outcome.name) >>= fun _ => pure outcome :
        Flow (σ × List Dealing) CreationOutcome).Tells (office.Grounded kept envelope outcome)
        (office.Grounded kept envelope) (fun _ => kept) :=
    Assures.through (fun _ state => office.Grounded kept envelope outcome state.2)
      (Assures.count _ fun _ => id) fun _ => Assures.pure _ fun _ => id
  refine Assures.after_log (Assures.bind (parts.serviceNamed _ _) fun service => ?_)
  dsimp only
  split
  · exact Assures.bind (createUnlessExists_tells lasting office envelope _) counted
  · refine Assures.after_log (Assures.bind ?_ counted)
    exact Assures.pure _ fun _ => grounded_of_caseless rfl

/-- The commands that register the payments of an envelope: one, unless there are none. -/
def registration (envelope : Envelope) (caseId : Option Int) (isRecord : Bool) : List Dealing :=
  if envelope.payments.isEmpty then []
  else [.pay (.create (createCommand envelope caseId isRecord)) (.ok ())]

/-- The transcript of work that failed: no command about payments was accepted, and only the last
call may be one. -/
def Unregistered (failure : Failure) (said : List Dealing) : Prop :=
  ∃ before, Unsent before ∧
    (said = before ∨ ∃ command, said = before ++ [.pay command (.error failure)])

/-- Work that failed before a command was sent. -/
theorem unregistered_of_unsent {failure : Failure} {said : List Dealing} (unsent : Unsent said) :
    Unregistered failure said :=
  ⟨said, unsent, .inl rfl⟩

/-- The transcript of an envelope that was dealt with and then registered. -/
def Registered (office : Office σ) (envelope : Envelope) (isRecord : Bool) (routed : Routed)
    (said : List Dealing) : Prop :=
  ∃ before, office.DealtWith envelope routed before ∧
    said = before ++ registration envelope routed.caseId isRecord

/-- What an envelope led to is registered with the payments after it was dealt with. -/
theorem registerPayments_tells (office : Office σ) (envelope : Envelope) (routed : Routed)
    (isRecord : Bool) :
    (office.transcribed.registerPayments envelope routed.caseId isRecord).Tells
      (office.DealtWith envelope routed) (fun _ => office.Registered envelope isRecord routed)
      Unregistered := by
  unfold registerPayments
  split
  case isTrue without =>
    exact Assures.log _ _ fun state dealtWith =>
      ⟨state.2, dealtWith, by rw [registration, if_pos without, List.append_nil]⟩
  case isFalse some =>
    refine Assures.after_log ?_
    refine ask_tells (.pay (.create (createCommand envelope routed.caseId isRecord))) _
      fun said answer dealtWith => ?_
    cases answer with
    | ok done => exact ⟨said, dealtWith, by rw [registration, if_neg some]⟩
    | error failure =>
      exact ⟨said, kept_of_decided unsent_lasting dealtWith.decided, .inr ⟨_, rfl⟩⟩

/-- What an envelope led to is the result, once it is registered. -/
theorem register_tells (office : Office σ) (envelope : Envelope) (routed : Routed) (isRecord : Bool)
    (agrees : isRecord = decide (routed.action = .recordFiled)) :
    (office.transcribed.registerPayments envelope routed.caseId isRecord >>= fun _ =>
      pure routed).Tells (office.DealtWith envelope routed)
      (fun routed => office.Registered envelope (decide (routed.action = .recordFiled)) routed)
      Unregistered := by
  subst agrees
  exact Assures.bind (registerPayments_tells office envelope routed _) fun _ =>
    Assures.pure _ fun _ => id

/-- An envelope that gets a record is registered with it. -/
theorem routeToRecord_tells (office : Office σ) (envelope : Envelope) :
    (office.transcribed.routeToRecord envelope).Tells Unsent
      (fun routed => office.Registered envelope (decide (routed.action = .recordFiled)) routed)
      Unregistered := by
  refine Assures.bind ((fileRecord_tells unsent_lasting office envelope).to_end (fun _ _ => id) fun _ _ =>
    unregistered_of_unsent) fun recordId => ?_
  exact (register_tells office envelope ⟨recordId, .recordFiled⟩ true rfl).from_start
    fun _ decided => .of_decided decided nofun

/-- An envelope that is routed is registered with what it led to. -/
theorem route_tells (office : Office σ) (envelope : Envelope) :
    (office.transcribed.route envelope).Tells Unsent
      (fun routed => office.Registered envelope (decide (routed.action = .recordFiled)) routed)
      Unregistered := by
  have unregistered : ∀ failure (state : σ × List Dealing), Unsent state.2 →
      Unregistered failure state.2 := fun _ _ => unregistered_of_unsent
  unfold route
  split
  · refine Assures.bind ((findCase_tells office envelope).to_end (fun _ _ => id) unregistered)
      fun found => ?_
    split
    · exact (routeToRecord_tells office envelope).from_start fun _ => And.left
    case h_2 case =>
      have attaches := attachEvidence_tells (fetched_lasting case)
        (fun _ fetched => fetched.choose_spec.choose_spec.1) office envelope case
      refine Assures.from_start (Assures.bind (attaches.to_end (fun _ _ => id) unregistered)
        fun attached => ?_) fun _ found => found.2 case rfl
      split
      case isTrue isAttached =>
        refine (register_tells office envelope ⟨case.id, .attachedToCase⟩ false rfl).from_start ?_
        rintro state ⟨-, decided⟩
        obtain ⟨earlier, call, same, ⟨caller, reference, unsent, fetched⟩, decides⟩ :=
          decided isAttached
        refine ⟨⟨earlier, call, same, unsent, decides⟩, fun _ => ⟨caller, reference, case, ?_, rfl⟩⟩
        rw [same]
        exact List.mem_append_left _ fetched
      case isFalse =>
        exact Assures.after_log ((routeToRecord_tells office envelope).from_start fun _ => And.left)
  · exact routeToRecord_tells office envelope
  · exact routeToRecord_tells office envelope
  · refine Assures.bind ((createAutomatically_tells unsent_lasting office envelope).to_end
      (fun _ _ => id) unregistered) fun outcome => ?_
    split
    case isTrue has =>
      exact (register_tells office envelope ⟨outcome.caseId, .caseCreated⟩ false rfl).from_start
        fun _ grounded => .of_decided (grounded.2 has) nofun
    case isFalse =>
      exact (routeToRecord_tells office envelope).from_start fun _ => And.left
  · exact Assures.fail _ fun _ => unregistered_of_unsent

/-- Payments are registered for what happened. When routing an envelope ends with a case or a
record, its payments were registered against it in one command, the last call of all, and none
was sent for an envelope without payments; the call before named the case or record, and did with
it what the result says. When the routing fails, no command was accepted. An envelope of unknown
classification fails with nobody asked.

Proof: what an operation on the case store leaves at the end of the transcript is carried along
the routing, and no operation before the registration sends a command. -/
theorem payments_name_what_happened (office : Office σ) (envelope : Envelope) (run : Run σ) :
    let start := run.withPeers (run.peers, [])
    let ended := (office.transcribed.route envelope).run start
    (match ended.1 with
    | .ok routed => ∃ earlier decisive,
      Unsent (earlier ++ [decisive]) ∧ office.Decides envelope decisive routed ∧
      (routed.action = .attachedToCase → ∃ caller reference case,
        .fetch caller reference (.ok case) ∈ earlier ∧ case.id = routed.caseId) ∧
      ended.2.peers.2 = earlier ++ [decisive] ++
        if envelope.payments.isEmpty then []
        else [.pay (.create {
          envelopeId := envelope.id
          reference := Case.idText routed.caseId
          jurisdiction := envelope.jurisdiction
          service := envelope.container
          poBox := envelope.poBox
          isRecord := decide (routed.action = .recordFiled)
          controlNumbers := envelope.payments }) (.ok ())]
    | .error failure => ∃ before, Unsent before ∧
      (ended.2.peers.2 = before ∨
        ∃ command, ended.2.peers.2 = before ++ [.pay command (.error failure)])) ∧
    (envelope.classification.classification? = none →
      ended = (.error (.unknownClassification envelope.classification.text), start)) := by
  intro start ended
  refine ⟨?_, fun unknown => ?_⟩
  · have told := route_tells office envelope start fun _ said => absurd said List.not_mem_nil
    change Ending _ _ ended.1 ended.2.peers at told
    revert told
    cases ended.1 with
    | error failure => exact id
    | ok routed =>
      rintro ⟨before, ⟨⟨earlier, decisive, rfl, unsent, decides⟩, fetched⟩, said⟩
      refine ⟨earlier, decisive, unsent_lasting _ _ decides.aside unsent, decides, fun attached => ?_,
        said⟩
      obtain ⟨caller, reference, case, isSaid, same⟩ := fetched attached
      refine ⟨caller, reference, case, ?_, same⟩
      -- The decisive call is a submission or a search, and so not the fetch.
      rcases List.mem_append.mp isSaid with before | last
      · exact before
      · obtain rfl := List.mem_singleton.mp last
        cases decides
  · show (office.transcribed.route envelope).run start = _
    unfold route
    rw [unknown]
    rfl

end Office
end Mailroom
