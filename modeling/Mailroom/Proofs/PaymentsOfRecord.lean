import Mailroom.Proofs.RecordSession

/-!
# Payments of a record

When the payments of a record are to move to its case, a callback that creates the
case asks for it once. If that fails the callback says so, and the case stays. A
later callback finds the case and links the record without asking again, so that
the payments stay where they are. An answer that links a record with payments
therefore means that moving them was accepted, or that an earlier callback has
created the case without.
-/

namespace Mailroom

/-- A callback on a record with payments. -/
def Callback.Request.HasPayments (request : Callback.Request) : Prop :=
  OpenData.isYes ((request.record.getD {}).data.member CaseField.containsPayments) = true

/-- A command that moves the payments of a record to the case of a reference. -/
def Payments.Command.Moves (command : Payments.Command) (recordId caseReference : String) : Prop :=
  ∃ update, command = .update update ∧ update.recordId = recordId ∧
    update.caseReference = caseReference

/-- A callback that has created the case of an identity, and then has reported that its
payments could not be moved, or has failed. -/
structure Episode.LeftUnpaid (episode : Episode) (id : Option Int) : Prop where
  created : ∃ new : Case, new.id = id ∧ episode.after = episode.before ++ [new]
  unpaid : (∃ request failure, episode.task = .callback request (.error failure)) ∨
    ∃ request result, episode.task = .callback request (.ok result) ∧ result.caseId = id ∧
      result.errors = [Office.paymentsNotProcessedMessage]

namespace Office

open Mailroom.Flow Simulation

variable {σ : Type} {office : Office σ} {view : StoreView σ} {keys : String → Prop}
variable {accepted : σ → List Payments.Command} {commands further : List Payments.Command}
variable {envelope : Envelope} {record : ExceptionRecord} {service : Service} {case : Case}
variable {stored after : List Case} {episodes : List Episode} {key : String}
variable {id : Int} {caseType : Json} {request : Callback.Request} {start finish : σ}

/-- Attaching evidence keeps what the questions of it keep. -/
theorem attachEvidence_keeps {kept : σ → Prop}
    (calm : office.peers.Calm kept fun _ => True)
    (start : ∀ caller target event state, kept state →
      kept (office.peers.cases.start caller target event state).2)
    (submit : ∀ caller target submission state, kept state →
      kept (office.peers.cases.submit caller target submission state).2) :
    (office.attachEvidence envelope case).Keeps kept := by
  refine attachEvidence_of_attachTo (fun _ held => held)
    (Keeps.bind (credential_confines calm _).keeps fun credential => ?_)
  refine Keeps.bind (Keeps.attempt (guarded_assures (Keeps.bind (caller_confines calm _).keeps
    fun caller => Keeps.bind (Keeps.ask (start _ _ _)) fun started =>
      Keeps.bind (Keeps.log _ _) fun _ => Keeps.bind (Keeps.lift _) fun submission =>
        Keeps.ask (submit _ _ _)) _)) fun outcome => ?_
  split
  · exact Keeps.pure _
  · split
    · exact Keeps.fail _
    · exact Keeps.fail _
  · exact Keeps.fail _

/-- The payments of each case that names a record were moved to it, or a callback has
left them behind. -/
def Settled (key : String) (commands : List Payments.Command) (episodes : List Episode)
    (stored : List Case) : Prop :=
  ∀ case ∈ casesOf key stored,
    (∃ command ∈ commands, command.Moves key (Case.idText case.id)) ∨
    ∃ episode ∈ episodes, episode.LeftUnpaid case.id

/-- What is settled stays settled when more is done. -/
theorem Settled.later (settled : Settled key commands episodes stored) (last : Episode) :
    Settled key commands (episodes ++ [last]) stored := by
  intro case isCase
  exact (settled case isCase).imp_right fun ⟨episode, isEarlier, left⟩ =>
    ⟨episode, List.mem_append_left _ isEarlier, left⟩

/-- Evidence leaves settled what is. -/
theorem Settled.supplements (settled : Settled key commands episodes stored)
    (supplements : office.Supplements envelope stored after) :
    Settled key commands episodes after := by
  intro new isNew
  obtain ⟨isStored, holds⟩ := List.mem_filter.mp isNew
  obtain ⟨old, isOld, change⟩ := source_of_forall₂ supplements new isStored
  rw [(same_of_supplement change).1]
  exact settled old (List.mem_filter.mpr ⟨isOld, (holds_of_supplement change).symm.trans holds⟩)

/-- Where one case names a record, settling is about this case. -/
theorem settled_of_only {new : Case} (only : casesOf key stored = [new])
    (settles : (∃ command ∈ commands, command.Moves key (Case.idText new.id)) ∨
      ∃ episode ∈ episodes, episode.LeftUnpaid new.id) :
    Settled key commands episodes stored := by
  intro case isCase
  rw [only] at isCase
  rw [List.mem_singleton.mp isCase]
  exact settles

/-- A case that a failed callback has created is left unpaid. -/
theorem leftUnpaid_of_failure {new : Case} {failure : Failure} {request : Callback.Request} :
    Episode.LeftUnpaid ⟨.callback request (.error failure), stored, stored ++ [new]⟩ new.id :=
  ⟨⟨new, rfl, rfl⟩, .inl ⟨request, failure, rfl⟩⟩

/-- The account of the cases and of the accepted commands on a record. -/
abbrev settlingCourse (office : Office σ) (view : StoreView σ)
    (accepted : σ → List Payments.Command) (record : ExceptionRecord) (service : Service)
    (case : Case) (stored : List Case) (commands : List Payments.Command) : Course σ :=
  (office.faithfulCourse view record service stored).meet
    (office.paymentCourse accepted record case commands)

/-- The command that moves the payments of a record does so. -/
theorem updateCommand_moves {number : Int} (named : case.id = some number) (linked : Int) :
    (updateCommand record case linked).Moves (toString number) (Case.idText (some linked)) :=
  ⟨_, rfl, by rw [named, Case.idText_some], rfl⟩

/-- A callback that ends with a result leaves the cases of the record settled. -/
theorem Settled.concludes {number : Int} (named : record.id = toString number)
    (itsId : case.id = some number) (payments : record.containsPayments = true)
    (linkage : Linkage service record.id episodes stored)
    (settled : Settled record.id commands episodes stored) (searchable : service.Searchable)
    (within : office.TransformsWithin service) {result : Callback.Result} {state : σ}
    (concludes : (office.settlingCourse view accepted record service case stored
      commands).Concludes office record service case result state) (request : Callback.Request) :
    Settled record.id (accepted state)
      (episodes ++ [⟨.callback request (.ok result), stored, view.cases state⟩])
      (view.cases state) := by
  cases concludes with
  | existing found untouched =>
    rw [untouched.1.2, untouched.2]
    exact settled.later _
  | objected found objects untouched =>
    rw [untouched.1.2, untouched.2]
    exact settled.later _
  | nameless found created =>
    obtain ⟨new, unnamed, isNew, -⟩ := created.1.2.grown
    have named := isNew.named
    rw [unnamed] at named
    cases named
  | @linked linked _ found moved =>
    obtain ⟨-, new, newId, -, only⟩ :=
      linkage.adds within (found.1.nothing searchable.whole_types) moved.1.2
    refine settled_of_only only (.inl ⟨updateCommand record case linked, ?_, ?_⟩)
    · rw [moved.2, if_pos payments]
      exact List.mem_append_right _ (List.mem_singleton_self _)
    · rw [named, newId]
      exact updateCommand_moves itsId linked
  | @unpaid linked reason _ found unmoved =>
    obtain ⟨-, new, newId, grown, only⟩ :=
      linkage.adds within (found.1.nothing searchable.whole_types) unmoved.1.2
    refine settled_of_only only (.inr ⟨_, List.mem_append_right _ (List.mem_singleton_self _), ?_⟩)
    exact ⟨⟨new, rfl, grown⟩, .inr ⟨request, _, rfl, newId.symm, rfl⟩⟩

/-- A callback that ends with a failure leaves the cases of the record settled, if only
by having left the payments behind. -/
theorem Settled.breaks (linkage : Linkage service record.id episodes stored)
    (settled : Settled record.id commands episodes stored) (searchable : service.Searchable)
    (within : office.TransformsWithin service) {failure : Failure} {state : σ}
    (breaks : (office.settlingCourse view accepted record service case stored commands).Breaks
      failure state) (request : Callback.Request) :
    Settled record.id (accepted state)
      (episodes ++ [⟨.callback request (.error failure), stored, view.cases state⟩])
      (view.cases state) := by
  have created {linked : Option Int} (found : Found stored service.caseTypes caseRecordPath record.id [])
      (adds : office.Adds record service stored linked (view.cases state)) :
      Settled record.id (accepted state)
        (episodes ++ [⟨.callback request (.error failure), stored, view.cases state⟩])
        (view.cases state) := by
    obtain ⟨-, new, -, grown, only⟩ :=
      linkage.adds within (found.nothing searchable.whole_types) adds
    rw [grown] at only ⊢
    exact settled_of_only only (.inr ⟨_, List.mem_append_right _ (List.mem_singleton_self _),
      leftUnpaid_of_failure⟩)
  cases breaks with
  | doubtful kind doubtful =>
    rcases doubtful.1.2 with same | ⟨-, found, linked, adds⟩
    · rw [same, doubtful.2]
      exact settled.later _
    · exact created found adds
  | ambiguous found untouched =>
    rw [untouched.1.2, untouched.2]
    exact settled.later _
  | unmoved found kind unmoved unreported => exact created found.1 unmoved.1.2

variable {kind : Callback.Request → Prop}

/-- The cases of a record with payments are settled after any session on it.

Proof: by induction on the session. A case of the record comes about in one callback
only. That callback has the payments moved, or is left behind as one that has not. -/
theorem Session.settled (serves : office.ServesRecord view keys id caseType service)
    (ledger : Ledger office.peers accepted)
    (session : office.Session view kind start episodes finish)
    (onRecord : ∀ request, kind request → request.IsOn id caseType ∧ request.HasPayments)
    (sound : view.sound start) (distinct : Distinct (view.cases start))
    (unlinked : casesOf (toString id) (view.cases start) = []) :
    Settled (toString id) (accepted finish) episodes (view.cases finish) := by
  have isOn := fun request ofKind => (onRecord request ofKind).1
  induction session with
  | empty =>
    intro case isCase
    rw [unlinked] at isCase
    cases isCase
  | @callback episodes run earlier request ofKind userToken userId inductionHypothesis =>
    obtain ⟨soundBefore, linkage⟩ := earlier.linkage serves isOn sound distinct unlinked
    rcases serves.course (isOn request ofKind) userToken userId with
      ⟨outcome, halted, ends⟩ | ⟨record, named, itsId, payments, course⟩
    · rw [ends]
      exact inductionHypothesis.later _
    · have ended := course _ ((serves.lawful named).meet (paymentCourse_lawful ledger _)) run
        ⟨⟨soundBefore, rfl⟩, rfl⟩
      have paid := payments.trans (onRecord request ofKind).2
      rw [← named] at linkage inductionHypothesis ⊢
      revert ended
      cases ((office.process request userToken userId).run run).1 with
      | ok result =>
        exact fun concludes => Settled.concludes named itsId paid linkage inductionHypothesis
          serves.searchable serves.within concludes request
      | error failure =>
        exact fun breaks => Settled.breaks linkage inductionHypothesis serves.searchable
          serves.within breaks request
  | @evidence episodes run earlier envelope case inductionHypothesis =>
    obtain ⟨soundBefore, linkage⟩ := earlier.linkage serves isOn sound distinct unlinked
    have keeps : (office.attachEvidence envelope case).Keeps (accepted · = accepted run.peers) :=
      attachEvidence_keeps (calm_of_ledger ledger _)
        (fun caller target event state held => (ledger.start caller target event state).trans held)
        (fun caller target submission state held =>
          (ledger.submit caller target submission state).trans held)
    have kept := keeps run rfl
    have ended := attachEvidence_supplements serves.faithful linkage.distinct envelope case run
      ⟨soundBefore, rfl⟩
    revert kept ended
    cases ((office.attachEvidence envelope case).run run).1 <;>
      exact fun kept ended => kept ▸ inductionHypothesis.supplements ended.2

/-- An answer that links a record with payments to a case means that moving the
payments to this case was accepted, in this callback or before, or that an earlier
callback has created the case and has left the payments behind. It holds after any
session of callbacks on the record, whichever calls have failed.

Proof: a case that the callback finds is settled by the session before it, and for
one that it creates it has the payments moved before it answers. -/
theorem link_means_payments_moved_or_left
    (serves : office.ServesRecord view keys id caseType service)
    (ledger : Ledger office.peers accepted) {run : Run σ}
    (session : office.Session view (fun request => request.IsOn id caseType ∧ request.HasPayments)
      start episodes run.peers)
    (sound : view.sound start) (distinct : Distinct (view.cases start))
    (unlinked : ∀ case ∈ view.cases start, case.holds caseRecordPath (toString id) = false)
    (isOn : request.IsOn id caseType) (hasPayments : request.HasPayments)
    (userToken userId : Option String) {result : Callback.Result}
    (answered : ((office.process request userToken userId).run run).1 = .ok result)
    (filled : result.data ≠ []) :
    ∃ linked : Option Int, result.errors = [] ∧
      result.data.get? CaseField.caseReference = some (.str (Case.idText linked)) ∧
      ((∃ command ∈ accepted ((office.process request userToken userId).run run).2.peers,
        command.Moves (toString id) (Case.idText linked)) ∨
      ∃ episode ∈ episodes, episode.LeftUnpaid linked) := by
  have none : casesOf (toString id) (view.cases start) = [] := by
    simpa [casesOf, List.filter_eq_nil_iff] using unlinked
  obtain ⟨soundBefore, linkage⟩ :=
    session.linkage serves (fun _ => And.left) sound distinct none
  have settled := session.settled serves ledger (fun _ ofKind => ofKind) sound distinct none
  rcases serves.course isOn userToken userId with
    ⟨outcome, halted, ends⟩ | ⟨record, named, itsId, payments, course⟩
  · rw [ends] at answered
    obtain rfl : outcome = .ok result := answered
    exact absurd halted.1 filled
  have ended := course _ ((serves.lawful named).meet (paymentCourse_lawful ledger _)) run
    ⟨⟨soundBefore, rfl⟩, rfl⟩
  rw [answered] at ended
  cases ended with
  | @existing linked _ found untouched =>
    refine ⟨linked, rfl, (finalizes_finalized _ _).linked, ?_⟩
    obtain ⟨itsCase, single, rfl⟩ :=
      List.map_eq_singleton_iff.mp (found.1.single serves.searchable.whole_types)
    rw [named, linkage.hits_eq] at single
    rw [untouched.2]
    exact settled itsCase (single ▸ List.mem_singleton_self itsCase)
  | objected | nameless | unpaid => exact absurd rfl filled
  | @linked linked _ found moved =>
    refine ⟨some linked, rfl, (finalizes_finalized _ _).linked, .inl
      ⟨updateCommand record (request.record.getD {}) linked, ?_, updateCommand_moves itsId linked⟩⟩
    rw [moved.2, if_pos (payments.trans hasPayments)]
    exact List.mem_append_right _ (List.mem_singleton_self _)

/-- After its payments were refused, the form is linked by the second callback, which
the first one has left unpaid. -/
theorem paid_form_is_moved_or_left :
    ∃ result, paidAgain.1 = .ok result ∧ ∃ linked : Option Int, result.errors = [] ∧
      result.data.get? CaseField.caseReference = some (.str (Case.idText linked)) ∧
      ((∃ command ∈ paidAgain.2.peers.accepted,
        command.Moves (toString (7 : Int)) (Case.idText linked)) ∨
      ∃ episode ∈ paidEpisodes.take 1, episode.LeftUnpaid linked) := by
  have shown : paidAgain.1.toOption.any (fun result => !result.data.isEmpty) = true := by
    decide +kernel
  obtain ⟨result, answered, filled⟩ := ok_of_any shown
  have isOn : paidRequest.IsOn 7 paidRecord.caseType := ⟨paidRecord, rfl, rfl, rfl⟩
  have hasPayments : paidRequest.HasPayments := by
    unfold Callback.Request.HasPayments
    decide +kernel
  let run : Run PaymentsBook := { peers := { refusals := 1 } }
  have begun : (PaymentsBook.office (.ok sampleAnswer)).Session PaymentsBook.view
    (fun request => request.IsOn 7 paidRecord.caseType ∧ request.HasPayments) { refusals := 1 } []
    run.peers := .empty
  have empty : PaymentsBook.view.cases ({ refusals := 1 } : PaymentsBook) = [] := rfl
  exact ⟨result, answered, link_means_payments_moved_or_left serves_paid_record
    (PaymentsBook.ledger _)
    (.callback begun paidRequest ⟨isOn, hasPayments⟩ (some "token") (some "user"))
    CaseBook.sound_empty (empty ▸ List.nodup_nil) (by simp [empty]) isOn hasPayments (some "token")
    (some "user") answered (by simpa using filled)⟩

/-- The payments were left behind: the second callback answers without an error and
links the form to the case of the first, and no command was accepted. -/
theorem payments_are_left_behind :
    ∃ first again, (paidCallback { refusals := 1 }).1 = .ok first ∧
      first.errors = [paymentsNotProcessedMessage] ∧ paidAgain.1 = .ok again ∧ again.errors = [] ∧
      (again.data.member CaseField.caseReference).text? = some (Case.idText first.caseId) ∧
      paidAgain.2.peers.accepted = [] := by
  have shown : (paidCallback { refusals := 1 }).1.toOption.any (fun first =>
      paidAgain.1.toOption.any (fun again =>
        first.errors == [paymentsNotProcessedMessage] && again.errors.isEmpty &&
          (again.data.member CaseField.caseReference).text? == some (Case.idText first.caseId))) =
        true := by
    decide +kernel
  have unmoved : paidAgain.2.peers.accepted.length = 0 := by decide +kernel
  obtain ⟨first, firstAnswered, rest⟩ := ok_of_any shown
  obtain ⟨again, answered, holds⟩ := ok_of_any rest
  simp only [Bool.and_eq_true, beq_iff_eq, List.isEmpty_iff] at holds
  exact ⟨first, again, firstAnswered, holds.1.1, answered, holds.1.2, holds.2,
    List.length_eq_zero_iff.mp unmoved⟩

end Office
end Mailroom
