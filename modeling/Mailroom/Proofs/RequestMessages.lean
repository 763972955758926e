import Mailroom.Proofs.AttachedDocuments
import Mailroom.Proofs.RecordDetour
import Mailroom.Proofs.StoredMoments
import Mailroom.Proofs.WireMoments
import Mailroom.Transformation.RequestMessage

/-!
# Requests that read back

What the mail room sends to a transformation service is the request and nothing
else: whoever checks the message gets the very request that was written. This needs
the moments in it to exist and to have offsets in whole minutes. Those of a request
that was accepted from a message do, so what was accepted once is accepted again as
the same request. So do those of the request for an envelope that was accepted from a
message: they are the moments of the envelope, and those of its documents as case data
holds them.
-/

namespace Mailroom.Schema

variable {α β : Type}

/-- A change of an accepted value is accepted. -/
@[simp]
theorem map_accepted (change : α → β) (value : α) :
    change <$> Checked.accepted value = .accepted (change value) := rfl

/-- Accepted values are put together. -/
@[simp]
theorem seq_accepted (change : α → β) (value : α) :
    Checked.accepted change <*> Checked.accepted value = .accepted (change value) := rfl

/-- What is accepted is accepted wherever it stands. -/
@[simp]
theorem inside_accepted (value : α) (step : Step) :
    (Checked.accepted value).inside step = .accepted value := rfl

/-- A member is checked where its name is, -/
@[simp]
theorem memberOr_cons_self (name : String) (written : Json) (members : Fields)
    (check : Json → Checked α) (absent : Checked α) :
    memberOr ((name, written) :: members) [name] check absent =
      (check written).inside (.member name) := by
  simp [memberOr, firstMember?, Fields.get?]

/-- and members with other names are passed over. -/
@[simp]
theorem memberOr_cons_of_ne {other name : String} (different : other ≠ name) (written : Json)
    (members : Fields) (check : Json → Checked α) (absent : Checked α) :
    memberOr ((other, written) :: members) [name] check absent =
      memberOr members [name] check absent := by
  simp [memberOr, firstMember?, Fields.get?, different]

/-- A value that is not null is accepted where null is as well. -/
theorem nullable_of_accepted {check : Json → Checked α} {written : Json} {value : α}
    (filled : written ≠ .null) (accepted : check written = .accepted value) :
    nullable check written = .accepted (some value) := by
  rw [nullable, accepted]
  · rfl
  · exact filled

/-- A list is accepted as it was written when each element of it is. -/
theorem list_written {check : Json → Checked α} {write : α → Json} {items : List α}
    (each : ∀ item ∈ items, check (write item) = .accepted item) :
    list check (.arr (items.map write)) = .accepted items := by
  suffices accepted : ∀ index, checkElements check index (items.map write) = .accepted items from
    accepted 0
  induction items with
  | nil => exact fun _ => rfl
  | cons item items inductionHypothesis =>
    intro index
    obtain ⟨first, others⟩ := List.forall_mem_cons.mp each
    rw [List.map_cons, checkElements, first, inductionHypothesis others]
    rfl

end Mailroom.Schema

namespace Mailroom.Transformation

open Schema

/-- The moments of a document can be sent as they are. -/
structure RequestDocument.Sendable (document : RequestDocument) : Prop where
  scannedAt : ∀ moment ∈ document.scannedAt, moment.Sendable
  deliveryDate : ∀ moment ∈ document.deliveryDate, moment.Sendable

/-- The moments of a request can be sent as they are, those of its documents as well. -/
structure Request.Sendable (request : Request) : Prop where
  deliveryDate : ∀ moment ∈ request.deliveryDate, moment.Sendable
  openingDate : ∀ moment ∈ request.openingDate, moment.Sendable
  documents : ∀ document ∈ request.documents, document.Sendable

/-- A moment is accepted as it was written, and so is none. -/
theorem nullable_momentValue {said : Option Time.Moment}
    (sendable : ∀ moment ∈ said, moment.Sendable) :
    nullable moment (momentValue said) = .accepted said := by
  cases said with
  | none => rfl
  | some said => exact nullable_of_accepted (by rintro ⟨⟩) (moment_wireText (sendable said rfl))

/-- An address is read back. -/
theorem checkAddress_toJson (address : Address) :
    checkAddress address.toJson = .accepted address := by
  simp [checkAddress, Address.toJson, model, required, maybe, Schema.optional, text,
    nullable_text_ofText?]

/-- A document is read back. -/
theorem checkRequestDocument_toJson {document : RequestDocument} (sendable : document.Sendable) :
    checkRequestDocument document.toJson = .accepted document := by
  have address : nullable checkAddress ((document.address.map Address.toJson).getD .null) =
      .accepted document.address := by
    cases document.address with
    | none => rfl
    | some address => exact nullable_of_accepted (by rintro ⟨⟩) (checkAddress_toJson address)
  simp [checkRequestDocument, RequestDocument.toJson, model, maybe, Schema.optional,
    nullable_text_ofText?, address, nullable_momentValue sendable.scannedAt,
    nullable_momentValue sendable.deliveryDate]

/-- A form field is read back. -/
theorem checkRequestField_toJson (field : OcrField) :
    checkRequestField field.toJson = .accepted field := by
  simp [checkRequestField, OcrField.toJson, model, required, maybe, Schema.optional, text,
    nullable_text_ofText?]

/-- A request is read back from its message: no member is lost, renamed or taken for another. -/
theorem checkRequest_toJson {request : Request} (sendable : request.Sendable) :
    checkRequest request.toJson = .accepted request := by
  have documents := list_written fun document isDocument =>
    checkRequestDocument_toJson (sendable.documents document isDocument)
  have fields := list_written fun field (_ : field ∈ request.ocrData) =>
    checkRequestField_toJson field
  simp [checkRequest, Request.toJson, model, required, maybe, Schema.optional, text, boolean,
    nullable_text_ofText?, documents, fields, nullable_momentValue sendable.deliveryDate,
    nullable_momentValue sendable.openingDate]

/-- The moments of a document that was accepted can be sent as they are. -/
theorem checkRequestDocument_ensures (message : Json) :
    (checkRequestDocument message).Ensures RequestDocument.Sendable := by
  unfold checkRequestDocument model
  split
  case h_2 => exact refuse_ensures _
  case h_1 members =>
    -- the members from the last one to the first
    refine seq_ensures ?_ (maybe_ensures moment_ensures_sendable members "delivery_date")
    refine seq_ensures ?_ (maybe_ensures moment_ensures_sendable members "scanned_date")
    refine seq_ensures_of_any (seq_ensures_of_any (seq_ensures_of_any (seq_ensures_of_any ?_)))
    exact map_ensures fun _ _ _ _ _ _ scanned _ delivered => ⟨scanned, delivered⟩

/-- The moments of a request that was accepted can be sent as they are. -/
theorem checkRequest_ensures (message : Json) :
    (checkRequest message).Ensures Request.Sendable := by
  unfold checkRequest model
  split
  case h_2 => exact refuse_ensures _
  case h_1 members =>
    -- the members from the last one to the first
    refine seq_ensures_of_any ?_
    refine seq_ensures ?_ (memberOr_ensures (list_ensures checkRequestDocument_ensures) ?_)
    rotate_left
    · rintro _ ⟨⟩
      exact List.forall_mem_nil _
    refine seq_ensures ?_ (maybe_ensures moment_ensures_sendable members "opening_date")
    refine seq_ensures ?_ (maybe_ensures moment_ensures_sendable members "delivery_date")
    refine seq_ensures_of_any (seq_ensures_of_any (seq_ensures_of_any (seq_ensures_of_any ?_)))
    refine seq_ensures_of_any (seq_ensures_of_any (seq_ensures_of_any ?_))
    refine map_ensures fun _ _ _ _ _ _ _ _ _ delivered _ opened _ each _ => ?_
    exact ⟨delivered, opened, each⟩

/-- A request that was accepted from any message is accepted as the same from its own. -/
theorem checkRequest_again {message : Json} {request : Request}
    (accepted : checkRequest message = .accepted request) :
    checkRequest request.toJson = .accepted request :=
  checkRequest_toJson (checkRequest_ensures message request accepted)

/-- A moment as case data holds it can be sent as it is. -/
theorem sendable_onClock {moment : Time.Moment} (valid : moment.isValid = true) :
    (Document.onClock moment).Sendable where
  valid := OpenData.isValid_of_readIsoText (Time.readIsoText_localText valid)
  inMinutes := by rintro _ ⟨⟩

/-- The moments of a document that a request takes from case data can be sent as they are. -/
theorem sendable_onClocks {said : Option Time.Moment}
    (valid : ∀ moment ∈ said, moment.isValid = true) :
    ∀ moment ∈ said.map Document.onClock, moment.Sendable := by
  intro moment isMoment
  obtain ⟨written, isWritten, rfl⟩ := Option.map_eq_some_iff.mp isMoment
  exact sendable_onClock (valid written isWritten)

/-- The request for a sound envelope can be sent if the moments of the envelope can. -/
theorem Request.sendable_ofEnvelope {store : Document.Store} {envelope : Envelope}
    {request : Request} (sound : envelope.Sound)
    (delivered : ∀ moment ∈ envelope.deliveryDate, moment.Sendable)
    (opened : ∀ moment ∈ envelope.openingDate, moment.Sendable)
    (built : ofEnvelope store envelope = .ok request) : request.Sendable := by
  obtain ⟨classification, -, built⟩ := Flow.bind_eq_ok.mp built
  obtain ⟨documents, read, built⟩ := Flow.bind_eq_ok.mp built
  obtain rfl := Except.ok.inj built
  refine ⟨delivered, opened, fun each isEach => ?_⟩
  obtain ⟨document, isDocument, read⟩ := exists_of_mapM_mem read each isEach
  have dated := sound.dated document isDocument
  cases written : document.toElement store envelope.deliveryDate with
  | error fault => rw [written] at read; cases read
  | ok element =>
    rw [written] at read
    obtain ⟨-, direct, isDirect, scanned, delivered⟩ :=
      documentOf_toElement (sound.named document isDocument) dated written
    obtain rfl := Except.ok.inj (isDirect.symm.trans read)
    refine ⟨?_, ?_⟩
    · rw [scanned]
      exact sendable_onClocks dated.1
    · rw [delivered]
      exact sendable_onClocks dated.2

/-- The request for an envelope that was accepted is sent as it was built: whoever checks the
message gets this request. -/
theorem envelope_request_reads_back {message : Json} {store : Document.Store}
    {envelope : Envelope} {request : Request}
    (accepted : Envelope.checkMessage message = .accepted envelope)
    (built : Request.ofEnvelope store envelope = .ok request) :
    checkRequest request.toJson = .accepted request := by
  obtain ⟨-, -, delivered, opened⟩ :=
    Envelope.checkMessage_announces moment_ensures_sendable message envelope accepted
  have sound := Envelope.checkMessage_ensures message envelope accepted
  exact checkRequest_toJson (Request.sendable_ofEnvelope sound delivered opened built)

end Mailroom.Transformation
