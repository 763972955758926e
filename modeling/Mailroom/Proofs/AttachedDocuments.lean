import Mailroom.Proofs.CaseMarks

/-!
# Documents that were attached

Attaching evidence appends elements to the collection of a case, one for every
document that has no duplicate there. The control number of a document is
written as it is read, so once evidence was attached, every document of the
envelope has a duplicate on the case, as far as the collection can be read.
Later evidence only appends, so this stays true.
-/

namespace Mailroom

open Mailroom.Flow

/-- A list is read when each of its elements is. -/
theorem mapM_eq_ok {ε α β : Type} {read : α → Except ε β} {items : List α} {values : List β} :
    items.mapM read = .ok values ↔
      List.Forall₂ (fun item value => read item = .ok value) items values := by
  induction items generalizing values with
  | nil =>
    rw [List.mapM_nil, List.forall₂_nil_left_iff]
    exact ⟨fun same => (Except.ok.inj same).symm, fun same => same ▸ rfl⟩
  | cons item rest inductionHypothesis =>
    rw [List.mapM_cons, List.forall₂_cons_left_iff, bind_eq_ok]
    constructor
    · rintro ⟨value, first, others⟩
      obtain ⟨values, read, written⟩ := bind_eq_ok.mp others
      exact ⟨value, values, first, inductionHypothesis.mp read, (Except.ok.inj written).symm⟩
    · rintro ⟨value, values, first, others, rfl⟩
      refine ⟨value, first, ?_⟩
      rw [inductionHypothesis.mpr others]
      rfl

/-- A list in two parts is read when both parts are. -/
theorem mapM_append_eq_ok {α β : Type} {read : α → Except Fault β} {first second : List α}
    {values : List β} (isRead : (first ++ second).mapM read = .ok values) :
    ∃ former latter, first.mapM read = .ok former ∧ second.mapM read = .ok latter ∧
      values = former ++ latter := by
  rw [List.mapM_append] at isRead
  obtain ⟨former, formerRead, rest⟩ := bind_eq_ok.mp isRead
  obtain ⟨latter, latterRead, written⟩ := bind_eq_ok.mp rest
  exact ⟨former, latter, formerRead, latterRead, (Except.ok.inj written).symm⟩

/-- Everything in a list that another was changed into one by one has a source. -/
theorem source_of_forall₂ {α β : Type} {changed : α → β → Prop} {before : List α} {after : List β}
    (changes : List.Forall₂ changed before after) :
    ∀ new ∈ after, ∃ old ∈ before, changed old new := by
  induction changes with
  | nil => simp
  | cons change _ inductionHypothesis =>
    refine List.forall_mem_cons.mpr ⟨⟨_, List.mem_cons_self, change⟩, fun new isNew => ?_⟩
    obtain ⟨old, isOld, changed⟩ := inductionHypothesis new isNew
    exact ⟨old, List.mem_cons_of_mem _ isOld, changed⟩

/-- Everything in a list is changed into something in the other. -/
theorem target_of_forall₂ {α β : Type} {changed : α → β → Prop} {before : List α} {after : List β}
    (changes : List.Forall₂ changed before after) :
    ∀ old ∈ before, ∃ new ∈ after, changed old new := by
  have flipped : List.Forall₂ (fun new old => changed old new) after before := changes.flip
  exact source_of_forall₂ flipped

/-- Every element of a list that is read has a value among those that were read. -/
theorem exists_of_mem_mapM {ε α β : Type} {read : α → Except ε β} {items : List α}
    {values : List β} (isRead : items.mapM read = .ok values) :
    ∀ item ∈ items, ∃ value ∈ values, read item = .ok value :=
  target_of_forall₂ (mapM_eq_ok.mp isRead)

/-- Every value that was read is the value of an element. -/
theorem exists_of_mapM_mem {ε α β : Type} {read : α → Except ε β} {items : List α}
    {values : List β} (isRead : items.mapM read = .ok values) :
    ∀ value ∈ values, ∃ item ∈ items, read item = .ok value :=
  source_of_forall₂ (mapM_eq_ok.mp isRead)

namespace Document

variable {store : Store} {fallback : Option Time.Moment} {document read : Document}
variable {element : Json}

/-- The control number of a document is read back from its element. -/
theorem controlNumber_of_toElement (written : toElement store fallback document = .ok element)
    (isRead : ofElement element = .ok read) : read.controlNumber = document.controlNumber := by
  obtain ⟨uuid, -, rest⟩ := bind_eq_ok.mp isRead
  obtain ⟨scannedAt, -, rest⟩ := bind_eq_ok.mp rest
  obtain ⟨deliveryDate, -, built⟩ := bind_eq_ok.mp rest
  obtain rfl : _ = read := Except.ok.inj built
  unfold toElement at written
  split at written
  · cases written
  · obtain rfl : OpenData.element _ = element := Except.ok.inj written
    rw [OpenData.elementValue_element]
    cases document.controlNumber with
    | none => rfl
    | some number => rfl

/-- The collection of a case that holds one. -/
theorem collectionOf_of_collection {data : Fields} {elements : List Json}
    (stored : data.get? CaseField.scannedDocuments = some (.arr elements)) :
    collectionOf (some data) = .ok elements := by
  change OpenData.walkFilled ((data.get? CaseField.scannedDocuments).getD .null) = .ok elements
  rw [stored]
  cases elements <;> rfl

/-- The documents of a case that holds a collection are read element by element. -/
theorem onCase_of_collection {data : Fields} {elements : List Json}
    (stored : data.get? CaseField.scannedDocuments = some (.arr elements)) :
    onCase (some data) = elements.mapM ofElement := by
  unfold onCase
  rw [collectionOf_of_collection stored]
  rfl

/-- The documents of an envelope that has been dealt with: each has a duplicate on
the case, as far as the collection of the case can be read. -/
def Carried (documents : List Document) (data : Fields) : Prop :=
  ∀ present, onCase (some data) = .ok present → notAmong present documents = []

/-- Nothing is to be added when every document has a duplicate. -/
theorem notAmong_eq_nil {present documents : List Document} :
    notAmong present documents = [] ↔
      ∀ document ∈ documents, ∃ other ∈ present, document.isDuplicateOf other = true := by
  simp [notAmong, List.filter_eq_nil_iff]

/-- Documents are among those that new ones were appended to as they were before. -/
theorem notAmong_append {present more documents : List Document}
    (none : notAmong present documents = []) : notAmong (present ++ more) documents = [] := by
  rw [notAmong_eq_nil] at none ⊢
  intro document isDocument
  obtain ⟨other, isPresent, duplicate⟩ := none document isDocument
  exact ⟨other, List.mem_append_left _ isPresent, duplicate⟩

/-- After the documents of an envelope that a case lacked were appended, each of
its documents has a duplicate there. -/
theorem notAmong_appended {present more documents : List Document} {elements : List Json}
    (written : toElements store fallback (notAmong present documents) = .ok elements)
    (isRead : elements.mapM ofElement = .ok more) : notAmong (present ++ more) documents = [] := by
  refine notAmong_eq_nil.mpr fun document isDocument => ?_
  by_cases lacking : document ∈ notAmong present documents
  · obtain ⟨element, isElement, itsElement⟩ :=
      exists_of_mem_mapM written _ lacking
    obtain ⟨other, isOther, itsValue⟩ := exists_of_mem_mapM isRead _ isElement
    refine ⟨other, List.mem_append_right _ isOther, ?_⟩
    simp [isDuplicateOf, controlNumber_of_toElement itsElement itsValue]
  · have duplicated : ∃ other ∈ present, document.isDuplicateOf other = true := by
      simpa [mem_notAmong, isDocument] using lacking
    obtain ⟨other, isPresent, duplicate⟩ := duplicated
    exact ⟨other, List.mem_append_left _ isPresent, duplicate⟩

end Document

namespace Case

variable {store : Document.Store} {envelope : Envelope} {old new : Case}

/-- What evidence leaves as the collection of a case: the former elements, and after
them those of the documents that were missing. -/
theorem Supplemented.collection (done : Supplemented store envelope old new) :
    ∃ present former elements, Document.onCase (some old.data) = .ok present ∧
      Document.collectionOf (some old.data) = .ok former ∧
      Document.toElements store envelope.deliveryDate
        (Document.notAmong present envelope.documents) = .ok elements ∧
      new.data.get? CaseField.scannedDocuments = some (.arr (former ++ elements)) := by
  obtain ⟨documents, updated, stored⟩ := done.documents
  obtain ⟨present, isRead, rest⟩ := bind_eq_ok.mp updated
  obtain ⟨elements, written, rest⟩ := bind_eq_ok.mp rest
  obtain ⟨former, collected, appended⟩ := bind_eq_ok.mp rest
  obtain rfl : former ++ elements = documents := Except.ok.inj appended
  exact ⟨present, former, elements, isRead, collected, written, stored⟩

/-- The documents of a case after evidence was attached to it: the former ones and
those that were appended. -/
theorem Supplemented.onCase_eq (done : Supplemented store envelope old new)
    {present : List Document}
    (isRead : Document.onCase (some new.data) = .ok present) :
    ∃ former elements more, Document.onCase (some old.data) = .ok former ∧
      Document.toElements store envelope.deliveryDate
        (Document.notAmong former envelope.documents) = .ok elements ∧
      elements.mapM Document.ofElement = .ok more ∧ present = former ++ more := by
  obtain ⟨former, collection, elements, formerRead, collected, written, stored⟩ := done.collection
  rw [Document.onCase_of_collection stored] at isRead
  obtain ⟨first, more, firstRead, moreRead, rfl⟩ := mapM_append_eq_ok isRead
  have sameFormer : former = first := by
    unfold Document.onCase at formerRead
    rw [collected] at formerRead
    exact Except.ok.inj (formerRead.symm.trans firstRead)
  exact ⟨former, elements, more, formerRead, written, moreRead, by rw [sameFormer]⟩

/-- After evidence was attached, the documents of its envelope are carried. -/
theorem Supplemented.carried (done : Supplemented store envelope old new) :
    Document.Carried envelope.documents new.data := by
  intro present isRead
  obtain ⟨former, elements, more, -, written, moreRead, rfl⟩ := done.onCase_eq isRead
  exact Document.notAmong_appended written moreRead

/-- Documents that are carried stay so when the evidence of any envelope is attached. -/
theorem Supplemented.keeps_carried (done : Supplemented store envelope old new)
    {documents : List Document} (carried : Document.Carried documents old.data) :
    Document.Carried documents new.data := by
  intro present isRead
  obtain ⟨former, elements, more, formerRead, -, -, rfl⟩ := done.onCase_eq isRead
  exact Document.notAmong_append (carried former formerRead)

end Case
end Mailroom
