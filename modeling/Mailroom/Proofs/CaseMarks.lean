import Mailroom.Proofs.FaithfulStore
import Mailroom.Routing

/-!
# Marks on cases

By what the data of a case says, it can be told which envelope created the case,
which envelopes changed it, which record it was created from, and which envelope
a record stands in for. A search looks for a text at the end of a path; the
writes of the mail room put whole marks there. The lemmas here carry a mark from
the data that is submitted to the case that is stored, and across an update by
another envelope.
-/

namespace Mailroom

open Simulation

namespace Simulation.CaseBook

/-- An object holds a text below a member that it has. -/
theorem memberHolds_iff {text name : String} {path : List String} (members : Fields) :
    memberHolds text name path members = true ↔
      ∃ value, members.get? name = some value ∧ holds text path value = true := by
  induction members with
  | nil => simp [memberHolds, Fields.get?]
  | cons member rest inductionHypothesis =>
    obtain ⟨key, value⟩ := member
    by_cases same : key = name <;> simp [memberHolds, Fields.get?, same, inductionHypothesis]

/-- A list holds a text below a member when one of its elements does. -/
theorem holds_elements {text name : String} {path : List String} (elements : List Json) :
    holds text (name :: path) (.arr elements) = true ↔
      ∃ element ∈ elements, holds text (name :: path) element = true := by
  have entered : holds text (name :: path) (.arr elements) =
      anyHolds text (name :: path) elements := by simp [holds]
  rw [entered]
  induction elements with
  | nil => simp [anyHolds]
  | cons element rest inductionHypothesis =>
    have tail := inductionHypothesis (by simp [holds])
    simp [anyHolds, tail]

end Simulation.CaseBook

/-- Effects are told apart by their texts. -/
theorem EnvelopeEffect.text_injective : Function.Injective EnvelopeEffect.text := by
  intro first second same
  cases first <;> cases second <;> first | rfl | simp [EnvelopeEffect.text] at same

namespace Case

/-- The identity that a text stands for. -/
def ofIdText : List Char → Option Int
  | 'N' :: _ => none
  | '-' :: figures => some (-(Nat.ofDigitChars 10 figures 0 : Int))
  | figures => some (Nat.ofDigitChars 10 figures 0 : Int)

/-- Figures stand for the number that they were written for. -/
theorem ofIdText_figures (value : Nat) : ofIdText (Nat.toDigits 10 value) = some (value : Int) := by
  have isFigure : ∀ character ∈ Nat.toDigits 10 value, character ≠ 'N' ∧ character ≠ '-' := by
    intro character isFigure
    have figure := Nat.isDigit_of_mem_toDigits (by decide) (by decide) isFigure
    constructor <;> rintro rfl <;> revert figure <;> decide
  have value := Nat.ofDigitChars_ten_toDigits (n := value)
  unfold ofIdText
  split
  case h_1 first rest written => exact absurd rfl (isFigure 'N' (by simp [written])).1
  case h_2 rest written => exact absurd rfl (isFigure '-' (by simp [written])).2
  case h_3 => rw [value]

/-- The text of an identity is that of its number. -/
theorem idText_some (id : Int) : idText (some id) = toString id := by
  simp [idText, idValue, Json.display, Json.displayForm]

/-- The text of an identity stands for that identity. -/
theorem ofIdText_idText (id : Option Int) : ofIdText (idText id).toList = id := by
  cases id with
  | none => decide
  | some id =>
    rw [idText_some, Int.toString_eq_repr, Int.repr_eq_if]
    split
    case isTrue positive =>
      simp [Nat.toList_repr, ofIdText_figures]
      omega
    case isFalse negative =>
      simp [Nat.toList_repr, ofIdText, Nat.ofDigitChars_ten_toDigits]
      omega

/-- Cases of different identities have different texts for them. -/
theorem idText_injective : Function.Injective idText := fun first second same => by
  rw [← ofIdText_idText first, ← ofIdText_idText second, same]

/-- A case holds a text below a member of its data. -/
theorem holds_iff {text name : String} {path : List String} {case : Case} :
    case.holds (name :: path) text = true ↔
      ∃ value, case.data.get? name = some value ∧ CaseBook.holds text path value = true := by
  rw [← CaseBook.memberHolds_iff]
  simp [holds, CaseBook.holds]

/-- A case holds the text that is a member of its data. -/
theorem holds_text {text name : String} {case : Case}
    (stored : case.data.get? name = some (.str text)) : case.holds [name] text = true :=
  holds_iff.mpr ⟨_, stored, by simp [CaseBook.holds]⟩

/-- The references to envelopes on a case: the envelope and what it did. -/
def references (case : Case) : List (Json × Json) :=
  match case.data.member CaseField.bulkScanEnvelopes with
  | .arr elements => elements.map fun element =>
    ((OpenData.elementValue element).member "id", (OpenData.elementValue element).member "action")
  | _ => []

/-- Whether a case refers to an envelope as one that had an effect on it. -/
def Refers (case : Case) (envelopeId : String) (effect : EnvelopeEffect) : Prop :=
  (Json.str envelopeId, Json.str effect.text) ∈ case.references

/-- The element of a collection that a reference is read from. -/
theorem refers_iff {case : Case} {envelopeId : String} {effect : EnvelopeEffect} :
    case.Refers envelopeId effect ↔
      ∃ elements, case.data.get? CaseField.bulkScanEnvelopes = some (.arr elements) ∧
        ∃ element ∈ elements,
          (OpenData.elementValue element).get? "id" = some (.str envelopeId) ∧
          (OpenData.elementValue element).get? "action" = some (.str effect.text) := by
  unfold Refers references Fields.member
  cases found : case.data.get? CaseField.bulkScanEnvelopes with
  | none => simp
  | some value =>
    cases value with
    | arr elements =>
      have isText (value : Option Json) (text : String) :
          value.getD .null = .str text ↔ value = some (.str text) := by
        cases value <;> simp
      simp [isText]
    | _ => simp

/-- A member of the value of an element is a member of an object in it. -/
theorem elementValue_get? {element value : Json} {name : String}
    (found : (OpenData.elementValue element).get? name = some value) :
    ∃ members fields, element = .obj members ∧ Fields.get? members "value" = some (.obj fields) ∧
      Fields.get? fields name = some value := by
  cases element with
  | obj members =>
    unfold OpenData.elementValue Fields.member at found
    cases known : Fields.get? members "value" with
    | none => simp [known, Fields.get?] at found
    | some inner =>
      cases inner with
      | obj fields => exact ⟨members, fields, rfl, known, by simpa [known] using found⟩
      | _ => simp [known, Fields.get?] at found
  | _ => simp [OpenData.elementValue, Fields.get?] at found

/-- What the value of an element holds in a member, the element holds at the end
of the path to it. -/
theorem holds_element {text name : String} {element value : Json}
    (found : (OpenData.elementValue element).get? name = some value)
    (holds : CaseBook.holds text [] value = true) :
    CaseBook.holds text ["value", name] element = true := by
  obtain ⟨members, fields, rfl, inner, named⟩ := elementValue_get? found
  simp only [CaseBook.holds, CaseBook.memberHolds_iff]
  refine ⟨.obj fields, inner, ?_⟩
  simp only [CaseBook.holds, CaseBook.memberHolds_iff]
  exact ⟨value, named, holds⟩

/-- A case that refers to an envelope is found by a search for it. -/
theorem holds_of_refers {case : Case} {envelopeId : String} {effect : EnvelopeEffect}
    (refers : case.Refers envelopeId effect) : case.holds envelopePath envelopeId = true := by
  obtain ⟨elements, stored, element, listed, named, -⟩ := refers_iff.mp refers
  refine holds_iff.mpr ⟨_, stored, ?_⟩
  rw [CaseBook.holds_elements]
  exact ⟨element, listed, holds_element named (by simp [CaseBook.holds])⟩

/-- The two members of a reference that was written. -/
theorem get?_entry (envelopeId action : Json) :
    (OpenData.elementValue (EnvelopeReference.entry envelopeId action)).get? "id" = some envelopeId ∧
      (OpenData.elementValue (EnvelopeReference.entry envelopeId action)).get? "action" =
        some action := by
  simp [EnvelopeReference.entry, Fields.get?]

/-- A case that was given one reference refers to that envelope and effect only. -/
theorem refers_single {case : Case} {envelopeId other : String} {effect otherEffect : EnvelopeEffect}
    (stored : case.data.get? CaseField.bulkScanEnvelopes =
      some (.arr (EnvelopeReference.single (.str envelopeId) (.str effect.text)))) :
    case.Refers other otherEffect ↔ other = envelopeId ∧ otherEffect = effect := by
  rw [refers_iff]
  constructor
  · rintro ⟨elements, found, element, listed, named, acted⟩
    obtain rfl : EnvelopeReference.single _ _ = elements :=
      Json.arr.inj (Option.some.inj (stored.symm.trans found))
    obtain rfl := List.mem_singleton.mp listed
    rw [(get?_entry _ _).1] at named
    rw [(get?_entry _ _).2] at acted
    exact ⟨(Json.str.inj (Option.some.inj named)).symm,
      EnvelopeEffect.text_injective (Json.str.inj (Option.some.inj acted)).symm⟩
  · rintro ⟨rfl, rfl⟩
    exact ⟨_, stored, _, List.mem_singleton_self _, get?_entry _ _⟩

/-- A reference that was written holds the envelope that it names. -/
theorem holds_entry {key : String} {envelopeId action : Json} :
    CaseBook.holds key ["value", "id"] (EnvelopeReference.entry envelopeId action) =
      CaseBook.holds key [] envelopeId := by
  simp [EnvelopeReference.entry, OpenData.element, CaseBook.holds, CaseBook.memberHolds]

/-- A search finds a case that was given one reference for that envelope only. -/
theorem holds_single {case : Case} {key envelopeId : String} {action : Json}
    (stored : case.data.get? CaseField.bulkScanEnvelopes =
      some (.arr (EnvelopeReference.single (.str envelopeId) action)))
    (holds : case.holds envelopePath key = true) : key = envelopeId := by
  obtain ⟨value, found, holds⟩ := holds_iff.mp holds
  obtain rfl : Json.arr _ = value := Option.some.inj (stored.symm.trans found)
  obtain ⟨element, listed, holds⟩ := (CaseBook.holds_elements _).mp holds
  obtain rfl := List.mem_singleton.mp listed
  rw [holds_entry] at holds
  have same : envelopeId = key := by simpa [CaseBook.holds] using holds
  exact same.symm

end Case

/-- Walking a list goes through its elements, walking anything else through texts. -/
theorem OpenData.walkFilled_cases {value : Json} {parts : List Json}
    (walked : OpenData.walkFilled value = .ok parts) :
    value = .arr parts ∨
      (∀ elements, value ≠ .arr elements) ∧ ∀ part ∈ parts, ∃ text, part = .str text := by
  unfold OpenData.walkFilled at walked
  cases value with
  | arr elements =>
    left
    cases elements with
    | nil => simpa [Json.isVacant] using walked
    | cons first rest => simpa [Json.isVacant, OpenData.walk] using walked
  | _ =>
    right
    refine ⟨fun _ => Json.noConfusion, fun part isPart => ?_⟩
    split at walked
    · simp_all
    · simp only [OpenData.walk, Except.ok.injEq, reduceCtorEq] at walked
      all_goals
        subst walked
        obtain ⟨source, -, rfl⟩ := List.mem_map.mp isPart
        exact ⟨_, rfl⟩

namespace EnvelopeReference

/-- A reference is read from an object in an element and holds its two members. -/
theorem ofElement?_eq_some {source element : Json} :
    ofElement? source = some element ↔
      ∃ members fields, source = .obj members ∧ Fields.get? members "value" = some (.obj fields) ∧
        element = entry (Fields.member fields "id") (Fields.member fields "action") := by
  cases source with
  | obj members =>
    unfold ofElement? Fields.member
    cases known : Fields.get? members "value" with
    | none => simp [known]
    | some inner => cases inner <;> simp [known, eq_comm]
  | _ => simp [ofElement?]

/-- The references that are taken over were read from the elements of a list. -/
theorem mem_readExisting {value element : Json} {existing : List Json}
    (read : readExisting value = .ok existing) :
    element ∈ existing ↔
      ∃ elements, value = .arr elements ∧ ∃ source ∈ elements, ofElement? source = some element := by
  unfold readExisting at read
  cases walked : OpenData.walkFilled value with
  | error fault => simp [walked] at read
  | ok parts =>
    obtain rfl : parts.filterMap ofElement? = existing := by simpa [walked] using read
    rcases OpenData.walkFilled_cases walked with rfl | ⟨isList, areTexts⟩
    · simp
    · constructor
      · intro listed
        obtain ⟨part, isPart, found⟩ := List.mem_filterMap.mp listed
        obtain ⟨text, rfl⟩ := areTexts part isPart
        simp [ofElement?] at found
      · rintro ⟨elements, rfl, -⟩
        exact absurd rfl (isList elements)

end EnvelopeReference

namespace Case

/-- A case after the evidence of an envelope was attached to it: new documents,
perhaps a new list of references, and nothing else. -/
structure Supplemented (store : Document.Store) (envelope : Envelope) (old new : Case) : Prop where
  id : new.id = old.id
  caseType : new.caseType = old.caseType
  documents : ∃ documents, Office.updatedDocuments store envelope (some old) = .ok documents ∧
    new.data.get? CaseField.scannedDocuments = some (.arr documents)
  references : new.data.get? CaseField.bulkScanEnvelopes =
      old.data.get? CaseField.bulkScanEnvelopes ∨
    ∃ references, Office.updatedReferences envelope (some old) = .ok references ∧
      new.data.get? CaseField.bulkScanEnvelopes = some (.arr references)
  others : ∀ name, name ≠ CaseField.scannedDocuments → name ≠ CaseField.bulkScanEnvelopes →
    new.data.get? name = old.data.get? name

/-- Carrying out what was drafted from a case supplements that case. -/
theorem supplemented_of_revised {σ : Type} {office : Office σ} {envelope : Envelope}
    {old new : Case} {data : Fields}
    (drafted : office.evidenceData envelope (some old) = .ok data)
    (revised : Revised data old new) : Supplemented office.documents envelope old new := by
  have apart : CaseField.scannedDocuments ≠ CaseField.bulkScanEnvelopes := by decide
  obtain ⟨documents, updated, rest⟩ := Flow.bind_eq_ok.mp drafted
  have merged := revised.data
  split at rest
  · obtain ⟨references, referred, written⟩ := Flow.bind_eq_ok.mp rest
    obtain rfl : _ ++ _ = data := Except.ok.inj written
    refine ⟨revised.id, revised.caseType, ⟨documents, updated, ?_⟩,
      .inr ⟨references, referred, ?_⟩, fun name isOther isOtherToo => ?_⟩
    · rw [merged]
      exact (Fields.get?_set_of_ne _ _ apart).trans (Fields.get?_set_self _ _ _)
    · rw [merged]
      exact Fields.get?_set_self _ _ _
    · rw [merged]
      exact (Fields.get?_set_of_ne _ _ isOtherToo).trans (Fields.get?_set_of_ne _ _ isOther)
  · obtain rfl : _ = data := Except.ok.inj rest
    refine ⟨revised.id, revised.caseType, ⟨documents, updated, ?_⟩, .inl ?_,
      fun name isOther _ => ?_⟩
    · rw [merged]
      exact Fields.get?_set_self _ _ _
    · rw [merged]
      exact Fields.get?_set_of_ne _ _ apart.symm
    · rw [merged]
      exact Fields.get?_set_of_ne _ _ isOther

section Supplemented

variable {store : Document.Store} {envelope : Envelope} {old new : Case}

/-- Evidence leaves the other members alone, and what is held below them. -/
theorem Supplemented.holds_other (done : Supplemented store envelope old new) {name text : String}
    {path : List String} (notDocuments : name ≠ CaseField.scannedDocuments)
    (notReferences : name ≠ CaseField.bulkScanEnvelopes) :
    new.holds (name :: path) text = old.holds (name :: path) text := by
  rw [Bool.eq_iff_iff, holds_iff, holds_iff, done.others name notDocuments notReferences]

/-- The elements of the references after evidence, each with its source. -/
theorem Supplemented.mem_references (done : Supplemented store envelope old new)
    {elements : List Json} {element : Json}
    (stored : new.data.get? CaseField.bulkScanEnvelopes = some (.arr elements))
    (listed : element ∈ elements) :
    element = EnvelopeReference.entry (.str envelope.id) (.str EnvelopeEffect.update.text) ∨
    ∃ former source, old.data.get? CaseField.bulkScanEnvelopes = some (.arr former) ∧
      source ∈ former ∧ (element = source ∨ EnvelopeReference.ofElement? source = some element) := by
  rcases done.references with same | ⟨references, referred, written⟩
  · exact .inr ⟨elements, element, same ▸ stored, listed, .inl rfl⟩
  · obtain ⟨existing, read, appended⟩ := Flow.bind_eq_ok.mp referred
    obtain rfl : elements = references :=
      Json.arr.inj (Option.some.inj (stored.symm.trans written))
    obtain rfl : existing ++ _ = elements := Except.ok.inj appended
    rcases List.mem_append.mp listed with before | single
    · obtain ⟨former, member, source, isSource, found⟩ :=
        (EnvelopeReference.mem_readExisting read).mp before
      refine .inr ⟨former, source, ?_, isSource, .inr found⟩
      unfold Fields.member at member
      cases known : old.data.get? CaseField.bulkScanEnvelopes with
      | none => simp [known] at member
      | some value => simpa [known] using member
    · exact .inl (List.mem_singleton.mp single)

/-- The texts in a reference that was read are those of its source. -/
theorem get?_source {source element : Json} {text : String}
    (read : EnvelopeReference.ofElement? source = some element) :
    ((OpenData.elementValue element).get? "id" = some (.str text) →
      (OpenData.elementValue source).get? "id" = some (.str text)) ∧
    ((OpenData.elementValue element).get? "action" = some (.str text) →
      (OpenData.elementValue source).get? "action" = some (.str text)) := by
  obtain ⟨members, fields, rfl, inner, rfl⟩ := EnvelopeReference.ofElement?_eq_some.mp read
  have value : OpenData.elementValue (.obj members) = fields := by
    simp [OpenData.elementValue, Fields.member, inner]
  have isText (name : String) (member : some (Fields.member fields name) = some (.str text)) :
      Fields.get? fields name = some (.str text) := by
    unfold Fields.member at member
    cases known : Fields.get? fields name <;> simp_all
  rw [value, (get?_entry _ _).1, (get?_entry _ _).2]
  exact ⟨isText "id", isText "action"⟩

/-- What a reference that was read holds, its source holds. -/
theorem holds_source {source element : Json} {key : String}
    (read : EnvelopeReference.ofElement? source = some element)
    (held : CaseBook.holds key ["value", "id"] element = true) :
    CaseBook.holds key ["value", "id"] source = true := by
  obtain ⟨members, fields, rfl, inner, rfl⟩ := EnvelopeReference.ofElement?_eq_some.mp read
  rw [holds_entry] at held
  cases known : Fields.get? fields "id" with
  | none => simp [Fields.member, known, CaseBook.holds] at held
  | some value =>
    have named : (OpenData.elementValue (.obj members)).get? "id" = some value := by
      simpa [OpenData.elementValue, Fields.member, inner] using known
    exact holds_element named (by simpa [Fields.member, known] using held)

/-- A reference that a case has is kept when evidence is attached. -/
theorem Supplemented.keeps_reference (done : Supplemented store envelope old new)
    {envelopeId : String} {effect : EnvelopeEffect} (refers : old.Refers envelopeId effect) :
    new.Refers envelopeId effect := by
  obtain ⟨former, stored, source, isSource, named, acted⟩ := refers_iff.mp refers
  rcases done.references with same | ⟨references, referred, written⟩
  · exact refers_iff.mpr ⟨former, same.trans stored, source, isSource, named, acted⟩
  · obtain ⟨existing, read, appended⟩ := Flow.bind_eq_ok.mp referred
    obtain rfl : existing ++ _ = references := Except.ok.inj appended
    have taken : EnvelopeReference.entry (.str envelopeId) (.str effect.text) ∈ existing := by
      refine (EnvelopeReference.mem_readExisting read).mpr ⟨former, ?_, source, isSource, ?_⟩
      · simp [Fields.member, stored]
      · obtain ⟨members, fields, isObject, inner, _⟩ := elementValue_get? named
        subst isObject
        refine EnvelopeReference.ofElement?_eq_some.mpr ⟨members, fields, rfl, inner, ?_⟩
        simp_all [OpenData.elementValue, Fields.member]
    exact refers_iff.mpr ⟨_, written, _, List.mem_append_left _ taken, get?_entry _ _⟩

/-- The only reference that attached evidence adds is the one to its envelope. -/
theorem Supplemented.reference_before (done : Supplemented store envelope old new)
    {envelopeId : String} {effect : EnvelopeEffect} (refers : new.Refers envelopeId effect) :
    old.Refers envelopeId effect ∨ envelopeId = envelope.id ∧ effect = .update := by
  obtain ⟨elements, stored, element, listed, named, acted⟩ := refers_iff.mp refers
  rcases done.mem_references stored listed with rfl | ⟨former, source, before, isSource, same | read⟩
  · right
    rw [(get?_entry _ _).1] at named
    rw [(get?_entry _ _).2] at acted
    exact ⟨(Json.str.inj (Option.some.inj named)).symm,
      EnvelopeEffect.text_injective (Json.str.inj (Option.some.inj acted)).symm⟩
  · exact .inl (refers_iff.mpr ⟨former, before, source, isSource, same ▸ named, same ▸ acted⟩)
  · exact .inl (refers_iff.mpr ⟨former, before, source, isSource, (get?_source read).1 named,
      (get?_source read).2 acted⟩)

/-- Attached evidence makes a case found for its own envelope only. -/
theorem Supplemented.holds_before (done : Supplemented store envelope old new) {key : String}
    (holds : new.holds envelopePath key = true) :
    old.holds envelopePath key = true ∨ key = envelope.id := by
  rcases done.references with same | ⟨references, referred, written⟩
  · left
    exact holds_iff.mpr (same ▸ holds_iff.mp holds)
  · obtain ⟨value, found, held⟩ := holds_iff.mp holds
    obtain rfl : Json.arr references = value := Option.some.inj (written.symm.trans found)
    obtain ⟨element, listed, held⟩ := (CaseBook.holds_elements _).mp held
    rcases done.mem_references written listed with
      rfl | ⟨former, source, before, isSource, same | read⟩
    · right
      rw [holds_entry] at held
      have same : envelope.id = key := by simpa [CaseBook.holds] using held
      exact same.symm
    · exact .inl (holds_iff.mpr ⟨_, before, (CaseBook.holds_elements _).mpr
        ⟨source, isSource, same ▸ held⟩⟩)
    · exact .inl (holds_iff.mpr ⟨_, before, (CaseBook.holds_elements _).mpr
        ⟨source, isSource, holds_source read held⟩⟩)

end Supplemented
end Case

/-- The data of a record names its envelope, and neither a case nor a record. -/
theorem ExceptionRecord.dataOf_marks {store : Document.Store} {envelope : Envelope} {data : Fields}
    (built : ExceptionRecord.dataOf store envelope = .ok data) :
    data.get? CaseField.envelopeId = some (.str envelope.id) ∧
      data.get? CaseField.bulkScanEnvelopes = none := by
  obtain ⟨classification, -, rest⟩ := Flow.bind_eq_ok.mp built
  obtain ⟨documents, -, written⟩ := Flow.bind_eq_ok.mp rest
  obtain rfl : _ = data := Except.ok.inj written
  exact ⟨rfl, rfl⟩

end Mailroom
