import Mailroom.Proofs.CallbackDeeds
import Mailroom.Proofs.CaseBookFaithful
import Mailroom.Proofs.History
import Mailroom.Simulation.Scripted

/-!
# A mail room in memory

A mail room whose store is in memory and whose other collaborators grant whatever
they are asked for; every transformation has the same answer. It is a setting of
deliveries and serves callbacks on any record as soon as its services are configured
well and the answer fits them.
-/

namespace Mailroom.Simulation

/-- Collaborators with a store in memory, of which nothing else is refused. -/
def peersInMemory (answer : Transformation.Answer) : Peers CaseBook where
  cases := CaseBook.questions id fun book _ => book
  login _ book := (.answer "user token", book)
  userDetails _ book := (.answer ⟨.str "user", .null⟩, book)
  lease book := (.answer "service token", book)
  transform _ _ _ book := (.answer answer, book)
  pay _ book := (.answer (), book)

/-- A mail room that works with such collaborators. -/
def officeInMemory (services : List Service) (users : List (String × Login))
    (documents : Document.Store) (answer : Transformation.Answer) : Office CaseBook where
  services := Services.ofList services
  users
  documents
  peers := peersInMemory answer

/-- How to look at a store in memory that is the whole state. -/
abbrev bookView : StoreView CaseBook := CaseBook.view id

/-- Texts that hold no half of a surrogate pair. -/
abbrev isWhole (key : String) : Prop := Text.isTorn key = false

variable {services : List Service} {users : List (String × Login)} {documents : Document.Store}
variable {answer : Transformation.Answer}

/-- The collaborators leave the store alone but for the questions to it. -/
theorem peersInMemory_work (answer : Transformation.Answer) :
    CaseBook.WorksWith (peersInMemory answer) id fun book _ => book := by
  constructor <;> intros <;> rfl

/-- A type that does not end like that of a record is the type of none. -/
theorem ne_recordCaseType {caseType : String}
    (ordinary : ¬Service.recordSuffix.toList <:+ caseType.toList) (name : String) :
    caseType ≠ Service.recordCaseType name := by
  rintro rfl
  apply ordinary
  rw [Service.recordCaseType, String.toList_append]
  exact List.suffix_append _ _

/-- Services that can be searched, have no type of a record and have the type that
a transformation answers with. -/
structure Suited (services : List Service) (answer : Transformation.Answer) : Prop where
  some_types : ∀ service ∈ services, service.caseTypes ≠ []
  whole_types : ∀ service ∈ services, ∀ caseType ∈ service.caseTypes, ',' ∉ caseType.toList
  ordinary : ∀ service ∈ services, ∀ caseType ∈ service.caseTypes,
    ¬Service.recordSuffix.toList <:+ caseType.toList
  answers : ∀ service ∈ services, answer.draft.caseType ∈ service.caseTypes

/-- Suited services are well configured. -/
theorem Suited.configured (suited : Suited services answer) :
    Office.WellConfigured (Services.ofList services) := by
  constructor
  · intro name service known
    have listed := (Office.get_ofList known).2
    exact ⟨suited.some_types service listed, suited.whole_types service listed⟩
  · intro name service known caseType isType
    exact ne_recordCaseType (suited.ordinary service (Office.get_ofList known).2 caseType isType)

/-- A mail room in memory is a setting of deliveries. -/
theorem Suited.setting (suited : Suited services answer) {post : Envelope → Prop}
    (identified : ∀ first second, post first → post second → first.id = second.id → first = second)
    (whole : ∀ envelope, post envelope → isWhole envelope.id) :
    (officeInMemory services users documents answer).Setting bookView isWhole post where
  faithful := (peersInMemory_work answer).faithful
  configured := suited.configured
  identified := identified
  searched := whole
  answers := by
    rintro envelope _ service request token state _ known _ ⟨⟩
    exact suited.answers service (Office.get_ofList known).2

/-- The figures of a number are a whole text. -/
theorem isWhole_toString (number : Int) : isWhole (toString number) := by
  have figures (size : Nat) : ∀ each ∈ Nat.toDigits 10 size, Text.isHalf each = false := by
    intro each member
    have digit := Nat.isDigit_of_mem_toDigits (by decide) (by decide) member
    simp only [Char.isDigit, Bool.and_eq_true, decide_eq_true_eq] at digit
    have high : each.toNat ≤ 0x39 := digit.2
    rw [Text.isHalf, Bool.and_eq_false_iff, decide_eq_false_iff_not]
    exact .inl (by omega)
  rw [isWhole, Text.isTorn, List.any_eq_false, Int.toString_eq_repr, Int.repr_eq_if]
  intro each member
  rw [Bool.not_eq_true]
  split at member
  · rw [Nat.toList_repr] at member
    exact figures _ each member
  · rw [String.toList_append, Nat.toList_repr] at member
    rcases List.mem_append.1 member with sign | digit
    · rw [List.mem_singleton.1 sign]
      decide
    · exact figures _ each digit

/-- A mail room in memory serves callbacks on any record. -/
theorem Suited.serves (suited : Suited services answer) :
    (officeInMemory services users documents answer).ServesAnyRecord isWhole where
  byName := Office.byName_ofList services
  within := by
    rintro name service record request token state _ known _ ⟨⟩
    exact suited.answers service (Office.get_ofList known).2
  searched := isWhole_toString

/-- An empty store is sound. -/
theorem CaseBook.sound_empty : CaseBook.Sound {} :=
  ⟨rfl, rfl, by simp, List.nodup_nil, by simp⟩

/-- A service that creates cases without a caseworker and records their envelopes. -/
def sampleService : Service where
  name := some "bulkscan"
  jurisdiction := some "BULKSCAN"
  transformationUrl := some "http://localhost/transform"
  caseTypes := ["Bulk_Scanned"]
  createsCasesAutomatically := true
  createsCasesBeforePayments := true
  recordsEnvelopes := true

/-- An answer of its transformation service. -/
def sampleAnswer : Transformation.Answer where
  draft := { caseType := "Bulk_Scanned", eventId := "createCase", data := [] }
  warnings := []

/-- A mail room in memory for this service. -/
def sampleOffice : Office CaseBook :=
  officeInMemory [sampleService] [("bulkscan", { username := "user", password := "password" })]
    { url := "http://localhost", contextPath := "documents" } sampleAnswer

/-- The service is suited for the answer. -/
theorem sample_suited : Suited [sampleService] sampleAnswer where
  some_types := by decide
  whole_types := by decide
  ordinary := by decide
  answers := by decide

/-- The mail room for this service with collaborators in memory that number their tokens. -/
def numberedOffice : Office World where
  services := Services.ofList [sampleService]
  users := [("Bulkscan", { username := "user", password := "password" })]
  documents := { url := "http://localhost", contextPath := "documents" }
  peers := {
    cases := CaseBook.questions (·.book) fun book world => { world with book }
    login := World.logIn
    userDetails := World.userDetails
    lease := World.lease
    transform := fun _ _ _ world => (.answer sampleAnswer, world)
    pay := fun _ world => (.answer (), world) }

/-- A message that announces an envelope for this service. -/
def sampleMessage (id classification : String) : Json :=
  .obj [("id", .str id), ("container", .str "bulkscan"), ("classification", .str classification),
    ("jurisdiction", .str "BULKSCAN")]

end Mailroom.Simulation
