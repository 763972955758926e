import Mailroom.Document.Collection

/-!
# Legible documents

The documents on a case are whatever its data hold in their place. Not all of it can be read: an
address must be a text with a name at its end, and a date must be a date, unless they are missing.
What stands in the place of the whole collection must be a list or something else that can be
walked, the parts of which are documents that lack everything.
-/

namespace Mailroom.Document

/-- Whether a value can be read as the date of a document, or as none. -/
def legibleDate : Json → Bool
  | .null => true
  | .str text => text.isEmpty || (Time.readIsoText text).isSome
  | _ => false

/-- Whether a value can be read as the address of a document, or as none. -/
def legibleAddress (address : Json) : Bool :=
  address.isVacant || match address with
    | .str url => (Url.lastSegment? url).isSome
    | _ => false

/-- Whether an element can be read as a document. What holds no object can, and lacks everything. -/
def legibleElement (element : Json) : Bool :=
  let value := OpenData.elementValue element
  let address := match value.member "url" with
    | .obj members => Fields.member members "document_url"
    | _ => .null
  legibleAddress address && legibleDate (value.member "scannedDate") &&
    legibleDate (value.member "deliveryDate")

/-- Whether the documents in case data can be read, whatever stands in their place. -/
def legible (data : Fields) : Bool :=
  match data.member CaseField.scannedDocuments with
  | .arr elements => elements.all legibleElement
  | .str _ | .obj _ => true
  | value => value.isVacant

/-- One result after another is a value when both are. -/
theorem isOk_bind {ε α β : Type} (first : Except ε α) (next : α → Except ε β) :
    (first >>= next).isOk = match first with
      | .ok value => (next value).isOk
      | .error _ => false := by
  cases first <;> rfl

/-- All of a list can be read when each of its items can. -/
theorem mapM_isOk {α β : Type} (read : α → Except Fault β) (items : List α) :
    (items.mapM read).isOk = items.all fun item => (read item).isOk := by
  induction items with
  | nil => rfl
  | cons item rest inductionHypothesis =>
    rw [List.mapM_cons, List.all_cons, ← inductionHypothesis, isOk_bind]
    cases read item with
    | error fault => rfl
    | ok value =>
      change (rest.mapM read >>= fun values => pure (value :: values)).isOk = _
      rw [isOk_bind]
      cases rest.mapM read <;> rfl

/-- A date is read as one or as none. -/
theorem storedMoment_isOk (value : Json) :
    (OpenData.storedMoment value).isOk = legibleDate value := by
  cases value with
  | str text =>
    unfold OpenData.storedMoment legibleDate
    dsimp only
    cases text.isEmpty with
    | true => rfl
    | false => cases Time.readIsoText text <;> rfl
  | _ => rfl

/-- An address is read as one or as none. -/
theorem uuidOfAddress_isOk (address : Json) :
    (uuidOfAddress address).isOk = legibleAddress address := by
  unfold uuidOfAddress legibleAddress
  cases address.isVacant with
  | true => rfl
  | false =>
    cases address with
    | str url =>
      dsimp only
      cases Url.lastSegment? url <;> rfl
    | _ => rfl

/-- An element is read when its address and its dates are. -/
theorem ofElement_isOk (element : Json) : (ofElement element).isOk = legibleElement element := by
  have parts (address scanned delivered : Json)
      (build : Option String → Option Time.Moment → Option Time.Moment → Document) :
      (do
        let uuid ← uuidOfAddress address
        let scannedAt ← OpenData.storedMoment scanned
        let deliveryDate ← OpenData.storedMoment delivered
        return build uuid scannedAt deliveryDate : Except Fault Document).isOk =
      (legibleAddress address && legibleDate scanned && legibleDate delivered) := by
    rw [← uuidOfAddress_isOk, ← storedMoment_isOk, ← storedMoment_isOk]
    cases uuidOfAddress address with
    | error fault => rfl
    | ok uuid =>
      cases OpenData.storedMoment scanned with
      | error fault => rfl
      | ok scannedAt => cases OpenData.storedMoment delivered <;> rfl
  exact parts _ _ _ fun uuid scannedAt deliveryDate => _

/-- The documents on a case can be read exactly when they are legible. -/
theorem onCase_isOk (data : Fields) : (onCase (some data)).isOk = legible data := by
  -- What is walked instead of a list yields texts, and a text is a document that lacks everything.
  have texts (names : List String) : ((names.map Json.str).mapM ofElement).isOk = true := by
    rw [mapM_isOk, List.all_map, List.all_eq_true]
    intro name isName
    exact ofElement_isOk (.str name)
  have walked (value : Json) : (OpenData.walkFilled value >>= fun parts =>
      parts.mapM ofElement).isOk = (match value with
      | .arr elements => elements.all legibleElement
      | .str _ | .obj _ => true
      | value => value.isVacant) := by
    cases value with
    | arr elements =>
      have isWalked : OpenData.walkFilled (.arr elements) = .ok elements := by
        cases elements <;> rfl
      rw [isWalked, isOk_bind]
      dsimp only
      rw [mapM_isOk]
      simp only [ofElement_isOk]
    | str text =>
      unfold OpenData.walkFilled
      cases Json.isVacant (.str text) with
      | true => rfl
      | false =>
        have areRead := texts (text.toList.map Char.toString)
        rw [List.map_map] at areRead
        exact areRead
    | obj members =>
      unfold OpenData.walkFilled
      cases Json.isVacant (.obj members) with
      | true => rfl
      | false =>
        have areRead := texts (members.map Prod.fst)
        rw [List.map_map] at areRead
        exact areRead
    | null => rfl
    | bool value => cases value <;> rfl
    | int value =>
      unfold OpenData.walkFilled
      dsimp only
      cases Json.isVacant (.int value) <;> rfl
    | real value =>
      unfold OpenData.walkFilled
      dsimp only
      cases Json.isVacant (.real value) <;> rfl
  exact walked _

end Mailroom.Document
