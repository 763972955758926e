import Mailroom.Document
import Mailroom.OpenData
import Mailroom.Text.Split
import Mailroom.Url.Reference

/-!
# Documents in case data

A case holds its documents as a collection: a list of elements whose value
names the address of the document, its control number and its dates. The last
segment of the address is the identity of the document.
-/

namespace Mailroom.Document

open Text

/-- The elements of the collection on a case; `none` stands for no case. -/
def collectionOf : Option Fields → Except Fault (List Json)
  | none => .ok []
  | some data => OpenData.walkFilled (data.member CaseField.scannedDocuments)

/-- The identity that an address names. -/
def uuidOfAddress (address : Json) : Except Fault (Option String) :=
  if address.isVacant then .ok none
  else
    match address with
    | .str url =>
      match Url.lastSegment? url with
      | some segment => .ok (some segment)
      | none => .error .badContent
    | _ => .error .noSuchOperation

/-- The document of a collection element. What is missing in it is missing in
the document. -/
def ofElement (element : Json) : Except Fault Document := do
  let value := OpenData.elementValue element
  let address := match value.member "url" with
    | .obj members => Fields.member members "document_url"
    | _ => .null
  let uuid ← uuidOfAddress address
  let scannedAt ← OpenData.storedMoment (value.member "scannedDate")
  let deliveryDate ← OpenData.storedMoment (value.member "deliveryDate")
  return {
    uuid
    controlNumber := (value.member "controlNumber").text?
    fileName := value.member "fileName"
    type := value.member "type"
    subtype := value.member "subtype"
    scannedAt
    deliveryDate }

/-- The documents on a case in the order of the collection. -/
def onCase (data : Option Fields) : Except Fault (List Document) := do
  (← collectionOf data).mapM ofElement

/-- Where documents are kept. -/
structure Store where
  url : String
  contextPath : String
  deriving DecidableEq, Repr, Inhabited

/-- A part of an address without slashes at its ends. -/
def addressPart (part : String) : String :=
  String.ofList (trimWhile (· = '/') part.toList)

/-- The address of a document. -/
def Store.address (store : Store) (uuid : String) : String :=
  addressPart store.url ++ "/" ++ addressPart store.contextPath ++ "/" ++ addressPart uuid

/-- The collection element of a document, the fallback standing in for a missing
delivery date. A document without identity has no address. -/
def toElement (store : Store) (fallback : Option Time.Moment) (document : Document) :
    Except Fault Json :=
  match document.uuid with
  | none => .error .noSuchOperation
  | some uuid =>
    let address := store.address uuid
    .ok (OpenData.element [
      ("type", document.type),
      ("subtype", document.subtype),
      ("url", .obj [
        ("document_url", .str address),
        ("document_binary_url", .str (address ++ "/binary")),
        ("document_filename", document.fileName)]),
      ("controlNumber", .ofText? document.controlNumber),
      ("fileName", document.fileName),
      ("scannedDate", OpenData.writeMoment document.scannedAt),
      ("deliveryDate", OpenData.writeMoment (document.deliveryDate <|> fallback))])

/-- The collection elements of documents. -/
def toElements (store : Store) (fallback : Option Time.Moment) (documents : List Document) :
    Except Fault (List Json) :=
  documents.mapM (toElement store fallback)

/-- The collection of a case after new documents were attached. -/
def appended (newElements existing : List Json) : List Json :=
  existing ++ newElements

end Mailroom.Document
