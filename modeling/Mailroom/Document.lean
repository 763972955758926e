import Mailroom.Json
import Mailroom.Time.Moment

/-!
# Scanned documents

A document is known by its identity in document management and by the control
number printed on the paper. A document that is scanned again keeps its control
number and gets a new identity, so either of the two tells a duplicate.
-/

namespace Mailroom

/-- A scanned document. The file name, type and subtype of a document that is
already on a case are whatever the case holds. -/
structure Document where
  uuid : Option String
  controlNumber : Option String
  fileName : Json := .null
  type : Json := .null
  subtype : Json := .null
  scannedAt : Option Time.Moment := none
  deliveryDate : Option Time.Moment := none
  deriving Inhabited

/-- A moment as a value, with all that is known of it. -/
def isoValue : Option Time.Moment → Json
  | some moment => .str moment.isoText
  | none => .null

namespace Document

/-- A document as a value. -/
def toJson (document : Document) : Json :=
  .obj [
    ("uuid", .ofText? document.uuid),
    ("control_number", .ofText? document.controlNumber),
    ("file_name", document.fileName),
    ("type", document.type),
    ("subtype", document.subtype),
    ("scanned_at", isoValue document.scannedAt),
    ("delivery_date", isoValue document.deliveryDate)]

/-- Two documents are duplicates when their identity or their control number is
the same; two missing ones count as the same. -/
def isDuplicateOf (first second : Document) : Bool :=
  first.uuid == second.uuid || first.controlNumber == second.controlNumber

/-- The incoming documents of which no duplicate exists, in their order. -/
def notAmong (existing incoming : List Document) : List Document :=
  incoming.filter fun document => !existing.any document.isDuplicateOf

/-- Being duplicates is symmetric. -/
theorem isDuplicateOf_comm (first second : Document) :
    first.isDuplicateOf second = second.isDuplicateOf first := by
  simp [isDuplicateOf, Bool.beq_comm]

/-- A document is to be added exactly when it comes in and no existing one is
its duplicate. -/
theorem mem_notAmong {existing incoming : List Document} {document : Document} :
    document ∈ notAmong existing incoming ↔
      document ∈ incoming ∧ ∀ other ∈ existing, document.isDuplicateOf other = false := by
  simp [notAmong, List.mem_filter]

end Document
end Mailroom
