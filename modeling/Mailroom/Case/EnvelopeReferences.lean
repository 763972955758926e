import Mailroom.OpenData

/-!
# References to envelopes

A case may keep a collection of the envelopes that created or changed it. What
a case already holds is taken over as far as it has the form of such a
reference.
-/

namespace Mailroom.EnvelopeReference

/-- A collection element that names an envelope and what it did. -/
def entry (envelopeId action : Json) : Json :=
  OpenData.element [("id", envelopeId), ("action", action)]

/-- The collection of a case that one envelope has touched. -/
def single (envelopeId action : Json) : List Json :=
  [entry envelopeId action]

/-- The reference in a collection element, if it has the form of one. -/
def ofElement? : Json → Option Json
  | .obj members =>
    match Fields.member members "value" with
    | .obj value => some (entry (Fields.member value "id") (Fields.member value "action"))
    | _ => none
  | _ => none

/-- The references that a case already holds. -/
def readExisting (value : Json) : Except Fault (List Json) :=
  (·.filterMap ofElement?) <$> OpenData.walkFilled value

end Mailroom.EnvelopeReference
