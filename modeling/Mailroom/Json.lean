import Mailroom.Number.Binary64

/-!
# JSON values

Values as other services send them. Whole numbers and numbers with a fraction
are kept apart, and an object is a list of members whose order is kept: setting
a member replaces it in its place and otherwise adds it at the end.
-/

namespace Mailroom

/-- A JSON value. -/
inductive Json where
  | null
  | bool (value : Bool)
  | int (value : Int)
  | real (value : Binary64)
  | str (value : String)
  | arr (elements : List Json)
  | obj (members : List (String × Json))
  deriving Inhabited, Repr

/-- The members of an object in order. -/
abbrev Fields := List (String × Json)

namespace Fields

/-- The value of the first member with a name. -/
def get? : Fields → String → Option Json
  | [], _ => none
  | (key, value) :: rest, name => if key = name then some value else get? rest name

/-- Replace the member with a name, or add it at the end. -/
def set : Fields → String → Json → Fields
  | [], name, value => [(name, value)]
  | (key, old) :: rest, name, value =>
    if key = name then (key, value) :: rest else (key, old) :: set rest name value

/-- The value of a member, null when there is none. -/
def member (fields : Fields) (name : String) : Json :=
  (fields.get? name).getD .null

/-- Whether there is a member with a name. -/
def has (fields : Fields) (name : String) : Bool :=
  (fields.get? name).isSome

/-- Set every member of the second list in turn. -/
def merge (fields updates : Fields) : Fields :=
  updates.foldl (fun merged update => merged.set update.1 update.2) fields

/-- The names of the members in order. -/
def names (fields : Fields) : List String :=
  fields.map (·.1)

/-- Members taken in turn, a later one replacing an earlier one of its name. -/
def ofPairs (pairs : List (String × Json)) : Fields :=
  merge [] pairs

/-- A member that was set is found with its value. -/
@[simp]
theorem get?_set_self (fields : Fields) (name : String) (value : Json) :
    (fields.set name value).get? name = some value := by
  induction fields with
  | nil => simp [set, get?]
  | cons member rest inductionHypothesis =>
    obtain ⟨key, old⟩ := member
    by_cases same : key = name <;> simp [set, get?, same, inductionHypothesis]

/-- Setting a member leaves the others as they were. -/
theorem get?_set_of_ne (fields : Fields) {name other : String} (value : Json)
    (different : other ≠ name) : (fields.set name value).get? other = fields.get? other := by
  induction fields with
  | nil => simp [set, get?, different.symm]
  | cons member rest inductionHypothesis =>
    obtain ⟨key, old⟩ := member
    by_cases same : key = name
    · subst same
      simp [set, get?, different.symm]
    · simp [set, get?, same, inductionHypothesis]

/-- Members before others hide none that they do not name. -/
theorem get?_append_of_not_mem {fields others : Fields} {name : String}
    (unnamed : name ∉ fields.names) : get? (fields ++ others) name = get? others name := by
  induction fields with
  | nil => rfl
  | cons member fields inductionHypothesis =>
    obtain ⟨different, unnamed⟩ := List.ne_and_not_mem_of_not_mem_cons unnamed
    rw [List.cons_append, get?, if_neg different.symm, inductionHypothesis unnamed]

end Fields

namespace Json

/-- The members of an object. -/
def fields? : Json → Option Fields
  | .obj members => some members
  | _ => none

/-- The elements of a list. -/
def elements? : Json → Option (List Json)
  | .arr elements => some elements
  | _ => none

/-- The characters of a text. -/
def text? : Json → Option String
  | .str text => some text
  | _ => none

/-- A text, or null when there is none. -/
def ofText? : Option String → Json
  | some text => .str text
  | none => .null

/-- Whether a value is null. -/
def isNull : Json → Bool
  | .null => true
  | _ => false

/-- Whether a value says nothing: null, false, zero, or an empty text, list or object. -/
def isVacant : Json → Bool
  | .null => true
  | .bool value => !value
  | .int value => value == 0
  | .real value => value.isZero
  | .str text => text.isEmpty
  | .arr elements => elements.isEmpty
  | .obj members => members.isEmpty

/-- A value as a number, true counting as one and false as zero. -/
def number? : Json → Option (Int ⊕ Binary64)
  | .bool value => some (.inl (if value then 1 else 0))
  | .int value => some (.inl value)
  | .real value => some (.inr value)
  | _ => none

/-- Whether two numbers are equal. -/
def sameNumber : Int ⊕ Binary64 → Int ⊕ Binary64 → Bool
  | .inl first, .inl second => first == second
  | .inl first, .inr second => second.whole? == some first
  | .inr first, .inl second => first.whole? == some second
  | .inr first, .inr second => first.sameNumber second

/-- Equality of scalars; `none` when one of the values is a list or an object. -/
def sameScalar? : Json → Json → Option Bool
  | .arr _, _ | .obj _, _ | _, .arr _ | _, .obj _ => none
  | .null, .null => some true
  | .str first, .str second => some (first == second)
  | first, second =>
    match first.number?, second.number? with
    | some first, some second => some (sameNumber first second)
    | _, _ => some false

mutual
/-- Whether two values mean the same: numbers by value, lists element by
element, objects member by member whatever their order. -/
def same : Json → Json → Bool
  | .arr first, .arr second => sameElements first second
  | .obj first, .obj second => first.length == second.length && sameMembers first second
  | first, second => (sameScalar? first second).getD false

/-- Whether two lists mean the same element by element. -/
def sameElements : List Json → List Json → Bool
  | [], [] => true
  | first :: firstRest, second :: secondRest => same first second && sameElements firstRest secondRest
  | _, _ => false

/-- Whether every member of the first object is one of the second. -/
def sameMembers : List (String × Json) → Fields → Bool
  | [], _ => true
  | (name, value) :: rest, others =>
    (match others.get? name with
      | some other => same value other
      | none => false) && sameMembers rest others
end

mutual
/-- How many values stand inside each other, the value itself included. -/
def nesting : Json → Nat
  | .arr elements => elementNesting elements + 1
  | .obj members => memberNesting members + 1
  | _ => 1

/-- The deepest nesting among the elements of a list. -/
def elementNesting : List Json → Nat
  | [] => 0
  | element :: rest => max (nesting element) (elementNesting rest)

/-- The deepest nesting among the members of an object. -/
def memberNesting : List (String × Json) → Nat
  | [] => 0
  | (_, value) :: rest => max (nesting value) (memberNesting rest)
end

mutual
/-- The texts in a value in order; the names of members are none of them. -/
def texts : Json → List String
  | .str text => [text]
  | .arr elements => elementTexts elements
  | .obj members => memberTexts members
  | _ => []

/-- The texts in the elements of a list. -/
def elementTexts : List Json → List String
  | [] => []
  | element :: rest => texts element ++ elementTexts rest

/-- The texts in the members of an object. -/
def memberTexts : List (String × Json) → List String
  | [] => []
  | (_, value) :: rest => texts value ++ memberTexts rest
end

end Json
end Mailroom
