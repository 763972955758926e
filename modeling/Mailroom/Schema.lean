import Mailroom.Json
import Mailroom.Text.Surrogate
import Mailroom.Time.WireText

/-!
# Checking values against a schema

A check either accepts a value or lists everything that is wrong with it, each
violation with its place. Checks of several members are combined so that the
violations of all of them are kept, in the order in which the members are named.
-/

namespace Mailroom.Schema

/-- A step from a value into a part of it. -/
inductive Step where
  | member (name : String)
  | element (index : Nat)
  deriving DecidableEq, Repr

/-- What is wrong with a value. -/
inductive Problem where
  | missing
  | notText
  | tornText
  | notList
  | notObject
  | notModel (model : String)
  | notReadableModel
  | notChoice (choices : List String)
  | notBoolean
  | notBooleanText
  | notInteger
  | notIntegerText
  | integerTooLong
  | notFinite
  | hasFraction
  | notNumber
  | notNumberText
  | notMoment
  | moment (fault : Time.WireFault)
  | tooShort (least : Nat)
  | malformedJson
  deriving DecidableEq, Repr

/-- A list of choices in words. -/
def choiceList : List String → String
  | [] => ""
  | [only] => "'" ++ only ++ "'"
  | [first, last] => "'" ++ first ++ "' or '" ++ last ++ "'"
  | first :: rest => "'" ++ first ++ "', " ++ choiceList rest

namespace Problem

/-- The short name of a problem. -/
def code : Problem → String
  | .missing => "missing"
  | .notText => "string_type"
  | .tornText => "string_unicode"
  | .notList => "list_type"
  | .notObject => "dict_type"
  | .notModel _ => "model_type"
  | .notReadableModel => "model_attributes_type"
  | .notChoice _ => "enum"
  | .notBoolean => "bool_type"
  | .notBooleanText => "bool_parsing"
  | .notInteger => "int_type"
  | .notIntegerText => "int_parsing"
  | .integerTooLong => "int_parsing_size"
  | .notFinite => "finite_number"
  | .hasFraction => "int_from_float"
  | .notNumber => "float_type"
  | .notNumberText => "float_parsing"
  | .notMoment => "datetime_type"
  | .moment (.notADate _) => "datetime_from_date_parsing"
  | .moment _ => "datetime_parsing"
  | .tooShort _ => "string_too_short"
  | .malformedJson => "json_invalid"

/-- The wording of a problem. -/
def message : Problem → String
  | .missing => "Field required"
  | .notText => "Input should be a valid string"
  | .tornText => "Input should be a valid string, unable to parse raw data as a unicode string"
  | .notList => "Input should be a valid list"
  | .notObject => "Input should be a valid dictionary"
  | .notModel model => "Input should be a valid dictionary or instance of " ++ model
  | .notReadableModel => "Input should be a valid dictionary or object to extract fields from"
  | .notChoice choices => "Input should be " ++ choiceList choices
  | .notBoolean => "Input should be a valid boolean"
  | .notBooleanText => "Input should be a valid boolean, unable to interpret input"
  | .notInteger => "Input should be a valid integer"
  | .notIntegerText => "Input should be a valid integer, unable to parse string as an integer"
  | .integerTooLong => "Unable to parse input string as an integer, exceeded maximum size"
  | .notFinite => "Input should be a finite number"
  | .hasFraction => "Input should be a valid integer, got a number with a fractional part"
  | .notNumber => "Input should be a valid number"
  | .notNumberText => "Input should be a valid number, unable to parse string as a number"
  | .notMoment => "Input should be a valid datetime"
  | .moment (.notADate fault) => "Input should be a valid datetime or date, " ++ fault.message
  | .moment (.outOfRange fault) => "Input should be a valid datetime, " ++ fault.message
  | .moment .yearZero => "Input should be a valid datetime, year 0 is out of range"
  | .moment .notANumber => "Input should be a valid datetime, NaN values not permitted"
  | .tooShort 1 => "String should have at least 1 character"
  | .tooShort least => "String should have at least " ++ toString least ++ " characters"
  | .malformedJson => "JSON decode error"

end Problem

/-- A problem and its place in the checked value. -/
structure Violation where
  place : List Step
  problem : Problem
  deriving DecidableEq, Repr

/-- The violation seen from a value that holds the checked one. -/
def Violation.inside (step : Step) (violation : Violation) : Violation :=
  { violation with place := step :: violation.place }

/-- A step as text. -/
def Step.text : Step → String
  | .member name => name
  | .element index => toString index

/-- A violation on one line: its place with points, and its wording. -/
def Violation.line (violation : Violation) : String :=
  ".".intercalate (violation.place.map Step.text) ++ ": " ++ violation.problem.message

/-- The outcome of a check. -/
inductive Checked (α : Type) where
  | accepted (value : α)
  | rejected (violations : List Violation)
  deriving Repr

namespace Checked

variable {α β : Type}

/-- Change the accepted value. -/
def map (change : α → β) : Checked α → Checked β
  | .accepted value => .accepted (change value)
  | .rejected violations => .rejected violations

/-- Apply a checked function to a checked value, keeping the violations of both. -/
def apply (function : Checked (α → β)) (argument : Unit → Checked α) : Checked β :=
  match function, argument () with
  | .accepted function, .accepted value => .accepted (function value)
  | .accepted _, .rejected violations => .rejected violations
  | .rejected violations, .accepted _ => .rejected violations
  | .rejected first, .rejected second => .rejected (first ++ second)

instance : Applicative Checked where
  pure := .accepted
  seq := apply

/-- Move the violations into a part of a value. -/
def inside (step : Step) : Checked α → Checked α
  | .accepted value => .accepted value
  | .rejected violations => .rejected (violations.map (·.inside step))

/-- Reject a value for one problem of its own. -/
def refuse (problem : Problem) : Checked α :=
  .rejected [⟨[], problem⟩]

/-- Combining two checks accepts exactly when both do. -/
theorem apply_accepted_iff {function : Checked (α → β)} {argument : Unit → Checked α} {value : β} :
    function.apply argument = .accepted value ↔
      ∃ change input, function = .accepted change ∧ argument () = .accepted input ∧
        change input = value := by
  unfold apply
  cases function <;> cases argument () <;> simp

end Checked

/-- Check the elements of a list from an index on, keeping all violations. -/
def checkElements {α : Type} (check : Json → Checked α) : Nat → List Json → Checked (List α)
  | _, [] => .accepted []
  | index, element :: rest =>
    (Checked.map List.cons ((check element).inside (.element index))).apply
      fun _ => checkElements check (index + 1) rest

/-- Check a list of values of one kind. -/
def list {α : Type} (check : Json → Checked α) : Json → Checked (List α)
  | .arr elements => checkElements check 0 elements
  | _ => .refuse .notList

/-- Check a text. -/
def text : Json → Checked String
  | .str value => .accepted value
  | _ => .refuse .notText

/-- Check what a text says; a torn one says nothing. -/
def whole {α : Type} (check : String → Checked α) (value : String) : Checked α :=
  if Text.isTorn value then .refuse .tornText else check value

/-- Check a text that is not empty. -/
def filledText : Json → Checked String
  | .str value =>
    whole (fun value => if value.isEmpty then .refuse (.tooShort 1) else .accepted value) value
  | _ => .refuse .notText

/-- Check an object whose members may be anything. -/
def object : Json → Checked Fields
  | .obj members => .accepted members
  | _ => .refuse .notObject

/-- Check an object of the named kind. -/
def model {α : Type} (name : String) (check : Fields → Checked α) : Json → Checked α
  | .obj members => check members
  | _ => .refuse (.notModel name)

/-- Accept null beside the values of a check. -/
def nullable {α : Type} (check : Json → Checked α) : Json → Checked (Option α)
  | .null => .accepted none
  | value => (check value).map some

/-- The first of the names that an object has, with its value. -/
def firstMember? (members : Fields) : List String → Option (String × Json)
  | [] => none
  | name :: rest =>
    match members.get? name with
    | some value => some (name, value)
    | none => firstMember? members rest

/-- Check a member known under several names, taking the given outcome when
there is none of them. -/
def memberOr {α : Type} (members : Fields) (names : List String) (check : Json → Checked α)
    (absent : Checked α) : Checked α :=
  match firstMember? members names with
  | some (name, value) => (check value).inside (.member name)
  | none => absent

/-- Check a member that must be there. -/
def required {α : Type} (members : Fields) (name : String) (check : Json → Checked α) : Checked α :=
  memberOr members [name] check (.rejected [⟨[.member name], .missing⟩])

/-- Check a member that may be absent. -/
def optional {α : Type} (members : Fields) (name : String) (check : Json → Checked α)
    (absent : α) : Checked α :=
  memberOr members [name] check (.accepted absent)

/-- Check a member that may be absent or null. -/
def maybe {α : Type} (members : Fields) (name : String) (check : Json → Checked α) :
    Checked (Option α) :=
  optional members name (nullable check) none

end Mailroom.Schema
