import Mailroom.Transformation
import Mathlib.Data.List.Forall2

/-!
# The forms that checks decide

A check decides a form: it accepts exactly the values of that form, each for what it says, and
rejects any other with a complaint at least. What a composed check decides follows from what its
parts decide, so the forms of a transformation's answers can be said without their checks.
-/

namespace Mailroom.Schema

/-- What a check has decided of a value: it is accepted for exactly what it says, and is never
rejected without a complaint. -/
structure Checked.Decides {α : Type} (checked : Checked α) (meant : α → Prop) : Prop where
  accepts : ∀ meaning, checked = .accepted meaning ↔ meant meaning
  complains : ∀ violations, checked = .rejected violations → violations ≠ []

section Decides

variable {α β : Type} {meant : α → Prop}

/-- A value that is rejected says nothing. -/
theorem Checked.Decides.rejects {checked : Checked α} (decides : checked.Decides meant) :
    (∃ violations, checked = .rejected violations) ↔ ∀ meaning, ¬ meant meaning := by
  constructor
  · rintro ⟨violations, rejected⟩ meaning said
    have accepted := (decides.accepts meaning).mpr said
    rw [rejected] at accepted
    cases accepted
  · intro silent
    cases outcome : checked with
    | accepted meaning => exact absurd ((decides.accepts meaning).mp outcome) (silent meaning)
    | rejected violations => exact ⟨violations, rfl⟩

/-- A check may be said to decide a form in other words. -/
theorem Checked.Decides.reword {checked : Checked α} {others : α → Prop}
    (decides : checked.Decides meant) (same : ∀ meaning, meant meaning ↔ others meaning) :
    checked.Decides others :=
  ⟨fun meaning => (decides.accepts meaning).trans (same meaning), decides.complains⟩

/-- A value that is accepted says what it is accepted for. -/
theorem accepted_decides (value : α) : (Checked.accepted value).Decides (· = value) where
  accepts meaning := by simp [eq_comm]
  complains := nofun

/-- A value that is refused says nothing. -/
theorem refuse_decides (problem : Problem) :
    (Checked.refuse problem : Checked α).Decides fun _ => False where
  accepts meaning := by simp [Checked.refuse]
  complains violations refused := by
    obtain rfl := Checked.rejected.inj refused
    simp

/-- A value says inside another one what it says. -/
theorem inside_decides {checked : Checked α} (decides : checked.Decides meant) (step : Step) :
    (checked.inside step).Decides meant := by
  cases outcome : checked with
  | accepted value =>
    rw [outcome] at decides
    exact decides
  | rejected violations =>
    constructor
    · intro meaning
      rw [← decides.accepts meaning, outcome]
      simp [Checked.inside]
    · intro others moved
      obtain rfl := Checked.rejected.inj moved
      simpa using decides.complains violations outcome

/-- Two checked values say together what both of them say. -/
theorem seq_decides {function : Checked (α → β)} {argument : Checked α} {changes : (α → β) → Prop}
    (first : function.Decides changes) (second : argument.Decides meant) :
    (function <*> argument).Decides fun result =>
      ∃ change input, changes change ∧ meant input ∧ change input = result := by
  constructor
  · intro result
    refine Checked.apply_accepted_iff.trans ?_
    simp only [first.accepts, second.accepts]
  · intro violations rejected
    change function.apply (fun _ => argument) = .rejected violations at rejected
    unfold Checked.apply at rejected
    cases function with
    | accepted change =>
      cases argument with
      | accepted input => cases rejected
      | rejected others =>
        obtain rfl := Checked.rejected.inj rejected
        exact second.complains others rfl
    | rejected complaints =>
      have some := first.complains complaints rfl
      cases argument with
      | accepted input =>
        obtain rfl := Checked.rejected.inj rejected
        exact some
      | rejected others =>
        obtain rfl := Checked.rejected.inj rejected
        simp [some]

/-- A checked value with a function applied to it means what the function makes of it. -/
theorem map_decides {checked : Checked α} (change : α → β) (decides : checked.Decides meant) :
    (change <$> checked).Decides fun result => ∃ input, meant input ∧ change input = result := by
  refine (seq_decides (accepted_decides change) decides).reword fun result => ?_
  simp

variable {check : Json → Checked α} {form : Json → α → Prop}

/-- A member that may be absent says what its value says, or what stands for an absent one. -/
theorem optional_decides (decides : ∀ value, (check value).Decides (form value)) (members : Fields)
    (name : String) (absent : α) :
    (optional members name check absent).Decides fun meaning =>
      members.get? name = none ∧ meaning = absent ∨
        ∃ value, members.get? name = some value ∧ form value meaning := by
  unfold optional memberOr firstMember?
  cases found : members.get? name with
  | some value =>
    refine (inside_decides (decides value) _).reword fun meaning => ?_
    simp
  | none =>
    refine (accepted_decides absent).reword fun meaning => ?_
    simp

/-- An object of a kind says what its members say. -/
theorem model_decides {read : Fields → Checked α} {meant : Fields → α → Prop} (name : String)
    (decides : ∀ members, (read members).Decides (meant members)) (value : Json) :
    (model name read value).Decides fun meaning =>
      ∃ members, value = .obj members ∧ meant members meaning := by
  cases value with
  | obj members =>
    refine (decides members).reword fun meaning => ?_
    simp
  | _ => exact (refuse_decides _).reword fun meaning => by simp

/-- A text says its characters. -/
theorem text_decides (value : Json) : (text value).Decides fun said => value = .str said := by
  cases value with
  | str said => exact (accepted_decides said).reword fun meaning => by simp [eq_comm]
  | _ => exact (refuse_decides _).reword fun meaning => by simp

/-- The elements of a list say what each of them says, wherever the count of them starts. -/
theorem checkElements_decides (decides : ∀ value, (check value).Decides (form value)) (index : Nat)
    (elements : List Json) :
    (checkElements check index elements).Decides fun meanings =>
      List.Forall₂ form elements meanings := by
  induction elements generalizing index with
  | nil => exact (accepted_decides []).reword fun meanings => by simp
  | cons element rest inductionHypothesis =>
    have first := map_decides List.cons (inside_decides (decides element) (.element index))
    have step : checkElements check index (element :: rest) =
        (List.cons <$> (check element).inside (.element index) <*>
          checkElements check (index + 1) rest) := by
      rw [checkElements]
      cases (check element).inside (.element index) <;> rfl
    rw [step]
    refine (seq_decides first (inductionHypothesis (index + 1))).reword fun meanings => ?_
    rw [List.forall₂_cons_left_iff]
    constructor
    · rintro ⟨_, others, ⟨meaning, said, rfl⟩, rests, rfl⟩
      exact ⟨meaning, others, said, rests, rfl⟩
    · rintro ⟨meaning, others, said, rests, rfl⟩
      exact ⟨_, others, ⟨meaning, said, rfl⟩, rests, rfl⟩

/-- A list says what its elements say. -/
theorem list_decides (decides : ∀ value, (check value).Decides (form value)) (value : Json) :
    (list check value).Decides fun meanings =>
      ∃ elements, value = .arr elements ∧ List.Forall₂ form elements meanings := by
  cases value with
  | arr elements =>
    refine (checkElements_decides decides 0 elements).reword fun meanings => ?_
    simp
  | _ => exact (refuse_decides _).reword fun meaning => by simp

/-- A list of texts says these texts. -/
theorem texts_decide (value : Json) :
    (list text value).Decides fun texts => value = .arr (texts.map .str) := by
  refine (list_decides text_decides value).reword fun texts => ?_
  have each (elements : List Json) :
      List.Forall₂ (fun element said => element = .str said) elements texts ↔
        elements = texts.map .str := by
    rw [← List.forall₂_map_right_iff, List.forall₂_eq_eq_eq]
  simp only [each]
  constructor
  · rintro ⟨_, rfl, rfl⟩
    rfl
  · exact fun same => ⟨_, same, rfl⟩

end Decides
end Mailroom.Schema
