import Mailroom.Log.Record
import Mailroom.Proofs.Assurance

/-!
# What log lines say

A template that is filled uses up exactly as many values as its places ask for.
A message whose places all take a text and whose percent signs are doubled is
spelled by a template that is always filled when the values are as many as the
places, and by nothing else; every other character stands for itself.

A written line has its members in a fixed order and no name twice, so the details
cannot take the place of what the line says by itself. The level that a name
stands for is written with a name that stands for it again. Lines that are written
while scopes are entered and left have the correlation of the innermost scope.
-/

namespace Mailroom.Log

section Places

variable {supply rest : Supply} {values : List Json} {text : List Char}

/-- What is left when the first values of a list are used. -/
def Uses (count : Nat) (values : List Json) (rest : Supply) : Prop :=
  count ≤ values.length ∧ rest = .listed (values.drop count)

/-- Values are used one after the other. -/
theorem Uses.trans {first second : Nat} (uses : Uses first values supply)
    (next : Uses second (values.drop first) rest) : Uses (first + second) values rest := by
  obtain ⟨enough, -⟩ := uses
  obtain ⟨enoughLeft, after⟩ := next
  rw [List.length_drop] at enoughLeft
  exact ⟨by omega, by rw [after, List.drop_drop]⟩

/-- Taking a value uses one. -/
theorem Supply.take_uses {value : Json} (taken : (Supply.listed values).take = .ok (value, rest)) :
    Uses 1 values rest := by
  cases values with
  | nil => cases taken
  | cons first others =>
    cases taken
    exact ⟨by simp, rfl⟩

/-- How many values a count takes. -/
def Amount.demand : Amount → Nat
  | .taken => 1
  | _ => 0

/-- How many values a place takes: its counts may take one each before it takes its own. -/
def Place.demand (place : Place) : Nat :=
  place.width.demand + place.precision.demand + 1

/-- How many values a piece of a template takes. -/
def Piece.demand : Piece → Nat
  | .literal _ => 0
  | .place asked => asked.demand

/-- How many values the pieces of a template take. -/
def demandOf : List Piece → Nat
  | [] => 0
  | piece :: pieces => piece.demand + demandOf pieces

/-- A count uses the value that it takes. -/
theorem Amount.resolve_uses {limit : Nat} {amount : Amount} {count : Option Int}
    (resolved : amount.resolve limit (.listed values) = .ok (count, rest)) :
    Uses amount.demand values rest := by
  cases amount with
  | absent =>
    cases resolved
    exact ⟨Nat.zero_le _, rfl⟩
  | fixed number =>
    cases resolved
    exact ⟨Nat.zero_le _, rfl⟩
  | excessive => cases resolved
  | taken =>
    obtain ⟨⟨value, left⟩, taken, counted⟩ := Flow.bind_eq_ok.mp resolved
    obtain rfl : left = rest := by
      cases value with
      | bool => exact (Prod.mk.inj (Except.ok.inj counted)).2
      | int number =>
        dsimp only at counted
        split at counted
        · cases counted
        · exact (Prod.mk.inj (Except.ok.inj counted)).2
      | _ => cases counted
    exact Supply.take_uses taken

/-- A place is filled in four steps: a value is chosen for it, its counts are resolved, it
takes a value, and what it shows of this is padded. -/
theorem Place.fill_eq_ok {place : Place} :
    place.fill supply = .ok (text, rest) ↔
      ∃ chosen width afterWidth precision afterPrecision letter value shown,
        supply.choose place.choice = .ok chosen ∧
        place.width.resolve maxWidth chosen = .ok (width, afterWidth) ∧
        place.precision.resolve maxPrecision afterWidth = .ok (precision, afterPrecision) ∧
        place.conversion = some letter ∧
        afterPrecision.take = .ok (value, rest) ∧
        place.convert (precision.map Int.toNat) letter value = .ok shown ∧
        place.pad (width.getD 0).natAbs (place.leftAligned || width.getD 0 < 0) shown = text := by
  unfold Place.fill
  cases place.conversion with
  | none => simp [Flow.bind_eq_ok, throw, throwThe, MonadExceptOf.throw]
  | some letter =>
    simp only [Flow.bind_eq_ok, Prod.exists, pure, Except.pure, Except.ok.injEq, Prod.mk.injEq,
      Option.some.injEq]
    constructor
    · rintro ⟨chosen, isChosen, width, afterWidth, widened, precision, afterPrecision, limited,
        value, afterValue, taken, shown, converted, padded, rfl⟩
      exact ⟨chosen, width, afterWidth, precision, afterPrecision, letter, value, shown, isChosen,
        widened, limited, rfl, taken, converted, padded⟩
    · rintro ⟨chosen, width, afterWidth, precision, afterPrecision, _, value, shown, isChosen,
        widened, limited, rfl, taken, converted, padded⟩
      exact ⟨chosen, isChosen, width, afterWidth, widened, precision, afterPrecision, limited,
        value, rest, taken, shown, converted, padded, rfl⟩

/-- A place that is filled uses the values it asks for. -/
theorem Place.fill_uses {place : Place} (filled : place.fill (.listed values) = .ok (text, rest)) :
    Uses place.demand values rest := by
  obtain ⟨chosen, width, afterWidth, precision, afterPrecision, letter, value, shown, isChosen,
    widened, limited, -, taken, -, -⟩ := Place.fill_eq_ok.mp filled
  -- Only the next value can be chosen from a list, which changes nothing.
  obtain rfl : chosen = .listed values := by
    cases choice : place.choice <;> rw [choice] at isChosen <;> cases isChosen
    rfl
  have forWidth := Amount.resolve_uses widened
  obtain rfl := forWidth.2
  have forPrecision := Amount.resolve_uses limited
  obtain rfl := forPrecision.2
  rw [List.drop_drop] at taken
  exact (forWidth.trans forPrecision).trans (Supply.take_uses taken)

/-- Pieces that are filled use up the values: there are as many as the places ask for. -/
theorem fillPieces_uses {pieces : List Piece}
    (filled : fillPieces pieces (.listed values) = .ok text) :
    values.length = demandOf pieces := by
  induction pieces generalizing values text with
  | nil =>
    cases values with
    | nil => rfl
    | cons => cases filled
  | cons piece pieces inductionHypothesis =>
    cases piece with
    | literal character =>
      obtain ⟨others, filled, -⟩ := Flow.bind_eq_ok.mp filled
      simpa [demandOf, Piece.demand] using inductionHypothesis filled
    | place place =>
      obtain ⟨⟨shown, left⟩, filledHere, filled⟩ := Flow.bind_eq_ok.mp filled
      obtain ⟨others, filled, -⟩ := Flow.bind_eq_ok.mp filled
      obtain ⟨enough, rfl⟩ := Place.fill_uses filledHere
      have remaining := inductionHypothesis filled
      rw [List.length_drop] at remaining
      rw [demandOf, ← remaining, Piece.demand]
      omega

/-- A message is made of as many values as the places of its template ask for. -/
theorem fillTemplate_uses {template message : String} (given : values ≠ [])
    (listed : Supply.ofValues values = .listed values)
    (filled : fillTemplate template values = .ok message) :
    values.length = demandOf (pieces template) := by
  rw [fillTemplate, if_neg (by simpa using given), listed] at filled
  cases shown : fillPieces (pieces template) (.listed values) with
  | ok text => exact fillPieces_uses shown
  | error fault =>
    rw [shown] at filled
    cases filled

/-- A padded text is as long as the width says, or longer when the text itself is. -/
theorem Place.pad_length (place : Place) (width : Nat) (leftAligned : Bool) (shown : Shown) :
    (place.pad width leftAligned shown).length =
      max width (shown.lead.length + shown.body.length) := by
  unfold Place.pad
  dsimp only
  split
  · simp only [List.length_append, List.length_replicate]
    omega
  · split <;> simp only [List.length_append, List.length_replicate] <;> omega

/-- A place is never filled with less than the width it states. -/
theorem Place.fill_wide {place : Place} {width : Nat} (stated : place.width = .fixed width)
    (filled : place.fill supply = .ok (text, rest)) : width ≤ text.length := by
  obtain ⟨chosen, count, afterWidth, precision, afterPrecision, letter, value, shown, -, widened,
    -, -, -, -, rfl⟩ := Place.fill_eq_ok.mp filled
  obtain rfl : some (width : Int) = count := by
    rw [stated] at widened
    exact (Prod.mk.inj (Except.ok.inj widened)).1
  rw [Place.pad_length]
  exact Nat.le_max_left _ _

end Places

section Messages

/-- A part of a message: a character, or the text of the next value. -/
inductive Slot where
  | character (character : Char)
  | value
  deriving DecidableEq

/-- How a template spells it. -/
def Slot.spelling : Slot → List Char
  | .character letter => if letter = '%' then ['%', '%'] else [letter]
  | .value => ['%', 's']

/-- The piece that is read from there. -/
def Slot.piece : Slot → Piece
  | .character letter => .literal letter
  | .value => .place { conversion := some 's' }

/-- The template of a message. -/
def spelled (slots : List Slot) : String :=
  String.ofList (slots.flatMap Slot.spelling)

/-- What a message says with the texts of these values. -/
def said : List Slot → List Json → List Char
  | .character letter :: slots, values => letter :: said slots values
  | .value :: slots, value :: values => value.display.toList ++ said slots values
  | _, _ => []

/-- What was spelled is read, whatever follows. -/
theorem readPieces_spelling (slot : Slot) (following : List Char) :
    readPieces .plain (slot.spelling ++ following) =
      slot.piece :: readPieces .plain following := by
  cases slot with
  | value => rfl
  | character letter =>
    by_cases isSign : letter = '%'
    · subst isSign
      rfl
    · have read : Stage.read .plain letter = (.plain, some (.literal letter)) := by
        unfold Stage.read
        split <;> simp_all
      rw [Slot.spelling, if_neg isSign, List.singleton_append, readPieces, read]
      rfl

/-- The pieces of a template that was spelled are those of the message. -/
theorem pieces_spelled (slots : List Slot) : pieces (spelled slots) = slots.map Slot.piece := by
  rw [pieces, spelled, String.toList_ofList]
  induction slots with
  | nil => rfl
  | cons slot slots inductionHypothesis =>
    rw [List.flatMap_cons, readPieces_spelling, inductionHypothesis, List.map_cons]

/-- The place of a text is filled with it. -/
theorem fill_text (value : Json) (values : List Json) :
    Place.fill { conversion := some 's' } (.listed (value :: values)) =
      .ok (value.display.toList, .listed values) := by
  change Except.ok _ = _
  simp [Place.pad, showText]

/-- Filling the pieces of a message succeeds exactly when there are as many values as
places, and says the message. -/
theorem fillPieces_spelled (slots : List Slot) (values : List Json) :
    fillPieces (slots.map Slot.piece) (.listed values) =
      if values.length = slots.count .value then .ok (said slots values)
      else .error .wrongShape := by
  induction slots generalizing values with
  | nil => cases values <;> rfl
  | cons slot slots inductionHypothesis =>
    cases slot with
    | character character =>
      rw [List.map_cons, Slot.piece, fillPieces, inductionHypothesis,
        List.count_cons_of_ne (by nofun)]
      split <;> rfl
    | value =>
      rw [List.map_cons, Slot.piece, fillPieces, List.count_cons_self]
      cases values with
      | nil => rfl
      | cons value values =>
        rw [fill_text]
        change (fillPieces (slots.map Slot.piece) (.listed values) >>= fun _ => _) = _
        rw [inductionHypothesis, List.length_cons]
        simp only [Nat.add_right_cancel_iff]
        split <;> rfl

/-- A message is said with the texts of its values in its places and every other character
as it is, percent signs included, and it is said with no other number of values. -/
theorem fillTemplate_spelled (slots : List Slot) {values : List Json} (given : values ≠ [])
    (listed : Supply.ofValues values = .listed values) :
    fillTemplate (spelled slots) values =
      if values.length = slots.count .value then .ok (String.ofList (said slots values))
      else .error .wrongShape := by
  rw [fillTemplate, if_neg (by simpa using given), listed, pieces_spelled, fillPieces_spelled]
  split <;> rfl

example : spelled [.value, .character '%'] = "%s%%" := rfl

end Messages

section Records

/-- The names that members of a written line can have, in order. -/
def memberNames : List String :=
  ["timestamp", "level", "request_id", "logger", "function", "message"] ++ ["error", "traceback"] ++
    detailNames

/-- The details that are written have known names, in order. -/
theorem Record.names_detailMembers (record : Record) :
    (Fields.names record.detailMembers).Sublist detailNames := by
  unfold Record.detailMembers
  induction detailNames with
  | nil => exact .slnil
  | cons name names inductionHypothesis =>
    cases found : record.details.get? name with
    | none => simpa [found] using inductionHypothesis.cons name
    | some value => simpa [found, Fields.names] using inductionHypothesis.cons_cons name

/-- A line is written when its template can be filled, and then its members are these. -/
theorem Record.members_eq_ok {record : Record} {writtenAt trace : String} {members : Fields} :
    record.members writtenAt trace = .ok members ↔
      ∃ message, fillTemplate record.template record.values = .ok message ∧
        members = [("timestamp", .str writtenAt), ("level", .str (levelName record.level)),
          ("request_id", record.requestId), ("logger", .str record.logger),
          ("function", .ofText? record.function), ("message", .str message)] ++
          (record.error.elim [] fun error => [("error", .str error), ("traceback", .str trace)]) ++
          record.detailMembers := by
  unfold Record.members
  rw [Flow.bind_eq_ok]
  refine exists_congr fun message => and_congr_right fun _ => ?_
  cases record.error <;> exact ⟨fun same => (Except.ok.inj same).symm, fun same => same ▸ rfl⟩

/-- A written line has its members in a fixed order, each at most once: no detail takes the
place of what the line says by itself. -/
theorem Record.members_in_order {record : Record} {writtenAt trace : String} {members : Fields}
    (written : record.members writtenAt trace = .ok members) :
    (Fields.names members).Sublist memberNames ∧ (Fields.names members).Nodup := by
  obtain ⟨message, -, rfl⟩ := Record.members_eq_ok.mp written
  suffices ordered : (Fields.names _).Sublist memberNames from
    ⟨ordered, ordered.nodup (by decide)⟩
  rw [Fields.names, List.map_append, List.map_append]
  refine .append (.append (.refl _) ?_) record.names_detailMembers
  cases record.error with
  | none => exact List.nil_sublist _
  | some error => exact .refl _

/-- Among members that were looked up by their names, each is what was found for it. -/
theorem get?_filterMap (find : String → Option Json) (change : Json → Json) (names : List String)
    (name : String) :
    Fields.get? (names.filterMap fun each => (find each).map fun value => (each, change value))
      name = if name ∈ names then (find name).map change else none := by
  induction names with
  | nil => rfl
  | cons first names inductionHypothesis =>
    rw [List.filterMap_cons]
    by_cases same : first = name
    · subst same
      cases found : find first with
      | none => simpa [found] using inductionHypothesis
      | some value => simp [Fields.get?]
    · cases find first with
      | none => simpa [Ne.symm same] using inductionHypothesis
      | some value => simpa [Fields.get?, same, Ne.symm same] using inductionHypothesis

/-- Every detail with a known name is on the written line as its text. -/
theorem Record.members_detail {record : Record} {writtenAt trace : String} {members : Fields}
    (written : record.members writtenAt trace = .ok members) {name : String}
    (known : name ∈ detailNames) :
    members.get? name = (record.details.get? name).map fun value => .str value.display := by
  obtain ⟨message, -, rfl⟩ := Record.members_eq_ok.mp written
  have foreign : ∀ name ∈ detailNames,
      name ∉ ["timestamp", "level", "request_id", "logger", "function", "message"] ∧
        name ∉ ["error", "traceback"] := by
    decide
  obtain ⟨notOwn, notError⟩ := foreign name known
  rw [List.append_assoc, Fields.get?_append_of_not_mem notOwn,
    Fields.get?_append_of_not_mem ?_, Record.detailMembers, get?_filterMap, if_pos known]
  cases record.error with
  | none => exact List.not_mem_nil
  | some error => exact notError

end Records

section Levels

/-- The numbers of the table have names that stand for them. -/
theorem levelNumber_listed :
    ∀ entry ∈ levelTable, levelNumber (levelName entry.2) = .ok entry.2 := by
  intro entry isEntry
  simp only [levelTable, List.mem_cons, List.not_mem_nil, or_false] at isEntry
  rcases isEntry with rfl | rfl | rfl | rfl | rfl | rfl | rfl | rfl <;> rfl

/-- A level that a name stands for is written with a name that stands for it. -/
theorem levelNumber_levelName {name : String} {number : Nat}
    (known : levelNumber name = .ok number) : levelNumber (levelName number) = .ok number := by
  have listed : ∃ entry ∈ levelTable, entry.2 = number := by
    unfold levelNumber at known
    dsimp only at known
    split at known
    case h_1 found isFound =>
      obtain ⟨before, after, parts, -⟩ := List.lookup_eq_some_iff.mp isFound
      exact ⟨_, parts ▸ List.mem_append_right _ List.mem_cons_self, Except.ok.inj known⟩
    case h_2 => grind
  obtain ⟨entry, isEntry, rfl⟩ := listed
  exact levelNumber_listed entry isEntry

/-- The name of its level sets the thresholds that a name has set. -/
theorem Thresholds.ofLevel_levelName {name : String} {asObjects : Bool} {thresholds : Thresholds}
    (known : ofLevel name asObjects = .ok thresholds) :
    ofLevel (levelName thresholds.own) asObjects = .ok thresholds := by
  unfold ofLevel at known ⊢
  cases numbered : levelNumber name with
  | error fault =>
    rw [numbered] at known
    cases known
  | ok number =>
    rw [numbered] at known
    cases known
    rw [levelNumber_levelName numbered]
    rfl

end Levels

section Scopes

/-- What is written when scopes are entered one inside the other and left again. -/
theorem nested_run (scopes : List (Option String)) (run : Run Unit) :
    ∃ entries, (nested scopes).run run = (.ok (), { run with log := run.log ++ entries }) ∧
      entries.map (·.correlation) =
        ((run.correlation :: scopes) ++ (run.correlation :: scopes).dropLast.reverse).map
          correlationOf := by
  induction scopes generalizing run with
  | nil => exact ⟨_, rfl, rfl⟩
  | cons scope inner inductionHypothesis =>
    let mark : LogEntry := ⟨⟨.info, ""⟩, correlationOf run.correlation⟩
    obtain ⟨entries, ran, seen⟩ := inductionHypothesis
      { run with log := run.log ++ [mark], correlation := scope }
    have left : (Flow.correlated scope (nested inner)).run { run with log := run.log ++ [mark] } =
        (.ok (), { run with log := run.log ++ [mark] ++ entries }) := by
      rw [Flow.correlated_run, ran]
    refine ⟨mark :: entries ++ [mark], ?_, ?_⟩
    · change (Flow.correlated scope (nested inner) >>= fun _ => Flow.log .info "").run
        { run with log := run.log ++ [mark] } = _
      rw [Flow.bind_run, left]
      dsimp only
      rw [Flow.log_run, List.append_assoc, List.append_assoc, List.cons_append]
      rfl
    · simp [seen, mark]

/-- Lines are written under the correlation of the innermost scope that is entered and not yet
left: on the way in under one scope after the other, and on the way out backwards. -/
theorem correlationsSeen_eq (current : Option String) (scopes : List (Option String)) :
    correlationsSeen current scopes =
      ((current :: scopes) ++ (current :: scopes).dropLast.reverse).map correlationOf := by
  obtain ⟨entries, ran, seen⟩ := nested_run scopes { peers := (), correlation := current }
  rw [correlationsSeen, ran]
  exact seen

end Scopes

end Mailroom.Log
