import Mailroom.Proofs.DocumentAddress

/-!
# Moments that are stored and found again

A moment that was written in full is read as it was, whatever blanks stand around it and whether
universal time is marked by its offset or by `Z`. Written the way case data holds it, it comes back
on its clock and cut to the millisecond, so that writing it once more changes nothing. A stored
value that is no such text holds no moment, another one, or is refused for its content.
-/

namespace Mailroom.Text

/-- The blanks around a text that starts and ends in other characters are trimmed. -/
theorem trimWhile_padded {remove : Char → Bool} {before body after : List Char}
    (removedBefore : ∀ each ∈ before, remove each = true)
    (removedAfter : ∀ each ∈ after, remove each = true) (filled : body ≠ [])
    (first : ∀ each ∈ body.head?, remove each = false)
    (last : ∀ each ∈ body.getLast?, remove each = false) :
    trimWhile remove (before ++ body ++ after) = body := by
  have opens : ∀ each ∈ (body ++ after).head?, remove each = false := by
    obtain ⟨start, rest, rfl⟩ := List.exists_cons_of_ne_nil filled
    exact first
  have nothing : dropEndWhile remove after = [] := by
    rw [dropEndWhile, List.dropWhile_eq_nil_iff.mpr fun each member =>
      removedAfter each (List.mem_reverse.mp member), List.reverse_nil]
  rw [trimWhile, List.append_assoc, List.dropWhile_append_of_pos removedBefore,
    dropWhile_eq_self opens, dropEndWhile_append last, nothing, List.append_nil]

end Mailroom.Text

namespace Mailroom.Time

open Text

/-- Hours and minutes are a time of day. -/
theorem readClock_minutes {hour minute : Nat} (hourFits : hour < 100) (minuteFits : minute < 100) :
    readClock (decimalDigits 2 hour ++ ':' :: decimalDigits 2 minute) =
      some (⟨hour, minute, 0, 0⟩, false) := by
  have minuteRead := readDecimal_decimalDigits 2 minute [] minuteFits
  rw [List.append_nil] at minuteRead
  rw [readClock, readDecimal_decimalDigits 2 hour _ hourFits]
  simp only [Option.bind_eq_bind, Option.bind_some, List.head?_cons, decide_true]
  rw [clockStep_colon (by simp [decimalDigits])]
  simp only [Option.bind_some, minuteRead, clockStep, Option.pure_def]

/-- A time of day that was written in full is read back. -/
theorem readClock_full {clock : Clock} (valid : clock.isValid = true) :
    readClock (secondChars clock ++ fractionChars clock.microsecond) = some (clock, false) := by
  rw [readClock_seconds valid]
  unfold fractionChars
  split
  next none => rw [clockStep, Option.bind_some, ← none]
  next some =>
    simp only [Clock.isValid, Bool.and_eq_true, decide_eq_true_eq] at valid
    rw [clockStep_point (by simp [decimalDigits]), Option.bind_some]
    have read := readFraction_digits 6 { clock with microsecond := 0 } (by decide) valid.2
    rwa [Nat.sub_self, Nat.pow_eq, Nat.pow_zero, Nat.mul_one] at read

/-- No character of a time of day that was written in full starts an offset. -/
theorem isZoneMark_full (clock : Clock) :
    ∀ each ∈ secondChars clock ++ fractionChars clock.microsecond, isZoneMark each = false := by
  refine List.forall_mem_append.mpr ⟨isZoneMark_secondChars clock, ?_⟩
  unfold fractionChars
  split
  · exact List.forall_mem_nil _
  · exact List.forall_mem_cons.mpr ⟨by decide, fun each digit => (decimalDigits_marks digit).2.1⟩

/-- The size of an offset in whole seconds is read back. -/
theorem readClock_offset {seconds : Nat} (fits : seconds < 86400) :
    readClock (decimalDigits 2 (seconds / 3600) ++ ':' :: decimalDigits 2 (seconds / 60 % 60) ++
      if seconds % 60 = 0 then [] else ':' :: decimalDigits 2 (seconds % 60)) =
        some (⟨seconds / 3600, seconds / 60 % 60, seconds % 60, 0⟩, false) := by
  split
  next whole =>
    rw [List.append_nil, readClock_minutes (by omega) (by omega), whole]
  next rest =>
    have valid : Clock.isValid ⟨seconds / 3600, seconds / 60 % 60, seconds % 60, 0⟩ = true := by
      simp only [Clock.isValid, Bool.and_eq_true, decide_eq_true_eq]
      omega
    have full := readClock_full valid
    rwa [fractionChars, if_pos rfl, List.append_nil] at full

/-- An offset in whole seconds is its sign and its size. -/
theorem offsetChars_seconds {offset : Int} {seconds : Nat}
    (size : offset.natAbs = seconds * 1000000) :
    offsetChars offset = signChar offset ::
      (decimalDigits 2 (seconds / 3600) ++ ':' :: decimalDigits 2 (seconds / 60 % 60) ++
        if seconds % 60 = 0 then [] else ':' :: decimalDigits 2 (seconds % 60)) := by
  have whole : offset.natAbs / 1000000 = seconds := by omega
  have rest : offset.natAbs % 1000000 = 0 := by omega
  simp only [offsetChars, whole, rest, decide_true, Bool.and_true, decide_eq_true_eq,
    fractionChars, if_true, List.append_nil, List.cons_append]

/-- An offset in whole seconds is read back. -/
theorem readOffset_offsetChars {offset : Int} (whole : microsPerSecond ∣ offset)
    (within : -microsPerDay < offset ∧ offset < microsPerDay) :
    readOffset false (offsetChars offset) = some (some offset) := by
  obtain ⟨count, rfl⟩ := whole
  simp only [microsPerDay, microsPerSecond] at within ⊢
  have size : (1000000 * count).natAbs = count.natAbs * 1000000 := by omega
  have same : offsetOf (signChar (1000000 * count) = '-')
      ⟨count.natAbs / 3600, count.natAbs / 60 % 60, count.natAbs % 60, 0⟩ = 1000000 * count := by
    unfold offsetOf signChar
    extract_lets seconds micros
    have total : seconds = count.natAbs := by simp only [seconds]; omega
    split
    · omega
    · simp only [micros, total]
      by_cases negative : 1000000 * count < 0
      · simp only [if_pos negative, decide_true, if_true]
        omega
      · simp only [if_neg negative]
        rw [if_neg (by decide)]
        omega
  have notZulu : signChar (1000000 * count) ≠ 'Z' := by
    unfold signChar
    split <;> decide
  rw [offsetChars_seconds size, readOffset, readClock_offset (by omega)]
  · simp only [Option.bind_eq_bind, Option.bind_some, Bool.false_eq_true, if_false, same]
  · exact notZulu

/-- An offset stands behind the clock, and nothing where there is none; it is read back either
way. -/
theorem isoChars_zone {moment : Moment} (valid : moment.isValid = true)
    (whole : ∀ offset ∈ moment.offset, microsPerSecond ∣ offset) :
    ∃ zone, moment.isoChars = moment.clockChars ++
        fractionChars moment.clock.microsecond ++ zone ∧
      readOffset false zone = some moment.offset ∧
      ∀ each ∈ zone.head?, isZoneMark each = true := by
  simp only [Moment.isValid, Bool.and_eq_true] at valid
  obtain ⟨-, within⟩ := valid
  cases isOffset : moment.offset with
  | none =>
    refine ⟨[], ?_, rfl, ?_⟩
    · rw [Moment.isoChars, isOffset]
    · rintro _ ⟨⟩
  | some offset =>
    rw [isOffset] at within
    simp only [Bool.and_eq_true, decide_eq_true_eq] at within
    refine ⟨offsetChars offset, ?_, readOffset_offsetChars (whole offset isOffset) within, ?_⟩
    · rw [Moment.isoChars, isOffset]
    · rintro _ ⟨⟩
      unfold signChar
      split <;> decide

/-- A moment that was written in full is read back. -/
theorem readIsoChars_isoChars {moment : Moment} (valid : moment.isValid = true)
    (whole : ∀ offset ∈ moment.offset, microsPerSecond ∣ offset) :
    readIsoChars moment.isoChars = some moment := by
  obtain ⟨zone, written, zoneRead, marked⟩ := isoChars_zone valid whole
  let body := secondChars moment.clock ++ fractionChars moment.clock.microsecond
  have parts : moment.isoChars = dateChars moment.date ++ 'T' :: (body ++ zone) := by
    rw [written]
    simp only [Moment.clockChars, List.append_assoc, List.cons_append, body]
  have length : dateLength? moment.isoChars = some 10 := by
    rw [written, List.append_assoc, dateLength?_clockChars]
  have isMoment := valid
  simp only [Moment.isValid, Bool.and_eq_true] at valid
  obtain ⟨⟨date, clock⟩, -⟩ := valid
  have time := readTime_append (isZoneMark_full moment.clock) marked (readClock_full clock) zoneRead
  rw [readIsoChars, length, parts, Option.bind_eq_bind, Option.bind_some,
    List.take_left' (dateChars_length _), List.drop_left' (dateChars_length _),
    readDate_dateChars date, Option.bind_eq_bind, Option.bind_some, readAfterDate, time]
  exact if_pos isMoment

/-- Characters the last of which is a digit. -/
def EndsInFigure (characters : List Char) : Prop :=
  ∃ start value, characters = start ++ [decimalDigit (value % 10)]

/-- A number that was written ends in a digit. -/
theorem endsInFigure_decimalDigits (width value : Nat) :
    EndsInFigure (decimalDigits (width + 1) value) :=
  ⟨_, value, rfl⟩

/-- Whatever stands before characters, they end as before. -/
theorem EndsInFigure.append {characters : List Char} (ends : EndsInFigure characters)
    (before : List Char) : EndsInFigure (before ++ characters) := by
  obtain ⟨start, value, rfl⟩ := ends
  exact ⟨before ++ start, value, (List.append_assoc ..).symm⟩

/-- A character before others leaves their end as it is. -/
theorem EndsInFigure.cons {characters : List Char} (ends : EndsInFigure characters)
    (first : Char) : EndsInFigure (first :: characters) :=
  ends.append [first]

/-- A fraction behind a number ends in a digit as well. -/
theorem EndsInFigure.fraction {characters : List Char} (ends : EndsInFigure characters)
    (micros : Nat) : EndsInFigure (characters ++ fractionChars micros) := by
  unfold fractionChars
  split
  · rwa [List.append_nil]
  · exact ((endsInFigure_decimalDigits 5 micros).cons '.').append characters

/-- An offset ends in a digit. -/
theorem endsInFigure_offsetChars (offset : Int) : EndsInFigure (offsetChars offset) := by
  unfold offsetChars
  extract_lets micros seconds fraction
  split
  · rw [List.append_nil]
    exact (((endsInFigure_decimalDigits 1 _).cons ':').append _).cons _
  · exact (((endsInFigure_decimalDigits 1 _).cons ':').fraction fraction).append _

/-- A moment that was written in full ends in a digit. -/
theorem endsInFigure_isoChars (moment : Moment) : EndsInFigure moment.isoChars := by
  have clock : EndsInFigure moment.clockChars :=
    (((endsInFigure_decimalDigits 1 _).cons ':').append _ |>.cons 'T').append _
  unfold Moment.isoChars
  split
  · rw [List.append_nil]
    exact clock.fraction _
  · exact (endsInFigure_offsetChars _).append _

/-- A digit is neither blank nor the mark of an offset. -/
theorem decimalDigit_plain (value : Nat) :
    isBlank (decimalDigit (value % 10)) = false ∧
      isZoneMark (decimalDigit (value % 10)) = false := by
  have marks := decimalDigits_marks (show _ ∈ decimalDigits 1 value from List.mem_singleton_self _)
  exact ⟨marks.1, marks.2.1⟩

/-- A moment that was written in full starts with a digit. -/
theorem head?_isoChars (moment : Moment) :
    moment.isoChars.head? = some (decimalDigit (moment.date.year / 10 / 10 / 10 % 10)) :=
  rfl

/-- Blanks around a text that starts and ends in other characters count for nothing. -/
theorem readIsoText_padded {before after : String} {body : List Char}
    (blankBefore : ∀ each ∈ before.toList, isBlank each = true)
    (blankAfter : ∀ each ∈ after.toList, isBlank each = true) (filled : body ≠ [])
    (first : ∀ each ∈ body.head?, isBlank each = false)
    (last : ∀ each ∈ body.getLast?, isBlank each = false) :
    readIsoText (before ++ String.ofList body ++ after) = readIsoChars (expandZulu body) := by
  rw [readIsoText, String.toList_append, String.toList_append, String.toList_ofList,
    trimWhile_padded blankBefore blankAfter filled first last]

section Padded

variable {moment : Moment} {before after : String}

/-- A moment that was written in full is read back from among blanks. -/
theorem readIsoText_isoText (valid : moment.isValid = true)
    (whole : ∀ offset ∈ moment.offset, microsPerSecond ∣ offset)
    (blankBefore : ∀ each ∈ before.toList, isBlank each = true)
    (blankAfter : ∀ each ∈ after.toList, isBlank each = true) :
    readIsoText (before ++ moment.isoText ++ after) = some moment := by
  obtain ⟨start, value, ends⟩ := endsInFigure_isoChars moment
  have last : moment.isoChars.getLast? = some (decimalDigit (value % 10)) := by
    rw [ends, List.getLast?_concat]
  have notZulu : decimalDigit (value % 10) ≠ 'Z' := by
    intro same
    have notMark := (decimalDigit_plain value).2
    rw [same] at notMark
    cases notMark
  have unchanged : expandZulu moment.isoChars = moment.isoChars := by
    rw [expandZulu, last, if_neg fun same => notZulu (Option.some.inj same)]
  have filled : moment.isoChars ≠ [] := List.cons_ne_nil _ _
  rw [Moment.isoText, readIsoText_padded blankBefore blankAfter filled, unchanged,
    readIsoChars_isoChars valid whole]
  · rw [head?_isoChars]
    rintro _ ⟨⟩
    exact (decimalDigit_plain _).1
  · rw [last]
    rintro _ ⟨⟩
    exact (decimalDigit_plain _).1

/-- So is one at universal time when the mark `Z` stands for its offset. -/
theorem readIsoText_zulu (valid : moment.isValid = true)
    (whole : ∀ offset ∈ moment.offset, microsPerSecond ∣ offset)
    (blankBefore : ∀ each ∈ before.toList, isBlank each = true)
    (blankAfter : ∀ each ∈ after.toList, isBlank each = true) {start : String}
    (parts : moment.isoText = start ++ "+00:00") :
    readIsoText (before ++ (start ++ "Z") ++ after) = some moment := by
  have characters : moment.isoChars = start.toList ++ "+00:00".toList := by
    rw [← String.toList_append, ← parts, Moment.isoText, String.toList_ofList]
  have first := head?_isoChars moment
  have started : start.toList ≠ [] := by
    intro nothing
    have notMark := (decimalDigit_plain (moment.date.year / 10 / 10 / 10)).2
    rw [characters, nothing] at first
    rw [← Option.some.inj first] at notMark
    cases notMark
  have body : start ++ "Z" = String.ofList (start.toList ++ ['Z']) := by
    rw [String.ofList_append, String.ofList_toList]
  have expanded : expandZulu (start.toList ++ ['Z']) = moment.isoChars := by
    rw [expandZulu, List.getLast?_concat, if_pos rfl, List.dropLast_concat, characters]
  rw [body, readIsoText_padded blankBefore blankAfter (by simp), expanded,
    readIsoChars_isoChars valid whole]
  · obtain ⟨opening, rest, opens⟩ := List.exists_cons_of_ne_nil started
    rw [characters, opens] at first
    rw [opens]
    rintro _ ⟨⟩
    rw [Option.some.inj first]
    exact (decimalDigit_plain _).1
  · rw [List.getLast?_concat]
    exact fun each isLast => Option.some.inj isLast ▸ rfl

end Padded
end Mailroom.Time

namespace Mailroom.OpenData

open Time Text

/-- A text that is read as a moment holds it. -/
theorem storedMoment_of_read {text : String} {moment : Moment}
    (read : readIsoText text = some moment) : storedMoment (.str text) = .ok (some moment) := by
  have filled : text.isEmpty = false := by
    rw [Bool.eq_false_iff, ne_eq, String.isEmpty_iff]
    rintro rfl
    cases read
  rw [storedMoment, filled, if_neg Bool.false_ne_true, read]

/-- A moment that is read exists. -/
theorem isValid_of_readIsoText {text : String} {moment : Moment}
    (read : readIsoText text = some moment) : moment.isValid = true := by
  unfold readIsoText readIsoChars at read
  obtain ⟨_, -, read⟩ := Option.bind_eq_some_iff.mp read
  obtain ⟨_, -, read⟩ := Option.bind_eq_some_iff.mp read
  obtain ⟨⟨clock, offset⟩, -, read⟩ := Option.bind_eq_some_iff.mp read
  dsimp only at read
  split at read
  next inCalendar =>
    obtain rfl := Option.some.inj read
    exact inCalendar
  next => cases read

/-- What a stored value may be: nothing, for null and the empty text alone, a moment that exists, or
a value that is refused for its content. -/
theorem storedMoment_outcomes (value : Json) :
    (storedMoment value = .ok none ↔ value = .null ∨ value = .str "") ∧
      (storedMoment value = .ok none ∨
        (∃ moment, storedMoment value = .ok (some moment) ∧ moment.isValid = true) ∨
        storedMoment value = .error .badContent) := by
  cases value with
  | null => simp [storedMoment]
  | str text =>
    cases empty : text.isEmpty with
    | true =>
      obtain rfl := String.isEmpty_iff.mp empty
      simp [storedMoment]
    | false =>
      have filled : text ≠ "" := by
        rintro rfl
        cases empty
      cases read : readIsoText text with
      | none => simp [storedMoment, empty, read, filled]
      | some moment =>
        have inCalendar := isValid_of_readIsoText read
        simp [storedMoment, empty, read, filled, inCalendar]
  | _ => simp [storedMoment]

/-- A moment as case data holds it is written the same once more. -/
theorem localText_cutToMillisecond (moment : Moment) :
    moment.withoutOffset.cutToMillisecond.localText = moment.localText := by
  have again : moment.clock.microsecond / 1000 * 1000 / 1000 = moment.clock.microsecond / 1000 :=
    Nat.mul_div_cancel _ (by decide)
  simp only [Moment.localText, Moment.localChars, Moment.clockChars, secondChars,
    Moment.cutToMillisecond, Moment.withoutOffset, again]

/-- Moments that are stored and found again. A moment that was written in full, its offset in whole
seconds if it has one, is read as it was, from among blanks and with `Z` for a final `+00:00`.
Written the way case data holds it, it comes back on its clock and cut to the millisecond, and
writing that once more gives the same text. Any value at all holds no moment, which null and the
empty text do alone, or a moment that exists, or is refused for its content. -/
theorem stored_moments_round_trip {moment : Moment} (valid : moment.isValid = true)
    (whole : ∀ offset ∈ moment.offset, microsPerSecond ∣ offset) :
    (∀ before after : String, (∀ each ∈ before.toList, isBlank each = true) →
      (∀ each ∈ after.toList, isBlank each = true) →
      storedMoment (.str (before ++ moment.isoText ++ after)) = .ok (some moment) ∧
        ∀ start, moment.isoText = start ++ "+00:00" →
          storedMoment (.str (before ++ (start ++ "Z") ++ after)) = .ok (some moment)) ∧
      storedMoment (writeMoment (some moment)) =
        .ok (some moment.withoutOffset.cutToMillisecond) ∧
      writeMoment <$> storedMoment (writeMoment (some moment)) = .ok (writeMoment (some moment)) ∧
      ∀ value, (storedMoment value = .ok none ↔ value = .null ∨ value = .str "") ∧
        (storedMoment value = .ok none ∨
          (∃ found, storedMoment value = .ok (some found) ∧ found.isValid = true) ∨
          storedMoment value = .error .badContent) := by
  have stored := storedMoment_of_read (readIsoText_localText valid)
  refine ⟨fun before after blankBefore blankAfter => ⟨?_, fun start parts => ?_⟩, stored, ?_,
    storedMoment_outcomes⟩
  · exact storedMoment_of_read (readIsoText_isoText valid whole blankBefore blankAfter)
  · exact storedMoment_of_read (readIsoText_zulu valid whole blankBefore blankAfter parts)
  · rw [writeMoment, stored, ← localText_cutToMillisecond moment]
    rfl

/-- A moment of the first day there is, with a fraction that does not end in zero and an offset of
hours, minutes and seconds. -/
def firstDay : Moment := ⟨⟨1, 1, 1⟩, ⟨23, 59, 59, 999999⟩, some (-3723000000)⟩

/-- It is found again, with its offset or without. -/
theorem first_day_round_trips :
    storedMoment (.str "\u3000 0001-01-01T23:59:59.999999-01:02:03\n") = .ok (some firstDay) ∧
      storedMoment (writeMoment (some firstDay)) =
        .ok (some ⟨⟨1, 1, 1⟩, ⟨23, 59, 59, 999000⟩, none⟩) := by
  have valid : firstDay.isValid = true := by decide
  have whole : ∀ offset ∈ firstDay.offset, microsPerSecond ∣ offset := by
    rintro _ ⟨⟩
    decide
  have trips := stored_moments_round_trip valid whole
  have padded : "\u3000 0001-01-01T23:59:59.999999-01:02:03\n" =
      "\u3000 " ++ firstDay.isoText ++ "\n" := by
    decide +kernel
  rw [padded]
  have before : "\u3000 ".toList.all isBlank = true := by decide +kernel
  have after : "\n".toList.all isBlank = true := by decide +kernel
  exact ⟨(trips.1 _ _ (List.all_eq_true.mp before) (List.all_eq_true.mp after)).1, trips.2.1⟩

end Mailroom.OpenData
