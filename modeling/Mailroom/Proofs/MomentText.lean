import Mailroom.Proofs.TextParts
import Mailroom.Time.IsoText
import Mathlib.Data.List.TakeWhile

/-!
# Moments that read back

Case data holds a moment as the time on its clock, to the millisecond. Such a
text has hyphens, colons and a point at fixed places and digits everywhere else,
so that every part of it is found where it was written.
-/

namespace Mailroom.Time

open Text

/-- A digit of a number that was written is none of the marks of a moment. -/
theorem decimalDigits_marks {width value : Nat} {character : Char}
    (member : character ∈ decimalDigits width value) :
    isBlank character = false ∧ isZoneMark character = false ∧ character ≠ 'W' ∧
      character ≠ '-' ∧ character ≠ ':' := by
  have marks : ∀ digit < 10, isBlank (decimalDigit digit) = false ∧
      isZoneMark (decimalDigit digit) = false ∧ decimalDigit digit ≠ 'W' ∧
      decimalDigit digit ≠ '-' ∧ decimalDigit digit ≠ ':' := by
    decide
  induction width generalizing value with
  | zero => cases member
  | succ width inductionHypothesis =>
    rcases List.mem_append.mp member with former | last
    · exact inductionHypothesis former
    · rw [List.mem_singleton.mp last]
      exact marks _ (Nat.mod_lt _ (by decide))

/-- A date takes ten characters. -/
theorem dateChars_length (date : Date) : (dateChars date).length = 10 := by
  simp [dateChars, decimalDigits_length]

/-- No month has more than 31 days. -/
theorem daysInMonth_le (year month : Nat) : daysInMonth year month ≤ 31 := by
  unfold daysInMonth
  split
  · split <;> omega
  · split <;> omega

/-- A month and a day with hyphens before them are read back. -/
theorem readMonthDate_digits {date : Date} (valid : date.isValid = true) :
    readMonthDate date.year true (decimalDigits 2 date.month ++ '-' :: decimalDigits 2 date.day) =
      some date := by
  simp only [Date.isValid, Date.hasMonthAndDay, Bool.and_eq_true, decide_eq_true_eq] at valid
  obtain ⟨-, ⟨⟨-, month⟩, -⟩, day⟩ := valid
  have short := daysInMonth_le date.year date.month
  have monthRead :=
    readDecimal_decimalDigits 2 date.month ('-' :: decimalDigits 2 date.day)
      (show _ < 100 by omega)
  have dayRead := readDecimal_decimalDigits 2 date.day [] (show _ < 100 by omega)
  rw [List.append_nil] at dayRead
  rw [readMonthDate, monthRead]
  simp only [dropMark, if_true, Option.bind_eq_bind, Option.bind_some, dayRead, List.isEmpty_nil]

/-- A date with hyphens is read back. -/
theorem readDate_dateChars {date : Date} (valid : date.isValid = true) :
    readDate (dateChars date) = some date := by
  have year : date.year < 10000 := by
    simp only [Date.isValid, Bool.and_eq_true, decide_eq_true_eq] at valid
    omega
  have noWeek : decimalDigit (date.month / 10 % 10) ≠ 'W' :=
    (decimalDigits_marks (show _ ∈ decimalDigits 2 date.month from List.mem_cons_self)).2.2.1
  rw [dateChars, List.append_assoc, List.cons_append, readDate,
    readDecimal_decimalDigits 4 date.year _ year, Option.bind_eq_bind, Option.bind_some]
  have rest := readMonthDate_digits valid
  simp only
  split
  next week => exact absurd (List.cons.inj week).1 noWeek
  next => exact rest

/-- The characters of a time of day with a fraction of three digits. -/
def clockText (clock : Clock) : List Char :=
  secondChars clock ++ '.' :: decimalDigits 3 (clock.microsecond / 1000)

/-- After a colon a further number is read. -/
theorem clockStep_colon {rest : List Char} (more : rest ≠ []) :
    clockStep true (':' :: rest) = some (.further rest) := by
  cases rest with
  | nil => exact absurd rfl more
  | cons next others => rfl

/-- After a point a fraction is read. -/
theorem clockStep_point {rest : List Char} (more : rest ≠ []) :
    clockStep true ('.' :: rest) = some (.fraction rest) := by
  cases rest with
  | nil => exact absurd rfl more
  | cons next others => rfl

/-- A fraction of up to six digits is read back in microseconds. -/
theorem readFraction_digits (width : Nat) (clock : Clock) {fraction : Nat} (short : width ≤ 6)
    (fits : fraction < Nat.pow 10 width) :
    readFraction clock (decimalDigits width fraction) =
      some ({ clock with microsecond := fraction * Nat.pow 10 (6 - width) }, false) := by
  have read := readDecimal_decimalDigits width fraction [] fits
  rw [List.append_nil] at read
  rw [readFraction, decimalDigits_length, Nat.min_eq_right short, read]
  rfl

/-- After hours, minutes and seconds it is decided by what follows where a time of day ends. -/
theorem readClock_seconds {clock : Clock} (valid : clock.isValid = true) (rest : List Char) :
    readClock (secondChars clock ++ rest) = (clockStep true rest).bind fun
      | .finished unread => some ({ clock with microsecond := 0 }, unread)
      | .fraction rest | .further rest => readFraction { clock with microsecond := 0 } rest := by
  simp only [Clock.isValid, Bool.and_eq_true, decide_eq_true_eq] at valid
  have hourRead (rest : List Char) := readDecimal_decimalDigits 2 clock.hour rest
    (show _ < 100 by omega)
  have minuteRead (rest : List Char) := readDecimal_decimalDigits 2 clock.minute rest
    (show _ < 100 by omega)
  have secondRead (rest : List Char) := readDecimal_decimalDigits 2 clock.second rest
    (show _ < 100 by omega)
  simp only [secondChars, List.append_assoc, List.cons_append, readClock, hourRead,
    List.head?_cons, Option.bind_eq_bind, Option.bind_some, decide_true]
  rw [clockStep_colon (by simp [decimalDigits])]
  simp only [minuteRead, Option.bind_some]
  rw [clockStep_colon (by simp [decimalDigits])]
  simp only [secondRead, Option.bind_some]
  rfl

/-- A time of day with a fraction of three digits is read to the millisecond. -/
theorem readClock_clockText {clock : Clock} (valid : clock.isValid = true) :
    readClock (clockText clock) =
      some ({ clock with microsecond := clock.microsecond / 1000 * 1000 }, false) := by
  rw [clockText, readClock_seconds valid, clockStep_point (by simp [decimalDigits]),
    Option.bind_some]
  simp only [Clock.isValid, Bool.and_eq_true, decide_eq_true_eq] at valid
  exact readFraction_digits 3 _ (by decide) (show clock.microsecond / 1000 < 1000 by omega)

/-- A time of day and what starts like an offset are read one after the other. -/
theorem readTime_append {body zone : List Char} {clock : Clock} {offset : Option Int}
    (inside : ∀ each ∈ body, isZoneMark each = false)
    (opens : ∀ each ∈ zone.head?, isZoneMark each = true)
    (clockRead : readClock body = some (clock, false))
    (offsetRead : readOffset false zone = some offset) :
    readTime (body ++ zone) = some (clock, offset) := by
  have kept : ∀ each ∈ body, (!isZoneMark each) = true := by
    intro each member
    rw [inside each member]
    rfl
  have taken : zone.takeWhile (!isZoneMark ·) = [] := by
    cases zone with
    | nil => rfl
    | cons sign rest => rw [List.takeWhile_cons, opens sign rfl]; rfl
  have dropped : zone.dropWhile (!isZoneMark ·) = zone :=
    dropWhile_eq_self fun each first => by rw [opens each first]; rfl
  rw [readTime, List.takeWhile_append_of_pos kept, List.dropWhile_append_of_pos kept, taken,
    dropped, List.append_nil, clockRead, Option.bind_eq_bind, Option.bind_some]
  simp only [offsetRead, Option.bind_eq_bind, Option.bind_some, Option.pure_def]

/-- No character of a time of day to the second starts an offset. -/
theorem isZoneMark_secondChars (clock : Clock) :
    ∀ each ∈ secondChars clock, isZoneMark each = false := by
  have figures (value : Nat) : ∀ each ∈ decimalDigits 2 value, isZoneMark each = false :=
    fun each digit => (decimalDigits_marks digit).2.1
  rw [secondChars, List.forall_mem_append, List.forall_mem_append, List.forall_mem_cons,
    List.forall_mem_cons]
  exact ⟨⟨figures clock.hour, by decide, figures clock.minute⟩, by decide, figures clock.second⟩

/-- A time of day without an offset is read back. -/
theorem readTime_clockText {clock : Clock} (valid : clock.isValid = true) :
    readTime (clockText clock) =
      some ({ clock with microsecond := clock.microsecond / 1000 * 1000 }, none) := by
  have noZone : ∀ each ∈ clockText clock, isZoneMark each = false :=
    List.forall_mem_append.mpr ⟨isZoneMark_secondChars clock, List.forall_mem_cons.mpr
      ⟨by decide, fun each digit => (decimalDigits_marks digit).2.1⟩⟩
  have nothing : ∀ each ∈ ([] : List Char).head?, isZoneMark each = true := by
    rintro _ ⟨⟩
  have read := readTime_append noZone nothing (readClock_clockText valid) rfl
  rwa [List.append_nil] at read

/-- The date at the start of a moment that was written is found by its hyphens, whatever follows a
time of day to the second. -/
theorem dateLength?_clockChars (moment : Moment) (rest : List Char) :
    dateLength? (moment.clockChars ++ rest) = some 10 := by
  have noWeek : decimalDigit (moment.date.month / 10 % 10) ≠ 'W' :=
    (decimalDigits_marks (show _ ∈ decimalDigits 2 moment.date.month from List.mem_cons_self)).2.2.1
  have long : (moment.clockChars ++ rest).length ≠ 7 := by
    simp only [Moment.clockChars, List.length_append, dateChars_length]
    omega
  have hyphen : (moment.clockChars ++ rest)[4]? = some '-' := rfl
  have month :
      (moment.clockChars ++ rest)[5]? = some (decimalDigit (moment.date.month / 10 % 10)) :=
    rfl
  rw [dateLength?, if_neg long, if_pos hyphen, month,
    if_neg fun same => noWeek (Option.some.inj same)]

/-- So it is where milliseconds follow. -/
theorem dateLength?_localChars (moment : Moment) : dateLength? moment.localChars = some 10 :=
  dateLength?_clockChars moment _

/-- A moment that was written to case data is read back without its offset and
cut to the millisecond. -/
theorem readIsoText_localText {moment : Moment} (valid : moment.isValid = true) :
    readIsoText moment.localText = some moment.withoutOffset.cutToMillisecond := by
  have parts : moment.localChars = dateChars moment.date ++ 'T' :: clockText moment.clock := by
    simp [Moment.localChars, Moment.clockChars, clockText]
  have first : moment.localChars.head? =
      some (decimalDigit (moment.date.year / 10 / 10 / 10 % 10)) := rfl
  have last : moment.localChars.getLast? =
      some (decimalDigit (moment.clock.microsecond / 1000 % 10)) := by
    rw [Moment.localChars, decimalDigits, ← List.cons_append, ← List.append_assoc,
      List.getLast?_concat]
  have noBlank {value : Nat} : isBlank (decimalDigit (value % 10)) = false :=
    (decimalDigits_marks (show _ ∈ decimalDigits 1 value from List.mem_singleton_self _)).1
  have noZulu : decimalDigit (moment.clock.microsecond / 1000 % 10) ≠ 'Z' := by
    intro same
    have notMark := (decimalDigits_marks
      (show _ ∈ decimalDigits 1 (moment.clock.microsecond / 1000) from List.mem_singleton_self _)).2.1
    rw [same] at notMark
    exact absurd notMark (by decide)
  have trimmed : trimWhile isBlank moment.localChars = moment.localChars := by
    refine trimWhile_eq_self ?_ ?_
    · rw [first]
      rintro _ ⟨⟩
      exact noBlank
    · rw [last]
      rintro _ ⟨⟩
      exact noBlank
  simp only [Moment.isValid, Bool.and_eq_true] at valid
  obtain ⟨⟨date, clock⟩, -⟩ := valid
  have cut : ({ moment.clock with microsecond := moment.clock.microsecond / 1000 * 1000 } :
      Clock).isValid = true := by
    simp only [Clock.isValid, Bool.and_eq_true, decide_eq_true_eq] at clock ⊢
    omega
  have isValid : moment.withoutOffset.cutToMillisecond.isValid = true := by
    simp only [Moment.isValid, Moment.cutToMillisecond, Moment.withoutOffset, date, cut,
      Bool.and_self]
  rw [readIsoText, Moment.localText, String.toList_ofList, trimmed, expandZulu, last,
    if_neg fun same => noZulu (Option.some.inj same), readIsoChars, dateLength?_localChars, parts,
    Option.bind_eq_bind, Option.bind_some, List.take_left' (dateChars_length _),
    List.drop_left' (dateChars_length _), readDate_dateChars date, readAfterDate,
    readTime_clockText clock]
  exact if_pos isValid

end Mailroom.Time
