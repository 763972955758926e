import Mailroom.Proofs.MomentText
import Mailroom.Proofs.ReadMoments

/-!
# Moments in requests that read back

A request holds a moment in the form of RFC 3339, its offset in hours and minutes
and universal time marked by `Z`. A moment that exists is read back from this form
if its offset is in whole minutes, as it is for every moment that was accepted from
a message: those that are counted in seconds are in universal time, and in a text an
offset has hours and minutes only.
-/

namespace Mailroom.Time

open Text

/-- A digit that was written has its value. -/
theorem decimalValue?_mod (value : Nat) :
    decimalValue? (decimalDigit (value % 10)) = some (value % 10) :=
  decimalValue?_decimalDigit _ (Nat.mod_lt _ (by decide))

/-- A text has at least as many octets as characters. -/
theorem length_le_utf8ByteSize (text : List Char) :
    text.length ≤ readLeadingDate.utf8ByteSize text := by
  suffices counted : ∀ start,
      start + text.length ≤ (text.map Char.utf8Size).foldl (· + ·) start by
    simpa [readLeadingDate.utf8ByteSize] using counted 0
  induction text with
  | nil => exact fun start => le_rfl
  | cons character text inductionHypothesis =>
    intro start
    have next := inductionHypothesis (start + character.utf8Size)
    have filled := character.utf8Size_pos
    rw [List.map_cons, List.foldl_cons, List.length_cons]
    omega

/-- Two digits that stand somewhere are found there. -/
theorem pairAt?_digits {text : List Char} {place high low : Nat}
    (first : text[place]? = some (decimalDigit (high % 10)))
    (second : text[place + 1]? = some (decimalDigit (low % 10))) :
    pairAt? text place = some (high % 10 * 10 + low % 10) := by
  simp only [pairAt?, first, second, Option.bind_some, decimalValue?_mod, Option.bind_eq_bind, pure]

/-- A date with hyphens is read back, whatever follows it. -/
theorem readLeadingDate_dateChars {date : Date} (valid : date.isValid = true) (rest : List Char) :
    readLeadingDate (dateChars date ++ rest) = .ok date := by
  have long : ¬ readLeadingDate.utf8ByteSize (dateChars date ++ rest) < 10 := by
    have enough := length_le_utf8ByteSize (dateChars date ++ rest)
    rw [List.length_append, dateChars_length] at enough
    omega
  have short := daysInMonth_le date.year date.month
  simp only [Date.isValid, Date.hasMonthAndDay, Bool.and_eq_true, decide_eq_true_eq] at valid
  obtain ⟨year, ⟨⟨firstMonth, lastMonth⟩, firstDay⟩, lastDay⟩ := valid
  have century : pairAt? (dateChars date ++ rest) 0 = some (date.year / 100) :=
    (pairAt?_digits rfl rfl).trans (congrArg some (by omega))
  have inCentury : pairAt? (dateChars date ++ rest) 2 = some (date.year % 100) :=
    (pairAt?_digits rfl rfl).trans (congrArg some (by omega))
  have month : pairAt? (dateChars date ++ rest) 5 = some date.month :=
    (pairAt?_digits rfl rfl).trans (congrArg some (by omega))
  have day : pairAt? (dateChars date ++ rest) 8 = some date.day :=
    (pairAt?_digits rfl rfl).trans (congrArg some (by omega))
  have whole : date.year / 100 * 100 + date.year % 100 = date.year := by omega
  have hyphens : (dateChars date ++ rest)[4]? = some '-' ∧
      (dateChars date ++ rest)[7]? = some '-' := ⟨rfl, rfl⟩
  unfold readLeadingDate
  rw [if_neg long, century, inCentury, month, day, hyphens.1, hyphens.2]
  simp only [whole, firstMonth, lastMonth, firstDay, lastDay, decide_true, Bool.and_true, if_true]
  rfl

/-- Whatever stands behind a time of day, if anything, is neither a digit nor a point. -/
def EndsClock (rest : List Char) : Prop :=
  ∀ each ∈ rest.head?, decimalValue? each = none ∧ each ≠ '.' ∧ each ≠ ','

/-- The digits that were written are digits. -/
theorem isSome_of_mem_decimalDigits {width value : Nat} {character : Char}
    (member : character ∈ decimalDigits width value) : (decimalValue? character).isSome = true := by
  induction width generalizing value with
  | zero => cases member
  | succ width inductionHypothesis =>
    rcases List.mem_append.mp member with former | last
    · exact inductionHypothesis former
    · rw [List.mem_singleton.mp last, decimalValue?_mod]
      rfl

/-- A fraction of a second is read back, and nothing where it is left out. -/
theorem readWireFraction_fractionChars {microsecond : Nat} (fits : microsecond < 1000000)
    {rest : List Char} (ends : EndsClock rest) :
    readWireFraction (fractionChars microsecond ++ rest) = some (microsecond, rest) := by
  unfold fractionChars
  split
  case isTrue isWhole =>
    subst isWhole
    cases rest with
    | nil => rfl
    | cons mark rest =>
      obtain ⟨-, notPoint, notComma⟩ := ends mark rfl
      simp [readWireFraction, notPoint, notComma]
  case isFalse =>
    have digits : (decimalDigits 6 microsecond ++ rest).takeWhile
        (fun character => (decimalValue? character).isSome) = decimalDigits 6 microsecond := by
      rw [List.takeWhile_append_of_pos fun _ => isSome_of_mem_decimalDigits]
      cases rest with
      | nil => rw [List.takeWhile_nil, List.append_nil]
      | cons mark rest =>
        rw [List.takeWhile_cons, (ends mark rfl).1]
        exact List.append_nil _
    have length := decimalDigits_length 6 microsecond
    have read := readDecimal_decimalDigits 6 microsecond [] fits
    rw [List.append_nil] at read
    have filled : (decimalDigits 6 microsecond).isEmpty = false := rfl
    rw [List.cons_append, readWireFraction, if_pos (by decide)]
    simp only [digits, filled, length, List.take_of_length_le length.le, read, Option.map_some,
      Nat.sub_self, List.drop_left' length, Bool.false_eq_true, if_false]
    exact congrArg (fun read => some (read, rest)) (Nat.mul_one microsecond)

/-- A time of day is read back, and what follows it is left. -/
theorem readWireClock_secondChars {clock : Clock} (valid : clock.isValid = true) {rest : List Char}
    (ends : EndsClock rest) :
    readWireClock (secondChars clock ++ fractionChars clock.microsecond ++ rest) =
      some (clock, rest) := by
  have fields := valid
  simp only [Clock.isValid, Bool.and_eq_true, decide_eq_true_eq] at fields
  have hourRead (rest : List Char) := readDecimal_decimalDigits 2 clock.hour rest
    (show _ < 100 by omega)
  have minuteRead (rest : List Char) := readDecimal_decimalDigits 2 clock.minute rest
    (show _ < 100 by omega)
  have secondRead (rest : List Char) := readDecimal_decimalDigits 2 clock.second rest
    (show _ < 100 by omega)
  simp only [secondChars, List.append_assoc, List.cons_append, readWireClock, readWireSeconds,
    hourRead, minuteRead, secondRead, readWireFraction_fractionChars fields.2 ends,
    Option.bind_eq_bind, Option.bind_some, pure, valid, if_true]

/-- Hours and minutes are read back. -/
theorem readOffsetSize_digits (minutes : Nat) (fits : minutes < 1440) :
    readOffsetSize (decimalDigits 2 (minutes / 60) ++ ':' :: decimalDigits 2 (minutes % 60)) =
      some (minutes * 60000000) := by
  have hourRead := readDecimal_decimalDigits 2 (minutes / 60)
    (':' :: decimalDigits 2 (minutes % 60)) (show _ < 100 by omega)
  have minuteRead := readDecimal_decimalDigits 2 (minutes % 60) [] (show _ < 100 by omega)
  rw [List.append_nil] at minuteRead
  have inDay : (true && decide (minutes % 60 < 60) && decide (minutes / 60 < 24)) = true := by
    simp only [Bool.true_and, Bool.and_eq_true, decide_eq_true_eq]
    omega
  simp only [readOffsetSize, hourRead, minuteRead, Option.bind_eq_bind, Option.bind_some,
    List.isEmpty_nil, inDay, if_true]
  exact congrArg (fun minutes => some (minutes * 60000000)) (by omega)

/-- An offset in whole minutes is read back, and ends the time of day before it. -/
theorem readWireOffset_wireOffsetChars {offset : Int} (inMinutes : 60 * microsPerSecond ∣ offset)
    (within : -microsPerDay < offset ∧ offset < microsPerDay) :
    readWireOffset (Moment.wireOffsetChars offset) = some (some offset) ∧
      EndsClock (Moment.wireOffsetChars offset) := by
  obtain ⟨minutes, rfl⟩ := inMinutes
  simp only [microsPerDay, microsPerSecond] at within ⊢
  have seconds : Moment.offsetSeconds (60 * 1000000 * minutes) = 60 * minutes := by
    unfold Moment.offsetSeconds
    dsimp only
    split <;> omega
  unfold Moment.wireOffsetChars
  rw [seconds]
  dsimp only
  split
  case isTrue universal =>
    obtain rfl : minutes = 0 := by omega
    exact ⟨rfl, by rintro _ ⟨⟩; decide⟩
  case isFalse =>
    have read := readOffsetSize_digits minutes.natAbs (by omega)
    rw [show (60 * minutes).natAbs / 3600 = minutes.natAbs / 60 by omega,
      show (60 * minutes).natAbs / 60 % 60 = minutes.natAbs % 60 by omega]
    unfold signChar
    split
    case isTrue west =>
      refine ⟨?_, by rintro _ ⟨⟩; decide⟩
      rw [readWireOffset, read]
      exact congrArg (fun offset => some (some offset))
        (show -((minutes.natAbs * 60000000 : Nat) : Int) = _ by omega)
    case isFalse east =>
      refine ⟨?_, by rintro _ ⟨⟩; decide⟩
      rw [readWireOffset, read]
      exact congrArg (fun offset => some (some offset))
        (show ((minutes.natAbs * 60000000 : Nat) : Int) = _ by omega)

/-- A moment that can be sent as it is: it exists, and its offset is in whole minutes. -/
structure Moment.Sendable (moment : Moment) : Prop where
  valid : moment.isValid = true
  inMinutes : ∀ offset ∈ moment.offset, 60 * microsPerSecond ∣ offset

/-- A moment in a request is a date, a time of day and what stands for its offset. -/
theorem wireText_zone {moment : Moment} (sendable : moment.Sendable) :
    ∃ zone, moment.wireText.toList = dateChars moment.date ++ 'T' ::
        (secondChars moment.clock ++ fractionChars moment.clock.microsecond ++ zone) ∧
      readWireOffset zone = some moment.offset ∧ EndsClock zone := by
  obtain ⟨valid, inMinutes⟩ := sendable
  simp only [Moment.isValid, Bool.and_eq_true] at valid
  obtain ⟨-, within⟩ := valid
  cases isOffset : moment.offset with
  | none =>
    refine ⟨[], ?_, rfl, by rintro _ ⟨⟩⟩
    simp [Moment.wireText, Moment.clockChars, isOffset]
  | some offset =>
    rw [isOffset] at within
    simp only [Bool.and_eq_true, decide_eq_true_eq] at within
    refine ⟨Moment.wireOffsetChars offset, ?_,
      readWireOffset_wireOffsetChars (inMinutes offset isOffset) within⟩
    simp [Moment.wireText, Moment.clockChars, isOffset]

/-- A moment that can be sent is read back from a request. -/
theorem readWireText_wireText {moment : Moment} (sendable : moment.Sendable) :
    readWireText moment.wireText = .ok moment := by
  obtain ⟨zone, written, offsetRead, ends⟩ := wireText_zone sendable
  have valid := sendable.valid
  simp only [Moment.isValid, Bool.and_eq_true] at valid
  obtain ⟨⟨dated, timed⟩, -⟩ := valid
  have year : moment.date.year ≠ 0 := by
    simp only [Date.isValid, Bool.and_eq_true, decide_eq_true_eq] at dated
    omega
  have read : readRfcMoment moment.wireText.toList = some moment := by
    have clockRead := readWireClock_secondChars timed ends
    have mark : (dateChars moment.date ++ 'T' ::
        (secondChars moment.clock ++ fractionChars moment.clock.microsecond ++ zone))[10]? =
          some 'T' := rfl
    have rest : (dateChars moment.date ++ 'T' ::
        (secondChars moment.clock ++ fractionChars moment.clock.microsecond ++ zone)).drop 11 =
          secondChars moment.clock ++ fractionChars moment.clock.microsecond ++ zone := rfl
    rw [written, readRfcMoment, readLeadingDate_dateChars dated, mark, rest]
    simp only [Except.toOption, Option.bind_eq_bind, Option.bind_some, decide_true, Bool.true_or,
      if_true, clockRead, offsetRead, pure]
  rw [readWireText, read]
  exact if_neg year

/-- Digits that were written are plain characters. -/
theorem any_isHalf_decimalDigits (width value : Nat) :
    (decimalDigits width value).any isHalf = false := by
  have plain : ∀ digit < 10, isHalf (decimalDigit digit) = false := by decide
  induction width generalizing value with
  | zero => rfl
  | succ width inductionHypothesis =>
    rw [decimalDigits, List.any_append, inductionHypothesis, List.any_cons, List.any_nil,
      plain _ (Nat.mod_lt _ (by decide))]
    rfl

/-- The text of a moment in a request has plain characters only. -/
theorem isTorn_wireText (moment : Moment) : isTorn moment.wireText = false := by
  have marks : isHalf '-' = false ∧ isHalf '+' = false ∧ isHalf ':' = false ∧
      isHalf '.' = false ∧ isHalf 'T' = false ∧ isHalf 'Z' = false := by
    decide
  have fraction : (fractionChars moment.clock.microsecond).any isHalf = false := by
    unfold fractionChars
    split <;> simp [any_isHalf_decimalDigits, marks]
  have zone (offset : Int) : (Moment.wireOffsetChars offset).any isHalf = false := by
    unfold Moment.wireOffsetChars signChar
    dsimp only
    split
    · simp [marks]
    · split <;> simp [any_isHalf_decimalDigits, marks]
  rw [isTorn, Moment.wireText, String.toList_ofList, List.any_append, List.any_append, fraction]
  cases moment.offset <;>
    simp [Moment.clockChars, dateChars, secondChars, any_isHalf_decimalDigits, marks, zone]

/-- An offset that ends a text is in whole minutes. -/
theorem readWireOffset_inMinutes {text : List Char} {offset : Option Int}
    (read : readWireOffset text = some offset) : ∀ size ∈ offset, 60 * microsPerSecond ∣ size := by
  have sized {text : List Char} {size : Nat} (isSize : readOffsetSize text = some size) :
      60 * microsPerSecond ∣ (size : Int) := by
    obtain ⟨⟨hour, afterHour⟩, -, isSize⟩ := Option.bind_eq_some_iff.mp isSize
    obtain ⟨⟨minute, afterMinute⟩, -, isSize⟩ := Option.bind_eq_some_iff.mp isSize
    dsimp only at isSize
    split at isSize
    · obtain rfl := Option.some.inj isSize
      exact ⟨(hour * 60 + minute : Nat), by simp only [microsPerSecond]; omega⟩
    · cases isSize
  unfold readWireOffset at read
  split at read
  case h_1 =>
    cases read
    rintro _ ⟨⟩
  case h_2 | h_3 =>
    cases read
    rintro _ ⟨⟩
    exact Int.dvd_zero _
  case h_4 | h_5 | h_6 =>
    obtain ⟨found, isFound, rfl⟩ := Option.map_eq_some_iff.mp read
    obtain ⟨size, isSize, counted⟩ := Option.bind_eq_some_iff.mp isFound
    obtain rfl := Option.some.inj counted
    rintro _ ⟨⟩
    first | exact sized isSize | exact Int.dvd_neg.mpr (sized isSize)
  case h_7 => cases read

/-- A moment that is counted in seconds is in universal time. -/
theorem ofSeconds_universal {seconds : Int} {micros : Nat} {moment : Moment}
    (read : ofSeconds seconds micros = .ok moment) : moment.offset = some 0 := by
  unfold ofSeconds at read
  grind

/-- A moment that is counted in seconds or milliseconds is in universal time. -/
theorem ofTimestamp_universal {count : Int} {moment : Moment}
    (read : ofTimestamp count = .ok moment) : moment.offset = some 0 := by
  unfold ofTimestamp at read
  split at read
  · exact ofSeconds_universal read
  · exact ofSeconds_universal read

/-- A moment that is named by a real number is in universal time. -/
theorem ofReal_universal {value : Binary64} {moment : Moment} (read : ofReal value = .ok moment) :
    moment.offset = some 0 := by
  unfold ofReal at read
  split at read
  · cases read
  · cases read
  · dsimp only at read
    split at read
    · exact ofSeconds_universal read
    · exact ofSeconds_universal read

/-- Asking for a year changes no moment. -/
theorem withYear_eq {read moment : Moment} (hasYear : withYear read = .ok moment) :
    read = moment := by
  unfold withYear at hasYear
  split at hasYear
  · cases hasYear
  · exact Except.ok.inj hasYear

/-- A moment in the form of RFC 3339 has an offset that a text can end with. -/
theorem readRfcMoment_offset {text : List Char} {moment : Moment}
    (read : readRfcMoment text = some moment) :
    ∃ zone, readWireOffset zone = some moment.offset := by
  unfold readRfcMoment at read
  obtain ⟨date, -, read⟩ := Option.bind_eq_some_iff.mp read
  obtain ⟨separator, -, read⟩ := Option.bind_eq_some_iff.mp read
  split at read
  · obtain ⟨⟨clock, rest⟩, -, read⟩ := Option.bind_eq_some_iff.mp read
    obtain ⟨offset, isOffset, read⟩ := Option.bind_eq_some_iff.mp read
    obtain rfl := Option.some.inj read
    exact ⟨rest, isOffset⟩
  · cases read

/-- A moment in any other text is in universal time or has no offset. -/
theorem readOtherMoment_offset {text : List Char} {moment : Moment}
    (read : readOtherMoment text = .ok moment) :
    moment.offset = some 0 ∨ moment.offset = none := by
  unfold readOtherMoment at read
  extract_lets asDate at read
  have fromDate (isDate : asDate = .ok moment) : moment.offset = none := by
    simp only [asDate] at isDate
    split at isDate
    · cases isDate
    · split at isDate
      · exact withYear_eq isDate ▸ rfl
      · cases isDate
  split at read
  · split at read
    · cases read
    · exact .inl (ofTimestamp_universal read)
  · split at read
    · exact .inr (fromDate read)
    · exact .inl (ofReal_universal read)
  · exact .inr (fromDate read)

/-- A moment that the text of a message names has an offset that a text can end with. -/
theorem readWireText_offset {text : String} {moment : Moment}
    (read : readWireText text = .ok moment) :
    ∃ zone, readWireOffset zone = some moment.offset := by
  unfold readWireText at read
  split at read
  · next isRead => exact readRfcMoment_offset (withYear_eq read ▸ isRead)
  · rcases readOtherMoment_offset read with universal | bare
    · exact ⟨['Z'], universal ▸ rfl⟩
    · exact ⟨[], bare ▸ rfl⟩

end Mailroom.Time

namespace Mailroom.Schema

/-- A moment is accepted in the form in which a request holds it. -/
theorem moment_wireText {moment : Time.Moment} (sendable : moment.Sendable) :
    Schema.moment (.str moment.wireText) = .accepted moment := by
  rw [Schema.moment, whole, Time.isTorn_wireText, Time.readWireText_wireText sendable]
  rfl

/-- A moment that was accepted can be sent as it is. -/
theorem moment_ensures_sendable (value : Json) : (moment value).Ensures Time.Moment.Sendable := by
  have universal {read : Time.Moment} (isUniversal : read.offset = some 0) :
      ∃ zone, Time.readWireOffset zone = some read.offset := ⟨['Z'], isUniversal ▸ rfl⟩
  intro read accepted
  obtain ⟨zone, ends⟩ : ∃ zone, Time.readWireOffset zone = some read.offset :=
    moment_ensures Time.readWireText_offset
      (fun ended => universal (Time.ofTimestamp_universal ended))
      (fun ended => universal (Time.ofReal_universal ended)) value read accepted
  exact ⟨moment_ensures_valid value read accepted, Time.readWireOffset_inMinutes ends⟩

end Mailroom.Schema
