import Mailroom.Envelope.Message
import Mailroom.Proofs.DocumentAddress

/-!
# Moments that are read exist

A moment that a message names, in whichever of its forms, is one of the years 1
to 9999, at a time of day that exists. A text says so by its figures, which are
checked; a number of seconds is counted from the start of 1970 by whole cycles
of years, and ends in a day of a month. So an envelope that was accepted, and
every document of it, has moments that case data can hold.
-/

namespace Mailroom.Time

open Text

/-- The days of some months from one on. -/
def daysOfMonths (year : Nat) : Nat → Nat → Nat
  | 0, _ => 0
  | count + 1, month => daysInMonth year month + daysOfMonths year count (month + 1)

/-- The days of a year. -/
theorem daysOfMonths_year (year : Nat) :
    daysOfMonths year 12 1 = if isLeapYear year then 366 else 365 := by
  simp only [daysOfMonths, daysInMonth]
  cases isLeapYear year <;> rfl

/-- A day that lies in the remaining months of a year is a day of one of them. -/
theorem monthAfter_exists {year fuel month days : Nat} (starts : 1 ≤ month)
    (room : month + fuel ≤ 12) (fits : days < daysOfMonths year (fuel + 1) month) :
    let found := monthAfter year fuel month days
    1 ≤ found.1 ∧ found.1 ≤ 12 ∧ 1 ≤ found.2 ∧ found.2 ≤ daysInMonth year found.1 := by
  induction fuel generalizing month days with
  | zero =>
    simp only [daysOfMonths, Nat.add_zero] at fits
    exact ⟨starts, room, Nat.succ_pos _, fits⟩
  | succ fuel inductionHypothesis =>
    rw [daysOfMonths] at fits
    unfold monthAfter
    by_cases within : days < daysInMonth year month
    · rw [if_pos within]
      exact ⟨starts, by omega, Nat.succ_pos _, within⟩
    · rw [if_neg within]
      exact inductionHypothesis (by omega) (by omega) (by omega)

/-- The day with a number is a day of a month. -/
theorem hasMonthAndDay_ofNumber (number : Nat) : (Date.ofNumber number).hasMonthAndDay = true := by
  unfold Date.ofNumber Date.hasMonthAndDay
  extract_lets days cycles400 days1 cycles100 days2 cycles4 days3 years days4 year
  -- only the last day of a leap year has the number 365 in its year
  have short : days4 < if isLeapYear year then 366 else 365 := by
    split
    · omega
    · next noLeap =>
      simp only [isLeapYear, Bool.and_eq_true, Bool.or_eq_true, beq_iff_eq, bne_iff_ne] at noLeap
      omega
  rw [← daysOfMonths_year] at short
  have found := monthAfter_exists (Nat.le_refl 1) (by omega) short
  simp only [Bool.and_eq_true, decide_eq_true_eq]
  exact ⟨⟨⟨found.1, found.2.1⟩, found.2.2.1⟩, found.2.2.2⟩

/-- A day up to the end of the year 9999 is one of the years 1 to 9999. -/
theorem isValid_ofNumber {number : Nat} (within : number ≤ 3652059) :
    (Date.ofNumber number).isValid = true := by
  have year : 1 ≤ (Date.ofNumber number).year ∧ (Date.ofNumber number).year ≤ 9999 := by
    unfold Date.ofNumber
    simp only
    omega
  simp only [Date.isValid, Bool.and_eq_true, decide_eq_true_eq]
  exact ⟨year, hasMonthAndDay_ofNumber number⟩

/-- A moment that is counted in seconds exists. -/
theorem isValid_ofSeconds {seconds : Int} {micros : Nat} {moment : Moment}
    (read : ofSeconds seconds micros = .ok moment) : moment.isValid = true := by
  unfold ofSeconds at read
  extract_lets total day time at read
  split at read
  · cases read
  · split at read
    · cases read
    · split at read
      · cases read
      · next early late =>
        obtain rfl := Except.ok.inj read
        have dayIs : day = total / 86400 := Int.fdiv_eq_ediv_of_nonneg _ (by decide)
        have timeIs : time = (total % 86400).toNat :=
          congrArg Int.toNat (Int.fmod_eq_emod_of_nonneg _ (by decide))
        have date : (Date.ofNumber (719163 + day).toNat).isValid = true :=
          isValid_ofNumber (by omega)
        have clock : Clock.isValid
            ⟨time / 3600, time / 60 % 60, time % 60, micros % 1000000⟩ = true := by
          simp only [Clock.isValid, Bool.and_eq_true, decide_eq_true_eq]
          omega
        rw [Moment.isValid, date, clock]
        rfl

/-- A moment that is counted in seconds or milliseconds exists. -/
theorem isValid_ofTimestamp {count : Int} {moment : Moment}
    (read : ofTimestamp count = .ok moment) : moment.isValid = true := by
  unfold ofTimestamp at read
  split at read
  · exact isValid_ofSeconds read
  · exact isValid_ofSeconds read

/-- A moment that is named by a real number exists. -/
theorem isValid_ofReal {value : Binary64} {moment : Moment} (read : ofReal value = .ok moment) :
    moment.isValid = true := by
  unfold ofReal at read
  split at read
  · cases read
  · cases read
  · simp only at read
    split at read
    · exact isValid_ofSeconds read
    · exact isValid_ofSeconds read

/-- The value of a digit. -/
theorem decimalValue?_le {character : Char} {value : Nat}
    (read : decimalValue? character = some value) : value ≤ 9 := by
  unfold decimalValue? at read
  split at read
  · next isDigit =>
    simp only [Bool.and_eq_true, decide_eq_true_eq] at isDigit
    obtain rfl := Option.some.inj read
    omega
  · cases read

/-- The value of two digits. -/
theorem pairAt?_le {text : List Char} {place value : Nat} (read : pairAt? text place = some value) :
    value ≤ 99 := by
  unfold pairAt? at read
  obtain ⟨first, isFirst, rest⟩ := Option.bind_eq_some_iff.mp read
  obtain ⟨second, isSecond, built⟩ := Option.bind_eq_some_iff.mp rest
  obtain ⟨_, -, firstRead⟩ := Option.bind_eq_some_iff.mp isFirst
  obtain ⟨_, -, secondRead⟩ := Option.bind_eq_some_iff.mp isSecond
  obtain rfl := Option.some.inj built
  have firstFits := decimalValue?_le firstRead
  have secondFits := decimalValue?_le secondRead
  omega

/-- A date at the start of a text is a day of a month, in a year up to 9999. -/
theorem readLeadingDate_exists {text : List Char} {date : Date}
    (read : readLeadingDate text = .ok date) : date.hasMonthAndDay = true ∧ date.year ≤ 9999 := by
  unfold readLeadingDate at read
  simp only at read
  split at read
  case isTrue => cases read
  split at read
  case h_2 => cases read
  next century isCentury =>
  split at read
  case h_2 => cases read
  next year isYear =>
  split at read
  case isFalse => cases read
  split at read
  case h_2 => cases read
  next month isMonth =>
  split at read
  case isFalse => cases read
  split at read
  case h_2 => cases read
  next day isDay =>
  split at read
  case isFalse => cases read
  next monthExists =>
  split at read
  case isFalse => cases read
  next dayExists =>
  obtain rfl := Except.ok.inj read
  have centuryFits := pairAt?_le isCentury
  have yearFits := pairAt?_le isYear
  refine ⟨?_, by simp only; omega⟩
  simp only [Bool.and_eq_true] at monthExists dayExists
  simp only [Date.hasMonthAndDay, Bool.and_eq_true]
  exact ⟨⟨monthExists, dayExists.1⟩, dayExists.2⟩

/-- A time of day in a text exists. -/
theorem readWireClock_exists {text rest : List Char} {clock : Clock}
    (read : readWireClock text = some (clock, rest)) : clock.isValid = true := by
  unfold readWireClock at read
  obtain ⟨⟨hour, afterHour⟩, -, read⟩ := Option.bind_eq_some_iff.mp read
  simp only at read
  split at read
  · obtain ⟨_, -, read⟩ := Option.bind_eq_some_iff.mp read
    obtain ⟨⟨minute, afterMinute⟩, -, read⟩ := Option.bind_eq_some_iff.mp read
    obtain ⟨⟨second, microsecond, afterSecond⟩, -, read⟩ := Option.bind_eq_some_iff.mp read
    split at read
    · next clockExists =>
      obtain rfl := (Prod.mk.inj (Option.some.inj read)).1
      exact clockExists
    · cases read
  · obtain ⟨_, isNone, -⟩ := Option.bind_eq_some_iff.mp read
    cases isNone

/-- An offset in a text is less than a day. -/
theorem readOffsetSize_lt {text : List Char} {size : Nat} (read : readOffsetSize text = some size) :
    (size : Int) < microsPerDay := by
  unfold readOffsetSize at read
  obtain ⟨⟨hour, afterHour⟩, -, read⟩ := Option.bind_eq_some_iff.mp read
  simp only at read
  obtain ⟨⟨minute, afterMinute⟩, -, read⟩ := Option.bind_eq_some_iff.mp read
  split at read
  · next fits =>
    simp only [Bool.and_eq_true, decide_eq_true_eq] at fits
    obtain rfl := Option.some.inj read
    change ((hour * 60 + minute) * 60000000 : Int) < 86400 * 1000000
    omega
  · cases read

/-- An offset that ends a text is less than a day either way. -/
theorem readWireOffset_within {text : List Char} {offset : Option Int}
    (read : readWireOffset text = some offset) :
    ∀ size ∈ offset, -microsPerDay < size ∧ size < microsPerDay := by
  have noOffset : -microsPerDay < 0 ∧ (0 : Int) < microsPerDay := by decide
  unfold readWireOffset at read
  split at read
  case h_1 => cases read; exact nofun
  case h_2 | h_3 =>
    rintro size isSize
    cases read
    obtain rfl := Option.some.inj isSize
    exact noOffset
  case h_4 | h_5 | h_6 =>
    obtain ⟨found, isFound, rfl⟩ := Option.map_eq_some_iff.mp read
    obtain ⟨size, isSize, counted⟩ := Option.bind_eq_some_iff.mp isFound
    obtain rfl := Option.some.inj counted
    have fits := readOffsetSize_lt isSize
    rintro _ ⟨⟩
    omega
  case h_7 => cases read

/-- What a moment with a year of its own needs to exist. -/
theorem isValid_withYear {date : Date} {clock : Clock} {offset : Option Int} {moment : Moment}
    (dateExists : date.hasMonthAndDay = true ∧ date.year ≤ 9999)
    (clockExists : clock.isValid = true)
    (within : ∀ size ∈ offset, -microsPerDay < size ∧ size < microsPerDay)
    (read : withYear ⟨date, clock, offset⟩ = .ok moment) : moment.isValid = true := by
  unfold withYear at read
  split at read
  · cases read
  · next someYear =>
    obtain rfl := Except.ok.inj read
    have first : 1 ≤ date.year := Nat.pos_of_ne_zero someYear
    have dateValid : date.isValid = true := by
      rw [Date.isValid, dateExists.1, decide_eq_true first, decide_eq_true dateExists.2]
      rfl
    simp only [Moment.isValid, dateValid, clockExists, Bool.and_self, Bool.true_and]
    cases offset with
    | none => rfl
    | some size =>
      have bounds := within size rfl
      simp only [Bool.and_eq_true, decide_eq_true_eq]
      exact bounds

/-- A moment in the form of RFC 3339 exists, once it has a year. -/
theorem isValid_readRfcMoment {text : List Char} {read moment : Moment}
    (isRead : readRfcMoment text = some read) (hasYear : withYear read = .ok moment) :
    moment.isValid = true := by
  unfold readRfcMoment at isRead
  obtain ⟨date, dateRead, isRead⟩ := Option.bind_eq_some_iff.mp isRead
  have isDate : readLeadingDate text = .ok date := by
    cases outcome : readLeadingDate text with
    | error fault => simp [outcome, Except.toOption] at dateRead
    | ok other => simpa [outcome, Except.toOption] using dateRead
  obtain ⟨separator, -, isRead⟩ := Option.bind_eq_some_iff.mp isRead
  split at isRead
  · obtain ⟨⟨clock, rest⟩, isClock, isRead⟩ := Option.bind_eq_some_iff.mp isRead
    obtain ⟨offset, isOffset, isRead⟩ := Option.bind_eq_some_iff.mp isRead
    obtain rfl := Option.some.inj isRead
    exact isValid_withYear (readLeadingDate_exists isDate)
      (readWireClock_exists isClock) (readWireOffset_within isOffset) hasYear
  · cases isRead

/-- A moment in any other text exists. -/
theorem isValid_readOtherMoment {text : List Char} {moment : Moment}
    (read : readOtherMoment text = .ok moment) : moment.isValid = true := by
  unfold readOtherMoment at read
  extract_lets asDate at read
  have fromDate (isDate : asDate = .ok moment) : moment.isValid = true := by
    simp only [asDate] at isDate
    split at isDate
    · cases isDate
    · next date dateRead =>
      split at isDate
      · exact isValid_withYear (readLeadingDate_exists dateRead) rfl (by simp) isDate
      · cases isDate
  split at read
  · split at read
    · cases read
    · exact isValid_ofTimestamp read
  · split at read
    · exact fromDate read
    · exact isValid_ofReal read
  · exact fromDate read

/-- A moment that the text of a message names exists. -/
theorem isValid_readWireText {text : String} {moment : Moment}
    (read : readWireText text = .ok moment) : moment.isValid = true := by
  unfold readWireText at read
  split at read
  · next isRead => exact isValid_readRfcMoment isRead read
  · exact isValid_readOtherMoment read

end Mailroom.Time

namespace Mailroom.Schema

/-- What holds of a checked value, if it was accepted. -/
def Checked.Ensures {α : Type} (checked : Checked α) (property : α → Prop) : Prop :=
  ∀ value, checked = .accepted value → property value

section Ensures

variable {α β : Type} {property : α → Prop} {check : Json → Checked α}

/-- A value that was refused is no value. -/
theorem refuse_ensures (problem : Problem) :
    (Checked.refuse problem : Checked α).Ensures property :=
  nofun

/-- A text that is not torn is checked for what it says. -/
theorem whole_ensures {read : String → Checked α} (ensures : ∀ text, (read text).Ensures property)
    (text : String) : (whole read text).Ensures property := by
  unfold whole
  split
  · exact refuse_ensures _
  · exact ensures text

/-- A check inside a value ensures what it ensures outside. -/
theorem inside_ensures {checked : Checked α} (ensures : checked.Ensures property) (step : Step) :
    (checked.inside step).Ensures property := by
  cases checked with
  | accepted value => exact ensures
  | rejected violations => exact nofun

/-- A member is what its check ensures, or what stands for an absent one. -/
theorem memberOr_ensures (ensures : ∀ value, (check value).Ensures property) {members : Fields}
    {names : List String} {absent : Checked α} (otherwise : absent.Ensures property) :
    (memberOr members names check absent).Ensures property := by
  unfold memberOr
  split
  · exact inside_ensures (ensures _) _
  · exact otherwise

/-- A member that may be missing or null is what its check ensures, if there is one. -/
theorem maybe_ensures (ensures : ∀ value, (check value).Ensures property) (members : Fields)
    (name : String) :
    (maybe members name check).Ensures (fun found => ∀ value ∈ found, property value) := by
  refine memberOr_ensures (fun value => ?_) (by rintro _ ⟨⟩; simp)
  unfold nullable
  split
  · rintro _ ⟨⟩
    simp
  · intro found accepted
    cases checked : check value with
    | rejected violations => simp [checked, Checked.map] at accepted
    | accepted inner =>
      obtain rfl : some inner = found := by simpa [checked, Checked.map] using accepted
      rintro _ ⟨⟩
      exact ensures value inner checked

/-- Every element of a list is what its check ensures. -/
theorem checkElements_ensures (ensures : ∀ value, (check value).Ensures property) (index : Nat)
    (elements : List Json) :
    (checkElements check index elements).Ensures
      (fun found => ∀ value ∈ found, property value) := by
  induction elements generalizing index with
  | nil =>
    rintro _ ⟨⟩
    simp
  | cons element rest inductionHypothesis =>
    intro found accepted
    obtain ⟨change, others, isChange, isOthers, rfl⟩ := Checked.apply_accepted_iff.mp accepted
    cases checked : (check element).inside (.element index) with
    | rejected violations => simp [checked, Checked.map] at isChange
    | accepted first =>
      obtain rfl : List.cons first = change := by simpa [checked, Checked.map] using isChange
      have firstHolds := inside_ensures (ensures element) (.element index) first checked
      rw [List.forall_mem_cons]
      exact ⟨firstHolds, inductionHypothesis _ others isOthers⟩

/-- Every element of a checked list is what the check of one ensures. -/
theorem list_ensures (ensures : ∀ value, (check value).Ensures property) (value : Json) :
    (list check value).Ensures (fun found => ∀ each ∈ found, property each) := by
  unfold list
  split
  · exact checkElements_ensures ensures _ _
  · exact refuse_ensures _

/-- A function of a checked value, whatever the value. -/
theorem map_ensures {change : α → β} {checked : Checked α} {result : β → Prop}
    (changes : ∀ value, result (change value)) : (change <$> checked).Ensures result := by
  intro value accepted
  obtain ⟨_, input, ⟨⟩, -, rfl⟩ := Checked.apply_accepted_iff.mp accepted
  exact changes input

/-- A checked function of a checked value. -/
theorem seq_ensures {function : Checked (α → β)} {argument : Checked α} {result : β → Prop}
    (changes : function.Ensures fun change => ∀ value, property value → result (change value))
    (ensures : argument.Ensures property) : (function <*> argument).Ensures result := by
  intro value accepted
  obtain ⟨change, input, isChange, isInput, rfl⟩ := Checked.apply_accepted_iff.mp accepted
  exact changes change isChange input (ensures input isInput)

/-- A checked function of a checked value, whatever the value. -/
theorem seq_ensures_of_any {function : Checked (α → β)} {argument : Checked α} {result : β → Prop}
    (changes : function.Ensures fun change => ∀ value, result (change value)) :
    (function <*> argument).Ensures result := by
  intro value accepted
  obtain ⟨change, input, isChange, -, rfl⟩ := Checked.apply_accepted_iff.mp accepted
  exact changes change isChange input

end Ensures

/-- A moment that was accepted has what the moments have that are named by texts, by counts
and by real numbers. -/
theorem moment_ensures {property : Time.Moment → Prop}
    (ofText : ∀ {text read}, Time.readWireText text = .ok read → property read)
    (ofCount : ∀ {count read}, Time.ofTimestamp count = .ok read → property read)
    (ofReal : ∀ {real read}, Time.ofReal real = .ok read → property read) (value : Json) :
    (moment value).Ensures property := by
  have reading {result : Except Time.WireFault Time.Moment}
      (each : ∀ read, result = .ok read → property read) : (ofReading result).Ensures property := by
    cases result with
    | error fault => exact nofun
    | ok read =>
      rintro _ ⟨⟩
      exact each read rfl
  unfold moment
  split
  · exact whole_ensures (fun text => reading fun _ => ofText) _
  · split
    · exact reading fun _ => ofCount
    · split
      · exact refuse_ensures _
      · exact reading fun _ => ofReal
  · exact reading fun _ => ofReal
  · exact refuse_ensures _

/-- A moment that was accepted exists. -/
theorem moment_ensures_valid (value : Json) : (moment value).Ensures (·.isValid = true) :=
  moment_ensures Time.isValid_readWireText Time.isValid_ofTimestamp Time.isValid_ofReal value

end Mailroom.Schema

namespace Mailroom

/-- A document as a message names it: it has an identity, and what it is called is a
text or nothing. -/
structure Document.Named (document : Document) : Prop where
  uuid : ∃ uuid, document.uuid = some uuid
  fileName : ∃ text, document.fileName = .ofText? text
  type : ∃ text, document.type = .ofText? text
  subtype : ∃ text, document.subtype = .ofText? text

namespace Envelope

open Schema

/-- An envelope as a message announces it: its classification is a known one, its
documents are named, and its moments and those of its documents exist. -/
structure Sound (envelope : Envelope) : Prop where
  classified : ∃ classification, envelope.classification = .checked classification
  named : ∀ document ∈ envelope.documents, document.Named
  dated : ∀ document ∈ envelope.documents, document.Dated envelope.deliveryDate
  delivered : ∀ moment ∈ envelope.deliveryDate, moment.isValid = true
  opened : ∀ moment ∈ envelope.openingDate, moment.isValid = true

section Announced

variable {known : Time.Moment → Prop}

/-- An envelope as a message announces it, where so much is known of every moment that
was accepted. -/
structure Announced (known : Time.Moment → Prop) (envelope : Envelope) : Prop where
  classified : ∃ classification, envelope.classification = .checked classification
  documents : ∀ document ∈ envelope.documents, document.Named ∧
    (∀ moment ∈ document.scannedAt, known moment) ∧ ∀ moment ∈ document.deliveryDate, known moment
  delivered : ∀ moment ∈ envelope.deliveryDate, known moment
  opened : ∀ moment ∈ envelope.openingDate, known moment

/-- A document that was accepted is named, and its moments were accepted. -/
theorem checkDocument_ensures (ensures : ∀ value, (moment value).Ensures known) (message : Json) :
    (checkDocument message).Ensures fun document => document.Named ∧
      (∀ moment ∈ document.scannedAt, known moment) ∧
        ∀ moment ∈ document.deliveryDate, known moment := by
  unfold checkDocument model
  split
  case h_2 => exact refuse_ensures _
  case h_1 members =>
    -- the members from the last one to the first
    refine seq_ensures ?_ (maybe_ensures ensures members "delivery_date")
    refine seq_ensures ?_ (maybe_ensures ensures members "scanned_at")
    refine seq_ensures_of_any (seq_ensures_of_any (seq_ensures_of_any (seq_ensures_of_any ?_)))
    refine map_ensures fun uuid controlNumber fileName type subtype scannedAt scanned => ?_
    exact fun deliveryDate delivered =>
      ⟨⟨⟨_, rfl⟩, ⟨_, rfl⟩, ⟨_, rfl⟩, ⟨_, rfl⟩⟩, scanned, delivered⟩

/-- An envelope that was accepted was announced, with moments that were accepted. -/
theorem checkMessage_announces (ensures : ∀ value, (moment value).Ensures known) (message : Json) :
    (checkMessage message).Ensures (Announced known) := by
  unfold checkMessage model
  split
  case h_2 => exact refuse_ensures _
  case h_1 members =>
    -- the members from the last one to the first
    refine seq_ensures_of_any (seq_ensures_of_any ?_)
    refine seq_ensures ?_ (maybe_ensures ensures members "opening_date")
    refine seq_ensures_of_any (seq_ensures_of_any (seq_ensures_of_any ?_))
    refine seq_ensures ?_ (maybe_ensures ensures members "delivery_date")
    refine seq_ensures_of_any (seq_ensures_of_any ?_)
    refine seq_ensures ?_ (memberOr_ensures (list_ensures (checkDocument_ensures ensures)) ?_)
    rotate_left
    · rintro _ ⟨⟩
      exact List.forall_mem_nil _
    refine seq_ensures_of_any (seq_ensures_of_any (seq_ensures_of_any ?_))
    refine map_ensures fun id container classification jurisdiction documents each => ?_
    intro caseRef zipFileName deliveryDate delivered _ _ _ openingDate opened _ _
    exact ⟨⟨_, rfl⟩, each, delivered, opened⟩

end Announced

/-- An envelope that was accepted is sound. The moment that stands in for a missing
delivery date of a document is one of those that were checked. -/
theorem checkMessage_ensures (message : Json) : (checkMessage message).Ensures Sound := by
  intro envelope accepted
  obtain ⟨classified, documents, delivered, opened⟩ :=
    checkMessage_announces moment_ensures_valid message envelope accepted
  refine ⟨classified, fun document isDocument => (documents document isDocument).1,
    fun document isDocument => ?_, delivered, opened⟩
  obtain ⟨-, scanned, own⟩ := documents document isDocument
  refine ⟨scanned, fun moment isMoment => ?_⟩
  cases dated : document.deliveryDate with
  | none => exact delivered moment (by simpa [dated] using isMoment)
  | some other => exact own moment (by simpa [dated] using isMoment)

end Envelope
end Mailroom
