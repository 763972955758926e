import Mailroom.Text.Split
import Mailroom.Text.Whole

/-!
# Parts and figures that read back

Parts joined by a mark that none of them holds come apart again, and the figures
of a number stand for that number, as far as so many are read at all.
-/

namespace Mailroom.Text

/-- Cutting at every place of a mark is splitting a list at one element. -/
theorem splitOn_eq (mark : Char) (characters : List Char) :
    splitOn mark characters = characters.splitOn mark := by
  induction characters with
  | nil => rfl
  | cons character rest inductionHypothesis =>
    rw [splitOn, inductionHypothesis, List.splitOn_cons_eq_if_modifyHead]
    by_cases same : character = mark
    · rw [if_pos same, if_pos (beq_iff_eq.2 same)]
    · rw [if_neg same, if_neg fun equal => same (beq_iff_eq.1 equal)]
      cases parts : rest.splitOn mark with
      | nil => exact absurd parts (List.splitOn_ne_nil mark rest)
      | cons part parts => rfl

/-- Joined parts come apart again. -/
theorem splitOn_intercalate {separator : String} {mark : Char} {parts : List String}
    (isMark : separator.toList = [mark]) (some_parts : parts ≠ [])
    (whole : ∀ part ∈ parts, mark ∉ part.toList) :
    (splitOn mark (separator.intercalate parts).toList).map String.ofList = parts := by
  have unmarked : ∀ part ∈ parts.map String.toList, mark ∉ part := by
    simpa only [List.forall_mem_map] using whole
  rw [splitOn_eq, String.toList_intercalate, isMark,
    List.splitOn_intercalate mark unmarked (by simpa using some_parts), List.map_map]
  exact (List.map_congr_left fun part _ => String.ofList_toList).trans (List.map_id' parts)

/-- The value of an ASCII digit. -/
theorem digitValue?_of_isDigit {digit : Char} (figure : digit.isDigit = true) :
    digitValue? digit = some (digit.toNat - 0x30) := by
  simp only [Char.isDigit, Bool.and_eq_true, decide_eq_true_eq] at figure
  have low : 0x30 ≤ digit.toNat := figure.1
  have high : digit.toNat ≤ 0x39 := figure.2
  have inRun : (decide (0x30 ≤ digit.toNat) && decide (digit.toNat < 0x30 + 10)) = true := by
    rw [Bool.and_eq_true, decide_eq_true_eq, decide_eq_true_eq]
    omega
  rw [digitValue?, if_pos (by omega), placeInRun?, List.find?_cons, inRun, Option.map_some]

/-- A digit is no white space. -/
theorem isSpace_of_isDigit {digit : Char} (figure : digit.isDigit = true) :
    isSpace digit = false := by
  simp only [Char.isDigit, Bool.and_eq_true, decide_eq_true_eq] at figure
  have low : 0x30 ≤ digit.toNat := figure.1
  have high : digit.toNat ≤ 0x39 := figure.2
  simp only [isSpace, Bool.or_eq_false_iff, Bool.and_eq_false_iff, decide_eq_false_iff_not,
    beq_eq_false_iff_ne]
  omega

/-- Digits after a value are read as the value that they lead to. -/
theorem readDigitsAfter_figures {digits : List Char}
    (figures : ∀ each ∈ digits, each.isDigit = true)
    (value count : Nat) :
    readDigitsAfter digitValue? value count digits =
      some (Nat.ofDigitChars 10 digits value, count + digits.length) := by
  induction digits generalizing value count with
  | nil => rw [readDigitsAfter, Nat.ofDigitChars_nil]; rfl
  | cons digit rest inductionHypothesis =>
    have figure := figures digit List.mem_cons_self
    have others := inductionHypothesis fun each member => figures each (List.mem_cons_of_mem _ member)
    have noMark : digit ≠ '_' := fun same => absurd (same ▸ figure) (by decide)
    rw [readDigitsAfter, digitValue?_of_isDigit figure, Option.bind_eq_bind, Option.bind_some, others,
      Nat.ofDigitChars_cons, List.length_cons, Nat.mul_comm, Nat.add_assoc, Nat.add_comm 1]
    · rfl
    · simp_all
    · simp_all

/-- Nothing is dropped from a list that starts with a character that stays. -/
theorem dropWhile_eq_self {remove : Char → Bool} {characters : List Char}
    (first : ∀ character ∈ characters.head?, remove character = false) :
    characters.dropWhile remove = characters := by
  cases characters with
  | nil => rfl
  | cons character rest =>
    rw [List.dropWhile_cons, first character rfl, if_neg Bool.false_ne_true]

/-- Nothing is trimmed from a list with characters at its ends that stay. -/
theorem trimWhile_eq_self {remove : Char → Bool} {characters : List Char}
    (first : ∀ character ∈ characters.head?, remove character = false)
    (last : ∀ character ∈ characters.getLast?, remove character = false) :
    trimWhile remove characters = characters := by
  rw [trimWhile, dropWhile_eq_self first, dropEndWhile,
    dropWhile_eq_self (by simpa using last), List.reverse_reverse]

/-- Nothing is trimmed from digits. -/
theorem trimWhile_figures {digits : List Char} (figures : ∀ each ∈ digits, each.isDigit = true) :
    trimWhile isSpace digits = digits :=
  trimWhile_eq_self
    (fun each member => isSpace_of_isDigit (figures each (List.mem_of_mem_head? member)))
    fun each member => isSpace_of_isDigit (figures each (List.mem_of_mem_getLast? member))

/-- A run of digits is read unless it is too long. -/
theorem readDigits_figures {digits : List Char} (some_digits : digits ≠ [])
    (figures : ∀ each ∈ digits, each.isDigit = true) :
    readDigits digitValue? digits =
      if digits.length ≤ maxDigits then some (Nat.ofDigitChars 10 digits 0) else none := by
  cases digits with
  | nil => exact absurd rfl some_digits
  | cons first rest =>
    have after := readDigitsAfter_figures
      (fun each member => figures each (List.mem_cons_of_mem _ member)) (first.toNat - 0x30) 1
    simp only [readDigits, digitValue?_of_isDigit (figures first List.mem_cons_self), after,
      Option.bind_eq_bind, Option.bind_some, Nat.ofDigitChars_cons, Nat.mul_zero, Nat.zero_add,
      List.length_cons, Nat.add_comm 1]
    rfl

/-- Digits have no sign. -/
theorem readSigned_figures {digits : List Char} (figures : ∀ each ∈ digits, each.isDigit = true) :
    readSigned digitValue? digits = (readDigits digitValue? digits).map Int.ofNat := by
  unfold readSigned
  split
  · exact absurd (figures _ List.mem_cons_self) (by decide)
  · exact absurd (figures _ List.mem_cons_self) (by decide)
  · cases readDigits digitValue? digits <;> rfl

/-- The number that is read from its own figures is that number. -/
theorem readWhole_figures {number : Nat} {read : Int}
    (found : readWhole (toString number) = some read) : read = number := by
  have figures : ∀ each ∈ Nat.toDigits 10 number, each.isDigit = true := fun each member =>
    Nat.isDigit_of_mem_toDigits (by decide) (by decide) member
  rw [readWhole, Nat.toString_eq_repr, Nat.toList_repr, trimWhile_figures figures,
    readSigned_figures figures, readDigits_figures Nat.toDigits_ne_nil figures,
    Nat.ofDigitChars_ten_toDigits] at found
  split at found
  · cases found
    rfl
  · cases found

end Mailroom.Text
