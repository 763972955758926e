/-!
# Decimal numbers

Writing a number with leading zeros and reading a fixed count of ASCII digits.
Reading what was written gives the number back as long as it fits the width. A
run of digits of any length has a value as well, and a sign may stand before it.
-/

namespace Mailroom.Text

/-- The ASCII digit of a number below ten. -/
def decimalDigit (value : Nat) : Char :=
  Char.ofNat (0x30 + value)

/-- The value of an ASCII digit. -/
def decimalValue? (character : Char) : Option Nat :=
  if 0x30 ≤ character.toNat && character.toNat ≤ 0x39 then some (character.toNat - 0x30) else none

/-- The lowest `width` decimal digits of a number. -/
def decimalDigits : Nat → Nat → List Char
  | 0, _ => []
  | width + 1, value => decimalDigits width (value / 10) ++ [decimalDigit (value % 10)]

/-- Read `width` digits after a value that was already read. -/
def readDecimalAfter : Nat → Nat → List Char → Option (Nat × List Char)
  | value, 0, rest => some (value, rest)
  | _, _ + 1, [] => none
  | value, width + 1, character :: rest => do
    let digit ← decimalValue? character
    readDecimalAfter (value * 10 + digit) width rest

/-- Read exactly `width` digits. -/
def readDecimal (width : Nat) (characters : List Char) : Option (Nat × List Char) :=
  readDecimalAfter 0 width characters

/-- The value of a run of ASCII digits. -/
def runValue (digits : List Char) : Nat :=
  digits.foldl (fun value digit => value * 10 + (digit.toNat - 0x30)) 0

/-- Whether there is a minus sign at the start of a number, and what follows the sign. -/
def splitSign : List Char → Bool × List Char
  | '-' :: rest => (true, rest)
  | '+' :: rest => (false, rest)
  | rest => (false, rest)

/-- A number with a sign. -/
def signed (negative : Bool) (size : Nat) : Int :=
  if negative then -(size : Int) else size

/-- A fixed-width number has exactly as many digits as asked for. -/
theorem decimalDigits_length (width value : Nat) :
    (decimalDigits width value).length = width := by
  induction width generalizing value with
  | zero => rfl
  | succ width inductionHypothesis => simp [decimalDigits, inductionHypothesis]

/-- A digit below ten reads back as its value. -/
theorem decimalValue?_decimalDigit : ∀ value < 10, decimalValue? (decimalDigit value) = some value := by
  decide

/-- Reading a run of digits is reading its parts one after the other. -/
theorem readDecimalAfter_add (value width more : Nat) (characters : List Char) :
    readDecimalAfter value (width + more) characters =
      (readDecimalAfter value width characters).bind
        fun read => readDecimalAfter read.1 more read.2 := by
  induction width generalizing value characters with
  | zero => simp [readDecimalAfter]
  | succ width inductionHypothesis =>
    cases characters with
    | nil => simp [readDecimalAfter, Nat.succ_add]
    | cons character rest =>
      cases digit : decimalValue? character <;>
        simp [readDecimalAfter, Nat.succ_add, digit, inductionHypothesis]

/-- Digits that were written read back, and nothing after them is touched. -/
theorem readDecimalAfter_decimalDigits (width value start : Nat) (rest : List Char)
    (fits : value < Nat.pow 10 width) :
    readDecimalAfter start width (decimalDigits width value ++ rest) =
      some (start * Nat.pow 10 width + value, rest) := by
  induction width generalizing value rest with
  | zero =>
    have : value = 0 := Nat.lt_one_iff.mp fits
    simp [decimalDigits, readDecimalAfter, this]
  | succ width inductionHypothesis =>
    have power : Nat.pow 10 (width + 1) = Nat.pow 10 width * 10 := rfl
    have fitsHigh : value / 10 < Nat.pow 10 width := by omega
    have digit := decimalValue?_decimalDigit (value % 10) (Nat.mod_lt _ (by decide))
    rw [readDecimalAfter_add start width 1, decimalDigits, List.append_assoc,
      inductionHypothesis (value / 10) _ fitsHigh]
    simp only [Option.bind_some, List.cons_append, List.nil_append, readDecimalAfter, digit]
    refine congrArg (fun read => some (read, rest)) ?_
    rw [power, Nat.add_mul, Nat.mul_assoc]
    omega

/-- A number below `10 ^ width` reads back from its digits. -/
theorem readDecimal_decimalDigits (width value : Nat) (rest : List Char)
    (fits : value < Nat.pow 10 width) :
    readDecimal width (decimalDigits width value ++ rest) = some (value, rest) := by
  simp [readDecimal, readDecimalAfter_decimalDigits width value 0 rest fits]

end Mailroom.Text
