import Mailroom.CaseAccess
import Mailroom.Json.Reader

/-!
# Texts that read back

A text is written in ASCII with escapes of one letter, escapes of four digits
and pairs of those, and the reader takes each of them for the code units it
stands for. Joined, the units are the characters again, as no character that is
written stands in for half of a pair. Around such texts an object with one
member reads back from the reading of its value.
-/

namespace Mailroom.Json

open Text

/-- The code units of a character, two of them beyond the basic plane. -/
def codeUnits (character : Char) : List Nat :=
  if character.toNat < 0x10000 then [character.toNat]
  else
    [0xd800 + (character.toNat - 0x10000) / 0x400, 0xdc00 + (character.toNat - 0x10000) % 0x400]

/-- The number of a character is none of a surrogate and lies in the last plane
at most. -/
theorem toNat_valid (character : Char) :
    character.toNat < 0xd800 ∨ 0xdfff < character.toNat ∧ character.toNat < 0x110000 :=
  character.valid

/-- A unit that opens no pair stands for itself. -/
theorem joinSurrogates_cons {unit : Nat} (alone : isHighSurrogate unit = false) (units : List Nat) :
    joinSurrogates (unit :: units) = charOfUnit unit :: joinSurrogates units := by
  cases units with
  | nil => rfl
  | cons next rest => rw [joinSurrogates, alone, Bool.false_and, if_neg Bool.false_ne_true]

/-- The units of a character make the character again. -/
theorem joinSurrogates_codeUnits (character : Char) (units : List Nat) :
    joinSurrogates (codeUnits character ++ units) = character :: joinSurrogates units := by
  have valid := toNat_valid character
  by_cases basic : character.toNat < 0x10000
  · have noHigh : isHighSurrogate character.toNat = false := by
      rw [isHighSurrogate, Bool.and_eq_false_iff, decide_eq_false_iff_not, decide_eq_false_iff_not]
      omega
    have noLow : isLowSurrogate character.toNat = false := by
      rw [isLowSurrogate, Bool.and_eq_false_iff, decide_eq_false_iff_not, decide_eq_false_iff_not]
      omega
    rw [codeUnits, if_pos basic, List.singleton_append, joinSurrogates_cons noHigh, charOfUnit,
      noHigh, noLow, Bool.false_or, if_neg Bool.false_ne_true, Char.ofNat_toNat]
  · have high : isHighSurrogate (0xd800 + (character.toNat - 0x10000) / 0x400) = true := by
      rw [isHighSurrogate, Bool.and_eq_true, decide_eq_true_eq, decide_eq_true_eq]
      omega
    have low : isLowSurrogate (0xdc00 + (character.toNat - 0x10000) % 0x400) = true := by
      rw [isLowSurrogate, Bool.and_eq_true, decide_eq_true_eq, decide_eq_true_eq]
      omega
    have joined : 0x10000 + (0xd800 + (character.toNat - 0x10000) / 0x400 - 0xd800) * 0x400 +
        (0xdc00 + (character.toNat - 0x10000) % 0x400 - 0xdc00) = character.toNat := by
      omega
    rw [codeUnits, if_neg basic, List.cons_append, List.singleton_append, joinSurrogates, high, low,
      Bool.true_and, if_pos rfl, joinedPair, joined, Char.ofNat_toNat]

/-- The units of a text make its characters again. -/
theorem joinSurrogates_flatMap (characters : List Char) :
    joinSurrogates (characters.flatMap codeUnits) = characters := by
  induction characters with
  | nil => rfl
  | cons character rest inductionHypothesis =>
    rw [List.flatMap_cons, joinSurrogates_codeUnits, inductionHypothesis]

/-- Four hexadecimal digits make the number that they were written from. -/
theorem hexUnit?_hexDigits {unit : Nat} (fits : unit < 0x10000) :
    hexUnit? (hexDigit (unit / 16 / 16 / 16 % 16)) (hexDigit (unit / 16 / 16 % 16))
      (hexDigit (unit / 16 % 16)) (hexDigit (unit % 16)) = some unit := by
  have digit (value : Nat) : hexValue? (hexDigit (value % 16)) = some (value % 16) :=
    hexValue?_hexDigit _ (Nat.mod_lt _ (by decide))
  have sum : ((unit / 16 / 16 / 16 % 16 * 16 + unit / 16 / 16 % 16) * 16 + unit / 16 % 16) * 16 +
      unit % 16 = unit := by
    omega
  simp only [hexUnit?, digit, Option.bind_eq_bind, Option.bind_some, Option.pure_def, sum]

variable {opening rest after : List Char} {next : Char} {units : List Nat}

/-- An escape of four digits reads as the unit that it was written from. -/
theorem readUnits_unitEscape {unit : Nat} (fits : unit < 0x10000)
    (read : readUnitsOfString opening (next :: rest) = .ok (units, after)) :
    readUnitsOfString opening (unitEscape unit ++ next :: rest) = .ok (unit :: units, after) := by
  have digits : unitEscape unit ++ next :: rest =
      '\\' :: 'u' :: hexDigit (unit / 16 / 16 / 16 % 16) :: hexDigit (unit / 16 / 16 % 16) ::
        hexDigit (unit / 16 % 16) :: hexDigit (unit % 16) :: next :: rest := rfl
  rw [digits, readUnitsOfString, hexUnit?_hexDigits fits, read]
  rfl

/-- A character written by its number reads as its units. -/
theorem readUnits_pointUnits (character : Char)
    (read : readUnitsOfString opening (next :: rest) = .ok (units, after)) :
    readUnitsOfString opening (pointUnits character.toNat ++ next :: rest) =
      .ok (codeUnits character ++ units, after) := by
  have valid := toNat_valid character
  by_cases basic : character.toNat < 0x10000
  · rw [pointUnits, if_pos basic, codeUnits, if_pos basic]
    exact readUnits_unitEscape basic read
  · rw [pointUnits, if_neg basic, codeUnits, if_neg basic]
    simp only [List.append_assoc]
    have low : 0xdc00 + (character.toNat - 0x10000) % 0x400 < 0x10000 := by omega
    exact readUnits_unitEscape (by omega) (readUnits_unitEscape low read)

/-- A character that needs no escape reads as itself. -/
theorem readUnits_plain {character : Char} (noQuote : character ≠ '"') (noEscape : character ≠ '\\')
    (noControl : ¬ character.toNat < 0x20)
    (read : readUnitsOfString opening (next :: rest) = .ok (units, after)) :
    readUnitsOfString opening (character :: next :: rest) =
      .ok (character.toNat :: units, after) := by
  rw [readUnitsOfString, if_neg noControl, read]
  · rfl
  all_goals simp_all

/-- An escape of one letter reads as the character that the letter stands for. -/
theorem readUnits_letter {letter value : Char} (means : simpleEscape? letter = some value)
    (noNumber : letter ≠ 'u')
    (read : readUnitsOfString opening (next :: rest) = .ok (units, after)) :
    readUnitsOfString opening ('\\' :: letter :: next :: rest) =
      .ok (value.toNat :: units, after) := by
  rw [readUnitsOfString, means]
  · simp only [read]
    rfl
  all_goals simp_all

/-- A character that stands in for no half reads as its units. -/
theorem readUnits_escapedChar {character : Char} (whole : isHalf character = false)
    (read : readUnitsOfString opening (next :: rest) = .ok (units, after)) :
    readUnitsOfString opening (escapedChar .ascii character ++ next :: rest) =
      .ok (codeUnits character ++ units, after) := by
  unfold escapedChar
  -- The seven escapes of one letter come first.
  iterate 7
    split
    · next same => subst same; exact readUnits_letter rfl (by decide) read
  split
  · rw [codePoint, whole, if_neg Bool.false_ne_true]
    exact readUnits_pointUnits character read
  next noQuote noEscape _ _ _ _ _ plain =>
    simp only [Form.escapes, Bool.or_eq_true, decide_eq_true_eq, not_or, Nat.not_le] at plain
    rw [codeUnits, if_pos (by omega)]
    exact readUnits_plain noQuote noEscape plain.1 read

/-- A text that was written reads as the units of its characters, up to its
closing mark. -/
theorem readUnits_escaped {characters : List Char}
    (whole : ∀ each ∈ characters, isHalf each = false) :
    readUnitsOfString opening (characters.flatMap (escapedChar .ascii) ++ '"' :: rest) =
      .ok (characters.flatMap codeUnits, rest) := by
  induction characters with
  | nil => rw [List.flatMap_nil, List.nil_append, readUnitsOfString]; rfl
  | cons character others inductionHypothesis =>
    have read := inductionHypothesis fun each member => whole each (List.mem_cons_of_mem _ member)
    have first := whole character List.mem_cons_self
    rw [List.flatMap_cons, List.flatMap_cons, List.append_assoc]
    cases text : others.flatMap (escapedChar .ascii) ++ '"' :: rest with
    | nil => exact absurd text (by simp)
    | cons next more =>
      rw [text] at read
      exact readUnits_escapedChar first read

variable {tolerance : Tolerance}

/-- A text that holds no half reads back, whatever follows it. -/
theorem readString_escaped {text : String} (whole : isTorn text = false) :
    readString tolerance (text.toList.flatMap (escapedChar .ascii) ++ '"' :: rest) =
      .ok (text, rest) := by
  have noHalf : ∀ each ∈ text.toList, isHalf each = false := by
    simpa only [isTorn, List.any_eq_false, Bool.not_eq_true] using whole
  have notTorn : (!tolerance.allowsTorn && isTorn text) = false := by rw [whole, Bool.and_false]
  rw [readString, readUnits_escaped noHalf]
  simp only [Except.bind, bind, joinSurrogates_flatMap, String.ofList_toList, notTorn]
  rfl

/-- A text opens with a mark, and what follows it stands behind its closing one. -/
theorem writeString_append (form : Form) (text : String) (rest : List Char) :
    writeString form text ++ rest =
      '"' :: (text.toList.flatMap (escapedChar form) ++ '"' :: rest) := by
  rw [writeString, List.cons_append, List.cons_append, List.append_assoc, List.singleton_append]

/-- A character that is no white space is not skipped. -/
theorem skipLayout_cons {first : Char} (visible : isLayout first = false) (others : List Char) :
    skipLayout (first :: others) = first :: others := by
  rw [skipLayout, List.dropWhile_cons, visible, if_neg Bool.false_ne_true]

/-- The name of a member is read with the colon and the gap after it. -/
theorem readName_text {name : String} (whole : isTorn name = false) {first : Char}
    (visible : isLayout first = false) (others : List Char) :
    readName tolerance (writeString .ascii name ++ ':' :: ' ' :: first :: others) =
      .ok (name, first :: others) := by
  have colon : skipLayout (':' :: ' ' :: first :: others) = ':' :: ' ' :: first :: others :=
    skipLayout_cons (by decide) _
  have gap : skipLayout (' ' :: first :: others) = first :: others := skipLayout_cons visible others
  rw [writeString_append, readName, readString_escaped whole]
  simp only [Except.bind, bind, colon, gap]
  rfl

/-- A written value opens with a visible character and reads as itself, whatever
follows it. -/
structure ReadsBack (tolerance : Tolerance) (fuel : Nat) (value : Json) : Prop where
  visible : ∃ first others, writeChars .ascii value = first :: others ∧ isLayout first = false
  read : ∀ rest, readValue tolerance fuel (writeChars .ascii value ++ rest) = .ok (value, rest)

/-- A text that holds no half reads back as a value. -/
theorem ReadsBack.text (fuel : Nat) {text : String} (whole : isTorn text = false) :
    ReadsBack tolerance (fuel + 1) (.str text) := by
  refine ⟨⟨'"', _, rfl, by decide⟩, fun rest => ?_⟩
  rw [writeChars, writeString_append, readValue, readString_escaped whole]
  rfl

/-- An object with one member reads back if the value of the member does, one
level further down. -/
theorem ReadsBack.single {depth fuel : Nat} {name : String} {value : Json}
    (whole : isTorn name = false) (deep : tolerance.depth = depth + 1)
    (inner : ReadsBack { tolerance with depth } fuel value) :
    ReadsBack tolerance (fuel + 2) (.obj [(name, value)]) := by
  refine ⟨⟨'{', _, rfl, by decide⟩, fun rest => ?_⟩
  obtain ⟨first, others, opens, visible⟩ := inner.visible
  have text : writeChars .ascii (.obj [(name, value)]) ++ rest =
      '{' :: (writeString .ascii name ++ ':' :: ' ' :: first :: (others ++ '}' :: rest)) := by
    simp only [writeChars, writeMembers, Form.gap, opens, List.cons_append, List.append_assoc,
      List.nil_append]
  have read := inner.read ('}' :: rest)
  have brace : skipLayout ('}' :: rest) = '}' :: rest := skipLayout_cons (by decide) rest
  rw [opens, List.cons_append] at read
  have member : readMembers { tolerance with depth } (fuel + 1)
      (writeString .ascii name ++ ':' :: ' ' :: first :: (others ++ '}' :: rest)) =
        .ok ([(name, value)], rest) := by
    rw [readMembers, readName_text whole visible]
    simp only [Except.bind, bind, read, brace]
    rfl
  have descended : tolerance.descend false = .ok { tolerance with depth } := by
    rw [Tolerance.descend, deep]
  rw [text]
  rw [writeString_append] at member ⊢
  rw [readValue, skipLayout_cons (by decide)]
  split
  next empty => exact absurd (List.cons.inj empty).1 (by decide)
  next =>
    simp only [descended, Except.bind, bind, member]
    rfl

/-- What reads back wherever it stands is read from its own text. -/
theorem ReadsBack.whole {value : Json}
    (reads : ReadsBack .lenient (2 * (writeChars .ascii value).length + 2) value) :
    Json.read (Json.write value) = .ok value := by
  obtain ⟨first, others, opens, visible⟩ := reads.visible
  have read := reads.read []
  rw [List.append_nil, opens] at read
  rw [Json.read, Json.write, String.toList_ofList, readChars, opens, skipLayout_cons visible]
  simp only [read, Except.bind, bind]
  rfl

/-- A query for a phrase reads as the object that it was written from. -/
theorem read_matchQuery {field phrase : String} (wholeField : isTorn field = false)
    (wholePhrase : isTorn phrase = false) :
    Json.read (Office.matchQuery field (.str phrase)) =
      .ok (.obj [("query", .obj [("match_phrase", .obj [(field, .str phrase)])])]) := by
  let value : Json := .obj [("query", .obj [("match_phrase", .obj [(field, .str phrase)])])]
  have long : 3 ≤ (writeChars .ascii value).length := by
    simp only [value, writeChars, writeMembers, writeString, List.length_append, List.length_cons]
    omega
  have steps : 2 * (writeChars .ascii value).length + 2 =
      2 * (writeChars .ascii value).length - 5 + 1 + 2 + 2 + 2 := by
    omega
  have phraseReads : ReadsBack { Tolerance.lenient with depth := 957 }
      (2 * (writeChars .ascii value).length - 5 + 1) (.str phrase) := .text _ wholePhrase
  have fieldReads : ReadsBack { Tolerance.lenient with depth := 958 }
      (2 * (writeChars .ascii value).length - 5 + 1 + 2) (.obj [(field, .str phrase)]) :=
    phraseReads.single wholeField rfl
  have matchReads : ReadsBack { Tolerance.lenient with depth := 959 }
      (2 * (writeChars .ascii value).length - 5 + 1 + 2 + 2)
      (.obj [("match_phrase", .obj [(field, .str phrase)])]) :=
    fieldReads.single (by decide) rfl
  have reads : ReadsBack .lenient (2 * (writeChars .ascii value).length + 2) value := by
    rw [steps]
    exact matchReads.single (by decide) rfl
  exact reads.whole

end Mailroom.Json
