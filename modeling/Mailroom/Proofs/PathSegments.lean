import Mailroom.Proofs.TextParts
import Mailroom.Url.Request

/-!
# Escapes and segments of a path

Writing a path out escapes what must not stand in one. It leaves a percent sign as it is, so that an
escape which was there before cannot be told from one that was put in, and it touches no slash, so
that the segments are those of the text. Dot segments are followed before: a segment of two dots
takes the one before it away.
-/

namespace Mailroom

namespace Text

/-- A text that starts with two hexadecimal digits. -/
def StartsWithDigits (text : List Char) : Prop :=
  ∃ high low rest, text = high :: low :: rest ∧
    (hexValue? high).isSome = true ∧ (hexValue? low).isSome = true

/-- A text with a percent sign somewhere that has two hexadecimal digits behind it. -/
def HoldsEscape (text : List Char) : Prop :=
  ∃ before after, text = before ++ '%' :: after ∧ StartsWithDigits after

/-- An escape in a text is at its start or in the rest. -/
theorem holdsEscape_cons {character : Char} {rest : List Char} :
    HoldsEscape (character :: rest) ↔
      (character = '%' ∧ StartsWithDigits rest) ∨ HoldsEscape rest := by
  constructor
  · rintro ⟨before, after, same, digits⟩
    cases before with
    | nil =>
      obtain ⟨rfl, rfl⟩ := List.cons.inj same
      exact .inl ⟨rfl, digits⟩
    | cons _ others =>
      obtain ⟨rfl, rfl⟩ := List.cons.inj same
      exact .inr ⟨others, after, rfl, digits⟩
  · rintro (⟨rfl, digits⟩ | ⟨before, after, rfl, digits⟩)
    · exact ⟨[], rest, rfl, digits⟩
    · exact ⟨character :: before, after, rfl, digits⟩

/-- Texts are made of escapes, percent signs that start none, and other characters. -/
@[elab_as_elim]
theorem escape_induction {motive : List Char → Prop} (nil : motive [])
    (escape : ∀ high low upper lower rest, hexValue? high = some upper →
      hexValue? low = some lower → motive rest → motive ('%' :: high :: low :: rest))
    (percent : ∀ rest, ¬ StartsWithDigits rest → motive rest → motive ('%' :: rest))
    (other : ∀ character rest, character ≠ '%' → motive rest → motive (character :: rest))
    (text : List Char) : motive text := by
  induction size : text.length using Nat.strongRecOn generalizing text with
  | ind size inductionHypothesis =>
    subst size
    cases text with
    | nil => exact nil
    | cons character rest =>
      have onRest : motive rest := inductionHypothesis _ (Nat.lt_succ_self _) rest rfl
      by_cases isPercent : character = '%'
      · subst isPercent
        by_cases digits : StartsWithDigits rest
        · obtain ⟨high, low, after, rfl, isHigh, isLow⟩ := digits
          obtain ⟨upper, isUpper⟩ := Option.isSome_iff_exists.mp isHigh
          obtain ⟨lower, isLower⟩ := Option.isSome_iff_exists.mp isLow
          refine escape high low upper lower after isUpper isLower ?_
          exact inductionHypothesis _ (by simp only [List.length_cons]; omega) after rfl
        · exact percent rest digits onRest
      · exact other character rest isPercent onRest

section Decoding

/-- The octets of a text are those of its first character and of the rest. -/
theorem utf8Octets_cons (character : Char) (rest : List Char) :
    utf8Octets (character :: rest) = utf8Octets [character] ++ utf8Octets rest := by
  rw [utf8Octets, utf8Octets, utf8Octets, List.flatMap_cons, List.flatMap_singleton]

/-- Every character has an octet. -/
theorem length_utf8Octets_cons (character : Char) (rest : List Char) :
    (utf8Octets rest).length < (utf8Octets (character :: rest)).length := by
  have size : (utf8Octets [character]).length = character.utf8Size := by
    rw [utf8Octets, List.flatMap_singleton, String.length_utf8EncodeChar]
  have positive := character.utf8Size_pos
  rw [utf8Octets_cons, List.length_append]
  omega

/-- An escape stands for an octet. -/
theorem percentDecoded_escape {high low : Char} {upper lower : Nat}
    (isUpper : hexValue? high = some upper) (isLower : hexValue? low = some lower)
    (rest : List Char) :
    percentDecoded ('%' :: high :: low :: rest) =
      UInt8.ofNat (upper * 16 + lower) :: percentDecoded rest := by
  rw [percentDecoded, isUpper, isLower]

/-- A percent sign that starts no escape stands for itself. -/
theorem percentDecoded_percent {rest : List Char} (noDigits : ¬ StartsWithDigits rest) :
    percentDecoded ('%' :: rest) = utf8Octets ['%'] ++ percentDecoded rest := by
  match rest with
  | [] => rfl
  | [_] => rfl
  | high :: low :: after =>
    rw [percentDecoded]
    split
    next upper lower isUpper isLower =>
      refine absurd ⟨high, low, after, rfl, ?_, ?_⟩ noDigits
      · rw [isUpper, Option.isSome_some]
      · rw [isLower, Option.isSome_some]
    next => rfl

/-- So does any other character. -/
theorem percentDecoded_other {character : Char} (other : character ≠ '%') (rest : List Char) :
    percentDecoded (character :: rest) = utf8Octets [character] ++ percentDecoded rest := by
  rw [percentDecoded]
  rintro high low after rfl
  exact absurd rfl other

/-- Taking escapes off makes no octets. -/
theorem length_percentDecoded_le (text : List Char) :
    (percentDecoded text).length ≤ (utf8Octets text).length := by
  induction text using escape_induction with
  | nil => exact Nat.le_refl _
  | escape high low upper lower rest isUpper isLower shorter =>
    have first := length_utf8Octets_cons '%' (high :: low :: rest)
    have second := length_utf8Octets_cons high (low :: rest)
    have third := length_utf8Octets_cons low rest
    rw [percentDecoded_escape isUpper isLower, List.length_cons]
    omega
  | percent rest noDigits shorter =>
    rw [percentDecoded_percent noDigits, utf8Octets_cons '%' rest, List.length_append,
      List.length_append]
    omega
  | other character rest other shorter =>
    rw [percentDecoded_other other, utf8Octets_cons character rest, List.length_append,
      List.length_append]
    omega

/-- A text stands for its own octets exactly when it holds no escape. -/
theorem percentDecoded_eq_utf8Octets_iff (text : List Char) :
    percentDecoded text = utf8Octets text ↔ ¬ HoldsEscape text := by
  induction text using escape_induction with
  | nil =>
    refine iff_of_true rfl ?_
    rintro ⟨before, after, same, -⟩
    simp at same
  | escape high low upper lower rest isUpper isLower onRest =>
    -- Three characters stand for one octet, so the octets are too few.
    have first := length_utf8Octets_cons '%' (high :: low :: rest)
    have second := length_utf8Octets_cons high (low :: rest)
    have third := length_utf8Octets_cons low rest
    have bound := length_percentDecoded_le rest
    refine iff_of_false (fun same => ?_) (not_not_intro ?_)
    · have lengths := congrArg List.length same
      rw [percentDecoded_escape isUpper isLower, List.length_cons] at lengths
      omega
    · refine ⟨[], high :: low :: rest, rfl, high, low, rest, rfl, ?_, ?_⟩
      · rw [isUpper, Option.isSome_some]
      · rw [isLower, Option.isSome_some]
  | percent rest noDigits onRest =>
    rw [percentDecoded_percent noDigits, utf8Octets_cons '%' rest, List.append_cancel_left_eq,
      onRest, holdsEscape_cons, or_iff_right (fun both => noDigits both.2)]
  | other character rest other onRest =>
    rw [percentDecoded_other other, utf8Octets_cons character rest, List.append_cancel_left_eq,
      onRest, holdsEscape_cons, or_iff_right (fun both => other both.1)]

end Decoding

section Escaping

variable {safe : Char → Bool}

/-- A digit that was written reads back as its value. -/
theorem hexValue?_upperHexDigit : ∀ value < 16, hexValue? (upperHexDigit value) = some value := by
  decide

/-- A text that was escaped. -/
abbrev escaped (safe : Char → Bool) (text : List Char) : List Char :=
  text.flatMap (percentChar safe)

/-- Safe characters by which escapes stay as they are. -/
structure KeepsEscapes (safe : Char → Bool) : Prop where
  percent : safe '%' = true
  digit : ∀ character, (hexValue? character).isSome = true → safe character = true

/-- A safe character stays. -/
theorem escaped_safe {character : Char} (isSafe : safe character = true) (rest : List Char) :
    escaped safe (character :: rest) = character :: escaped safe rest := by
  rw [escaped, List.flatMap_cons, percentChar, if_pos isSafe, List.singleton_append]

/-- Any other becomes the escapes of its octets. -/
theorem escaped_of_excluded {character : Char} (isExcluded : safe character = false) (rest : List Char) :
    escaped safe (character :: rest) =
      (utf8Octets [character]).flatMap percentOctet ++ escaped safe rest := by
  rw [escaped, List.flatMap_cons, percentChar, isExcluded, if_neg Bool.false_ne_true, utf8Octets,
    List.flatMap_singleton]

/-- Escaped octets stand for themselves. -/
theorem percentDecoded_percentOctet (octets : List UInt8) (rest : List Char) :
    percentDecoded (octets.flatMap percentOctet ++ rest) = octets ++ percentDecoded rest := by
  induction octets with
  | nil => rfl
  | cons octet others inductionHypothesis =>
    have small := octet.toNat_lt
    have upper := hexValue?_upperHexDigit (octet.toNat / 16) (by omega)
    have lower := hexValue?_upperHexDigit (octet.toNat % 16) (by omega)
    have whole : octet.toNat / 16 * 16 + octet.toNat % 16 = octet.toNat := by omega
    rw [List.flatMap_cons, List.append_assoc, percentOctet]
    change percentDecoded ('%' :: upperHexDigit (octet.toNat / 16) ::
      upperHexDigit (octet.toNat % 16) :: (others.flatMap percentOctet ++ rest)) = _
    rw [percentDecoded_escape upper lower, inductionHypothesis, whole, UInt8.ofNat_toNat]
    rfl

/-- A digit at the start of an escaped text was there before. -/
theorem eq_cons_of_escaped {text after : List Char} {digit : Char}
    (isDigit : (hexValue? digit).isSome = true) (starts : escaped safe text = digit :: after) :
    ∃ rest, text = digit :: rest ∧ escaped safe rest = after := by
  cases text with
  | nil => cases starts
  | cons character rest =>
    cases isSafe : safe character with
    | true =>
      rw [escaped_safe isSafe] at starts
      obtain ⟨rfl, rfl⟩ := List.cons.inj starts
      exact ⟨rest, rfl, rfl⟩
    | false =>
      -- What is escaped starts with a percent sign, which is no digit.
      obtain ⟨octet, others, octets⟩ := List.exists_cons_of_ne_nil
        (List.ne_nil_of_length_pos (Nat.lt_of_le_of_lt (Nat.zero_le _)
          (length_utf8Octets_cons character [])))
      rw [escaped_of_excluded isSafe, octets, List.flatMap_cons, percentOctet] at starts
      obtain ⟨rfl, -⟩ := List.cons.inj starts
      exact absurd isDigit (by decide)

/-- Escaping puts no two digits at the start. -/
theorem startsWithDigits_of_escaped {text : List Char}
    (digits : StartsWithDigits (escaped safe text)) : StartsWithDigits text := by
  obtain ⟨high, low, after, same, isHigh, isLow⟩ := digits
  obtain ⟨others, rfl, starts⟩ := eq_cons_of_escaped isHigh same
  obtain ⟨rest, rfl, -⟩ := eq_cons_of_escaped isLow starts
  exact ⟨high, low, rest, rfl, isHigh, isLow⟩

/-- Where escapes stay as they are, an escaped text stands for the same octets as before. -/
theorem percentDecoded_escaped (keeps : KeepsEscapes safe) (text : List Char) :
    percentDecoded (escaped safe text) = percentDecoded text := by
  induction text using escape_induction with
  | nil => rfl
  | escape high low upper lower rest isUpper isLower onRest =>
    have highSafe := keeps.digit high (by rw [isUpper, Option.isSome_some])
    have lowSafe := keeps.digit low (by rw [isLower, Option.isSome_some])
    rw [escaped_safe keeps.percent, escaped_safe highSafe, escaped_safe lowSafe,
      percentDecoded_escape isUpper isLower, percentDecoded_escape isUpper isLower, onRest]
  | percent rest noDigits onRest =>
    rw [escaped_safe keeps.percent, percentDecoded_percent noDigits,
      percentDecoded_percent fun digits => noDigits (startsWithDigits_of_escaped digits), onRest]
  | other character rest other onRest =>
    rw [percentDecoded_other other]
    cases isSafe : safe character with
    | true => rw [escaped_safe isSafe, percentDecoded_other other, onRest]
    | false => rw [escaped_of_excluded isSafe, percentDecoded_percentOctet, onRest]

/-- A character that no escape is written with. -/
def IsMark (mark : Char) : Prop := mark ≠ '%' ∧ hexValue? mark = none

/-- Whether a character is one can be told. -/
instance (mark : Char) : Decidable (IsMark mark) :=
  inferInstanceAs (Decidable (mark ≠ '%' ∧ hexValue? mark = none))

/-- A mark in an escaped character is that character, which is safe. -/
theorem eq_of_mem_percentChar {mark character : Char} (isMark : IsMark mark)
    (member : mark ∈ percentChar safe character) : character = mark ∧ safe character = true := by
  rw [percentChar] at member
  split at member
  next isSafe => exact ⟨(List.mem_singleton.mp member).symm, isSafe⟩
  next =>
    obtain ⟨octet, -, inEscape⟩ := List.mem_flatMap.mp member
    have small := octet.toNat_lt
    have noDigit (value : Nat) (below : value < 16) : mark ≠ upperHexDigit value := by
      rintro rfl
      cases (hexValue?_upperHexDigit value below).symm.trans isMark.2
    rw [percentOctet, List.mem_cons, List.mem_cons, List.mem_singleton] at inEscape
    rcases inEscape with isPercent | isHigh | isLow
    · exact absurd isPercent isMark.1
    · exact absurd isHigh (noDigit _ (by omega))
    · exact absurd isLow (noDigit _ (by omega))

/-- A mark in an escaped text is safe and was there before. -/
theorem mem_of_mem_escaped {mark : Char} {text : List Char} (isMark : IsMark mark)
    (member : mark ∈ escaped safe text) : mark ∈ text ∧ safe mark = true := by
  obtain ⟨character, inText, inEscaped⟩ := List.mem_flatMap.mp member
  obtain ⟨rfl, isSafe⟩ := eq_of_mem_percentChar isMark inEscaped
  exact ⟨inText, isSafe⟩

end Escaping

section Splitting

variable {mark : Char}

/-- What holds no mark goes to the first part. -/
theorem splitOn_append_of_not_mem {first : List Char} (unmarked : mark ∉ first)
    (text : List Char) :
    splitOn mark (first ++ text) = (splitOn mark text).modifyHead (first ++ ·) := by
  induction first with
  | nil => exact (congrFun List.modifyHead_id (splitOn mark text)).symm
  | cons character rest inductionHypothesis =>
    obtain ⟨different, others⟩ := not_or.mp (mt List.mem_cons.mpr unmarked)
    rw [List.cons_append, splitOn_eq, List.splitOn_cons_eq_if_modifyHead,
      if_neg (fun same => different (beq_iff_eq.mp same).symm), ← splitOn_eq,
      inductionHypothesis others, List.modifyHead_modifyHead]
    rfl

/-- Splitting an escaped text escapes its parts. -/
theorem splitOn_escaped {safe : Char → Bool} (isMark : IsMark mark) (isSafe : safe mark = true)
    (text : List Char) :
    splitOn mark (escaped safe text) = (splitOn mark text).map (escaped safe) := by
  induction text with
  | nil => rfl
  | cons character rest inductionHypothesis =>
    by_cases same : character = mark
    · subst same
      rw [escaped_safe isSafe, splitOn, if_pos rfl, splitOn, if_pos rfl, inductionHypothesis]
      rfl
    · have unmarked : mark ∉ percentChar safe character := fun member =>
        same (eq_of_mem_percentChar isMark member).1
      rw [escaped, List.flatMap_cons, splitOn_append_of_not_mem unmarked, inductionHypothesis,
        splitOn, if_neg same]
      cases parts : splitOn mark rest with
      | nil => exact absurd parts (splitOn_eq mark rest ▸ List.splitOn_ne_nil mark rest)
      | cons part others => rfl

/-- A part of a text stands in it and holds no mark. -/
theorem infix_of_mem_splitOn {part text : List Char} (isPart : part ∈ splitOn mark text) :
    part <:+: text ∧ mark ∉ part := by
  induction size : text.length using Nat.strongRecOn generalizing text with
  | ind size inductionHypothesis =>
    subst size
    rw [splitOn_eq] at isPart
    by_cases marked : mark ∈ text
    · obtain ⟨before, after, rfl, unmarked⟩ := List.eq_append_cons_of_mem marked
      rw [List.splitOn_append_cons_self_of_not_mem unmarked] at isPart
      rcases List.mem_cons.mp isPart with rfl | later
      · exact ⟨(List.prefix_append _ _).isInfix, unmarked⟩
      · rw [← splitOn_eq] at later
        have shorter : after.length < (before ++ mark :: after).length := by
          rw [List.length_append, List.length_cons]
          omega
        obtain ⟨inside, noMark⟩ := inductionHypothesis _ shorter later rfl
        have isSuffix : after <:+ before ++ mark :: after :=
          (List.suffix_cons mark after).trans (List.suffix_append before _)
        exact ⟨inside.trans isSuffix.isInfix, noMark⟩
    · rw [List.splitOn_eq_singleton marked, List.mem_singleton] at isPart
      subst isPart
      exact ⟨List.infix_rfl, marked⟩

/-- A piece of a text with as many octets is the text. -/
theorem eq_of_infix_of_length {piece text : List Char} (inside : piece <:+: text)
    (long : (utf8Octets text).length ≤ (utf8Octets piece).length) : piece = text := by
  obtain ⟨before, after, rfl⟩ := inside
  have empty (part : List Char) (none : (utf8Octets part).length = 0) : part = [] := by
    cases part with
    | nil => rfl
    | cons character rest =>
      have more := length_utf8Octets_cons character rest
      omega
  have lengths : (utf8Octets (before ++ piece ++ after)).length = (utf8Octets before).length +
      (utf8Octets piece).length + (utf8Octets after).length := by
    simp only [utf8Octets, List.flatMap_append, List.length_append]
  rw [empty before (by omega), empty after (by omega), List.nil_append,
    List.append_nil]

end Splitting

end Text

namespace Url

open Text

/-- A path keeps the escapes that it was written with. -/
theorem keepsEscapes_isPathChar : KeepsEscapes isPathChar where
  percent := by decide
  digit character isDigit := by
    have noDigits : ['"', '#', '<', '>', '?', '`', '\x7b', '\x7d'].all
        (fun excluded => (hexValue? excluded).isNone) = true := by
      decide
    have notExcluded :
        ['"', '#', '<', '>', '?', '`', '\x7b', '\x7d'].contains character = false := by
      rw [Bool.eq_false_iff, ne_eq, List.contains_iff_mem]
      intro member
      have noDigit := List.all_eq_true.mp noDigits character member
      rw [Option.isNone_iff_eq_none] at noDigit
      rw [noDigit] at isDigit
      cases isDigit
    have visible : 0x20 < character.toNat ∧ character.toNat < 0x7f := by
      simp only [hexValue?, Bool.and_eq_true, decide_eq_true_eq] at isDigit
      split at isDigit
      · omega
      · split at isDigit
        · omega
        · split at isDigit
          · omega
          · cases isDigit
    rw [isPathChar, isVisibleExcept, notExcluded, decide_eq_true visible.1,
      decide_eq_true visible.2]
    rfl

section FollowDots

variable {kept : List (List Char)}

/-- Segments after others are followed from where those led. -/
theorem followDots_append (kept first second : List (List Char)) :
    followDots kept (first ++ second) = followDots (followDots kept first) second := by
  induction first generalizing kept with
  | nil => rfl
  | cons segment rest inductionHypothesis =>
    rw [List.cons_append, followDots, followDots]
    split
    · exact inductionHypothesis _
    · split
      · exact inductionHypothesis _
      · exact inductionHypothesis _

/-- A path that starts at the root stays below it. -/
theorem followDots_rooted (rooted : kept.head? = some []) (segments : List (List Char)) :
    (followDots kept segments).head? = some [] := by
  induction segments generalizing kept with
  | nil => exact rooted
  | cons segment rest inductionHypothesis =>
    rw [followDots]
    split
    · exact inductionHypothesis rooted
    · split
      · refine inductionHypothesis ?_
        split
        · exact rooted
        next deeper =>
          obtain ⟨others, rfl⟩ := List.head?_eq_some_iff.mp rooted
          cases others with
          | nil => exact absurd rfl deeper
          | cons other more => rfl
      · refine inductionHypothesis ?_
        obtain ⟨others, rfl⟩ := List.head?_eq_some_iff.mp rooted
        rfl

/-- What a path has beyond a number of segments, it had before or was led to. -/
theorem mem_of_mem_drop_followDots {count : Nat} {segments : List (List Char)} {segment : List Char}
    (member : segment ∈ (followDots kept segments).drop count) :
    segment ∈ kept.drop count ∨ segment ∈ segments := by
  induction segments generalizing kept with
  | nil => exact .inl member
  | cons first rest inductionHypothesis =>
    rw [followDots] at member
    split at member
    · exact (inductionHypothesis member).imp_right (List.mem_cons_of_mem _)
    · split at member
      · refine (inductionHypothesis member).imp ?_ (List.mem_cons_of_mem _)
        split
        · exact id
        · exact fun before => ((List.dropLast_sublist kept).drop count).subset before
      · rcases inductionHypothesis member with before | after
        · rcases List.mem_append.mp (List.drop_append ▸ before) with old | new
          · exact .inl old
          · refine .inr (List.mem_cons.mpr (.inl ?_))
            exact List.mem_singleton.mp (List.mem_of_mem_drop new)
        · exact .inr (List.mem_cons_of_mem _ after)

/-- So it is with all that a path has. -/
theorem mem_of_mem_followDots {segments : List (List Char)} {segment : List Char}
    (member : segment ∈ followDots kept segments) : segment ∈ kept ∨ segment ∈ segments := by
  have beyondNone : segment ∈ (followDots kept segments).drop 0 := member
  exact mem_of_mem_drop_followDots beyondNone

end FollowDots

end Url
end Mailroom
