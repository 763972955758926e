import Mailroom.Proofs.JsonText

/-!
# Queries for a phrase

A query names a field and a phrase, and both may be any whole text. Whatever marks, controls or
characters beyond the basic plane they hold, the query is in ASCII, and a reader takes it for the
object with just this field and this phrase. So a phrase cannot end the query early or add to it,
and two searches for different things are told apart by their queries.
-/

namespace Mailroom.Json

open Text

/-- Characters that are all in ASCII. -/
def InAscii (characters : List Char) : Prop :=
  ∀ each ∈ characters, each.toNat < 0x80

/-- No characters are in ASCII. -/
theorem InAscii.nil : InAscii [] :=
  List.forall_mem_nil _

/-- A character in front of others in ASCII. -/
theorem InAscii.cons {first : Char} {others : List Char} (ascii : first.toNat < 0x80)
    (rest : InAscii others) : InAscii (first :: others) :=
  List.forall_mem_cons.mpr ⟨ascii, rest⟩

/-- Characters in ASCII in front of others. -/
theorem InAscii.append {first second : List Char} (before : InAscii first)
    (after : InAscii second) : InAscii (first ++ second) :=
  List.forall_mem_append.mpr ⟨before, after⟩

/-- Hexadecimal digits are in ASCII. -/
theorem hexDigits_ascii (width value : Nat) : InAscii (hexDigits width value) := by
  have digit : ∀ value < 16, (hexDigit value).toNat < 0x80 := by decide
  induction width generalizing value with
  | zero => exact .nil
  | succ width inductionHypothesis =>
    exact (inductionHypothesis _).append (.cons (digit _ (Nat.mod_lt _ (by decide))) .nil)

/-- So is an escape of four of them. -/
theorem unitEscape_ascii (unit : Nat) : InAscii (unitEscape unit) :=
  .cons (by decide) (.cons (by decide) (hexDigits_ascii 4 unit))

/-- So are the one or two escapes of a character. -/
theorem pointUnits_ascii (point : Nat) : InAscii (pointUnits point) := by
  unfold pointUnits
  split
  · exact unitEscape_ascii _
  · exact (unitEscape_ascii _).append (unitEscape_ascii _)

/-- A character as it stands in a string: one that is not in ASCII is escaped. -/
theorem escapedChar_ascii (character : Char) : InAscii (escapedChar .ascii character) := by
  unfold escapedChar
  -- The seven escapes of one letter come first.
  iterate 7
    split
    · exact .cons (by decide) (.cons (by decide) .nil)
  split
  · exact pointUnits_ascii _
  next plain =>
    simp only [Form.escapes, Bool.or_eq_true, decide_eq_true_eq, not_or, Nat.not_le] at plain
    exact .cons (by omega) .nil

/-- A text is written in ASCII. -/
theorem writeString_ascii (text : String) : InAscii (writeString .ascii text) := by
  have inside : InAscii (text.toList.flatMap (escapedChar .ascii)) := by
    intro each member
    obtain ⟨character, -, written⟩ := List.mem_flatMap.mp member
    exact escapedChar_ascii character each written
  exact .cons (by decide) (inside.append (.cons (by decide) .nil))

/-- An object with one member is written in ASCII if the value of the member is. -/
theorem writeChars_single_ascii (name : String) {value : Json}
    (inner : InAscii (writeChars .ascii value)) :
    InAscii (writeChars .ascii (.obj [(name, value)])) := by
  have member : InAscii (writeMembers .ascii [(name, value)]) :=
    (writeString_ascii name).append (.cons (by decide) (.cons (by decide) inner))
  exact .cons (by decide) (member.append (.cons (by decide) .nil))

/-- A query for a phrase is in ASCII. -/
theorem matchQuery_ascii (field phrase : String) :
    InAscii (Office.matchQuery field (.str phrase)).toList := by
  rw [Office.matchQuery, Json.write, String.toList_ofList]
  refine writeChars_single_ascii _ (writeChars_single_ascii _ (writeChars_single_ascii _ ?_))
  rw [writeChars]
  exact writeString_ascii phrase

/-- A query means its field and its phrase and nothing else, whatever whole texts they are: texts
without halves of surrogate pairs, and without the unassigned code points U+DD800 to U+DDFFF that
stand in for halves. It is in ASCII, it is read as the object that it was written from, and a query
for another field or another phrase is another query. -/
theorem query_means_its_phrase {field phrase : String} (wholeField : isTorn field = false)
    (wholePhrase : isTorn phrase = false) :
    let query := Office.matchQuery field (.str phrase)
    (∀ each ∈ query.toList, each.toNat < 0x80) ∧
      Json.read query =
        .ok (.obj [("query", .obj [("match_phrase", .obj [(field, .str phrase)])])]) ∧
      ∀ otherField otherPhrase : String, isTorn otherField = false → isTorn otherPhrase = false →
        Office.matchQuery otherField (.str otherPhrase) = query →
        otherField = field ∧ otherPhrase = phrase := by
  intro query
  have read := read_matchQuery wholeField wholePhrase
  refine ⟨matchQuery_ascii field phrase, read, ?_⟩
  intro otherField otherPhrase wholeOther wholeOtherPhrase same
  have otherRead := read_matchQuery wholeOther wholeOtherPhrase
  rw [same, read] at otherRead
  simp only [Except.ok.injEq, Json.obj.injEq, List.cons.injEq, Prod.mk.injEq, Json.str.injEq,
    and_true, true_and] at otherRead
  exact ⟨otherRead.1.symm, otherRead.2.symm⟩

/-- A phrase with marks, a control and characters in and beyond the basic plane, which tries to end
the query. -/
def oddPhrase : String := "\"\x7d\x7d\\\n\x01\x7fé😀"

/-- The query for it still means it. -/
theorem query_for_odd_phrase_means_it :
    let query := Office.matchQuery Office.caseEnvelopeField (.str oddPhrase)
    (∀ each ∈ query.toList, each.toNat < 0x80) ∧
      Json.read query = .ok (.obj [("query", .obj [("match_phrase",
        .obj [(Office.caseEnvelopeField, .str oddPhrase)])])]) ∧
      ∀ otherField otherPhrase : String, isTorn otherField = false → isTorn otherPhrase = false →
        Office.matchQuery otherField (.str otherPhrase) = query →
        otherField = Office.caseEnvelopeField ∧ otherPhrase = oddPhrase :=
  query_means_its_phrase (by decide +kernel) (by decide +kernel)

end Mailroom.Json
