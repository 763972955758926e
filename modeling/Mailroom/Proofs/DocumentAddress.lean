import Mailroom.Document.Collection
import Mailroom.Proofs.Assurance
import Mailroom.Proofs.MomentText
import Mathlib.Data.List.TakeWhile

/-!
# Addresses of documents

The address of a document is joined from the address of the store, the context
path and the identity of the document, and the identity is found again behind
the last slash of the path. Where the store is on the web at an ASCII host, such
an address can always be read; an identity without marks comes back unchanged.
-/

namespace Mailroom

namespace Text

/-- A cut goes past what holds no mark. -/
theorem cutAt_unmarked_append {mark : Char} {first : List Char} (unmarked : mark ∉ first)
    (second : List Char) :
    cutAt mark (first ++ second) = (first ++ (cutAt mark second).1, (cutAt mark second).2) := by
  induction first with
  | nil => rfl
  | cons character rest inductionHypothesis =>
    have different : character ≠ mark := fun same => unmarked (same ▸ List.mem_cons_self)
    rw [List.cons_append, cutAt, if_neg different,
      inductionHypothesis fun member => unmarked (List.mem_cons_of_mem _ member)]
    rfl

/-- What stands before the first place of a mark, and what stands after it. -/
theorem cutAt_append {mark : Char} {before : List Char} (unmarked : mark ∉ before)
    (after : List Char) : cutAt mark (before ++ mark :: after) = (before, some after) := by
  rw [cutAt_unmarked_append unmarked, cutAt, if_pos rfl, List.append_nil]

/-- Nothing is cut where there is no mark. -/
theorem cutAt_of_not_mem {mark : Char} {characters : List Char} (unmarked : mark ∉ characters) :
    cutAt mark characters = (characters, none) := by
  have uncut := cutAt_unmarked_append unmarked []
  rwa [List.append_nil, cutAt, List.append_nil] at uncut

/-- A text that was cut is its parts with the mark between them. -/
theorem eq_of_cutAt {mark : Char} {characters before after : List Char}
    (cut : cutAt mark characters = (before, some after)) :
    characters = before ++ mark :: after ∧ mark ∉ before := by
  induction characters generalizing before with
  | nil => cases cut
  | cons character rest inductionHypothesis =>
    rw [cutAt] at cut
    split at cut
    next same =>
      cases cut
      rw [same]
      exact ⟨rfl, List.not_mem_nil⟩
    next different =>
      obtain ⟨rfl, found⟩ := Prod.mk.inj cut
      obtain ⟨parts, unmarked⟩ := inductionHypothesis (Prod.ext rfl found)
      refine ⟨congrArg (character :: ·) parts, fun member => ?_⟩
      rcases List.mem_cons.mp member with same | later
      · exact different same.symm
      · exact unmarked later

/-- What stands behind the last place of a mark. -/
theorem afterLast_append {mark : Char} {segment : List Char} (unmarked : mark ∉ segment)
    (before : List Char) : afterLast mark (before ++ mark :: segment) = segment := by
  have kept : ∀ character ∈ segment.reverse, decide (character ≠ mark) = true := by
    intro character member
    rw [decide_eq_true_eq]
    rintro rfl
    exact unmarked (List.mem_reverse.mp member)
  rw [afterLast, List.reverse_append, List.reverse_cons, List.append_assoc, List.singleton_append,
    List.takeWhile_append_of_pos kept]
  simp

/-- What stands up to the last place of a mark, the mark included. -/
theorem throughLast_append {mark : Char} {segment : List Char} (unmarked : mark ∉ segment)
    (before : List Char) : throughLast mark (before ++ mark :: segment) = before ++ [mark] := by
  have parts := throughLast_append_afterLast mark (before ++ mark :: segment)
  rw [afterLast_append unmarked] at parts
  exact List.append_cancel_right (parts.trans (List.append_cons before mark segment))

/-- Only the second of two lists is trimmed at its end when the first one ends in a
character that stays. -/
theorem dropEndWhile_append {remove : Char → Bool} {first : List Char}
    (kept : ∀ character ∈ first.getLast?, remove character = false) (second : List Char) :
    dropEndWhile remove (first ++ second) = first ++ dropEndWhile remove second := by
  rw [dropEndWhile, List.reverse_append, List.dropWhile_append]
  split
  next nothing =>
    rw [dropEndWhile, List.isEmpty_iff.mp nothing, dropWhile_eq_self (by simpa using kept),
      List.reverse_reverse, List.reverse_nil, List.append_nil]
  next => rw [List.reverse_append, List.reverse_reverse, dropEndWhile]

/-- Trimming at the end leaves the start of a list. -/
theorem isPrefix_dropEndWhile (remove : Char → Bool) (characters : List Char) :
    dropEndWhile remove characters <+: characters := by
  rw [dropEndWhile, ← List.reverse_suffix, List.reverse_reverse]
  exact List.dropWhile_suffix remove

/-- What is left of a trimmed list was there before. -/
theorem mem_of_mem_trimWhile {remove : Char → Bool} {characters : List Char} {character : Char}
    (member : character ∈ trimWhile remove characters) : character ∈ characters := by
  rw [trimWhile, dropEndWhile, List.mem_reverse] at member
  have inside := (List.dropWhile_sublist remove).subset member
  exact (List.dropWhile_sublist remove).subset (List.mem_reverse.mp inside)

end Text

namespace Url

open Text

/-- Tabs and line ends, which an address may hold and which count for nothing. -/
def isIgnored (character : Char) : Bool :=
  character = '\t' || character = '\n' || character = '\r'

/-- An address with a scheme is its letters, a colon and the rest, and the same
letters are the scheme before any rest. -/
theorem splitScheme_eq {text rest : List Char} {scheme : String}
    (split : splitScheme text = (scheme, rest)) (named : scheme ≠ "") :
    ∃ first more, text = first :: more ++ ':' :: rest ∧ first.isAlpha = true ∧
      (∀ letter ∈ first :: more, isSchemeChar letter = true) ∧
      ∀ others, splitScheme (first :: more ++ ':' :: others) = (scheme, others) := by
  rw [splitScheme] at split
  split at split
  next first more after cut =>
    split at split
    next letters =>
      obtain ⟨rfl, rfl⟩ := Prod.mk.inj split
      obtain ⟨parts, noColon⟩ := eq_of_cutAt cut
      rw [Bool.and_eq_true, List.all_eq_true] at letters
      refine ⟨first, more, parts, letters.1, letters.2, fun others => ?_⟩
      rw [splitScheme, cutAt_append noColon]
      simp only
      rw [if_pos (by rw [Bool.and_eq_true, List.all_eq_true]; exact letters)]
    next => exact absurd (Prod.mk.inj split).1.symm named
  next => exact absurd (Prod.mk.inj split).1.symm named

/-- An address that starts with a letter loses its ignored characters alone. -/
theorem cleaned_cons {first : Char} (letter : first.isAlpha = true) (rest : List Char) :
    cleaned (first :: rest) = (first :: rest).filter (!isIgnored ·) := by
  have visible : decide (first.toNat ≤ 0x20) = false := by
    have eitherCase : (first.isUpper || first.isLower) = true := letter
    have low : 0x41 ≤ first.toNat := by
      rcases Bool.or_eq_true_iff.mp eitherCase with upper | lower
      · have between : 'A'.val ≤ first.val ∧ first.val ≤ 'Z'.val := of_decide_eq_true upper
        exact between.1
      · have between : (decide ('a'.val ≤ first.val) && decide (first.val ≤ 'z'.val)) = true := lower
        rw [Bool.and_eq_true, decide_eq_true_eq] at between
        exact Nat.le_trans (by decide) between.1
    rw [decide_eq_false_iff_not]
    omega
  rw [cleaned, List.dropWhile_cons, visible, if_neg Bool.false_ne_true]
  rfl

/-- The letters of a scheme are not ignored. -/
theorem isIgnored_of_isSchemeChar {letter : Char} (isLetter : isSchemeChar letter = true) :
    isIgnored letter = false := by
  rw [isIgnored, Bool.or_eq_false_iff, Bool.or_eq_false_iff, decide_eq_false_iff_not,
    decide_eq_false_iff_not, decide_eq_false_iff_not]
  refine ⟨⟨?_, ?_⟩, ?_⟩
  all_goals
    rintro rfl
    exact absurd isLetter (by decide)

/-- A character of a host that is neither outside ASCII nor one of the marks that
end it or stand around it. -/
def isPlainHost (character : Char) : Bool :=
  character.toNat < 0x80 && !(['/', '?', '#', '[', ']'].contains character)

/-- A plain host is well formed. -/
theorem isAuthority_of_plain {host : List Char} (plain : ∀ each ∈ host, isPlainHost each = true) :
    isAuthority host = true := by
  have noMark {mark : Char} (isMark : isPlainHost mark = false) : host.contains mark = false := by
    rw [Bool.eq_false_iff, ne_eq, List.contains_iff_mem]
    exact fun member => Bool.false_ne_true (isMark.symm.trans (plain mark member))
  have noStandIn : host.all (fun each => !inRanges markLikeRanges each.toNat) = true := by
    rw [List.all_eq_true]
    intro each member
    have ascii : each.toNat < 0x80 := by
      have isPlain := plain each member
      rw [isPlainHost, Bool.and_eq_true, decide_eq_true_eq] at isPlain
      exact isPlain.1
    rw [Bool.not_eq_true', ← Bool.not_eq_true, inRanges_iff]
    rintro ⟨range, isRange, low, -⟩
    have high : ∀ range ∈ markLikeRanges, 0x80 ≤ range.1 := by decide
    exact absurd (high range isRange) (by omega)
  rw [isAuthority, noMark (by decide), noMark (by decide), noStandIn]
  rfl

/-- A plain host ends at the first slash behind it. -/
theorem splitAuthority_of_plain {host : List Char} (plain : ∀ each ∈ host, isPlainHost each = true)
    (tail : List Char) :
    splitAuthority ('/' :: '/' :: (host ++ '/' :: tail)) = (host, '/' :: tail) := by
  have inside : ∀ each ∈ host, (!(decide (each = '/') || decide (each = '?') ||
      decide (each = '#'))) = true := by
    intro each member
    have isPlain := plain each member
    simp only [isPlainHost, Bool.and_eq_true, Bool.not_eq_true', ← Bool.not_eq_true,
      List.contains_iff_mem, List.mem_cons, not_or] at isPlain
    simp [isPlain.2.1, isPlain.2.2.1, isPlain.2.2.2.1]
  rw [splitAuthority, List.takeWhile_append_of_pos inside, List.dropWhile_append_of_pos inside]
  simp

/-- The path of an address at a plain host, ignored characters aside. -/
theorem path?_of_host {text : List Char} {scheme : String} {host tail : List Char}
    (split : splitScheme text = (scheme, '/' :: '/' :: (host ++ '/' :: tail)))
    (web : scheme ∈ ["http", "https"]) (plain : ∀ each ∈ host, isPlainHost each = true) :
    path? (String.ofList text) =
      some (withoutParameters (cutAt '?' (cutAt '#' ('/' :: tail.filter (!isIgnored ·))).1).1) := by
  have named : scheme ≠ "" := by
    rintro rfl
    exact absurd web (by decide)
  obtain ⟨first, more, rfl, letter, letters, again⟩ := splitScheme_eq split named
  have kept : (first :: more).filter (!isIgnored ·) = first :: more := by
    refine List.filter_eq_self.mpr fun each member => ?_
    rw [isIgnored_of_isSchemeChar (letters each member)]
    rfl
  have hostKept : ∀ each ∈ host.filter (!isIgnored ·), isPlainHost each = true := fun each member =>
    plain each (List.mem_filter.mp member).1
  have clean : cleaned (first :: more ++ ':' :: '/' :: '/' :: (host ++ '/' :: tail)) =
      first :: more ++ ':' :: '/' :: '/' ::
        (host.filter (!isIgnored ·) ++ '/' :: tail.filter (!isIgnored ·)) := by
    rw [List.cons_append, cleaned_cons letter, ← List.cons_append, List.filter_append, kept,
      List.filter_cons_of_pos (by decide), List.filter_cons_of_pos (by decide),
      List.filter_cons_of_pos (by decide), List.filter_append, List.filter_cons_of_pos (by decide)]
  rw [path?, String.toList_ofList, clean, again]
  simp only
  rw [splitAuthority_of_plain hostKept]
  simp only
  rw [if_pos (isAuthority_of_plain hostKept)]
  have parameters : parameterSchemes.contains scheme = true := by
    have all : ∀ each ∈ ["http", "https"], parameterSchemes.contains each = true := by decide
    exact all scheme web
  rw [if_pos parameters]

/-- A segment that can be found behind the last slash of an address as it was put
there. -/
structure IsPlainSegment (segment : List Char) : Prop where
  some_characters : segment ≠ []
  unmarked : ∀ mark ∈ ['/', ';', '?', '#'], mark ∉ segment
  kept : ∀ each ∈ segment, isIgnored each = false

/-- The last segment of a path without marks that ends in a plain one. -/
theorem lastSegment_of_path {before segment : List Char} (plain : IsPlainSegment segment) :
    afterLast '/' (dropEndWhile (· = '/') (withoutParameters (before ++ '/' :: segment))) =
      segment := by
  have noSlash := plain.unmarked '/' (by decide)
  have noParameter := plain.unmarked ';' (by decide)
  have path : withoutParameters (before ++ '/' :: segment) = before ++ '/' :: segment := by
    rw [withoutParameters, afterLast_append noSlash, throughLast_append noSlash,
      cutAt_of_not_mem noParameter, ← List.append_cons]
  have last : ∀ each ∈ (before ++ '/' :: segment).getLast?, decide (each = '/') = false := by
    intro each isLast
    obtain ⟨start, final, rfl⟩ := List.eq_nil_or_concat segment |>.resolve_left plain.some_characters
    rw [List.concat_eq_append, ← List.cons_append, ← List.append_assoc,
      List.getLast?_concat] at isLast
    obtain rfl := Option.some.inj isLast
    rw [decide_eq_false_iff_not]
    rintro rfl
    exact noSlash (by simp)
  have trimmed := dropEndWhile_append last []
  rw [List.append_nil] at trimmed
  rw [path, trimmed]
  exact (congrArg _ (List.append_nil _)).trans (afterLast_append noSlash before)

/-- The last segment of an address at a plain host, when its path ends in a plain
segment and holds no mark before it. -/
theorem lastSegment?_of_host {text : List Char} {scheme : String}
    {host tail before segment : List Char}
    (split : splitScheme text = (scheme, '/' :: '/' :: (host ++ '/' :: tail)))
    (web : scheme ∈ ["http", "https"]) (plain : ∀ each ∈ host, isPlainHost each = true)
    (parts : '/' :: tail = before ++ '/' :: segment)
    (unmarked : ∀ mark ∈ ['?', '#'], mark ∉ before) (whole : IsPlainSegment segment) :
    lastSegment? (String.ofList text) = some (String.ofList segment) := by
  have segmentKept : segment.filter (!isIgnored ·) = segment := by
    refine List.filter_eq_self.mpr fun each member => ?_
    rw [whole.kept each member]
    rfl
  have path : '/' :: tail.filter (!isIgnored ·) =
      before.filter (!isIgnored ·) ++ '/' :: segment := by
    rw [← List.filter_cons_of_pos (by decide), parts, List.filter_append,
      List.filter_cons_of_pos (by decide), segmentKept]
  have noMark {mark : Char} (isMark : mark ∈ ['?', '#']) :
      mark ∉ before.filter (!isIgnored ·) ++ '/' :: segment := by
    intro member
    rcases List.mem_append.mp member with inBefore | inSegment
    · exact unmarked mark isMark (List.mem_filter.mp inBefore).1
    · rcases List.mem_cons.mp inSegment with rfl | inside
      · exact absurd isMark (by decide)
      · exact whole.unmarked mark (by simp_all) inside
  rw [lastSegment?, path?_of_host split web plain, path, cutAt_of_not_mem (noMark (by decide)),
    cutAt_of_not_mem (noMark (by decide)), Option.map_some, lastSegment_of_path whole]

/-- Slashes are trimmed from a web address at the end of its path only; what stands
before its host gives the same scheme before anything else. -/
theorem trimWhile_of_host {text : List Char} {scheme : String} {host path : List Char}
    (split : splitScheme text = (scheme, '/' :: '/' :: (host ++ path)))
    (web : scheme ∈ ["http", "https"]) (some_host : host ≠ [])
    (plain : ∀ each ∈ host, isPlainHost each = true) :
    ∃ opening, text = opening ++ path ∧
      trimWhile (· = '/') text = opening ++ dropEndWhile (· = '/') path ∧
      ∀ tail, splitScheme (opening ++ tail) = (scheme, '/' :: '/' :: (host ++ tail)) := by
  have named : scheme ≠ "" := by
    rintro rfl
    exact absurd web (by decide)
  obtain ⟨first, more, parts, letter, -, again⟩ := splitScheme_eq split named
  have whole (tail : List Char) : first :: more ++ ':' :: '/' :: '/' :: host ++ tail =
      first :: more ++ ':' :: '/' :: '/' :: (host ++ tail) := by
    simp only [List.append_assoc, List.cons_append]
  have textIs : text = first :: more ++ ':' :: '/' :: '/' :: host ++ path :=
    parts.trans (whole path).symm
  refine ⟨first :: more ++ ':' :: '/' :: '/' :: host, textIs, ?_, fun tail => ?_⟩
  · have firstStays : ∀ each ∈ text.head?, decide (each = '/') = false := by
      rw [parts]
      rintro _ ⟨⟩
      rw [decide_eq_false_iff_not]
      rintro rfl
      exact absurd letter (by decide)
    have lastStays : ∀ each ∈ (first :: more ++ ':' :: '/' :: '/' :: host).getLast?,
        decide (each = '/') = false := by
      intro each isLast
      obtain ⟨start, last, rfl⟩ := (List.eq_nil_or_concat host).resolve_left some_host
      rw [List.concat_eq_append, List.append_cons, List.append_cons, List.append_cons,
        ← List.append_assoc, List.getLast?_concat] at isLast
      obtain rfl := Option.some.inj isLast
      rw [decide_eq_false_iff_not]
      rintro rfl
      exact absurd (plain '/' (by simp)) (by decide)
    rw [trimWhile, dropWhile_eq_self firstStays, textIs, dropEndWhile_append lastStays]
  · rw [whole tail, again]

/-- A path without the slashes at its end still opens with one when more follows. -/
theorem dropEndWhile_opens {path : List Char} (opens : path = [] ∨ path.head? = some '/')
    (rest : List Char) : ∃ tail, '/' :: tail = dropEndWhile (· = '/') path ++ '/' :: rest := by
  obtain ⟨after, isPrefix⟩ := isPrefix_dropEndWhile (· = '/') path
  cases kept : dropEndWhile (· = '/') path with
  | nil => exact ⟨rest, rfl⟩
  | cons character others =>
    have slash : character = '/' := by
      rw [kept, List.cons_append] at isPrefix
      rcases opens with none | some
      · cases none ▸ isPrefix
      · rw [← isPrefix] at some
        exact Option.some.inj some
    exact ⟨others ++ '/' :: rest, by rw [slash, List.cons_append]⟩

end Url

namespace Document

open Text Url

/-- A store at an address on the web: of a host in ASCII, without a query, a
fragment or brackets around the host. -/
structure Store.IsOnWeb (store : Store) : Prop where
  address : ∃ scheme ∈ ["http", "https"], ∃ host path,
    splitScheme store.url.toList = (scheme, '/' :: '/' :: (host ++ path)) ∧ host ≠ [] ∧
    (∀ each ∈ host, isPlainHost each = true) ∧ (path = [] ∨ path.head? = some '/')
  unmarked : ∀ mark ∈ ['?', '#'], mark ∉ store.url.toList ∧ mark ∉ store.contextPath.toList

variable {store : Store}

/-- The characters of an address. -/
theorem Store.toList_address (store : Store) (uuid : String) :
    (store.address uuid).toList = trimWhile (· = '/') store.url.toList ++
      '/' :: (trimWhile (· = '/') store.contextPath.toList ++
        '/' :: trimWhile (· = '/') uuid.toList) := by
  simp only [Store.address, addressPart, String.toList_append, String.toList_ofList,
    List.append_assoc]
  rfl

/-- The address of a document is at the host of the store, and its path ends in the
identity. -/
theorem Store.IsOnWeb.split (web : store.IsOnWeb) (uuid : String) :
    ∃ scheme ∈ ["http", "https"], ∃ host tail before,
      splitScheme (store.address uuid).toList = (scheme, '/' :: '/' :: (host ++ '/' :: tail)) ∧
      (∀ each ∈ host, isPlainHost each = true) ∧
      '/' :: tail = before ++ '/' :: trimWhile (· = '/') uuid.toList ∧
      ∀ mark ∈ ['?', '#'], mark ∉ before := by
  obtain ⟨scheme, isWeb, host, path, split, some_host, plain, opens⟩ := web.address
  obtain ⟨opening, text, trimmed, again⟩ := trimWhile_of_host split isWeb some_host plain
  let before := dropEndWhile (· = '/') path ++ '/' :: trimWhile (· = '/') store.contextPath.toList
  have whole : before ++ '/' :: trimWhile (· = '/') uuid.toList =
      dropEndWhile (· = '/') path ++ '/' :: (trimWhile (· = '/') store.contextPath.toList ++
        '/' :: trimWhile (· = '/') uuid.toList) := by
    simp only [before, List.append_assoc, List.cons_append]
  obtain ⟨tail, isTail⟩ := dropEndWhile_opens opens
    (trimWhile (· = '/') store.contextPath.toList ++ '/' :: trimWhile (· = '/') uuid.toList)
  refine ⟨scheme, isWeb, host, tail, before, ?_, plain, isTail.trans whole.symm, ?_⟩
  · rw [isTail, store.toList_address, trimmed, ← again, List.append_assoc]
  · intro mark isMark member
    obtain ⟨notInUrl, notInPath⟩ := web.unmarked mark isMark
    rcases List.mem_append.mp member with inKept | inRest
    · have inPath : mark ∈ path := (isPrefix_dropEndWhile (· = '/') path).subset inKept
      exact notInUrl (text ▸ List.mem_append_right _ inPath)
    · rcases List.mem_cons.mp inRest with rfl | inContext
      · exact absurd isMark (by decide)
      · exact notInPath (mem_of_mem_trimWhile inContext)

/-- The address of a document always has a last segment. -/
theorem Store.IsOnWeb.segment (web : store.IsOnWeb) (uuid : String) :
    ∃ segment, lastSegment? (store.address uuid) = some segment := by
  obtain ⟨scheme, isWeb, host, tail, before, split, plain, -, -⟩ := web.split uuid
  have path := path?_of_host split isWeb plain
  rw [String.ofList_toList] at path
  exact ⟨_, by rw [lastSegment?, path, Option.map_some]⟩

/-- The last segment of the address of a document is its identity, when that is a
plain segment. -/
theorem Store.IsOnWeb.segment_eq (web : store.IsOnWeb) {uuid : String}
    (plainUuid : IsPlainSegment uuid.toList) :
    lastSegment? (store.address uuid) = some uuid := by
  obtain ⟨scheme, isWeb, host, tail, before, split, plain, parts, unmarked⟩ := web.split uuid
  have noSlash : ∀ each ∈ uuid.toList, decide (each = '/') = false := by
    intro each member
    rw [decide_eq_false_iff_not]
    rintro rfl
    exact plainUuid.unmarked '/' (by decide) member
  have untrimmed : trimWhile (· = '/') uuid.toList = uuid.toList :=
    trimWhile_eq_self (fun each first => noSlash each (List.mem_of_mem_head? first))
      fun each last => noSlash each (List.mem_of_mem_getLast? last)
  rw [untrimmed] at parts
  have found := lastSegment?_of_host split isWeb plain parts unmarked plainUuid
  rwa [String.ofList_toList, String.ofList_toList] at found

/-- The moments of a document exist. -/
def Dated (document : Document) (fallback : Option Time.Moment) : Prop :=
  (∀ moment ∈ document.scannedAt, moment.isValid = true) ∧
    ∀ moment ∈ document.deliveryDate <|> fallback, moment.isValid = true

/-- A moment as case data holds it: on its clock, to the millisecond. -/
def onClock (moment : Time.Moment) : Time.Moment :=
  moment.withoutOffset.cutToMillisecond

/-- A moment that was written to case data is the one that is stored there. -/
theorem storedMoment_writeMoment {moment : Option Time.Moment}
    (valid : ∀ each ∈ moment, each.isValid = true) :
    OpenData.storedMoment (OpenData.writeMoment moment) = .ok (moment.map onClock) := by
  cases moment with
  | none => rfl
  | some moment =>
    have filled : moment.localText.isEmpty = false := by
      rw [Bool.eq_false_iff, ne_eq, String.isEmpty_iff, ← String.toList_eq_nil_iff,
        Time.Moment.localText, String.toList_ofList]
      exact List.cons_ne_nil _ _
    rw [OpenData.writeMoment, OpenData.storedMoment, filled,
      Time.readIsoText_localText (valid moment rfl)]
    rfl

/-- The document of an element that was written: the document itself with its
moments as case data holds them, under the identity that its address names. -/
theorem ofElement_toElement (web : store.IsOnWeb) {fallback : Option Time.Moment}
    {document : Document} {element : Json} (dated : document.Dated fallback)
    (written : toElement store fallback document = .ok element) :
    ∃ uuid segment, document.uuid = some uuid ∧
      lastSegment? (store.address uuid) = some segment ∧
      ofElement element = .ok { document with
        uuid := some segment
        scannedAt := document.scannedAt.map onClock
        deliveryDate := (document.deliveryDate <|> fallback).map onClock } := by
  unfold toElement at written
  split at written
  · cases written
  next uuid named =>
    obtain ⟨segment, found⟩ := web.segment uuid
    refine ⟨uuid, segment, named, found, ?_⟩
    obtain rfl := Except.ok.inj written
    have scanned := storedMoment_writeMoment dated.1
    have delivered := storedMoment_writeMoment dated.2
    have filled : (Json.str (store.address uuid)).isVacant = false := by
      rw [Json.isVacant, Bool.eq_false_iff, ne_eq, String.isEmpty_iff, ← String.toList_eq_nil_iff,
        store.toList_address]
      simp
    have identity : uuidOfAddress (.str (store.address uuid)) = .ok (some segment) := by
      rw [uuidOfAddress, filled, if_neg Bool.false_ne_true]
      simp only [found]
    have number : (Json.ofText? document.controlNumber).text? = document.controlNumber := by
      cases document.controlNumber <;> rfl
    rw [ofElement, OpenData.elementValue_element]
    change (do
      let uuid ← uuidOfAddress (.str (store.address uuid))
      let scannedAt ← OpenData.storedMoment (OpenData.writeMoment document.scannedAt)
      let deliveryDate ← OpenData.storedMoment
        (OpenData.writeMoment (document.deliveryDate <|> fallback))
      return ({ uuid, controlNumber := (Json.ofText? document.controlNumber).text?,
                fileName := document.fileName, type := document.type, subtype := document.subtype,
                scannedAt, deliveryDate } : Document)) = _
    rw [identity, scanned, delivered, number]
    rfl

/-- Documents survive the collection of a case. Where the store is on the web, a document with a
plain identity is written to an element, and what is read from the element is the document again,
with its moments as case data holds them and the fallback for a missing delivery date. Neither the
writing nor the reading fails. -/
theorem document_survives_collection {store : Store} {fallback : Option Time.Moment}
    {document : Document} {uuid : String} (web : store.IsOnWeb) (named : document.uuid = some uuid)
    (plain : IsPlainSegment uuid.toList) (dated : document.Dated fallback) :
    toElement store fallback document >>= ofElement = .ok { document with
      scannedAt := document.scannedAt.map onClock
      deliveryDate := (document.deliveryDate <|> fallback).map onClock } := by
  obtain ⟨element, written⟩ : ∃ element, toElement store fallback document = .ok element := by
    rw [toElement, named]
    exact ⟨_, rfl⟩
  obtain ⟨address, segment, isNamed, found, isRead⟩ := ofElement_toElement web dated written
  have same : segment = uuid := by
    obtain rfl := Option.some.inj (named.symm.trans isNamed)
    exact Option.some.inj (found.symm.trans (web.segment_eq plain))
  rw [same, ← named] at isRead
  rw [written]
  exact isRead

/-- A store whose address has a port, a parameter and slashes at its ends. -/
def webStore : Store where
  url := "HTTPS://documents:8443/api;v=1//"
  contextPath := "/documents/"

/-- A document with a space and a percent sign in its identity, scanned where the clock is an hour
ahead. -/
def oddDocument : Document where
  uuid := some "a b%2F&c"
  controlNumber := some "1"
  scannedAt := some ⟨⟨2020, 2, 29⟩, ⟨23, 59, 58, 123456⟩, some 3600000000⟩

/-- It survives in a collection there, delivered with its envelope. -/
theorem odd_document_survives :
    toElement webStore (some ⟨⟨2020, 3, 1⟩, ⟨8, 0, 0, 999⟩, none⟩) oddDocument >>= ofElement =
      .ok { oddDocument with
        scannedAt := some ⟨⟨2020, 2, 29⟩, ⟨23, 59, 58, 123000⟩, none⟩
        deliveryDate := some ⟨⟨2020, 3, 1⟩, ⟨8, 0, 0, 0⟩, none⟩ } := by
  have web : webStore.IsOnWeb := by
    constructor
    · have plain : "documents:8443".toList.all isPlainHost = true := by decide +kernel
      exact ⟨"https", by decide, "documents:8443".toList, "/api;v=1//".toList, by decide +kernel,
        by decide +kernel, List.all_eq_true.mp plain, .inr (by decide +kernel)⟩
    · rw [List.forall_mem_cons, List.forall_mem_singleton]
      decide +kernel
  have plain : IsPlainSegment "a b%2F&c".toList := by
    constructor
    · decide +kernel
    · rw [List.forall_mem_cons, List.forall_mem_cons, List.forall_mem_cons,
        List.forall_mem_singleton]
      decide +kernel
    · have kept : "a b%2F&c".toList.all (!isIgnored ·) = true := by decide +kernel
      intro each member
      simpa using List.all_eq_true.mp kept each member
  have dated : oddDocument.Dated (some ⟨⟨2020, 3, 1⟩, ⟨8, 0, 0, 999⟩, none⟩) :=
    ⟨by rintro _ ⟨⟩; decide, by rintro _ ⟨⟩; decide⟩
  exact document_survives_collection web rfl plain dated

end Document
end Mailroom
