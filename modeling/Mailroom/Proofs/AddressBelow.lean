import Mailroom.Proofs.DocumentAddress
import Mailroom.Proofs.PathSegments

/-!
# What is read below an address

An address that a path is added to is read as before up to there: it keeps its scheme and its
authority, and its segments come first. A question mark in the path that is added starts a query and
a hash sign a fragment, and what is left is followed from the segments of the address on, so that
dots can lead up into them.
-/

namespace Mailroom

namespace Text

variable {mark : Char}

/-- Nothing was cut off where there is no mark. -/
theorem cutAt_eq_none {text : List Char} : (cutAt mark text).2 = none ↔ mark ∉ text := by
  constructor
  · intro uncut marked
    obtain ⟨before, after, rfl, unmarked⟩ := List.eq_append_cons_of_mem marked
    rw [cutAt_append unmarked] at uncut
    cases uncut
  · intro unmarked
    rw [cutAt_of_not_mem unmarked]

/-- What ends before a character that it does not go past ends there whatever comes behind. -/
theorem takeWhile_append_stop {goesOn : Char → Bool} {stop : Char} (stops : goesOn stop = false)
    (text more : List Char) :
    (text ++ stop :: more).takeWhile goesOn = text.takeWhile goesOn := by
  induction text with
  | nil => rw [List.nil_append, List.takeWhile_cons, stops, List.takeWhile_nil]; rfl
  | cons character rest inductionHypothesis =>
    rw [List.cons_append, List.takeWhile_cons, List.takeWhile_cons, inductionHypothesis]

/-- The rest goes on behind it. -/
theorem dropWhile_append_stop {goesOn : Char → Bool} {stop : Char} (stops : goesOn stop = false)
    (text more : List Char) :
    (text ++ stop :: more).dropWhile goesOn = text.dropWhile goesOn ++ stop :: more := by
  induction text with
  | nil => rw [List.nil_append, List.dropWhile_cons, stops, List.dropWhile_nil]; rfl
  | cons character rest inductionHypothesis =>
    rw [List.cons_append, List.dropWhile_cons, List.dropWhile_cons, inductionHypothesis]
    split <;> rfl

end Text

namespace Url

open Text

/-- Segments joined to a path. -/
abbrev joined (segments : List (List Char)) : List Char := ['/'].intercalate segments

/-- An address is taken apart from its start to its end. -/
theorem Parts.ofChars_eq (text : List Char) :
    Parts.ofChars text =
      let (authority, rest) := splitAuthority (cutScheme text).2
      { scheme := (cutScheme text).1
        authority
        path := (cutAt '?' (cutAt '#' rest).1).1
        query := (cutAt '?' (cutAt '#' rest).1).2
        fragment := (cutAt '#' rest).2 } := by
  rfl

/-- A scheme is the same whatever stands behind. -/
theorem cutScheme_append {text : List Char} (named : (cutScheme text).1 ≠ []) (more : List Char) :
    cutScheme (text ++ more) = ((cutScheme text).1, (cutScheme text).2 ++ more) := by
  unfold cutScheme at named ⊢
  split at named
  next first letters rest cut =>
    obtain ⟨rfl, unmarked⟩ := eq_of_cutAt cut
    have cutLater : cutAt ':' (first :: letters ++ ':' :: rest ++ more) =
        (first :: letters, some (rest ++ more)) := by
      rw [List.append_assoc]
      exact cutAt_append unmarked _
    rw [cutLater]
    dsimp only
    split <;> rfl
  next => exact absurd rfl named
  next => exact absurd rfl named

/-- So is an authority that ends before a slash. -/
theorem splitAuthority_append {text : List Char} (named : (splitAuthority text).1 ≠ [])
    (more : List Char) :
    splitAuthority (text ++ '/' :: more) =
      ((splitAuthority text).1, (splitAuthority text).2 ++ '/' :: more) := by
  unfold splitAuthority at named
  split at named
  case h_1 rest =>
    simp only [splitAuthority, List.cons_append]
    rw [takeWhile_append_stop rfl, dropWhile_append_stop rfl]
  case h_2 => exact absurd rfl named

/-- What stands below an address is its path, query and fragment from there on, if the address
itself ends with its path. -/
theorem Parts.ofChars_below {text : List Char} (named : (ofChars text).scheme ≠ [])
    (placed : (ofChars text).authority ≠ []) (noQuery : (ofChars text).query = none)
    (noFragment : (ofChars text).fragment = none) (below : List Char) :
    ofChars (text ++ '/' :: below) =
      { ofChars text with
        path := (ofChars text).path ++ '/' :: (cutAt '?' (cutAt '#' below).1).1
        query := (cutAt '?' (cutAt '#' below).1).2
        fragment := (cutAt '#' below).2 } := by
  rw [ofChars_eq] at named placed noQuery noFragment
  rw [ofChars_eq, ofChars_eq, cutScheme_append named, splitAuthority_append placed]
  dsimp only at noQuery noFragment ⊢
  generalize (splitAuthority (cutScheme text).2).2 = path at noQuery noFragment
  have noHash := cutAt_eq_none.mp noFragment
  rw [cutAt_of_not_mem noHash] at noQuery ⊢
  have noMark := cutAt_eq_none.mp noQuery
  have beyond {mark : Char} (unmarked : mark ∉ path) (noSlash : mark ≠ '/') (rest : List Char) :
      cutAt mark (path ++ '/' :: rest) =
        (path ++ '/' :: (cutAt mark rest).1, (cutAt mark rest).2) := by
    rw [cutAt_unmarked_append unmarked, cutAt, if_neg noSlash.symm]
  rw [beyond noHash (by decide), cutAt_of_not_mem noMark]
  dsimp only
  rw [beyond noMark (by decide)]

/-- What an address is made of when its parts can be written. -/
structure Written (parts : Parts) (target : Target) : Prop where
  authority : Authority.read parts.scheme parts.authority = .ok target.authority
  scheme : target.scheme = parts.scheme.map Char.toLower
  allowed : isPathAllowed (!parts.scheme.isEmpty) (!target.authority.isEmpty) parts.path = true
  path : target.path = escaped isPathChar
    (if !parts.scheme.isEmpty || !target.authority.isEmpty then withoutDots parts.path
      else parts.path)
  query : target.query = parts.query.map (escaped isQueryChar)
  fragment : target.fragment = parts.fragment.map (escaped isFragmentChar)

/-- A part that can be written is escaped. -/
theorem eq_escaped {safe : Char → Bool} {part result : List Char}
    (written : escape safe part = .ok result) : result = escaped safe part := by
  unfold escape at written
  split at written
  · cases written
  · exact (Except.ok.inj written).symm

/-- So is one that may be missing. -/
theorem eq_map_escaped {safe : Char → Bool} {part result : Option (List Char)}
    (written : part.mapM (escape safe) = .ok result) : result = part.map (escaped safe) := by
  cases part with
  | none => exact (Except.ok.inj written).symm
  | some text =>
    obtain ⟨value, isWritten, same⟩ := Flow.bind_eq_ok.mp written
    rw [← Except.ok.inj same, eq_escaped isWritten]
    rfl

/-- An address is what its parts make it. -/
theorem written_of_ofParts {parts : Parts} {target : Target}
    (made : Target.ofParts parts = .ok target) : Written parts target := by
  unfold Target.ofParts at made
  obtain ⟨authority, isRead, made⟩ := Flow.bind_eq_ok.mp made
  dsimp only at made
  split at made
  case isFalse => cases made
  case isTrue allowed =>
    obtain ⟨path, isPath, made⟩ := Flow.bind_eq_ok.mp made
    obtain ⟨query, isQuery, made⟩ := Flow.bind_eq_ok.mp made
    obtain ⟨fragment, isFragment, made⟩ := Flow.bind_eq_ok.mp made
    obtain rfl := Except.ok.inj made
    exact {
      authority := isRead
      scheme := rfl
      allowed
      path := eq_escaped isPath
      query := eq_map_escaped isQuery
      fragment := eq_map_escaped isFragment }

/-- An address that is read is what its parts make it. -/
theorem written_of_read {address : String} {target : Target}
    (isRead : Target.read address = .ok target) :
    Written (Parts.ofChars address.toList) target := by
  unfold Target.read at isRead
  dsimp only at isRead
  split at isRead
  · cases isRead
  · exact written_of_ofParts isRead

/-- The address of a store: it names a scheme and a host, and ends with its path. -/
structure IsBase (address : String) (base : Target) : Prop where
  isRead : Target.read address = .ok base
  isAbsolute : base.isAbsolute = true
  noQuery : base.query = none
  noFragment : base.fragment = none

/-- What is asked for below the address of a store: the dot segments are followed from the segments
of the store on. -/
structure LiesBelow (base target : Target) (kept : List (List Char)) (below : List Char) :
    Prop where
  rooted : kept.head? = some []
  whole : ∀ segment ∈ kept, '/' ∉ segment
  basePath : base.path = escaped isPathChar (joined kept)
  scheme : target.scheme = base.scheme
  authority : target.authority = base.authority
  path : target.path = escaped isPathChar
    (joined (followDots kept (splitOn '/' (cutAt '?' (cutAt '#' below).1).1)))
  query : target.query = (cutAt '?' (cutAt '#' below).1).2.map (escaped isQueryChar)
  fragment : target.fragment = (cutAt '#' below).2.map (escaped isFragmentChar)

/-- No authority names no host. -/
theorem host_of_read_nil {scheme : List Char} {authority : Authority}
    (isRead : Authority.read scheme [] = .ok authority) : authority.host = [] := by
  have nothing : Authority.read scheme [] = .ok {} := rfl
  rw [nothing] at isRead
  rw [← Except.ok.inj isRead]

/-- A path behind an authority starts at the root. -/
theorem rooted_of_allowed {hasScheme : Bool} {path : List Char}
    (allowed : isPathAllowed hasScheme true path = true) :
    (followDots [] (splitOn '/' path)).head? = some [] := by
  have begins : ∃ others, splitOn '/' path = [] :: others := by
    cases path with
    | nil => exact ⟨[], rfl⟩
    | cons first rest =>
      have isSlash : first = '/' := by simpa [isPathAllowed] using allowed
      exact ⟨splitOn '/' rest, by rw [splitOn, if_pos isSlash]⟩
  obtain ⟨others, same⟩ := begins
  rw [same, followDots, if_neg (by decide), if_neg (by decide)]
  exact followDots_rooted rfl others

/-- What is read below the address of a store lies below it. -/
theorem IsBase.below {address : String} {base target : Target} (isBase : IsBase address base)
    {below : List Char}
    (isRead : Target.read (address ++ String.ofList ('/' :: below)) = .ok target) :
    ∃ kept, LiesBelow base target kept below := by
  have ofBase := written_of_read isBase.isRead
  have ofTarget := written_of_read isRead
  have absolute := isBase.isAbsolute
  rw [Target.isAbsolute, Bool.and_eq_true, Bool.not_eq_true', Bool.not_eq_true',
    List.isEmpty_eq_false_iff, List.isEmpty_eq_false_iff] at absolute
  obtain ⟨named, housed⟩ := absolute
  generalize baseParts : Parts.ofChars address.toList = parts at ofBase
  have partsNamed : parts.scheme ≠ [] := by
    rintro none
    rw [ofBase.scheme, none] at named
    exact named rfl
  have partsPlaced : parts.authority ≠ [] := by
    intro none
    have isRead := ofBase.authority
    rw [none] at isRead
    exact housed (host_of_read_nil isRead)
  have bareQuery : parts.query = none := Option.map_eq_none_iff.mp (ofBase.query ▸ isBase.noQuery)
  have bareFragment : parts.fragment = none :=
    Option.map_eq_none_iff.mp (ofBase.fragment ▸ isBase.noFragment)
  have added : Parts.ofChars (address.toList ++ '/' :: below) =
      { parts with
        path := parts.path ++ '/' :: (cutAt '?' (cutAt '#' below).1).1
        query := (cutAt '?' (cutAt '#' below).1).2
        fragment := (cutAt '#' below).2 } := by
    subst baseParts
    exact Parts.ofChars_below partsNamed partsPlaced bareQuery bareFragment below
  rw [String.toList_append, String.toList_ofList, added] at ofTarget
  have sameAuthority : target.authority = base.authority :=
    Except.ok.inj (ofTarget.authority.symm.trans ofBase.authority)
  have hasAuthority : base.authority.isEmpty = false := by
    rw [Authority.isEmpty, List.isEmpty_eq_false_iff.mpr housed, Bool.and_false, Bool.false_and]
  have hasScheme : parts.scheme.isEmpty = false := List.isEmpty_eq_false_iff.mpr partsNamed
  have allowed := ofBase.allowed
  rw [hasAuthority] at allowed
  refine ⟨followDots [] (splitOn '/' parts.path), ?_, ?_, ?_, ?_, sameAuthority, ?_, ofTarget.query,
    ofTarget.fragment⟩
  · exact rooted_of_allowed allowed
  · intro segment member
    rcases mem_of_mem_followDots member with impossible | isPart
    · cases impossible
    · exact (infix_of_mem_splitOn isPart).2
  · have path := ofBase.path
    rw [hasScheme] at path
    exact path
  · rw [ofTarget.scheme, ofBase.scheme]
  · have path := ofTarget.path
    rw [hasScheme] at path
    refine path.trans (congrArg (escaped isPathChar) ?_)
    change joined (followDots [] (splitOn '/' (parts.path ++ '/' :: _))) = _
    rw [splitOn_eq, List.splitOn_append_cons_self, followDots_append, splitOn_eq, splitOn_eq]

/-- A segment is joined to the segments behind it by a slash. -/
theorem joined_cons (segment : List Char) {rest : List (List Char)} (someRest : rest ≠ []) :
    joined (segment :: rest) = segment ++ '/' :: joined rest := by
  rw [joined, List.intercalate_cons_of_ne_nil someRest, List.append_assoc]
  rfl

/-- So are the segments of one path to those of another. -/
theorem joined_append {first second : List (List Char)} (someFirst : first ≠ [])
    (someSecond : second ≠ []) :
    joined (first ++ second) = joined first ++ '/' :: joined second := by
  induction first with
  | nil => exact absurd rfl someFirst
  | cons segment rest inductionHypothesis =>
    by_cases last : rest = []
    · subst last
      rw [List.singleton_append, joined_cons segment someSecond, joined, joined,
        List.intercalate_singleton]
    · have someRest : rest ++ second ≠ [] := List.append_ne_nil_of_left_ne_nil last second
      rw [List.cons_append, joined_cons segment someRest, inductionHypothesis last,
        joined_cons segment last, List.append_assoc, List.cons_append]

end Url
end Mailroom
