import Mailroom.Http.CaseStore
import Mailroom.Proofs.AddressBelow
import Mailroom.Proofs.CallOrder
import Mailroom.Proofs.OfficeWithPayments
import Mailroom.Routing.CaseFinding

/-!
# The address of a case that is looked up

The case that an envelope names is asked for below the address of the case store, in a segment of
its own behind the path of cases. The reference comes from paper and goes into the address as it
stands. It is a segment that stands for itself unless it holds a slash, a question mark, a hash sign
or an escape, or consists of one dot or two: then another resource is asked for, with the token of
the system user.
-/

namespace Mailroom

namespace Url

open Text

/-- The path of cases. -/
def casesSegment : List Char := "cases".toList

/-- A text without the marks that end a segment of a path. -/
def Unmarked (text : List Char) : Prop := '/' ∉ text ∧ '?' ∉ text ∧ '#' ∉ text

/-- Whether a text holds one of them can be told. -/
instance (text : List Char) : Decidable (Unmarked text) :=
  inferInstanceAs (Decidable ('/' ∉ text ∧ '?' ∉ text ∧ '#' ∉ text))

/-- A reference that is one segment of a path and stands for itself there. -/
structure IsOneSegment (reference : List Char) : Prop where
  unmarked : Unmarked reference
  noDot : reference ≠ ['.']
  noDots : reference ≠ ['.', '.']
  noEscape : ¬ HoldsEscape reference

/-- An address that has one segment for a reference behind the path of cases, and nothing behind
that: the segment says the reference and nothing else. -/
def NamesCase (root url : String) (reference : List Char) : Prop :=
  ∃ segment : List Char, url = root ++ "/cases/" ++ String.ofList segment ∧ Unmarked segment ∧
    percentDecoded segment = utf8Octets reference

/-- The segment can only be what is left of the address. -/
theorem namesCase_iff {root url : String} {reference : List Char} :
    NamesCase root url reference ↔
      let segment := url.toList.drop (root ++ "/cases/").length
      url = root ++ "/cases/" ++ String.ofList segment ∧ Unmarked segment ∧
        percentDecoded segment = utf8Octets reference := by
  constructor
  · rintro ⟨segment, rfl, unmarked, decoded⟩
    have left : (root ++ "/cases/" ++ String.ofList segment).toList.drop
        (root ++ "/cases/").length = segment := by
      rw [String.toList_append, String.toList_ofList, ← String.length_toList, List.drop_left]
    dsimp only
    rw [left]
    exact ⟨rfl, unmarked, decoded⟩
  · exact fun named => ⟨_, named⟩

/-- So whether an address has it can be told. -/
instance (root url : String) (reference : List Char) : Decidable (NamesCase root url reference) :=
  decidable_of_iff _ namesCase_iff.symm

section Reference

variable {address : String} {base target : Target} {kept : List (List Char)}
  {reference : List Char}

/-- Two addresses of one host are told apart behind it. -/
theorem LiesBelow.text_eq_iff {below : List Char} (lies : LiesBelow base target kept below)
    (isBase : IsBase address base) (more : List Char) :
    target.text = base.text ++ String.ofList more ↔
      target.path ++ Target.marked '?' target.query ++ Target.marked '#' target.fragment =
        base.path ++ more := by
  rw [← String.toList_inj, String.toList_append, Target.text, Target.text, lies.scheme,
    lies.authority, isBase.noQuery, isBase.noFragment, String.toList_ofList, String.toList_ofList,
    String.toList_ofList]
  simp only [Target.marked, List.append_assoc, List.append_nil, List.append_cancel_left_eq]

/-- The parts of an address below the path of cases are those of the reference. -/
theorem LiesBelow.parts_eq (lies : LiesBelow base target kept (casesSegment ++ '/' :: reference)) :
    target.path = escaped isPathChar (joined (followDots (kept ++ [casesSegment])
        (splitOn '/' (cutAt '?' (cutAt '#' reference).1).1))) ∧
      target.query = (cutAt '?' (cutAt '#' reference).1).2.map (escaped isQueryChar) ∧
      target.fragment = (cutAt '#' reference).2.map (escaped isFragmentChar) := by
  have noHash : '#' ∉ casesSegment ++ ['/'] := by decide
  have noMark : '?' ∉ casesSegment ++ ['/'] := by decide
  have ofPath := lies.path
  have ofQuery := lies.query
  have ofFragment := lies.fragment
  rw [List.append_cons, cutAt_unmarked_append noHash] at ofPath ofQuery ofFragment
  dsimp only at ofPath ofQuery ofFragment
  rw [cutAt_unmarked_append noMark] at ofPath ofQuery
  refine ⟨?_, ofQuery, ofFragment⟩
  rw [ofPath, ← List.append_cons, splitOn_eq, List.splitOn_append_cons_self_of_not_mem (by decide),
    followDots, if_neg (by decide), if_neg (by decide), splitOn_eq]

/-- A reference that is one segment stands behind the path of cases, escaped. -/
theorem LiesBelow.namesCase (isBase : IsBase address base)
    (lies : LiesBelow base target kept (casesSegment ++ '/' :: reference))
    (isSegment : IsOneSegment reference) : NamesCase base.text target.text reference := by
  obtain ⟨noSlash, noMark, noHash⟩ := isSegment.unmarked
  have someKept : kept ≠ [] := by
    rintro rfl
    cases lies.rooted
  obtain ⟨ofPath, ofQuery, ofFragment⟩ := lies.parts_eq
  rw [cutAt_of_not_mem noHash, cutAt_of_not_mem noMark] at ofPath ofQuery
  rw [cutAt_of_not_mem noHash] at ofFragment
  have onePart : splitOn '/' reference = [reference] := by
    rw [splitOn_eq, List.splitOn_eq_singleton noSlash]
  have path : joined (kept ++ [casesSegment] ++ [reference]) =
      joined kept ++ ("/cases/".toList ++ reference) := by
    have someMore : [casesSegment] ++ [reference] ≠ [] := List.cons_ne_nil _ _
    rw [List.append_assoc, joined_append someKept someMore, List.singleton_append,
      joined_cons _ (List.cons_ne_nil _ _), joined, joined, List.intercalate_singleton]
    rfl
  rw [onePart, followDots, if_neg isSegment.noDot, if_neg isSegment.noDots, followDots, path,
    escaped, List.flatMap_append, List.flatMap_append] at ofPath
  have asItIs : "/cases/".toList.flatMap (percentChar isPathChar) = "/cases/".toList := by decide
  refine ⟨escaped isPathChar reference, ?_, ?_, ?_⟩
  · rw [String.append_assoc, ← String.ofList_toList (s := "/cases/"), ← String.ofList_append,
      lies.text_eq_iff isBase, ofPath, ofQuery, ofFragment, lies.basePath, asItIs]
    simp only [Option.map_none, Target.marked, List.append_nil]
  · have unmarked {mark : Char} (isMark : IsMark mark) (absent : mark ∉ reference) :
        mark ∉ escaped isPathChar reference :=
      fun member => absent (mem_of_mem_escaped isMark member).1
    exact ⟨unmarked (by decide) noSlash, unmarked (by decide) noMark,
      unmarked (by decide) noHash⟩
  · rw [percentDecoded_escaped keepsEscapes_isPathChar]
    exact (percentDecoded_eq_utf8Octets_iff reference).mpr isSegment.noEscape

/-- Following one dot or two leads no deeper. -/
theorem length_followDots_dots (kept : List (List Char)) {segment : List Char}
    (dots : segment = ['.'] ∨ segment = ['.', '.']) :
    (followDots kept [segment]).length ≤ kept.length := by
  rcases dots with rfl | rfl
  · rw [followDots, if_pos rfl, followDots]
  · rw [followDots, if_neg (by decide), if_pos rfl, followDots]
    split
    · exact Nat.le_refl _
    · exact (List.dropLast_sublist kept).length_le

/-- The segments of a base with two segments behind it. -/
theorem map_escaped_eq {segments : List (List Char)} {segment : List Char}
    (rooted : kept.head? = some []) (rootedToo : segments.head? = some [])
    (whole : ∀ segment ∈ kept, '/' ∉ segment) (wholeToo : ∀ segment ∈ segments, '/' ∉ segment)
    (noSlash : '/' ∉ segment)
    (same : escaped isPathChar (joined segments) =
      escaped isPathChar (joined kept) ++ ("/cases/".toList ++ segment)) :
    segments.map (escaped isPathChar) =
      kept.map (escaped isPathChar) ++ [casesSegment, segment] := by
  have parts {list : List (List Char)} (rooted : list.head? = some [])
      (whole : ∀ segment ∈ list, '/' ∉ segment) :
      splitOn '/' (escaped isPathChar (joined list)) = list.map (escaped isPathChar) := by
    have someList : list ≠ [] := by
      rintro rfl
      cases rooted
    rw [splitOn_escaped (by decide) (by decide), splitOn_eq,
      List.splitOn_intercalate '/' whole someList]
  have behind : "/cases/".toList ++ segment = '/' :: (casesSegment ++ '/' :: segment) := rfl
  have split := congrArg (splitOn '/') same
  rw [parts rootedToo wholeToo, behind, splitOn_eq, List.splitOn_append_cons_self,
    List.splitOn_append_cons_self_of_not_mem (by decide), List.splitOn_eq_singleton noSlash,
    ← splitOn_eq, parts rooted whole] at split
  exact split

/-- A mark that is escaped in paths stands in none, nor in what is put behind it without one. -/
theorem not_mem_path {mark : Char} (isMark : IsMark mark) (excluded : isPathChar mark = false)
    {between segment : List Char} (notBetween : mark ∉ between) (notBehind : mark ∉ segment)
    (path : List Char) : mark ∉ escaped isPathChar path ++ (between ++ segment) := by
  rw [List.mem_append, List.mem_append]
  rintro (inPath | isBetween | isBehind)
  · exact Bool.false_ne_true (excluded.symm.trans (mem_of_mem_escaped isMark inPath).2)
  · exact notBetween isBetween
  · exact notBehind isBehind

/-- A reference that is named by one segment is all in the path. -/
theorem LiesBelow.path_of_namesCase (isBase : IsBase address base)
    (lies : LiesBelow base target kept (casesSegment ++ '/' :: reference))
    (names : NamesCase base.text target.text reference) :
    '?' ∉ reference ∧ '#' ∉ reference ∧ ∃ segment, '/' ∉ segment ∧
      percentDecoded segment = utf8Octets reference ∧
      escaped isPathChar (joined (followDots (kept ++ [casesSegment]) (splitOn '/' reference))) =
        escaped isPathChar (joined kept) ++ ("/cases/".toList ++ segment) := by
  obtain ⟨segment, sameText, ⟨noSlash, unasked, unhashed⟩, decoded⟩ := names
  obtain ⟨ofPath, ofQuery, ofFragment⟩ := lies.parts_eq
  rw [String.append_assoc, ← String.ofList_toList (s := "/cases/"), ← String.ofList_append,
    lies.text_eq_iff isBase, lies.basePath] at sameText
  have noEnd {mark : Char} (absent : mark ∉ escaped isPathChar (joined kept) ++
      ("/cases/".toList ++ segment)) : mark ∉ target.path ++ Target.marked '?' target.query ++
        Target.marked '#' target.fragment := by
    rwa [sameText]
  have noFragment : target.fragment = none := by
    cases fragment : target.fragment with
    | none => rfl
    | some text =>
      refine absurd (List.mem_append_right _ ?_)
        (noEnd (not_mem_path (by decide) (by decide) (by decide) unhashed _))
      rw [fragment]
      exact List.mem_cons_self
  have noQuery : target.query = none := by
    cases query : target.query with
    | none => rfl
    | some text =>
      refine absurd (List.mem_append_left _ (List.mem_append_right _ ?_))
        (noEnd (not_mem_path (by decide) (by decide) (by decide) unasked _))
      rw [query]
      exact List.mem_cons_self
  have noHash : '#' ∉ reference :=
    cutAt_eq_none.mp (Option.map_eq_none_iff.mp (ofFragment.symm.trans noFragment))
  rw [cutAt_of_not_mem noHash] at ofPath ofQuery
  have noMark : '?' ∉ reference :=
    cutAt_eq_none.mp (Option.map_eq_none_iff.mp (ofQuery.symm.trans noQuery))
  rw [cutAt_of_not_mem noMark] at ofPath
  rw [noQuery, noFragment, ofPath] at sameText
  simp only [Target.marked, List.append_nil] at sameText
  exact ⟨noMark, noHash, segment, noSlash, decoded, sameText⟩

/-- A path that leads to two segments beyond its start leads to a part of what was followed. -/
theorem exists_part {segment : List Char} (rooted : kept.head? = some [])
    (whole : ∀ segment ∈ kept, '/' ∉ segment) (noSlash : '/' ∉ segment)
    (same : escaped isPathChar (joined (followDots (kept ++ [casesSegment])
      (splitOn '/' reference))) =
        escaped isPathChar (joined kept) ++ ("/cases/".toList ++ segment)) :
    (followDots (kept ++ [casesSegment]) (splitOn '/' reference)).length = kept.length + 2 ∧
      ∃ part ∈ splitOn '/' reference, escaped isPathChar part = segment := by
  have led (count : Nat) (part : List Char) (member : part ∈ (followDots (kept ++ [casesSegment])
      (splitOn '/' reference)).drop count) :
      part ∈ (kept ++ [casesSegment]).drop count ∨ part ∈ splitOn '/' reference :=
    mem_of_mem_drop_followDots member
  have ledRooted :
      (followDots (kept ++ [casesSegment]) (splitOn '/' reference)).head? = some [] := by
    refine followDots_rooted ?_ _
    rw [List.head?_append, rooted]
    rfl
  generalize followDots (kept ++ [casesSegment]) (splitOn '/' reference) = segments at *
  have wholeToo : ∀ part ∈ segments, '/' ∉ part := by
    intro part member
    rcases led 0 part member with before | after
    · rcases List.mem_append.mp before with isKept | isCases
      · exact whole part isKept
      · rw [List.mem_singleton.mp isCases]
        decide
    · exact (infix_of_mem_splitOn after).2
  have mapped : segments.map (escaped isPathChar) =
      kept.map (escaped isPathChar) ++ [casesSegment, segment] :=
    map_escaped_eq rooted ledRooted whole wholeToo noSlash same
  have size : segments.length = kept.length + 2 := by
    have lengths := congrArg List.length mapped
    rw [List.length_map, List.length_append, List.length_map] at lengths
    exact lengths
  refine ⟨size, ?_⟩
  -- The last segment lies beyond the base and the path of cases.
  have last : (segments.drop (kept.length + 1)).map (escaped isPathChar) = [segment] := by
    rw [List.map_drop, mapped, List.drop_append, List.length_map]
    simp
  obtain ⟨part, isPart, written⟩ := List.mem_map.mp (last ▸ List.mem_singleton_self segment)
  rcases led (kept.length + 1) part isPart with impossible | inReference
  · rw [List.drop_of_length_le (by simp)] at impossible
    cases impossible
  · exact ⟨part, inReference, written⟩

/-- A reference that is named by one segment is one.

The whole reference is in the path. The segment is written for a part of it and stands for all of
its octets; a part has as many only if it is all of the reference. Dots would have led no deeper
than the path of cases. -/
theorem LiesBelow.isOneSegment (isBase : IsBase address base)
    (lies : LiesBelow base target kept (casesSegment ++ '/' :: reference))
    (names : NamesCase base.text target.text reference) : IsOneSegment reference := by
  obtain ⟨noMark, noHash, segment, noSlash, decoded, same⟩ := lies.path_of_namesCase isBase names
  obtain ⟨size, part, isPart, written⟩ := exists_part lies.rooted lies.whole noSlash same
  obtain ⟨inside, unslashed⟩ := infix_of_mem_splitOn isPart
  have standsFor : percentDecoded part = utf8Octets reference := by
    rw [← decoded, ← written, percentDecoded_escaped keepsEscapes_isPathChar]
  have isWhole : part = reference :=
    eq_of_infix_of_length inside (standsFor ▸ length_percentDecoded_le part)
  subst isWhole
  have deeper (dots : part = ['.'] ∨ part = ['.', '.']) : False := by
    have noDeeper := length_followDots_dots (kept ++ [casesSegment]) dots
    rw [splitOn_eq, List.splitOn_eq_singleton unslashed] at size
    rw [size, List.length_append, List.length_singleton] at noDeeper
    omega
  exact {
    unmarked := ⟨unslashed, noMark, noHash⟩
    noDot := fun dot => deeper (.inl dot)
    noDots := fun dots => deeper (.inr dots)
    noEscape := (percentDecoded_eq_utf8Octets_iff part).mp standsFor }

end Reference

end Url

namespace Http

variable {σ α : Type} {wire : Request}

/-- A peer that notes the requests it is sent. -/
def Transport.noted (transport : Transport σ) : Transport (σ × List Request) := fun request state =>
  ((transport request state.1).1, (transport request state.1).2, state.2 ++ [request])

/-- The requests of a call to the case store are those that it is written down as. -/
theorem CaseStore.prepared_of_sent {transport : Transport σ} {base : String}
    {caller : CaseStore.Caller} {call : Call} {read : Json → Except Fault α} {peer : σ}
    (sent : wire ∈ (perform transport.noted base caller call read (peer, [])).2.2) :
    ∃ isAbsolute, (call.draft base caller).prepare = .ok (wire, isAbsolute) := by
  rw [perform, exchange_eq, send] at sent
  cases prepared : (call.draft base caller).prepare with
  | error fault =>
    rw [prepared] at sent
    cases sent
  | ok written =>
    obtain ⟨request, isAbsolute⟩ := written
    rw [prepared] at sent
    dsimp only [Transport.noted] at sent
    have noted : wire ∈ [request] := by
      cases answered : (transport request peer).1 with
      | error reason =>
        rw [answered] at sent
        exact sent
      | ok response =>
        rw [answered] at sent
        cases isAbsolute with
        | false => exact sent
        | true => cases success : response.isSuccess <;> simpa [success] using sent
    rw [List.mem_singleton.mp noted]
    exact ⟨isAbsolute, rfl⟩

/-- A request without a query of its own goes to the address that is read, if that is absolute. -/
theorem target_of_prepared {draft : Draft} {isAbsolute : Bool} (noQuery : draft.query = [])
    (prepared : draft.prepare = .ok (wire, isAbsolute)) :
    ∃ target, Url.Target.read draft.address = .ok target ∧
      (target.isAbsolute = true → wire.url = target.text) := by
  unfold Draft.prepare at prepared
  obtain ⟨target, isRead, prepared⟩ := Flow.bind_eq_ok.mp prepared
  refine ⟨target, isRead, fun absolute => ?_⟩
  obtain ⟨resolved, isResolved, prepared⟩ := Flow.bind_eq_ok.mp prepared
  obtain ⟨⟨⟩, -, prepared⟩ := Flow.bind_eq_ok.mp prepared
  obtain ⟨queried, isQueried, prepared⟩ := Flow.bind_eq_ok.mp prepared
  obtain ⟨⟨⟩, -, prepared⟩ := Flow.bind_eq_ok.mp prepared
  rw [noQuery] at isQueried
  rw [Url.Target.resolved, if_pos absolute] at isResolved
  obtain rfl := Except.ok.inj isResolved
  obtain rfl := Except.ok.inj isQueried
  exact (congrArg (·.1.url) (Except.ok.inj prepared)).symm

/-- A fetch over the network asks for the case of its reference in one segment exactly when that is
one segment. -/
theorem CaseStore.namesCase_of_fetch {transport : Transport σ} {url : String} {base : Url.Target}
    (isBase : Url.IsBase (baseAddress url) base) {caller : CaseStore.Caller} {reference : String}
    {peer : σ} (sent : wire ∈
      ((questions transport.noted url).fetch caller reference (peer, [])).2.2) :
    Url.NamesCase base.text wire.url reference.toList ↔ Url.IsOneSegment reference.toList := by
  let draft := (fetchCall reference).draft (baseAddress url) caller
  dsimp only [questions] at sent
  obtain ⟨isAbsolute, prepared⟩ : ∃ isAbsolute, draft.prepare = .ok (wire, isAbsolute) :=
    prepared_of_sent sent
  have noQuery : draft.query = [] := rfl
  obtain ⟨target, isRead, goesTo⟩ := target_of_prepared noQuery prepared
  have address : draft.address = baseAddress url ++
      String.ofList ('/' :: (Url.casesSegment ++ '/' :: reference.toList)) := by
    have path : "/cases/" ++ reference =
        String.ofList ('/' :: (Url.casesSegment ++ '/' :: reference.toList)) := by
      rw [← String.toList_inj, String.toList_append]
      exact String.toList_ofList.symm
    exact congrArg (baseAddress url ++ ·) path
  rw [address] at isRead
  obtain ⟨kept, lies⟩ := isBase.below isRead
  have absolute : target.isAbsolute = true := by
    have baseAbsolute := isBase.isAbsolute
    rw [Url.Target.isAbsolute] at baseAbsolute ⊢
    rw [lies.scheme, lies.authority, baseAbsolute]
  rw [goesTo absolute]
  exact ⟨lies.isOneSegment isBase, lies.namesCase isBase⟩

end Http

open Mailroom.Flow

variable {σ τ : Type}

/-- A transcript in which no case is fetched but that of a reference. -/
def FetchesOnly (reference : String) (said : List Dealing) : Prop :=
  ∀ caller asked answer, .fetch caller asked answer ∈ said → asked = reference

namespace FetchesOnly

variable {reference : String} {said : List Dealing}

/-- Calls about credentials fetch nothing. -/
theorem of_besides (besides : Besides (FetchesOnly reference) said) :
    FetchesOnly reference said := by
  obtain ⟨earlier, asides, rfl, fetchesOnly, areAsides⟩ := besides
  intro caller asked answer member
  rcases List.mem_append.mp member with before | aside
  · exact fetchesOnly caller asked answer before
  · cases areAsides _ aside

/-- One more fetch of the case. -/
theorem fetched (fetchesOnly : FetchesOnly reference said) (caller : CaseStore.Caller)
    (answer : Except Failure Case) :
    FetchesOnly reference (said ++ [.fetch caller reference answer]) := by
  intro other asked otherAnswer member
  rcases List.mem_append.mp member with before | last
  · exact fetchesOnly other asked otherAnswer before
  · exact (Dealing.fetch.inj (List.mem_singleton.mp last)).2.1

end FetchesOnly

namespace Office

/-- Fetching a case asks for no other. -/
theorem fetchCase_fetchesOnly (office : Office σ) (reference jurisdiction : String) :
    (office.transcribed.fetchCase reference jurisdiction).Retains (FetchesOnly reference) := by
  have vouching := office.peers.vouching_anyhow
  have enters (said : List Dealing) (held : FetchesOnly reference said) :
      Besides (FetchesOnly reference) said := .here held
  have leaves {α : Type} {work : Flow (σ × List Dealing) α}
      (law : work.Confines (fun state => Besides (FetchesOnly reference) state.2) fun _ => True) :
      work.Retains (FetchesOnly reference) :=
    law.weaken (fun _ => .here) (fun _ _ => .of_besides) fun _ _ ended => .of_besides ended.2
  refine Keeps.bind (leaves (credential_besides vouching jurisdiction)) fun credential => ?_
  have fetches : (guarded (some jurisdiction) (do
      let caller ← office.transcribed.caller credential.token
      Flow.ask (office.transcribed.peers.cases.fetch caller reference))).Retains
        (FetchesOnly reference) := by
    refine guarded_passes jurisdiction
      (Keeps.bind (leaves (caller_besides vouching _)) fun caller => ?_)
    refine ask_tells (.fetch caller reference) _ fun said answer held => ?_
    cases answer <;> exact held.fetched caller _
  refine Keeps.bind (Keeps.attempt fetches) fun outcome => ?_
  split
  · exact Keeps.pure _
  · exact Keeps.fail _
  · exact Keeps.fail _

/-- The case that an envelope names is looked up by its reference without blanks around it. -/
theorem findByReference_fetchesOnly (office : Office σ) {envelope : Envelope} {reference : String}
    (carried : envelope.caseRef = some reference) :
    (office.transcribed.findByReference envelope).Retains
      (FetchesOnly (Text.trim reference)) := by
  unfold findByReference
  rw [carried]
  dsimp only
  split
  · exact Keeps.pure _
  · refine Keeps.bind (Keeps.attempt (office.fetchCase_fetchesOnly _ _)) fun outcome => ?_
    split
    · exact Keeps.pure _
    · exact Keeps.bind (Keeps.log _ _) fun _ => Keeps.pure _
    · exact Keeps.bind (Keeps.log _ _) fun _ => Keeps.pure _
    · exact Keeps.fail _

/-- A request that goes out over the network when the case that an envelope names is looked up: one
that a fetch sends which the mail room makes for it. -/
def LooksUp (office : Office σ) (transport : Http.Transport τ) (url : String) (envelope : Envelope)
    (wire : Http.Request) : Prop :=
  ∃ (run : Run σ) (caller : CaseStore.Caller) (asked : String) (answer : Except Failure Case)
    (peer : τ),
    .fetch caller asked answer ∈ ((office.transcribed.findByReference envelope).run
      (run.withPeers (run.peers, []))).2.peers.2 ∧
    wire ∈ ((Http.CaseStore.questions transport.noted url).fetch caller asked (peer, [])).2.2

/-- The request by which the case of an envelope is looked up asks for one segment behind the path
of cases, which stands for the reference without the blanks around it, exactly when that reference
is one segment by itself. So one that holds a slash, a question mark, a hash sign or an escape, or
consists of one dot or two, leads to another resource. -/
theorem lookup_names_case_iff_one_segment (office : Office σ) (transport : Http.Transport τ)
    {url : String} {base : Url.Target} (isBase : Url.IsBase (Http.baseAddress url) base)
    {envelope : Envelope} {reference : String} (carried : envelope.caseRef = some reference)
    {wire : Http.Request} (looksUp : office.LooksUp transport url envelope wire) :
    Url.NamesCase base.text wire.url (Text.trim reference).toList ↔
      Url.IsOneSegment (Text.trim reference).toList := by
  obtain ⟨run, caller, asked, answer, peer, isFetched, sent⟩ := looksUp
  have nothing : FetchesOnly (Text.trim reference) (run.withPeers (run.peers, [])).peers.2 := by
    intro _ _ _ impossible
    cases impossible
  have fetchesOnly := (office.findByReference_fetchesOnly carried).after_run nothing
  obtain rfl := fetchesOnly caller asked answer isFetched
  exact Http.CaseStore.namesCase_of_fetch isBase sent

open Simulation

/-- The address of a case store. -/
def localStore : String := "http://localhost:4452/"

/-- Its slash at the end is no part of its path. -/
theorem localStore_isBase : ∃ base, Url.IsBase (Http.baseAddress localStore) base ∧
    base.text = "http://localhost:4452" := by
  have shown : (Url.Target.read (Http.baseAddress localStore)).toOption.any (fun base =>
      base.isAbsolute && base.query.isNone && base.fragment.isNone &&
        base.text == "http://localhost:4452") = true := by
    decide +kernel
  obtain ⟨base, isRead, isBase⟩ := ok_of_any shown
  simp only [Bool.and_eq_true, Option.isNone_iff_eq_none, beq_iff_eq] at isBase
  exact ⟨base, ⟨isRead, isBase.1.1.1, isBase.1.1.2, isBase.1.2⟩, isBase.2⟩

/-- An envelope that names a case. -/
def referring (reference : String) : Envelope where
  id := "envelope"
  container := "bulkscan"
  classification := .checked .supplementaryEvidence
  jurisdiction := "BULKSCAN"
  caseRef := some reference

/-- A case store over the network that has a case for every question. -/
def anyCase : Http.Transport Unit := Http.answering (Http.success "\x7b\"id\": 2\x7d")

/-- A request goes to an address when the case of such an envelope is looked up. -/
def LeadsTo (reference url : String) (wire : Http.Request) : Prop :=
  (PaymentsBook.office (.ok sampleAnswer)).LooksUp anyCase localStore (referring reference) wire ∧
    wire.url = url

/-- Whether a call fetches the case of a reference for the system user. -/
def fetches (reference : String) : Dealing → Bool
  | .fetch caller asked _ => caller == ⟨"user token", "service token"⟩ && asked == reference
  | _ => false

/-- What is shown to be fetched and to be sent leads to where it was sent. -/
theorem leadsTo_of_shown {reference url : String}
    (fetched : (((PaymentsBook.office (.ok sampleAnswer)).transcribed.findByReference
      (referring reference)).run { peers := ({}, []) }).2.peers.2.any
        (fetches (Text.trim reference)) = true)
    (sent : ((Http.CaseStore.questions anyCase.noted localStore).fetch
      ⟨"user token", "service token"⟩ (Text.trim reference) ((), [])).2.2.map (·.url) = [url]) :
    ∃ wire, LeadsTo reference url wire := by
  obtain ⟨call, isSaid, isFetch⟩ := List.any_eq_true.mp fetched
  obtain ⟨wire, isSent, goesTo⟩ := List.mem_map.mp (sent ▸ List.mem_singleton_self url)
  unfold fetches at isFetch
  split at isFetch
  case h_1 caller asked answer =>
    rw [Bool.and_eq_true, beq_iff_eq, beq_iff_eq] at isFetch
    obtain ⟨rfl, rfl⟩ := isFetch
    exact ⟨wire, ⟨{ peers := {} }, _, _, answer, (), isSaid, isSent⟩, goesTo⟩
  case h_2 => cases isFetch

/-- A number between blanks is asked for as it is. -/
theorem padded_number_names_its_case :
    ∃ base wire, Url.IsBase (Http.baseAddress localStore) base ∧
      LeadsTo " 1539007368674001 " "http://localhost:4452/cases/1539007368674001" wire ∧
      Url.NamesCase base.text wire.url "1539007368674001".toList := by
  obtain ⟨base, isBase, -⟩ := localStore_isBase
  obtain ⟨wire, leadsTo⟩ : ∃ wire,
      LeadsTo " 1539007368674001 " "http://localhost:4452/cases/1539007368674001" wire :=
    leadsTo_of_shown (by decide +kernel) (by decide +kernel)
  have trimmed : Text.trim " 1539007368674001 " = "1539007368674001" := by decide
  have isSegment : Url.IsOneSegment (Text.trim " 1539007368674001 ").toList := by
    rw [trimmed]
    refine ⟨by decide, by decide, by decide, ?_⟩
    rintro ⟨before, after, same, -⟩
    have noPercent : '%' ∉ "1539007368674001".toList := by decide
    rw [same] at noPercent
    exact noPercent (List.mem_append_right _ List.mem_cons_self)
  have names := (lookup_names_case_iff_one_segment (PaymentsBook.office (.ok sampleAnswer))
    anyCase isBase rfl leadsTo.1).mpr isSegment
  rw [trimmed] at names
  exact ⟨base, wire, isBase, leadsTo, names⟩

/-- Another case is fetched than the one that is named, or the same with a query, or a fragment, or
the case of another reference, or no case at all. -/
theorem odd_references_lead_elsewhere :
    ∃ base, Url.IsBase (Http.baseAddress localStore) base ∧
      ∀ lookup ∈ [("1/../2", "http://localhost:4452/cases/2"),
          ("1?x=y", "http://localhost:4452/cases/1?x=y"),
          ("1#x", "http://localhost:4452/cases/1#x"),
          ("%31", "http://localhost:4452/cases/%31"), ("..", "http://localhost:4452")],
        ∃ wire, LeadsTo lookup.1 lookup.2 wire ∧
          ¬ Url.NamesCase base.text wire.url (Text.trim lookup.1).toList := by
  obtain ⟨base, isBase, isRoot⟩ := localStore_isBase
  refine ⟨base, isBase, ?_⟩
  have elsewhere {reference url : String} (leads : ∃ wire, LeadsTo reference url wire)
      (other : ¬ Url.NamesCase "http://localhost:4452" url (Text.trim reference).toList) :
      ∃ wire, LeadsTo reference url wire ∧
        ¬ Url.NamesCase base.text wire.url (Text.trim reference).toList := by
    obtain ⟨wire, leadsTo⟩ := leads
    refine ⟨wire, leadsTo, ?_⟩
    rw [isRoot, leadsTo.2]
    exact other
  rw [List.forall_mem_cons, List.forall_mem_cons, List.forall_mem_cons, List.forall_mem_cons,
    List.forall_mem_singleton]
  refine ⟨?_, ?_, ?_, ?_, ?_⟩
  all_goals
    refine elsewhere (leadsTo_of_shown ?_ ?_) ?_
    all_goals decide +kernel

end Office
end Mailroom
