import Mailroom.Proofs.CaseMarks
import Mailroom.Proofs.JsonText
import Mailroom.Proofs.TextParts
import Mathlib.Data.List.Nodup

/-!
# The store in memory keeps its word

A store in memory that nothing interferes with, in which every case stands under
its own identity, is one that keeps its word: its searches are exact because a
query reads as the field and the phrase it was written from and joined types
come apart again, its tokens change no case, and a submission either leaves all
cases alone or is carried out. Calls may fail as planned. It makes no difference
which larger state the store is part of.
-/

namespace Mailroom.Simulation.CaseBook

open Text

/-- A store that nothing interferes with and in which every case stands once,
under its own identity. -/
structure Sound (book : CaseBook) : Prop where
  undisturbed : book.interventions = []
  snapshots : book.snapshots = true
  named : ∀ entry ∈ book.cases, entry.2.id = some entry.1
  once : (book.cases.map (·.1)).Nodup
  issued : ∀ entry ∈ book.cases, entry.1 < book.nextId

/-- Nothing has changed that a sound store depends on. -/
structure Unchanged (book after : CaseBook) : Prop where
  cases : after.cases = book.cases
  nextId : after.nextId = book.nextId
  interventions : after.interventions = book.interventions
  snapshots : after.snapshots = book.snapshots

theorem Unchanged.refl (book : CaseBook) : book.Unchanged book := ⟨rfl, rfl, rfl, rfl⟩

theorem Unchanged.trans {book middle after : CaseBook} (first : book.Unchanged middle)
    (second : middle.Unchanged after) : book.Unchanged after :=
  ⟨second.cases.trans first.cases, second.nextId.trans first.nextId,
    second.interventions.trans first.interventions, second.snapshots.trans first.snapshots⟩

/-- A store stays sound when nothing that matters has changed. -/
theorem Sound.unchanged {book after : CaseBook} (sound : book.Sound) (same : book.Unchanged after) :
    after.Sound := by
  constructor
  · rw [same.interventions, sound.undisturbed]
  · rw [same.snapshots, sound.snapshots]
  · rw [same.cases]
    exact sound.named
  · rw [same.cases]
    exact sound.once
  · rw [same.cases, same.nextId]
    exact sound.issued

section Calls

variable {α : Type} (operation : Operation) (caller : CaseStore.Caller) (arguments : Fields)
variable (act : CaseBook → Except Failure α × CaseBook) {book : CaseBook}

/-- A call either fails without an effect or acts on the store as it is. -/
theorem call_cases (undisturbed : book.interventions = []) :
    (∃ failure after, book.Unchanged after ∧
      call operation caller arguments act book = (.error failure, after)) ∨
    (∃ before, book.Unchanged before ∧ call operation caller arguments act book = act before) := by
  have nothing : (book.note operation caller arguments).interventions = [] := undisturbed
  rw [call]
  split
  case h_1 planned failures _ =>
    refine .inl ⟨_, _, ?_, rfl⟩
    exact ⟨rfl, rfl, rfl, rfl⟩
  case h_2 =>
    rw [nothing]
    refine .inr ⟨_, ?_, rfl⟩
    exact ⟨rfl, rfl, rfl, rfl⟩

variable {operation caller arguments act}

/-- A call of something without an effect has none. -/
theorem call_unchanged (undisturbed : book.interventions = [])
    (noEffect : ∀ before : CaseBook, before.Unchanged (act before).2) :
    book.Unchanged (call operation caller arguments act book).2 := by
  obtain ⟨failure, after, same, called⟩ | ⟨before, same, called⟩ :=
    call_cases operation caller arguments act undisturbed
  · rw [called]
    exact same
  · rw [called]
    exact same.trans (noEffect before)

/-- What a call answers was answered by the store as it is. -/
theorem call_answered (undisturbed : book.interventions = []) {value : α}
    (answered : (call operation caller arguments act book).1 = .ok value) :
    ∃ before, book.Unchanged before ∧ (act before).1 = .ok value := by
  obtain ⟨failure, after, -, called⟩ | ⟨before, same, called⟩ :=
    call_cases operation caller arguments act undisturbed
  · rw [called] at answered
    cases answered
  · rw [called] at answered
    exact ⟨before, same, answered⟩

end Calls

/-- A query for a phrase is read as its field and the phrase. -/
theorem readQuery_matchQuery {field phrase : String} (wholeField : isTorn field = false)
    (wholePhrase : isTorn phrase = false) :
    readQuery (Office.matchQuery field (.str phrase)) = some (field, phrase) := by
  rw [readQuery, Json.read_matchQuery wholeField wholePhrase]
  rfl

/-- The fields that are searched are whole texts and are read as their paths. -/
theorem searchPaths_fields : ∀ path ∈ searchPaths, isTorn (dataField path) = false ∧
    dataField path ≠ Office.legacyIdField ∧ ∀ part ∈ "data" :: path, '.' ∉ part.toList := by
  decide

/-- A case matches a field of its data when it holds the phrase there. -/
theorem isMatch_dataField {path : List String} (known : path ∈ searchPaths) (book : CaseBook)
    (phrase : String) (id : Int) (case : Case) :
    book.isMatch (dataField path) phrase id case = case.holds path phrase := by
  obtain ⟨-, noLegacy, whole⟩ := searchPaths_fields path known
  have parts : (splitOn '.' (dataField path).toList).map String.ofList = "data" :: path :=
    splitOn_intercalate rfl (List.cons_ne_nil _ _) whole
  rw [isMatch, if_neg noLegacy, parts]
  rfl

/-- A search finds the cases of the named types that hold the phrase. -/
theorem matching_matchQuery (book : CaseBook) {types path : List String} {phrase : String}
    (some_types : types ≠ []) (whole_types : ∀ caseType ∈ types, ',' ∉ caseType.toList)
    (known : path ∈ searchPaths) (whole : isTorn phrase = false) :
    book.matching (",".intercalate types) (Office.matchQuery (dataField path) (.str phrase)) =
      (book.cases.map (·.2)).filter fun case => case.isOfType types && case.holds path phrase := by
  have parts : (splitOn ',' (",".intercalate types).toList).map String.ofList = types :=
    splitOn_intercalate rfl some_types whole_types
  rw [matching, readQuery_matchQuery (searchPaths_fields path known).1 whole]
  simp only [parts, isMatch_dataField known]
  rw [List.filter_map]
  rfl

/-- The case that a reference names stands under the number of the reference. -/
theorem caseOfReference?_mem {book : CaseBook} {reference : String} {case : Case}
    (found : book.caseOfReference? reference = some case) :
    isAsciiDigits reference = true ∧
      ∃ number, readWhole reference = some number ∧ (number, case) ∈ book.cases := by
  rw [caseOfReference?] at found
  split at found
  case isFalse => cases found
  case isTrue figures =>
    obtain ⟨number, isRead, stored⟩ := Option.bind_eq_some_iff.1 found
    obtain ⟨before, after, parts, -⟩ := List.lookup_eq_some_iff.1 stored
    refine ⟨figures, number, isRead, ?_⟩
    rw [parts]
    exact List.mem_append_right _ List.mem_cons_self

/-- The case that the text of an identity refers to stands under that identity. -/
theorem caseOfReference?_idText {book : CaseBook} {id : Option Int} {case : Case}
    (found : book.caseOfReference? (Case.idText id) = some case) :
    ∃ number, id = some number ∧ (number, case) ∈ book.cases := by
  obtain ⟨figures, read, isRead, member⟩ := caseOfReference?_mem found
  match id with
  | none => exact absurd figures (by decide)
  | some (.ofNat number) =>
    rw [Case.idText_some] at isRead
    exact ⟨_, congrArg some (readWhole_figures isRead).symm, member⟩
  | some (.negSucc number) =>
    rw [Case.idText_some, isAsciiDigits, Int.toString_eq_repr, Int.repr_eq_if] at figures
    simp at figures

/-- A case is put in the place of the one under its identity. -/
theorem put_of_mem {cases : List (Int × Case)} {id : Int} {case : Case}
    (member : id ∈ cases.map (·.1)) :
    put cases id case = cases.map fun entry => if entry.1 == id then (id, case) else entry := by
  obtain ⟨entry, isEntry, same⟩ := List.mem_map.1 member
  have known : cases.any (fun other => other.1 == id) = true :=
    List.any_eq_true.2 ⟨entry, isEntry, beq_iff_eq.2 same⟩
  rw [put, if_pos known]

/-- A case under an identity of its own is added at the end. -/
theorem put_of_fresh {cases : List (Int × Case)} {id : Int} {case : Case}
    (fresh : ∀ entry ∈ cases, entry.1 < id) : put cases id case = cases ++ [(id, case)] := by
  have unknown : ¬ cases.any (·.1 == id) = true := fun known => by
    obtain ⟨entry, member, same⟩ := List.any_eq_true.1 known
    exact absurd (fresh entry member) (by rw [beq_iff_eq.1 same]; exact Int.lt_irrefl id)
  rw [put, if_neg unknown]

/-- Using a token up changes no case. -/
theorem useToken_unchanged (book : CaseBook) (target : CaseStore.Target) (caseId : Option Int)
    (submission : Submission) : book.Unchanged (book.useToken target caseId submission).2 := by
  rw [useToken]
  split
  · split <;> exact ⟨rfl, rfl, rfl, rfl⟩
  · exact ⟨rfl, rfl, rfl, rfl⟩

/-- A fetch changes nothing. -/
theorem fetch_unchanged (reference : String) (book : CaseBook) :
    book.Unchanged (fetch reference book).2 := by
  rw [fetch]
  split
  · exact Unchanged.refl book
  · split <;> exact Unchanged.refl book

/-- A case that is fetched stands in the store. -/
theorem fetch_answered {reference : String} {book : CaseBook} {case : Case}
    (answered : (fetch reference book).1 = .ok case) : ∃ entry ∈ book.cases, entry.2 = case := by
  rw [fetch] at answered
  split at answered
  · cases answered
  · split at answered
    · next found =>
      obtain ⟨-, number, -, member⟩ := caseOfReference?_mem found
      cases answered
      exact ⟨_, member, rfl⟩
    · cases answered

/-- The start of an event changes no case. -/
theorem start_unchanged (target : CaseStore.Target) (event : String) (book : CaseBook) :
    book.Unchanged (start target event book).2 := by
  rw [start]
  split
  · exact ⟨rfl, rfl, rfl, rfl⟩
  · split <;> exact ⟨rfl, rfl, rfl, rfl⟩

/-- A started update comes with the case that it is for. -/
theorem start_answered {target : CaseStore.Target} {event reference : String} {book : CaseBook}
    {started : StartedEvent} (sound : book.Sound) (identified : target.Identified)
    (targeted : target.caseRef = some reference)
    (answered : (start target event book).1 = .ok started) :
    ∃ entry ∈ book.cases, Case.idText entry.2.id = reference ∧ started.case = some entry.2 := by
  obtain ⟨id, rfl⟩ := identified reference targeted
  rw [start, targeted] at answered
  simp only at answered
  split at answered
  · cases answered
  · next case found =>
    obtain ⟨number, rfl, member⟩ := caseOfReference?_idText found
    cases answered
    exact ⟨_, member, congrArg Case.idText (sound.named _ member), if_pos sound.snapshots⟩

/-- The cases of a store in order. -/
def stored (book : CaseBook) : List Case :=
  book.cases.map (·.2)

theorem Unchanged.stored {book after : CaseBook} (same : book.Unchanged after) :
    after.stored = book.stored := by
  rw [CaseBook.stored, CaseBook.stored, same.cases]

/-- What a submission does to a sound store: it stays sound, and the submission
is carried out if it is answered; else it has changed nothing. -/
structure Settled (target : CaseStore.Target) (data : Fields) (book : CaseBook)
    (result : Except Failure Case) (after : CaseBook) : Prop where
  sound : after.Sound
  answered : ∀ answer, result = .ok answer →
    Submitted target.caseType target.caseRef data book.stored after.stored answer.id
  refused : ∀ failure, result = .error failure → after.stored = book.stored

/-- A submission that is refused before any case is touched. -/
theorem Settled.of_unchanged {target : CaseStore.Target} {data : Fields} {book after : CaseBook}
    (sound : book.Sound) (same : book.Unchanged after) (failure : Failure) :
    Settled target data book (.error failure) after :=
  ⟨sound.unchanged same, nofun, fun _ _ => same.stored⟩

/-- A store that is sound stays sound with a case added under the next identity. -/
theorem Sound.added {book : CaseBook} (sound : book.Sound) {case : Case}
    (named : case.id = some book.nextId) :
    Sound { book with cases := book.cases ++ [(book.nextId, case)], nextId := book.nextId + 1 } := by
  constructor
  · exact sound.undisturbed
  · exact sound.snapshots
  · intro entry member
    obtain old | new := List.mem_append.1 member
    · exact sound.named entry old
    · rw [List.mem_singleton.1 new]
      exact named
  · rw [List.map_append, List.nodup_append]
    refine ⟨sound.once, List.nodup_cons.2 ⟨List.not_mem_nil, List.nodup_nil⟩, ?_⟩
    intro id isOld other isNew same
    obtain ⟨entry, member, rfl⟩ := List.mem_map.1 isOld
    rw [List.mem_singleton.1 isNew] at same
    exact absurd (sound.issued entry member) (same ▸ Int.lt_irrefl _)
  · intro entry member
    obtain old | new := List.mem_append.1 member
    · exact Int.lt_trans (sound.issued entry old) (Int.lt_succ _)
    · rw [List.mem_singleton.1 new]
      exact Int.lt_succ _

/-- A creation adds the case under an identity of its own. -/
theorem submitCreate_settled {target : CaseStore.Target} (creation : target.caseRef = none)
    (submission : Submission) {book : CaseBook} (sound : book.Sound) :
    Settled target submission.data book (submitCreate target submission book).1
      (submitCreate target submission book).2 := by
  have same := useToken_unchanged book target none submission
  rw [submitCreate]
  split
  case h_1 failure used isUsed =>
    rw [isUsed] at same
    exact .of_unchanged sound same failure
  case h_2 used isUsed =>
    rw [isUsed] at same
    have soundUsed := sound.unchanged same
    simp only [add, put_of_fresh soundUsed.issued]
    refine ⟨soundUsed.added rfl, ?_, nofun⟩
    rintro _ ⟨⟩
    rw [creation]
    refine ⟨_, ⟨rfl, ?_, rfl, fun _ => rfl⟩, rfl, ?_⟩
    · intro other isStored sameId
      obtain ⟨entry, member, rfl⟩ := List.mem_map.1 isStored
      rw [← same.cases] at member
      rw [soundUsed.named entry member] at sameId
      exact absurd (soundUsed.issued entry member) (Option.some.inj sameId ▸ Int.lt_irrefl _)
    · rw [stored, List.map_append, ← same.stored]
      rfl

/-- A store that is sound stays sound with a case in the place of the one under
its identity. -/
theorem Sound.replaced {book : CaseBook} (sound : book.Sound) {id : Int} {case : Case}
    (named : case.id = some id) (issued : id < book.nextId) :
    Sound { book with
      cases := book.cases.map fun entry => if entry.1 == id then (id, case) else entry } := by
  constructor
  · exact sound.undisturbed
  · exact sound.snapshots
  · intro entry member
    obtain ⟨old, isOld, rfl⟩ := List.mem_map.1 member
    split
    · exact named
    · exact sound.named old isOld
  · have names : (book.cases.map fun entry =>
        if entry.1 == id then (id, case) else entry).map (·.1) = book.cases.map (·.1) := by
      rw [List.map_map]
      refine List.map_congr_left fun entry _ => ?_
      by_cases same : entry.1 == id
      · rw [Function.comp_apply, if_pos same, beq_iff_eq.1 same]
      · simp only [Function.comp_apply, if_neg same]
    rw [names]
    exact sound.once
  · intro entry member
    obtain ⟨old, isOld, rfl⟩ := List.mem_map.1 member
    split
    · exact issued
    · exact sound.issued old isOld

/-- An update replaces the case that the reference is for and no other. -/
theorem Sound.updated {book : CaseBook} (sound : book.Sound) {id : Int} {case : Case}
    (member : (id, case) ∈ book.cases) (data : Fields) :
    Updated (Case.idText (some id)) data book.stored
      ((book.cases.map fun entry =>
        if entry.1 == id then (id, { case with data := case.data.merge data }) else entry).map
          (·.2)) := by
  rw [Updated, stored, List.map_map, List.forall₂_map_left_iff, List.forall₂_map_right_iff,
    List.forall₂_same]
  intro entry isEntry
  have named := sound.named entry isEntry
  by_cases same : entry.1 = id
  · have isCase : entry = (id, case) :=
      List.inj_on_of_nodup_map sound.once isEntry member same
    rw [Function.comp_apply, if_pos (beq_iff_eq.2 same), named, same, if_pos rfl, isCase]
    exact ⟨rfl, rfl, fun _ => rfl⟩
  · rw [Function.comp_apply, if_neg fun equal => same (beq_iff_eq.1 equal), named,
      if_neg fun text => same (Option.some.inj (Case.idText_injective text))]

/-- A submission for a case updates that case. -/
theorem submitUpdate_settled {target : CaseStore.Target} (identified : target.Identified)
    {reference : String} (targeted : target.caseRef = some reference) (submission : Submission)
    {book : CaseBook} (sound : book.Sound) :
    Settled target submission.data book (submitUpdate target reference submission book).1
      (submitUpdate target reference submission book).2 := by
  obtain ⟨id, rfl⟩ := identified reference targeted
  rw [submitUpdate]
  split
  · exact .of_unchanged sound (Unchanged.refl book) _
  · next case found =>
    obtain ⟨number, rfl, member⟩ := caseOfReference?_idText found
    have named : case.id = some number := sound.named _ member
    have same := useToken_unchanged book target case.id submission
    split
    case h_1 failure used isUsed =>
      rw [isUsed] at same
      exact .of_unchanged sound same failure
    case h_2 used isUsed =>
      rw [isUsed] at same
      have soundUsed := sound.unchanged same
      rw [← same.cases] at member
      have key : case.id.getD 0 = number := by rw [named, Option.getD_some]
      simp only [key, put_of_mem (List.mem_map.2 ⟨_, member, rfl⟩)]
      refine ⟨soundUsed.replaced named (soundUsed.issued _ member), ?_, nofun⟩
      intro answer _
      rw [targeted, ← same.stored]
      exact soundUsed.updated member submission.data

/-- How to look at a store that is part of a larger state. -/
def view {σ : Type} (get : σ → CaseBook) : StoreView σ where
  sound state := (get state).Sound
  cases state := (get state).stored

variable {σ : Type} {get : σ → CaseBook} {set : CaseBook → σ → σ}

/-- What is true of a store before is true of it when nothing has changed. -/
theorem Unchanged.meets {property : List Case → Prop} {before after : σ}
    (same : (get before).Unchanged (get after)) (met : (view get).Meets property before) :
    (view get).Meets property after :=
  ⟨met.1.unchanged same, (congrArg property same.stored).mpr met.2⟩

/-- Collaborators that work with a store in memory and otherwise leave it alone. -/
structure WorksWith (peers : Peers σ) (get : σ → CaseBook) (set : CaseBook → σ → σ) : Prop where
  cases : peers.cases = questions get set
  get_set : ∀ book state, get (set book state) = book
  login : ∀ login state, get (peers.login login state).2 = get state
  details : ∀ token state, get (peers.userDetails token state).2 = get state
  lease : ∀ state, get (peers.lease state).2 = get state
  transform : ∀ url request token state, get (peers.transform url request token state).2 = get state
  pay : ∀ command state, get (peers.pay command state).2 = get state

/-- A question is answered by the work on the store. -/
theorem asked_result {α : Type} (work : CaseBook → Except Failure α × CaseBook) (state : σ) :
    (asked get set work state).1.result = (work (get state)).1 := rfl

/-- A question leaves the store as the work on it does. -/
theorem asked_book {α : Type} (get_set : ∀ book state, get (set book state) = book)
    (work : CaseBook → Except Failure α × CaseBook) (state : σ) :
    get (asked get set work state).2 = (work (get state)).2 :=
  get_set _ _

/-- A call that is put to a part of the state changes nothing in the store when
its work does not. -/
theorem asked_unchanged {α : Type} (get_set : ∀ book state, get (set book state) = book)
    {work : CaseBook → Except Failure α × CaseBook} {state : σ}
    (noEffect : (get state).Unchanged (work (get state)).2) :
    (get state).Unchanged (get (asked get set work state).2) := by
  rw [asked_book get_set]
  exact noEffect

/-- A call of what settles a submission settles it, unless the call fails. -/
theorem call_settled {operation : Operation} {caller : CaseStore.Caller} {arguments : Fields}
    {act : CaseBook → Except Failure Case × CaseBook} {target : CaseStore.Target} {data : Fields}
    (settles : ∀ before : CaseBook, before.Sound →
      Settled target data before (act before).1 (act before).2)
    {book : CaseBook} (sound : book.Sound) :
    Settled target data book (call operation caller arguments act book).1
      (call operation caller arguments act book).2 := by
  obtain ⟨failure, after, same, called⟩ | ⟨before, same, called⟩ :=
    call_cases operation caller arguments act sound.undisturbed
  · rw [called]
    exact .of_unchanged sound same failure
  · have settled := settles before (sound.unchanged same)
    rw [called]
    refine ⟨settled.sound, ?_, ?_⟩
    · rw [← same.stored]
      exact settled.answered
    · rw [← same.stored]
      exact settled.refused

/-- A submission is settled, be it a creation or an update. -/
theorem submit_settled (get_set : ∀ book state, get (set book state) = book)
    (caller : CaseStore.Caller) {target : CaseStore.Target} (identified : target.Identified)
    (submission : Submission) {state : σ} (sound : (get state).Sound) :
    Settled target submission.data (get state)
      ((questions get set).submit caller target submission state).1.result
      (get ((questions get set).submit caller target submission state).2) := by
  cases targeted : target.caseRef with
  | none =>
    simp only [questions, targeted, asked_result, asked_book get_set]
    exact call_settled (fun _ => submitCreate_settled targeted submission) sound
  | some reference =>
    simp only [questions, targeted, asked_result, asked_book get_set]
    exact call_settled (fun _ => submitUpdate_settled identified targeted submission) sound

/-- Collaborators that work with a store in memory are quiet. -/
theorem WorksWith.quiet {peers : Peers σ} (works : WorksWith peers get set)
    (property : List Case → Prop) : peers.Quiet ((view get).Meets property) := by
  have alone {before after : σ} (same : get after = get before)
      (met : (view get).Meets property before) : (view get).Meets property after :=
    Unchanged.meets (same ▸ Unchanged.refl _) met
  constructor
  case search =>
    intro caller types query state met
    rw [works.cases]
    exact (asked_unchanged works.get_set (call_unchanged met.1.undisturbed Unchanged.refl)).meets met
  case fetch =>
    intro caller reference state met
    rw [works.cases]
    exact (asked_unchanged works.get_set
      (call_unchanged met.1.undisturbed (fetch_unchanged reference))).meets met
  case login => exact fun login state => alone (works.login login state)
  case details => exact fun token state => alone (works.details token state)
  case lease => exact fun state => alone (works.lease state)
  case transform =>
    exact fun url request token state => alone (works.transform url request token state)
  case pay => exact fun command state => alone (works.pay command state)

/-- A store in memory keeps its word, as far as whole texts are searched for. -/
theorem WorksWith.faithful {peers : Peers σ} (works : WorksWith peers get set) :
    Faithful peers (view get) fun key => isTorn key = false := by
  constructor
  case search_exact =>
    intro caller types path key state hits sound some_types whole_types known whole answered
    rw [works.cases] at answered
    simp only [questions, asked_result] at answered
    obtain ⟨before, same, answer⟩ := call_answered sound.undisturbed answered
    have found : before.matching (",".intercalate types)
        (Office.matchQuery (dataField path) (.str key)) = hits := Except.ok.inj answer
    rw [← found, matching_matchQuery before some_types whole_types known whole, same.cases]
    rfl
  case start_current =>
    intro caller target event state started reference sound identified targeted answered
    rw [works.cases] at answered
    simp only [questions, asked_result] at answered
    obtain ⟨before, same, answer⟩ := call_answered sound.undisturbed answered
    obtain ⟨entry, member, named, current⟩ :=
      start_answered (sound.unchanged same) identified targeted answer
    rw [same.cases] at member
    exact ⟨entry.2, List.mem_map.2 ⟨entry, member, rfl⟩, named, current⟩
  case submit =>
    intro caller target submission state sound identified
    rw [works.cases]
    have settled := submit_settled works.get_set caller identified submission sound
    refine ⟨settled.sound, ?_⟩
    split
    case h_1 answer answered => exact settled.answered answer answered
    case h_2 failure refused => exact .inl (settled.refused failure refused)
  case quiet => exact works.quiet
  case start_quiet =>
    intro property caller target event state met
    rw [works.cases]
    exact (asked_unchanged works.get_set
      (call_unchanged met.1.undisturbed (start_unchanged target event))).meets met

/-- A store in memory hands out the cases that it has stored. -/
theorem WorksWith.fetchesStored {peers : Peers σ} (works : WorksWith peers get set) :
    peers.FetchesStored (view get) := by
  intro caller reference state case sound answered
  rw [works.cases] at answered
  simp only [questions, asked_result] at answered
  obtain ⟨before, same, answer⟩ := call_answered sound.undisturbed answered
  obtain ⟨entry, member, rfl⟩ := fetch_answered answer
  rw [same.cases] at member
  exact List.mem_map.2 ⟨entry, member, rfl⟩

end Mailroom.Simulation.CaseBook
