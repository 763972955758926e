import Mailroom.Proofs.RoutingDeeds

/-!
# Histories

A history is what the mail room was asked to do, one task after another: to
deliver an envelope, for the first time or again, or to deal with a callback.
Every task starts with the collaborators as the one before it left them; which
credentials are kept, what has been counted and what was logged is open, as the
tasks may be done by different workers. Any task may fail at any of its calls.
-/

namespace Mailroom

/-- What the mail room was asked to do, and how it ended. -/
inductive Task where
  | delivery (envelope : Envelope) (result : Except Failure Routed)
  | callback (request : Callback.Request) (result : Except Failure Callback.Result)

/-- A further item that is related to all before it keeps all items related. -/
theorem pairwise_append_last {α : Type} {related : α → α → Prop} {items : List α} {last : α}
    (among : items.Pairwise related) (withLast : ∀ earlier ∈ items, related earlier last) :
    (items ++ [last]).Pairwise related := by
  refine List.pairwise_append.mpr ⟨among, List.pairwise_singleton _ _, ?_⟩
  intro earlier isEarlier other isLast
  exact List.mem_singleton.mp isLast ▸ withLast earlier isEarlier

/-- A place in a history with one item more is the last one, or a place in the history before. -/
theorem parts_append_last {α : Type} {items before after : List α} {last each : α}
    (parts : items ++ [last] = before ++ each :: after) :
    (after = [] ∧ items = before ∧ last = each) ∨
      ∃ rest, after = rest ++ [last] ∧ items = before ++ each :: rest := by
  rcases List.eq_nil_or_concat after with rfl | ⟨rest, final, rfl⟩
  · obtain ⟨same, lasts⟩ := List.append_inj' parts rfl
    exact .inl ⟨rfl, same, List.singleton_inj.mp lasts⟩
  · rw [List.concat_eq_append, ← List.cons_append, ← List.append_assoc] at parts
    obtain ⟨same, lasts⟩ := List.append_inj' parts rfl
    rw [List.concat_eq_append, List.singleton_inj.mp lasts]
    exact .inr ⟨rest, rfl, same⟩

/-- A task, with the stored cases before and after it. -/
structure Episode where
  task : Task
  before : List Case
  after : List Case

namespace Office

variable {σ : Type}

/-- Tasks that were done one after another, and the state that they ended in. -/
inductive History (office : Office σ) (view : StoreView σ) (start : σ) : List Episode → σ → Prop
  | empty : History office view start [] start
  | delivery {episodes : List Episode} {run : Run σ}
      (earlier : History office view start episodes run.peers) (envelope : Envelope) :
      History office view start
        (episodes ++ [{
          task := .delivery envelope ((office.route envelope).run run).1
          before := view.cases run.peers
          after := view.cases ((office.route envelope).run run).2.peers }])
        ((office.route envelope).run run).2.peers
  | callback {episodes : List Episode} {run : Run σ}
      (earlier : History office view start episodes run.peers) (request : Callback.Request)
      (userToken userId : Option String) :
      History office view start
        (episodes ++ [{
          task := .callback request ((office.process request userToken userId).run run).1
          before := view.cases run.peers
          after := view.cases ((office.process request userToken userId).run run).2.peers }])
        ((office.process request userToken userId).run run).2.peers

/-- A history of nothing but deliveries from some post. -/
def DeliversOnly (post : Envelope → Prop) (episodes : List Episode) : Prop :=
  ∀ episode ∈ episodes, ∃ envelope result, post envelope ∧ episode.task = .delivery envelope result

/-- What is left after envelopes were delivered one after another. -/
def deliverAll (office : Office σ) (envelopes : List Envelope) (run : Run σ) : Run σ :=
  envelopes.foldl (fun run envelope => ((office.route envelope).run run).2) run

/-- The episodes of envelopes that are delivered one after another. -/
def deliveries (office : Office σ) (view : StoreView σ) : List Envelope → Run σ → List Episode
  | [], _ => []
  | envelope :: rest, run =>
    { task := .delivery envelope ((office.route envelope).run run).1
      before := view.cases run.peers
      after := view.cases ((office.route envelope).run run).2.peers } ::
      deliveries office view rest ((office.route envelope).run run).2

/-- Envelopes that are delivered one after another continue a history. -/
theorem History.deliverAll {office : Office σ} {view : StoreView σ} {start : σ}
    {episodes : List Episode} {run : Run σ}
    (earlier : History office view start episodes run.peers) (envelopes : List Envelope) :
    History office view start (episodes ++ office.deliveries view envelopes run)
      (office.deliverAll envelopes run).peers := by
  induction envelopes generalizing episodes run with
  | nil => simpa [Office.deliveries, Office.deliverAll] using earlier
  | cons envelope rest inductionHypothesis =>
    have continued := inductionHypothesis (History.delivery earlier envelope)
    rwa [List.append_assoc, List.singleton_append] at continued

/-- Deliveries one after another are deliveries of their envelopes only. -/
theorem deliversOnly_deliveries {office : Office σ} {view : StoreView σ} {post : Envelope → Prop}
    {envelopes : List Envelope} (posted : ∀ envelope ∈ envelopes, post envelope) (run : Run σ) :
    DeliversOnly post (office.deliveries view envelopes run) := by
  induction envelopes generalizing run with
  | nil => simp [DeliversOnly, Office.deliveries]
  | cons envelope rest inductionHypothesis =>
    intro episode isEpisode
    rcases List.mem_cons.mp isEpisode with rfl | later
    · exact ⟨envelope, _, posted envelope List.mem_cons_self, rfl⟩
    · exact inductionHypothesis (fun each member => posted each (List.mem_cons_of_mem _ member)) _
        episode later

/-- Where histories of deliveries take place: collaborators that keep their word,
services that are configured well, and a post in which different envelopes have
different identities and every one is transformed into a case of its service. -/
structure Setting (office : Office σ) (view : StoreView σ) (keys : String → Prop)
    (post : Envelope → Prop) : Prop where
  faithful : Faithful office.peers view keys
  configured : WellConfigured office.services
  identified : ∀ first second, post first → post second → first.id = second.id → first = second
  searched : ∀ envelope, post envelope → keys envelope.id
  answers : ∀ envelope, post envelope → office.AnswersWithin envelope

variable {office : Office σ} {view : StoreView σ} {keys : String → Prop} {post : Envelope → Prop}
variable {start finish : σ} {episodes : List Episode}

/-- What one delivery does to the stored cases, and what its result says of them. -/
structure Lawful (office : Office σ) (view : StoreView σ) (envelope : Envelope)
    (result : Except Failure Routed) (before after : List Case) : Prop where
  deeds : office.Deeds envelope before after
  justified : ∀ routed, result = .ok routed → office.Justified view envelope before after routed

/-- A delivery is lawful and leaves a state that can occur. -/
theorem Setting.delivery_lawful (setting : office.Setting view keys post) {envelope : Envelope}
    (posted : post envelope) {run : Run σ} (sound : view.sound run.peers)
    (distinct : Distinct (view.cases run.peers)) :
    view.sound ((office.route envelope).run run).2.peers ∧
      office.Lawful view envelope ((office.route envelope).run run).1 (view.cases run.peers)
        (view.cases ((office.route envelope).run run).2.peers) := by
  have ended := route_delivers setting.faithful setting.configured.searchable
    (setting.answers envelope posted) (setting.searched envelope posted) distinct run ⟨sound, rfl⟩
  cases result : ((office.route envelope).run run).1 with
  | ok routed =>
    rw [result] at ended
    refine ⟨ended.1, ended.2.1, ?_⟩
    rintro _ ⟨⟩
    exact ended.2.2
  | error failure =>
    rw [result] at ended
    exact ⟨ended.1, ended.2, nofun⟩

/-- A property of episodes and stored cases holds of a history of deliveries when
it holds of none and is kept by every lawful delivery. The stored cases stay
distinct all the while. -/
theorem History.induct (setting : office.Setting view keys post)
    (history : office.History view start episodes finish) (deliveries : DeliversOnly post episodes)
    (sound : view.sound start) (distinct : Distinct (view.cases start))
    {motive : List Episode → List Case → Prop} (empty : motive [] (view.cases start))
    (delivery : ∀ episodes envelope result before after, post envelope → Distinct before →
      office.Lawful view envelope result before after → motive episodes before →
      motive (episodes ++ [⟨.delivery envelope result, before, after⟩]) after) :
    view.sound finish ∧ Distinct (view.cases finish) ∧ motive episodes (view.cases finish) := by
  induction history with
  | empty => exact ⟨sound, distinct, empty⟩
  | @delivery episodes run earlier envelope inductionHypothesis =>
    obtain ⟨_, _, posted, ⟨⟩⟩ := deliveries _ (List.mem_append_right _ (List.mem_singleton_self _))
    obtain ⟨soundBefore, distinctBefore, holds⟩ := inductionHypothesis fun episode isEarlier =>
      deliveries episode (List.mem_append_left _ isEarlier)
    obtain ⟨soundAfter, lawful⟩ := setting.delivery_lawful posted soundBefore distinctBefore
    exact ⟨soundAfter, Deeds.distinct lawful.deeds distinctBefore,
      delivery _ _ _ _ _ posted distinctBefore lawful holds⟩
  | callback earlier request userToken userId =>
    obtain ⟨_, _, -, ⟨⟩⟩ := deliveries _ (List.mem_append_right _ (List.mem_singleton_self _))

end Office
end Mailroom
