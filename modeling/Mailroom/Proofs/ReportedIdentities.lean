import Mailroom.Proofs.ClassifiedCreation
import Mailroom.Proofs.RegisteredPayments

/-!
# Identities come from the case store

The mail room makes up no identities. What it says an envelope has led to, and what it has payments
registered against, is the identity of a case that the store reported before: one that was found,
fetched, created or changed. It is passed on as it was reported. A report may lack an identity, and
then the case goes without one all the way.
-/

namespace Mailroom

open Mailroom.Flow

/-- The cases that the store reports in a call. The case that a started event runs on is none of
them. -/
def Dealing.reported : Dealing → List Case
  | .search _ _ _ (.ok cases) => cases
  | .fetch _ _ (.ok case) | .submit _ _ _ (.ok case) => [case]
  | _ => []

/-- A case that the store has reported. -/
def HasReported (said : List Dealing) (case : Case) : Prop :=
  ∃ call ∈ said, case ∈ call.reported

/-- What a case that was reported goes by: its identity, or the want of one. -/
def Names (said : List Dealing) (id : Option Int) : Prop :=
  ∃ case, HasReported said case ∧ case.id = id

/-- All cases that were reported have an identity. -/
def Identified (said : List Dealing) : Prop :=
  ∀ case, HasReported said case → case.id ≠ none

/-- Payments are registered against cases that were reported before. -/
def Attributed (said : List Dealing) : Prop :=
  ∀ earlier command answer later, said = earlier ++ .pay (.create command) answer :: later →
    ∃ id, Names earlier id ∧ command.reference = Case.idText id

variable {said : List Dealing} {id : Option Int} {call : Dealing}

/-- What was reported stays reported. -/
theorem Names.append (names : Names said id) (call : Dealing) : Names (said ++ [call]) id := by
  obtain ⟨case, ⟨reporting, isSaid, reported⟩, same⟩ := names
  exact ⟨case, ⟨reporting, List.mem_append_left _ isSaid, reported⟩, same⟩

/-- Where all cases have an identity, what is named is one, and its text is that of a number. -/
theorem Names.number (names : Names said id) (identified : Identified said) :
    ∃ number, id = some number ∧ Case.idText id = toString number := by
  obtain ⟨case, reported, rfl⟩ := names
  obtain ⟨number, same⟩ := Option.ne_none_iff_exists'.mp (identified case reported)
  exact ⟨number, same, by rw [same]; rfl⟩

/-- So what is named is not missing. -/
theorem Names.ne_none (names : Names said id) (identified : Identified said) : id ≠ none := by
  obtain ⟨number, rfl, -⟩ := names.number identified
  exact Option.some_ne_none number

/-- A call names the cases that it reports. -/
theorem names_last {case : Case} (said : List Dealing) (reported : case ∈ call.reported) :
    Names (said ++ [call]) case.id :=
  ⟨case, ⟨call, List.mem_append_right _ (List.mem_singleton_self _), reported⟩, rfl⟩

/-- Payments stay attributed with one more call, when it is no registration or is attributed too. -/
theorem Attributed.append (attributed : Attributed said)
    (last : ∀ command answer, call = .pay (.create command) answer →
      ∃ id, Names said id ∧ command.reference = Case.idText id) :
    Attributed (said ++ [call]) := by
  intro earlier command answer later same
  -- The registration is the new call itself, or the new call is said after it.
  rcases List.eq_nil_or_concat later with rfl | ⟨before, final, rfl⟩
  · obtain ⟨rfl, isLast⟩ := List.append_inj' same rfl
    exact last command answer (List.singleton_inj.mp isLast)
  · rw [List.concat_eq_append, ← List.cons_append, ← List.append_assoc] at same
    exact attributed earlier command answer before (List.append_inj' same rfl).1

/-- Payments stay attributed whatever else is said. -/
theorem attributed_lasting : Lasting Attributed := by
  intro said call aside attributed
  refine attributed.append fun command answer same => ?_
  rw [same] at aside
  cases aside

/-- A transcript that names an identity, and has its payments attributed. -/
def Attests (id : Option Int) (said : List Dealing) : Prop :=
  Attributed said ∧ Names said id

/-- An identity that is attested stays so. -/
theorem attests_lasting (id : Option Int) : Lasting (Attests id) :=
  fun said call aside attests =>
    ⟨attributed_lasting said call aside attests.1, attests.2.append call⟩

/-- The last call attests the identities of the cases that it reports. -/
theorem attests_last {case : Case} (attributed : Attributed said) (aside : call.isPayment = false)
    (reported : case ∈ call.reported) : Attests case.id (said ++ [call]) :=
  ⟨attributed_lasting said call aside attributed, names_last said reported⟩

namespace Office

variable {σ : Type} {office : Office σ}

/-- A call that decides reports the case that it is about, unless it attaches documents to one. -/
theorem Decides.reports {envelope : Envelope} {routed : Routed}
    (decides : office.Decides envelope call routed) (other : routed.action ≠ .attachedToCase) :
    ∃ case ∈ call.reported, case.id = routed.caseId := by
  cases decides with
  | created | found | filed | onFile => exact ⟨_, List.mem_singleton_self _, rfl⟩
  | attached => exact absurd rfl other

/-- A transcript that has just decided attests what was decided. -/
theorem attests_of_decided {envelope : Envelope} {routed : Routed}
    (decided : EndsWith Attributed (office.Decides envelope · routed) said)
    (other : routed.action ≠ .attachedToCase) : Attests routed.caseId said := by
  obtain ⟨earlier, call, rfl, attributed, decides⟩ := decided
  obtain ⟨case, reported, same⟩ := decides.reports other
  rw [← same]
  exact attests_last attributed decides.aside reported

/-- A case that is fetched is attested. -/
theorem fetchCase_attests (office : Office σ) (reference jurisdiction : String) :
    (office.transcribed.fetchCase reference jurisdiction).Tells Attributed
      (fun case => Attests case.id) (fun _ => Attributed) := by
  refine (fetchCase_tells attributed_lasting office reference jurisdiction).to_end ?_ fun _ _ => id
  rintro case state ⟨earlier, call, same, attributed, caller, rfl⟩
  rw [same]
  exact attests_last attributed rfl (List.mem_singleton_self case)

/-- The case of an outcome that has one is attested. -/
theorem createAutomatically_attests (office : Office σ) (envelope : Envelope) :
    (office.transcribed.createAutomatically envelope).Tells Attributed
      (fun outcome said => Attributed said ∧ (outcome.hasCase = true →
        Attests outcome.caseId said))
      (fun _ => Attributed) :=
  (createAutomatically_tells attributed_lasting office envelope).to_end
    (fun _ _ grounded => ⟨grounded.1, fun has => attests_of_decided (grounded.2 has) nofun⟩)
    fun _ _ => id

/-- Payments are registered against a case that was named, which then still is. -/
theorem registerPayments_attests (office : Office σ) (envelope : Envelope) (caseId : Option Int)
    (isRecord : Bool) :
    (office.transcribed.registerPayments envelope caseId isRecord).Tells (Attests caseId)
      (fun _ => Attests caseId) (fun _ => Attributed) := by
  unfold registerPayments
  split
  · exact Assures.log _ _ fun _ => id
  · refine Assures.after_log (ask_tells (.pay (.create (createCommand envelope caseId isRecord))) _
      fun said answer attests => ?_)
    have attributed :
        Attributed (said ++ [.pay (.create (createCommand envelope caseId isRecord)) answer]) := by
      refine attests.1.append fun command others same => ⟨caseId, attests.2, ?_⟩
      cases same
      rfl
    cases answer with
    | ok done => exact ⟨attributed, attests.2.append _⟩
    | error failure => exact attributed

/-- What an envelope led to is named after the registration. -/
theorem register_attests (office : Office σ) (envelope : Envelope) (routed : Routed)
    (isRecord : Bool) :
    (office.transcribed.registerPayments envelope routed.caseId isRecord >>= fun _ =>
      pure routed).Tells (Attests routed.caseId) (fun routed => Attests routed.caseId)
      (fun _ => Attributed) :=
  Assures.bind (registerPayments_attests office envelope routed.caseId isRecord) fun _ =>
    Assures.pure _ fun _ => id

/-- An envelope that gets a record names it. -/
theorem routeToRecord_attests (office : Office σ) (envelope : Envelope) :
    (office.transcribed.routeToRecord envelope).Tells Attributed
      (fun routed => Attests routed.caseId) (fun _ => Attributed) := by
  refine Assures.bind (fileRecord_tells attributed_lasting office envelope) fun recordId => ?_
  exact (register_attests office envelope ⟨recordId, .recordFiled⟩ true).from_start
    fun _ decided => attests_of_decided decided nofun

/-- An envelope that is routed names what it led to. -/
theorem route_attests (office : Office σ) (envelope : Envelope) :
    (office.transcribed.route envelope).Tells Attributed (fun routed => Attests routed.caseId)
      (fun _ => Attributed) := by
  unfold route
  split
  · refine Assures.bind (findCase_tells_of attributed_lasting (fun _ _ attests => attests.1) office
      (fetchCase_attests office) envelope) fun found => ?_
    split
    · exact (routeToRecord_attests office envelope).from_start fun _ => And.left
    case h_2 case =>
      -- Whatever is said while documents are attached, the case stays attested.
      have parts := ((attests_lasting case.id).groundwork office).routing
      refine Assures.from_start (Assures.bind ((parts.attachEvidence envelope case).to_end
        (fun _ _ => id) fun _ _ => And.left) fun attached => ?_) fun _ found => found.2 case rfl
      split
      · exact register_attests office envelope ⟨case.id, .attachedToCase⟩ false
      · exact Assures.after_log
          ((routeToRecord_attests office envelope).from_start fun _ => And.left)
  · exact routeToRecord_attests office envelope
  · exact routeToRecord_attests office envelope
  · refine Assures.bind (createAutomatically_attests office envelope) fun outcome => ?_
    split
    case isTrue has =>
      exact (register_attests office envelope ⟨outcome.caseId, .caseCreated⟩ false).from_start
        fun _ ended => ended.2 has
    case isFalse =>
      exact (routeToRecord_attests office envelope).from_start fun _ => And.left
  · exact Assures.fail _ fun _ => id

/-- The routing of an envelope, and all that is said in it. -/
def handled (office : Office σ) (envelope : Envelope) (run : Run σ) :
    Except Failure Routed × Run (σ × List Dealing) :=
  (office.transcribed.route envelope).run (run.withPeers (run.peers, []))

/-- The cases that the mail room claims were reported by the case store. An automatic creation that
has a case, an envelope that has been routed, and every command that registers payments, be it
accepted or not, name a case that the store reported before, as it was reported. So none of them is
without an identity unless a report is, and the reference of a command is the text of a number.

Proof: what decides an envelope reports the case that it is about, or a case was fetched before
documents were attached to it; only the registration adds commands about payments, and it names the
case that has just been decided. -/
theorem claimed_cases_were_reported (office : Office σ) (envelope : Envelope) (run : Run σ) :
    let created := office.attempted envelope run
    let routed := office.handled envelope run
    (∀ outcome, created.1 = .ok outcome → outcome.hasCase = true →
      Names created.2.peers.2 outcome.caseId ∧
      (Identified created.2.peers.2 → outcome.caseId ≠ none)) ∧
    (∀ result, routed.1 = .ok result →
      Names routed.2.peers.2 result.caseId ∧
      (Identified routed.2.peers.2 → result.caseId ≠ none)) ∧
    ∀ earlier command answer later,
      routed.2.peers.2 = earlier ++ .pay (.create command) answer :: later →
      ∃ id, Names earlier id ∧ command.reference = Case.idText id ∧
        (Identified earlier → ∃ number, id = some number ∧ command.reference = toString number) := by
  intro created routed
  have nothing : Attributed ([] : List Dealing) := by
    intro earlier command answer later same
    cases earlier <;> cases same
  let start : Run (σ × List Dealing) := run.withPeers (run.peers, [])
  have creation := createAutomatically_attests office envelope start nothing
  have routing := route_attests office envelope start nothing
  change Ending _ _ created.1 created.2.peers at creation
  change Ending _ _ routed.1 routed.2.peers at routing
  refine ⟨fun outcome ends has => ?_, fun result ends => ?_, fun earlier command answer later same => ?_⟩
  · rw [ends] at creation
    have names := (creation.2 has).2
    exact ⟨names, names.ne_none⟩
  · rw [ends] at routing
    exact ⟨routing.2, routing.2.ne_none⟩
  · have attributed : Attributed routed.2.peers.2 := by
      revert routing
      cases routed.1 with
      | ok result => exact fun attests => attests.1
      | error failure => exact id
    obtain ⟨id, names, isText⟩ := attributed earlier command answer later same
    refine ⟨id, names, isText, fun identified => ?_⟩
    obtain ⟨number, isNumber, isNumeral⟩ := names.number identified
    exact ⟨number, isNumber, isText.trans isNumeral⟩

open Simulation

/-- Whether payments are registered in a call. -/
def registers : Dealing → Bool
  | .pay (.create _) (.ok _) => true
  | _ => false

/-- Such a call is a command that was accepted. -/
theorem of_registers {call : Dealing} (registering : registers call = true) :
    ∃ command, call = .pay (.create command) (.ok ()) := by
  unfold registers at registering
  split at registering
  case h_1 command _ => exact ⟨command, rfl⟩
  case h_2 => cases registering

/-- The application of the sample with a payment. -/
def paidApplication : Envelope :=
  { sampleApplication with payments := ["1"] }

/-- What comes of it where a case can be created from it. -/
def paidRouting : Except Failure Routed × Run (PaymentsBook × List Dealing) :=
  (PaymentsBook.office (.ok sampleAnswer)).handled paidApplication { peers := {} }

/-- It leads to a case, and its payment is registered against the number of a case. -/
theorem paid_application_is_claimed :
    ∃ result earlier command later number, paidRouting.1 = .ok result ∧ result.caseId ≠ none ∧
      paidRouting.2.peers.2 = earlier ++ .pay (.create command) (.ok ()) :: later ∧
      command.reference = toString (number : Int) := by
  obtain ⟨-, names, registered⟩ := claimed_cases_were_reported
    (PaymentsBook.office (.ok sampleAnswer)) paidApplication { peers := {} }
  rw [← paidRouting] at names registered
  have routed : paidRouting.1.toOption.any (fun _ => true) = true := by decide +kernel
  have numbered : paidRouting.2.peers.2.all (·.reported.all (·.id.isSome)) = true := by
    decide +kernel
  have paid : paidRouting.2.peers.2.any Office.registers = true := by decide +kernel
  have identified : Identified paidRouting.2.peers.2 := by
    rintro case ⟨call, isSaid, reported⟩ without
    have isNumber := List.all_eq_true.mp (List.all_eq_true.mp numbered call isSaid) case reported
    rw [without] at isNumber
    cases isNumber
  obtain ⟨result, ends, -⟩ := ok_of_any routed
  obtain ⟨call, isSaid, registering⟩ := List.any_eq_true.mp paid
  obtain ⟨earlier, later, said⟩ := List.append_of_mem isSaid
  obtain ⟨command, rfl⟩ := of_registers registering
  have before : Identified earlier := by
    rintro case ⟨call, isEarlier, reported⟩
    refine identified case ⟨call, ?_, reported⟩
    rw [said]
    exact List.mem_append_left _ isEarlier
  obtain ⟨id, -, -, isText⟩ := registered earlier command (.ok ()) later said
  obtain ⟨number, -, isNumeral⟩ := isText before
  exact ⟨result, earlier, command, later, number, ends, (names result ends).2 identified, said,
    isNumeral⟩

/-- A mail room whose case store answers every search with a case that has no identity, which it
reads from an empty object. -/
def namelessOffice : Office PaymentsBook :=
  let peers := PaymentsBook.peers (.ok sampleAnswer)
  { PaymentsBook.office (.ok sampleAnswer) with
    peers := { peers with
      cases := { peers.cases with search := fun _ _ _ state => (.answer [{}], state) } } }

/-- There a case is claimed that has no identity, and the payment is registered against none. -/
theorem nameless_case_is_claimed :
    Case.ofReport (.obj []) = .ok {} ∧
    ((namelessOffice.createAutomatically paidApplication).run { peers := {} }).1 =
      .ok (.alreadyExists none) ∧
    ((namelessOffice.route paidApplication).run { peers := {} }).1 = .ok ⟨none, .caseCreated⟩ ∧
    ∃ command, ((namelessOffice.route paidApplication).run { peers := {} }).2.peers.accepted =
      [.create command] ∧ command.reference = "None" := by
  refine ⟨rfl, ?_, ?_, ?_⟩
  · rfl
  · rfl
  · exact ⟨_, rfl, rfl⟩

end Office
end Mailroom
