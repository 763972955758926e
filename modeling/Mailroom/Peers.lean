import Mailroom.Flow
import Mailroom.Settings

/-!
# Collaborators

The services that the mail room works with, as questions that may be put to
them. Nothing is assumed about how they answer.
-/

namespace Mailroom

/-- The questions to the case store. -/
structure CaseStore.Questions (σ : Type) where
  search : Caller → (caseTypes query : String) → Ask σ (List Case)
  fetch : Caller → (reference : String) → Ask σ Case
  start : Caller → Target → (event : String) → Ask σ StartedEvent
  submit : Caller → Target → Submission → Ask σ Case

/-- What is known of the user behind a token. -/
structure UserDetails where
  id : Json
  email : Json

/-- The collaborators of the mail room. -/
structure Peers (σ : Type) where
  cases : CaseStore.Questions σ
  /-- Log a user in and get a token. -/
  login : Login → Ask σ String
  /-- The user that a token belongs to. -/
  userDetails : String → Ask σ UserDetails
  /-- A fresh token for calls between services. -/
  lease : Ask σ String
  /-- Turn a request into a case, at an address, with a service token. -/
  transform : Option String → Transformation.Request → String → Ask σ Transformation.Answer
  /-- Deliver a command about payments. -/
  pay : Payments.Command → Ask σ Unit

/-- The mail room: its services, system users and document store, and the
collaborators it works with. -/
structure Office (σ : Type) where
  services : Services
  users : List (String × Login)
  documents : Document.Store
  peers : Peers σ

end Mailroom
