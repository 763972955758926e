import Mailroom.Http.Peers
import Mailroom.Simulation.CaseBook

/-!
# Scripted services

Services whose answers are laid down beforehand: users whose login is rejected,
a list of answers that are given in order, and answers by the start of the
request line.
-/

namespace Mailroom.Simulation

/-- An answer that was laid down, or the reason why there is none. -/
abbrev Scripted := Except String Http.Response

/-- An answer by the start of the request line. -/
structure Rule where
  start : String
  answer : Scripted

/-- The scripted world around the mail room. -/
structure World where
  book : CaseBook := {}
  rejectedUsers : List String := []
  hasUserDetails : Bool := true
  leaseFails : Bool := false
  leaseCount : Nat := 0
  /-- The jurisdiction that another worker takes a credential for while the next
  login is under way. -/
  contender : Option String := none
  /-- All logins so far, the latest last. -/
  logins : List Login := []
  transformations : List Scripted := []
  payments : List Scripted := []
  rules : List Rule := []
  overrides : List (Nat × Scripted) := []
  requestCount : Nat := 0
  transformationRequests : List Json := []
  paymentRequests : List Json := []
  requests : List Json := []

namespace World

/-- The mark in front of the number of a user token. -/
def userTokenStart : String := "Bearer user-token-"

/-- Log a user in. -/
def logIn (login : Login) : Ask World String := fun world =>
  if world.rejectedUsers.contains login.username then
    (.refuse (.authentication (.reported ("IDAM rejected login of " ++ login.username))), world)
  else
    let logins := world.logins ++ [login]
    (.answer (userTokenStart ++ toString logins.length), { world with logins })

/-- Tell who a token belongs to. -/
def userDetails (token : String) : Ask World UserDetails := fun world =>
  if world.hasUserDetails then
    let number := String.ofList (token.toList.drop userTokenStart.length)
    (.answer ⟨.str ("user-" ++ number), .str "system@example.com"⟩, world)
  else (.refuse (.authentication (.reported "No user details")), world)

/-- Lease a service token. -/
def lease : Ask World String := fun world =>
  if world.leaseFails then (.refuse (.authentication (.reported "S2S unavailable")), world)
  else
    let leaseCount := world.leaseCount + 1
    (.answer ("Bearer s2s-token-" ++ toString leaseCount), { world with leaseCount })

/-- An empty answer with a status. -/
def emptyAnswer (status : Nat) : Scripted := .ok ⟨status, []⟩

/-- The transformation service: answers in order, then failures. -/
def transformationTransport : Http.Transport World := fun request world =>
  let world := { world with transformationRequests := world.transformationRequests ++ [request.record] }
  match world.transformations with
  | answer :: transformations => (answer, { world with transformations })
  | [] => (emptyAnswer 500, world)

/-- The payments service: answers in order, then successes. -/
def paymentsTransport : Http.Transport World := fun request world =>
  let world := { world with paymentRequests := world.paymentRequests ++ [request.record] }
  match world.payments with
  | answer :: payments => (answer, { world with payments })
  | [] => (emptyAnswer 200, world)

/-- One peer for all services: the answer laid down for the number of the
request, or the first one whose start fits, or a failure. -/
def transport : Http.Transport World := fun request world =>
  let requestCount := world.requestCount + 1
  let world := { world with requestCount, requests := world.requests ++ [request.record] }
  let line := request.method ++ " " ++ request.url
  let answer := match world.overrides.lookup requestCount with
    | some answer => answer
    | none =>
      ((world.rules.find? fun rule => line.startsWith rule.start).map (·.answer)).getD
        (emptyAnswer 500)
  (answer, world)

/-- Collaborators in memory, with transformation and payments over the network. -/
def stagedPeers (settings : Settings) : Peers World :=
  { cases := CaseBook.questions (·.book) fun book world => { world with book }
    login := logIn
    userDetails
    lease
    transform := Http.transform transformationTransport
    pay := Http.pay paymentsTransport settings.paymentsUrl }

/-- All collaborators over the network. -/
def networkPeers (settings : Settings) : Peers World :=
  Http.peers transport settings

/-- Forget what was recorded for one step. -/
def startStep (world : World) : World :=
  { world with
    book := { world.book with calls := [] }
    transformationRequests := []
    paymentRequests := []
    requests := [] }

end World

/-- What the other worker does during a login: it gets a credential of its own, once. -/
def contend (office : Office World) : Flow World Unit := do
  let run ← get
  match run.peers.contender with
  | none => return
  | some jurisdiction =>
    set { run with peers := { run.peers with contender := none } }
    discard (office.credential (some jurisdiction))

/-- The mail room with given settings and collaborators. -/
def officeOf (settings : Settings) (peers : Peers World) : Office World :=
  { services := Services.ofList settings.services
    users := settings.users
    documents := settings.documentStore
    peers }

end Mailroom.Simulation
