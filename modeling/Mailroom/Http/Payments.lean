import Mailroom.Http
import Mailroom.Peers

/-!
# Payment commands over the network

A command is one request; any answer of success means that it was delivered.
-/

namespace Mailroom.Http

variable {σ : Type}

/-- The request of a command. -/
def paymentDraft (url : String) (command : Payments.Command) : Draft :=
  { method := command.method
    address := baseAddress url ++ "/payments"
    headers := [("content-type", jsonType)]
    body := .json command.toJson }

/-- What became of a command. -/
def paymentReply (command : Payments.Command) : Except SendFailure Response → Reply Unit :=
  let context := command.method ++ " for " ++ command.subject
  fun
  | .ok _ => ⟨.ok (), [⟨.info, "Sent payments " ++ context⟩]⟩
  | .error (.status response) =>
    .refuse (.payments ⟨"Payments API responded " ++ toString response.status ++ " to " ++ context⟩)
  | .error (.transport reason) =>
    .refuse (.payments ⟨"Failed to send payments " ++ context ++ ": " ++ reason⟩)
  | .error (.faulty fault) => .refuse (.faulty fault)

/-- Deliver a command to the payments service at an address. -/
def pay (transport : Transport σ) (url : String) (command : Payments.Command) : Ask σ Unit :=
  exchange transport (paymentDraft url command) (paymentReply command)

end Mailroom.Http
