import Mailroom.Http.CaseStore
import Mailroom.Http.Identity
import Mailroom.Http.Payments
import Mailroom.Http.Transformation

/-!
# All collaborators over the network
-/

namespace Mailroom.Http

variable {σ : Type}

/-- The identity service that the settings name. -/
def identityService (settings : Settings) : IdentityService :=
  ⟨settings.identityUrl, settings.clientId, settings.clientSecret, settings.redirectUri⟩

/-- The collaborators at the addresses that the settings name. -/
def peers (transport : Transport σ) (settings : Settings) : Peers σ :=
  { cases := CaseStore.questions transport settings.caseStoreUrl
    login := (identityService settings).logIn transport
    userDetails := (identityService settings).userDetails transport
    lease := lease transport settings.leaseUrl settings.leaseName
    transform := transform transport
    pay := pay transport settings.paymentsUrl }

end Mailroom.Http
