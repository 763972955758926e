import Mailroom.Json

/-!
# Health

The mail room is healthy when all its parts are, unhealthy when one of them is,
and degraded otherwise.
-/

namespace Mailroom.Web

/-- How well a part works. -/
inductive Health where
  | healthy
  | unhealthy
  | degraded
  deriving DecidableEq, Repr

namespace Health

/-- The name of a state. -/
def name : Health → String
  | .healthy => "healthy"
  | .unhealthy => "unhealthy"
  | .degraded => "degraded"

/-- The state with a name. -/
def ofName? (name : String) : Option Health :=
  [Health.healthy, .unhealthy, .degraded].find? (·.name == name)

/-- The state of a whole with these parts. -/
def overall (parts : List Health) : Health :=
  if parts.all (· = .healthy) then .healthy
  else if parts.any (· = .unhealthy) then .unhealthy
  else .degraded

end Health

/-- What is known of the health of a part. -/
structure PartHealth where
  health : Health
  message : String
  /-- Whether the time of the answer was measured. -/
  isTimed : Bool

/-- The health of the message broker by its answer. -/
def brokerHealth : Except String Unit → PartHealth
  | .ok _ => ⟨.healthy, "Redis connection OK", true⟩
  | .error reason => ⟨.unhealthy, "Redis error: " ++ reason, false⟩

end Mailroom.Web
