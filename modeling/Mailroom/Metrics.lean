import Mailroom.Json

/-!
# Counters

What happened is counted by kind, each kind with its own labels.
-/

namespace Mailroom

/-- A countable event with its labels. -/
inductive Metric where
  | envelopeProcessed (container classification action : String)
  | envelopeTimed (classification : String)
  | caseCreation (container result : String)
  | credentialInvalidated (jurisdiction : String)
  | callbackAnswered (eventId outcome : String)
  deriving DecidableEq, Repr

namespace Metric

/-- The name under which an event is counted. -/
def name : Metric → String
  | .envelopeProcessed .. => "bulkscan_envelopes_processed_total"
  | .envelopeTimed _ => "bulkscan_envelope_processing_duration_seconds_count"
  | .caseCreation .. => "bulkscan_case_creation_results_total"
  | .credentialInvalidated _ => "bulkscan_ccd_credentials_invalidated_total"
  | .callbackAnswered .. => "bulkscan_callback_results_total"

/-- The labels of an event in the order of their names. -/
def labels : Metric → List (String × String)
  | .envelopeProcessed container classification action =>
    [("ccd_action", action), ("classification", classification), ("container", container)]
  | .envelopeTimed classification => [("classification", classification)]
  | .caseCreation container result => [("container", container), ("result", result)]
  | .credentialInvalidated jurisdiction => [("jurisdiction", jurisdiction)]
  | .callbackAnswered eventId outcome => [("event_id", eventId), ("outcome", outcome)]

end Metric

/-- How often each event happened. -/
abbrev Metrics := List (Metric × Nat)

namespace Metrics

/-- Count an event. -/
def count : Metrics → Metric → Metrics
  | [], metric => [(metric, 1)]
  | (other, times) :: rest, metric =>
    if other = metric then (other, times + 1) :: rest else (other, times) :: count rest metric

/-- How often an event happened. -/
def times (metrics : Metrics) (metric : Metric) : Nat :=
  (metrics.lookup metric).getD 0

/-- Order texts by their characters, the shorter of two equal starts first. -/
def textBefore (first second : String) : Bool := !(second < first)

/-- Order label pairs one after the other. -/
def labelsBefore : List (String × String) → List (String × String) → Bool
  | [], _ => true
  | _ :: _, [] => false
  | first :: firstRest, second :: secondRest =>
    if first = second then labelsBefore firstRest secondRest
    else if first.1 = second.1 then textBefore first.2 second.2
    else textBefore first.1 second.1

/-- Order events by name and then by labels. -/
def metricBefore (first second : Metric × Nat) : Bool :=
  if first.1.name = second.1.name then labelsBefore first.1.labels second.1.labels
  else textBefore first.1.name second.1.name

/-- The counts ordered by name and labels. -/
def sorted (metrics : Metrics) : Metrics :=
  metrics.mergeSort metricBefore

end Metrics
end Mailroom
