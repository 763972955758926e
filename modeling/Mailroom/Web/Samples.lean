import Mailroom.Metrics

/-!
# Counters as text

Each count is one line: the name, the labels in order with their values between
quotation marks, and the number.
-/

namespace Mailroom.Metrics

/-- One character of a label's value. -/
def labelChar (character : Char) : List Char :=
  if character = '\\' then ['\\', '\\']
  else if character = '"' then ['\\', '"']
  else if character = '\n' then ['\\', 'n']
  else [character]

/-- A label with its value. -/
def labelText (label : String × String) : String :=
  label.1 ++ "=\"" ++ String.ofList (label.2.toList.flatMap labelChar) ++ "\""

/-- A count on one line. -/
def sampleLine (entry : Metric × Nat) : String :=
  entry.1.name ++ "\x7b" ++ ",".intercalate (entry.1.labels.map labelText) ++ "\x7d "
    ++ (Binary64.ofInt entry.2).text

/-- All counts, the lines in order. -/
def sampleLines (metrics : Metrics) : List String :=
  (metrics.map sampleLine).mergeSort textBefore

end Mailroom.Metrics
