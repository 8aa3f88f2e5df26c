import GatewayOperator.Dict
import GatewayOperator.Text.Decimal

/-!
# Metrics

The operator counts its passes, the failures of passes by kind, object and cause, and the outcomes of
synchronizations and deletions; and it measures how long passes over each kind take. Samples are shown
in the order of their label values, families in the order of their names, and a family without samples
is not shown. Durations are not kept, only how many were observed.
-/

set_option autoImplicit false

namespace GatewayOperator

/-- A sample: the values of the labels of its family, in the order of the label names, and a count. -/
structure Sample where
  labels : List String
  count : Nat
  deriving DecidableEq, Repr

/-- Samples with one more observation under the given label values. -/
def Sample.observe (labels : List String) : List Sample → List Sample
  | [] => [⟨labels, 1⟩]
  | s :: rest =>
    if labels = s.labels then ⟨labels, s.count + 1⟩ :: rest
    else if labels < s.labels then ⟨labels, 1⟩ :: s :: rest
    else s :: observe labels rest

/-- What is counted and measured. -/
structure Metrics where
  /-- The number of passes. -/
  passes : Nat
  /-- Failed passes by cause, object and kind. -/
  failures : List Sample
  /-- Measured passes by kind. -/
  durations : List Sample
  /-- Uses of the management API by operation and result. -/
  requests : List Sample
  deriving DecidableEq, Repr

namespace Metrics

/-- Nothing counted yet. -/
def empty : Metrics := ⟨0, [], [], []⟩

/-- One more failed pass over an object. -/
def countFailure (m : Metrics) (kind object cause : String) : Metrics :=
  { m with failures := Sample.observe [cause, object, kind] m.failures }

/-- One more use of the management API; a failed one is counted under its kind of failure. -/
def countRequest (m : Metrics) (operation : String) (failed : Option String) : Metrics :=
  { m with requests := Sample.observe [operation, failed.getD "success"] m.requests }

/-- One more pass over an object of a kind. -/
def countPass (m : Metrics) (kind : String) : Metrics :=
  { m with passes := m.passes + 1, durations := Sample.observe [kind] m.durations }

/-- A family of samples. -/
structure Family where
  name : String
  help : String
  /-- Whether the samples are distributions; of these only the number of observations is kept. -/
  isHistogram : Bool
  labelNames : List String
  samples : List Sample
  deriving DecidableEq, Repr

/-- The families that have samples, in the order of their names. -/
def families (m : Metrics) : List Family :=
  [ { name := "apim_operator_reconcile_duration_seconds"
      help := "The duration of reconcile to complete in seconds"
      isHistogram := true
      labelNames := ["kind"]
      samples := m.durations },
    { name := "apim_operator_reconciliation_errors_total"
      help := "reconciliation errors"
      isHistogram := false
      labelNames := ["error", "instance", "kind"]
      samples := m.failures },
    { name := "apim_operator_reconciliations_total"
      help := "reconciliations"
      isHistogram := false
      labelNames := []
      samples := [⟨[], m.passes⟩] },
    { name := "apim_operator_sync_requests_total"
      help := "calls made to the management API, by outcome"
      isHistogram := false
      labelNames := ["operation", "result"]
      samples := m.requests } ].filter fun f => f.samples ≠ []

/-- A label value as it stands between quotes. -/
def escapeLabel (s : String) : List Char :=
  s.toList.flatMap fun c =>
    if c = '\\' then ['\\', '\\']
    else if c = '"' then ['\\', '"']
    else if c = '\n' then ['\\', 'n']
    else [c]

/-- A label with its value. -/
def labelChars (label : String × String) : List Char :=
  label.1.toList ++ '=' :: '"' :: escapeLabel label.2 ++ ['"']

/-- The labels of a sample with their values. -/
def labelsChars (labels : List (String × String)) : List Char :=
  match labels.map labelChars with
  | [] => []
  | first :: rest => '\x7b' :: first ++ rest.flatMap (',' :: ·) ++ ['\x7d']

/-- The line of a sample. -/
def Family.sampleLine (f : Family) (s : Sample) : String :=
  f.name ++ (if f.isHistogram then "_count" else "") ++
    String.ofList (labelsChars (f.labelNames.zip s.labels)) ++ " " ++
    String.ofList (Text.decimal s.count)

/-- The lines of a family: its help, its type and its samples. -/
def Family.lines (f : Family) : List String :=
  [ "# HELP " ++ f.name ++ " " ++ f.help,
    "# TYPE " ++ f.name ++ (if f.isHistogram then " histogram" else " counter") ] ++
    f.samples.map f.sampleLine

/-- The lines of all families. -/
def lines (m : Metrics) : List String := m.families.flatMap Family.lines

end Metrics

end GatewayOperator
