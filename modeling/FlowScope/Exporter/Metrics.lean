import FlowScope.Flow.Tracker
import FlowScope.Net.CaptureRecord

/-!
# Metrics

Counters of what an exporter has done, and their text form.

* A labelled family (`Counters`) has one counter for each tuple of label values that occurred.
* The tracker's size and evictions are copied from time to time (`Metrics.observe`); what is added to
  the eviction counter is the rise since the last copy.
* The text lists the families by name, each with its samples sorted by label values. A labelled family
  without samples is left out.
-/

namespace FlowScope

/-! ### Labelled counters -/

/-- The counters of a family, by the values of its labels. -/
abbrev Counters := List (List String × Nat)

namespace Counters

/-- Adds one to the counter of some label values, which is zero if it did not occur before. -/
def increment (values : List String) : Counters → Counters
  | [] => [(values, 1)]
  | (vs, n) :: later =>
    if vs = values then (vs, n + 1) :: later else (vs, n) :: increment values later

/-- The sum of the counters. -/
def total (c : Counters) : Nat := c.foldl (· + ·.2) 0

/-- Whether a tuple of label values comes before another or is the same: the first label that
differs decides. -/
def valuesLe : List String → List String → Bool
  | [], _ => true
  | _ :: _, [] => false
  | v :: vs, w :: ws => if v = w then valuesLe vs ws else v < w

def sorted (c : Counters) : Counters := c.mergeSort fun a b => valuesLe a.1 b.1

end Counters

/-! ### The metrics of an exporter -/

structure Metrics where
  frames : Counters := []
  parseErrors : Counters := []
  flows : Counters := []
  classifications : Counters := []
  trackedFlows : Nat := 0
  evictions : Nat := 0
  /-- The tracker's evictions when they were last copied. -/
  lastEvictions : Nat := 0
  deriving Repr, DecidableEq

namespace Metrics

/-- Counts a frame by the name of its link type. -/
def recordFrame (m : Metrics) (link : String) : Metrics :=
  { m with frames := m.frames.increment [link] }

def recordParseError (m : Metrics) (error : LineError) : Metrics :=
  { m with parseErrors := m.parseErrors.increment [error.name] }

/-- Counts a new flow by its transport. -/
def recordNewFlow (m : Metrics) (transport : Option Transport) : Metrics :=
  { m with flows := m.flows.increment [(transport.map (·.name)).getD "other"] }

def recordVerdict (m : Metrics) (v : Verdict) : Metrics :=
  { m with classifications := m.classifications.increment [v.protocol.name, v.source] }

/-- Copies a tracker's size and the evictions since the last copy. -/
def observe (m : Metrics) (t : Tracker) : Metrics :=
  { m with
    trackedFlows := t.tracked
    evictions := m.evictions + (t.evicted - m.lastEvictions)
    lastEvictions := t.evicted }

/-! ### Text -/

/-- A label value between its quotes. -/
def escapedValue (value : String) : String :=
  String.join (value.toList.map fun c =>
    if c = '\\' then "\\\\" else if c = '"' then "\\\"" else if c = '\n' then "\\n" else c.toString)

/-- One sample, with the names and values of its labels. -/
def sampleLine (name : String) (labels values : List String) (n : Nat) : String :=
  let pairs := labels.zipWith (fun label value => label ++ "=\"" ++ escapedValue value ++ "\"") values
  let shown := if pairs.isEmpty then "" else "\x7b" ++ ",".intercalate pairs ++ "\x7d"
  name ++ shown ++ " " ++ toString n ++ "\n"

def familyHead (name help kind : String) : String :=
  "# HELP " ++ name ++ " " ++ help ++ "\n# TYPE " ++ name ++ " " ++ kind ++ "\n"

/-- A family of labelled counters; nothing if it has none. -/
def counterFamily (name help : String) (labels : List String) (c : Counters) : String :=
  if c.isEmpty then ""
  else familyHead name help "counter" ++
    String.join (c.sorted.map fun sample => sampleLine name labels sample.1 sample.2)

/-- A family of one sample without labels. -/
def singleFamily (name help kind : String) (n : Nat) : String :=
  familyHead name help kind ++ sampleLine name [] [] n

/-- All the metrics as text. -/
def text (m : Metrics) : String :=
  counterFamily "flowdpi_classifications_total" "Flows classified, by protocol and detecting module"
      ["protocol", "source"] m.classifications ++
    singleFamily "flowdpi_flow_evictions_total" "Flows dropped after going idle" "counter"
      m.evictions ++
    counterFamily "flowdpi_flows_total" "Flows created by the tracker" ["transport"] m.flows ++
    counterFamily "flowdpi_frames_total" "Frames read from the input" ["link"] m.frames ++
    counterFamily "flowdpi_parse_errors_total" "Input lines that could not be decoded"
      ["error_type"] m.parseErrors ++
    singleFamily "flowdpi_tracked_flows" "Flows currently held by the tracker" "gauge"
      m.trackedFlows

end Metrics
end FlowScope
