import FlowScope.Chain
import FlowScope.Exporter.Metrics
import FlowScope.Net.CaptureRecord
import FlowScope.Pieces

/-!
# The exporter

The exporter reads capture records from lines, assigns the packets to flows, judges the flows that are
not yet known, and counts what it does. A line that gives no packet is counted and skipped; a blank
line is skipped. A flow is judged again with every packet until its protocol is known, and never after
that.

Reading stops at a packet that the tracker cannot assign, since then there is no table of flows.
-/

namespace FlowScope

structure Exporter where
  chain : Chain := {}
  metrics : Metrics := {}

namespace Exporter

/-! ### One line -/

/-- The blanks that may stand around a record. -/
def isBlank (b : UInt8) : Bool := b = 32 || b = 9 || b = 10 || b = 13 || b = 12

/-- The record on a line and its packet. -/
def decode (line : Bytes) : Except LineError (CaptureRecord × Packet) :=
  match CaptureRecord.ofLine? line with
  | none => .error .json
  | some record => record.packet.map fun p => (record, p)

/-- Judges a flow whose protocol is not yet known; a verdict that names one is stored and counted. -/
def judge (e : Exporter) (number : Nat) : Exporter :=
  if (e.chain.flow number).verdict.isUnknown then
    let (chain, verdict) := e.chain.judgeTracked number
    if verdict.isUnknown then { e with chain }
    else
      { chain := chain.setFlow number ((chain.flow number).store verdict)
        metrics := e.metrics.recordVerdict verdict }
  else e

/-- Takes a packet; `now` is the reading of the clock. -/
def accept (e : Exporter) (now : Int) (p : Packet) : Except NoTable Exporter :=
  (e.chain.assign now p).map fun (chain, assigned) =>
    let metrics := if assigned.isNew then e.metrics.recordNewFlow (p.segment.map (·.kind))
      else e.metrics
    judge { chain, metrics } assigned.flow

/-- What an exporter has become, and whether it went on to the end of its input. -/
structure Progress where
  exporter : Exporter
  stopped : Option NoTable

/-- Reads a line. -/
def feedLine (e : Exporter) (now : Int) (line : Bytes) : Progress :=
  let line := trimmed isBlank line
  if line.isEmpty then ⟨e, none⟩
  else match decode line with
    | .error error => ⟨{ e with metrics := e.metrics.recordParseError error }, none⟩
    | .ok (record, p) =>
      let counted := { e with metrics := e.metrics.recordFrame record.link.name }
      match counted.accept now p with
      | .ok e => ⟨e, none⟩
      | .error cause => ⟨counted, some cause⟩

/-! ### Whole inputs -/

/-- Reads lines up to one that stops the exporter. The clock is read for each line; `position` is the
number of the first one. -/
def feedLines (e : Exporter) (clock : Nat → Int) (position : Nat) : List Bytes → Progress
  | [] => ⟨e, none⟩
  | line :: later =>
    match e.feedLine (clock position) line with
    | ⟨e, none⟩ => feedLines e clock (position + 1) later
    | stopped => stopped

/-- Reads an input to its end; the last line need not be ended. -/
def feed (e : Exporter) (clock : Nat → Int) (input : Bytes) : Progress :=
  e.feedLines clock 0 (endedPieces (· = 10) input)

/-! ### Housekeeping -/

/-- Drops the expired flows from the tracker's table, and says how many there were. -/
def sweep (e : Exporter) (now : Int) : Exporter × Nat :=
  let (chain, removed) := e.chain.sweep now
  ({ e with chain }, removed)

/-- Copies the size and the evictions of the tracker to the metrics. -/
def observe (e : Exporter) : Exporter := { e with metrics := e.metrics.observe e.chain.tracker }

end Exporter
end FlowScope
