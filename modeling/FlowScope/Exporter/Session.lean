import FlowScope.Exporter.Metrics
import FlowScope.Flow.Session

/-!
# Monitored sessions

A tracking session that is monitored: its tracker is copied to metrics from time to time. Events of the
tracker and copies may alternate in any way, and a copy does not touch the tracker.
-/

namespace FlowScope

inductive MonitorEvent
  | tracker (event : TrackerEvent)
  /-- The size and the evictions of the tracker are copied to the metrics. -/
  | observe
  deriving Repr, DecidableEq

structure MonitorSession where
  tracking : TrackerSession := {}
  metrics : Metrics := {}
  deriving Repr

namespace MonitorSession

/-- One event, with the tracker's answer if it is one of the tracker. -/
def step (s : MonitorSession) : MonitorEvent → MonitorSession × Option TrackerAnswer
  | .tracker event =>
    let (tracking, answer) := s.tracking.step event
    ({ s with tracking }, some answer)
  | .observe => ({ s with metrics := s.metrics.observe s.tracking.tracker }, none)

end MonitorSession
end FlowScope
