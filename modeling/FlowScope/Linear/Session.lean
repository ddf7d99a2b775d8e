import FlowScope.Linear.Detector
import FlowScope.Run

/-!
# Sessions with linear models

What can happen to a detector that applies linear models is a `LinearEvent`, and each event has an
answer. Each start says what the sources hold at that moment.
-/

namespace FlowScope

inductive LinearEvent
  | configure (settings : LinearSettings)
  | start (sources : Sources)
  | stop
  | judge (f : Flow)

/-- The settings that an event brings. -/
def LinearEvent.settings? : LinearEvent → Option LinearSettings
  | configure settings => some settings
  | _ => none

inductive LinearAnswer
  | done
  /-- Whether a start or a stop succeeded. -/
  | outcome (result : Except DetectorError Unit)
  /-- The verdict on a flow, and the flow with what is stored with it. -/
  | judged (f : Flow) (verdict : Verdict)
  deriving Repr

/-- One event; a stop always succeeds. -/
def LinearDetector.step (d : LinearDetector) : LinearEvent → LinearDetector × LinearAnswer
  | .configure settings => (d.configure settings, .done)
  | .start sources =>
    let (d, result) := d.start sources
    (d, .outcome result)
  | .stop => (d.stop, .outcome (.ok ()))
  | .judge f =>
    let (f, verdict) := d.judge f
    (d, .judged f verdict)

end FlowScope
