import FlowScope.Linear.Detector
import FlowScope.Native.Detector
import FlowScope.Signature

/-!
# Detectors

A detector is one way of finding the protocol of a flow: signatures, native libraries, or linear
models. A fourth kind is given by its answers, which may differ from call to call; they are functions
of the number of calls of that kind made before.

A detector is started before it is used and stopped afterwards, and both may fail. Judging never
fails; a detector that cannot tell gives a verdict with the protocol `unknown`.
-/

namespace FlowScope

/-- A detector given by its answers. Its verdicts are not stored with the flow. -/
structure ScriptedDetector where
  name : String
  starts : Nat → Except DetectorError Unit
  stops : Nat → Except DetectorError Unit
  verdict : List Packet → Verdict

inductive Detector
  | signatures (list : List Signature)
  | native (d : NativeDetector)
  | linear (d : LinearDetector)
  | scripted (d : ScriptedDetector)

namespace Detector

/-- The name under which the detector reports. -/
def name : Detector → String
  | signatures _ => Signature.source
  | native _ => NativeDetector.name
  | linear _ => LinearDetector.name
  | scripted d => d.name

/-- The answer to being started, which was done `before` times before. -/
def start (sources : Sources) (before : Nat) : Detector → Detector × Except DetectorError Unit
  | signatures list => (signatures list, .ok ())
  | native d =>
    let (d, outcome) := d.start
    (native d, outcome)
  | linear d =>
    let (d, outcome) := d.start sources
    (linear d, outcome)
  | scripted d => (scripted d, d.starts before)

/-- The answer to being stopped, which was done `before` times before. -/
def stop (before : Nat) : Detector → Detector × Except DetectorError Unit
  | signatures list => (signatures list, .ok ())
  | native d =>
    let (d, outcome) := d.stop
    (native d, outcome)
  | linear d => (linear d.stop, .ok ())
  | scripted d => (scripted d, d.stops before)

/-- The detector's verdict on a flow, and the flow with what the detector stores with it. -/
def judge (f : Flow) : Detector → Detector × Flow × Verdict
  | signatures list =>
    let (f, verdict) := Signature.judge list f
    (signatures list, f, verdict)
  | native d =>
    let (d, f, verdict) := d.judge f
    (native d, f, verdict)
  | linear d =>
    let (f, verdict) := d.judge f
    (linear d, f, verdict)
  | scripted d => (scripted d, f, d.verdict f.packets)

/-- Every verdict that the detector has on a flow: native libraries have one each, the others have
only one. -/
def judgeAll (f : Flow) : Detector → Detector × Flow × List Verdict
  | native d =>
    let (d, f, verdicts) := d.judgeAll f
    (native d, f, verdicts)
  | d =>
    let (d, f, verdict) := d.judge f
    (d, f, [verdict])

end Detector
end FlowScope
