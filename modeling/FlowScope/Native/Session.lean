import FlowScope.Native.Detector
import FlowScope.Run

/-!
# Sessions with native libraries

A session is a detector over native libraries together with what its owner knows of it: whether it was
started, and not stopped since. A start or a stop that fails does not change that. What the owner can
do is a `NativeEvent`, and each event has an answer.
-/

namespace FlowScope

inductive NativeEvent
  | start
  | stop
  | configure (inspectors : List Nat)
  | judge (f : Flow)
  | judgeAll (f : Flow)
  deriving Repr, DecidableEq

inductive NativeAnswer
  | done
  /-- Whether a start or a stop succeeded. -/
  | outcome (result : Except DetectorError Unit)
  /-- The verdict on a flow, and the flow with what is stored with it. -/
  | judged (f : Flow) (verdict : Verdict)
  | judgedAll (f : Flow) (verdicts : List Verdict)
  deriving Repr

structure NativeSession where
  detector : NativeDetector := {}
  /-- The latest start or stop that succeeded was a start. -/
  isActive : Bool := false

namespace NativeSession

def step (s : NativeSession) : NativeEvent → NativeSession × NativeAnswer
  | .start =>
    let (detector, result) := s.detector.start
    ({ detector, isActive := result.isOk || s.isActive }, .outcome result)
  | .stop =>
    let (detector, result) := s.detector.stop
    ({ detector, isActive := !result.isOk && s.isActive }, .outcome result)
  | .configure inspectors => ({ s with detector := s.detector.configure inspectors }, .done)
  | .judge f =>
    let (detector, f, verdict) := s.detector.judge f
    ({ s with detector }, .judged f verdict)
  | .judgeAll f =>
    let (detector, f, verdicts) := s.detector.judgeAll f
    ({ s with detector }, .judgedAll f verdicts)

end NativeSession
end FlowScope
