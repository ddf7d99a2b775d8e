import FlowScope.Chain
import FlowScope.Run

/-!
# Chain sessions

A session is a chain together with the reading of its clock. What can happen to it is a `ChainEvent`,
and each event has an answer. A detector that asks native libraries can be configured anew at any
time, whether it is active or not.
-/

namespace FlowScope

/-- A flow to be judged: one that the tracker handed out, or one that it does not know. -/
inductive Subject
  | tracked (number : Nat)
  | apart (f : Flow)
  deriving Repr, DecidableEq

inductive ChainEvent
  /-- The chain starts, with these sources of models. -/
  | start (sources : Sources)
  | stop
  | configure (detectors : List Nat)
  | configureNative (detector : Nat) (inspectors : List Nat)
  | setExpiration (expiration : Option Nat)
  /-- The clock moves by some milliseconds, backwards if they are negative. -/
  | pass (milliseconds : Int)
  | packet (p : Packet)
  | sweep
  | clear
  | judge (subject : Subject)
  | judgeAll (subject : Subject)

inductive ChainAnswer
  | done
  /-- The errors of detectors that did not start or stop. -/
  | errors (list : List DetectorError)
  | assigned (a : Assigned)
  | refused (cause : NoTable)
  | swept (removed : Nat)
  /-- The verdict on a flow, and the flow with what is stored with it. -/
  | judged (f : Flow) (verdict : Verdict)
  | judgedAll (f : Flow) (verdicts : List Verdict)
  deriving Repr, DecidableEq

structure ChainSession where
  chain : Chain := {}
  now : Int := 0

namespace ChainSession

/-- One event; a packet that is refused changes nothing. -/
def step (s : ChainSession) : ChainEvent → ChainSession × ChainAnswer
  | .start sources =>
    let (chain, errors) := s.chain.start sources
    ({ s with chain }, .errors errors)
  | .stop =>
    let (chain, errors) := s.chain.stop
    ({ s with chain }, .errors errors)
  | .configure detectors => ({ s with chain := s.chain.configure detectors }, .done)
  | .configureNative detector inspectors =>
    ({ s with chain := s.chain.configureNative detector inspectors }, .done)
  | .setExpiration expiration => ({ s with chain := s.chain.setExpiration expiration }, .done)
  | .pass milliseconds => ({ s with now := s.now + milliseconds }, .done)
  | .packet p =>
    match s.chain.assign s.now p with
    | .ok (chain, assigned) => ({ s with chain }, .assigned assigned)
    | .error cause => (s, .refused cause)
  | .sweep =>
    let (chain, removed) := s.chain.sweep s.now
    ({ s with chain }, .swept removed)
  | .clear => ({ s with chain := s.chain.clear }, .done)
  | .judge (.tracked number) =>
    let (chain, verdict) := s.chain.judgeTracked number
    ({ s with chain }, .judged (chain.flow number) verdict)
  | .judge (.apart f) =>
    let (chain, f, verdict) := s.chain.judge f
    ({ s with chain }, .judged f verdict)
  | .judgeAll (.tracked number) =>
    let (chain, verdicts) := s.chain.judgeAllTracked number
    ({ s with chain }, .judgedAll (chain.flow number) verdicts)
  | .judgeAll (.apart f) =>
    let (chain, f, verdicts) := s.chain.judgeAll f
    ({ s with chain }, .judgedAll f verdicts)

end ChainSession
end FlowScope
