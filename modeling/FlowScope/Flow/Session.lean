import FlowScope.Flow.Tracker
import FlowScope.Run

/-!
# Tracking sessions

A session is a tracker together with the reading of its clock. What can happen to it is a
`TrackerEvent`, and each event has an answer.
-/

namespace FlowScope

inductive TrackerEvent
  | start (expiration : Option Nat)
  | stop
  | clear
  | sweep
  /-- The clock moves by some milliseconds, backwards if they are negative. -/
  | pass (milliseconds : Int)
  | packet (p : Packet)
  deriving Repr, DecidableEq

inductive TrackerAnswer
  | done
  | swept (removed : Nat)
  | assigned (a : Assigned)
  | refused (cause : NoTable)
  deriving Repr, DecidableEq

structure TrackerSession where
  tracker : Tracker := {}
  now : Int := 0
  deriving Repr

namespace TrackerSession

/-- One event; a packet that is refused changes nothing. -/
def step (s : TrackerSession) : TrackerEvent → TrackerSession × TrackerAnswer
  | .start expiration => ({ s with tracker := s.tracker.start expiration }, .done)
  | .stop => ({ s with tracker := s.tracker.stop }, .done)
  | .clear => ({ s with tracker := s.tracker.clear }, .done)
  | .sweep =>
    let (tracker, removed) := s.tracker.sweep s.now
    ({ s with tracker }, .swept removed)
  | .pass milliseconds => ({ s with now := s.now + milliseconds }, .done)
  | .packet p =>
    match s.tracker.assign s.now p with
    | .ok (tracker, assigned) => ({ s with tracker }, .assigned assigned)
    | .error cause => (s, .refused cause)

end TrackerSession
end FlowScope
