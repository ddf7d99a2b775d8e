import FlowScope.Detector
import FlowScope.Flow.Tracker
import FlowScope.History
import FlowScope.Settings

/-!
# Detector chains

A chain applies detectors to flows in order, and earlier detectors win. It also has the tracker that
assigns packets to flows. Its detectors are known by their numbers in a pool; those **configured** are
to be started, those **active** have been started and not been stopped since.

* Starting the chain starts the configured detectors that are not active yet, and the tracker's table
  if there is none. A detector that fails to start is left out; one that is disabled is left out
  silently.
* Stopping the chain drops the table and stops all active detectors, also those no longer configured.
  A detector that fails to stop stays active.
* The history records each call to a detector, so that statements about its use can be made.
-/

namespace FlowScope

/-- A call to a detector. -/
inductive DetectorEvent
  | started (outcome : Except DetectorError Unit)
  | stopped (outcome : Except DetectorError Unit)
  /-- The detector was asked for a verdict, or for all it has. -/
  | asked

namespace DetectorEvent

def isStart : DetectorEvent → Bool
  | started _ => true
  | _ => false

def isStop : DetectorEvent → Bool
  | stopped _ => true
  | _ => false

def isAsk : DetectorEvent → Bool
  | asked => true
  | _ => false

end DetectorEvent

structure Chain where
  pool : Array Detector := #[]
  configured : List Nat := []
  active : List Nat := []
  tracker : Tracker := {}
  /-- The expiration time in milliseconds for the next table that is started. -/
  expiration : Option Nat := some 300000
  /-- The calls to the detectors. -/
  history : History DetectorEvent := []

namespace Chain

/-! ### Making and configuring chains -/

/-- A chain of detectors, none of them started. -/
def ofDetectors (detectors : List Detector) : Chain :=
  { pool := detectors.toArray, configured := List.range detectors.length }

/-- The detectors of an installation: signatures, then native libraries, then models. -/
def defaultDetectors (settings : Settings) : List Detector :=
  [.signatures Signature.defaults, .native (.ofInspectors Inspector.defaults),
   .linear { settings := settings.linear }]

def ofSettings (settings : Settings) : Chain :=
  { ofDetectors (defaultDetectors settings) with expiration := settings.expirationMs }

/-- Configures other detectors, for the next start. Those that are active stay so. -/
def configure (c : Chain) (numbers : List Nat) : Chain := { c with configured := numbers }

/-- Sets the expiration time for the next table that is started. -/
def setExpiration (c : Chain) (expiration : Option Nat) : Chain := { c with expiration }

/-- The detector with a number; one without signatures for a number that is none. -/
def detector (c : Chain) (i : Nat) : Detector := c.pool.getD i (.signatures [])

/-- Replaces a detector in the pool. -/
def setDetector (c : Chain) (i : Nat) (d : Detector) : Chain :=
  { c with pool := c.pool.setIfInBounds i d }

/-- Configures other inspectors in a detector that asks native libraries. -/
def configureNative (c : Chain) (i : Nat) (inspectors : List Nat) : Chain :=
  match c.detector i with
  | .native d => c.setDetector i (.native (d.configure inspectors))
  | _ => c

/-- The names of the active detectors, in the order in which they are asked. -/
def activeNames (c : Chain) : List String := c.active.map fun i => (c.detector i).name

def record (c : Chain) (i : Nat) (event : DetectorEvent) : Chain :=
  { c with history := c.history.record i event }

/-! ### Starting and stopping -/

/-- Starts a detector; it is active if that succeeds. -/
def startDetector (c : Chain) (sources : Sources) (i : Nat) : Chain × Except DetectorError Unit :=
  let (d, outcome) := (c.detector i).start sources ((c.history.about i).countP (·.isStart))
  let c := (c.setDetector i d).record i (.started outcome)
  match outcome with
  | .ok () => ({ c with active := c.active ++ [i] }, outcome)
  | .error _ => (c, outcome)

/-- Starts those of some detectors that are not active, and gives the errors to be reported. -/
def startEach (c : Chain) (sources : Sources) : List Nat → Chain × List DetectorError
  | [] => (c, [])
  | i :: later =>
    if i ∈ c.active then startEach c sources later
    else
      let (c, outcome) := c.startDetector sources i
      let (c, errors) := startEach c sources later
      match outcome with
      | .ok () => (c, errors)
      | .error e => (c, if e.isDisabled then errors else e :: errors)

/-- Starts the chain. -/
def start (c : Chain) (sources : Sources) : Chain × List DetectorError :=
  let c := if c.tracker.isStarted then c else { c with tracker := c.tracker.start c.expiration }
  c.startEach sources c.configured

/-- Stops a detector. -/
def stopDetector (c : Chain) (i : Nat) : Chain × Except DetectorError Unit :=
  let (d, outcome) := (c.detector i).stop ((c.history.about i).countP (·.isStop))
  ((c.setDetector i d).record i (.stopped outcome), outcome)

/-- Stops some detectors, and gives those that failed with their errors. -/
def stopEach (c : Chain) : List Nat → Chain × List (Nat × DetectorError)
  | [] => (c, [])
  | i :: later =>
    let (c, outcome) := c.stopDetector i
    let (c, failed) := stopEach c later
    match outcome with
    | .ok () => (c, failed)
    | .error e => (c, (i, e) :: failed)

/-- Stops the chain. -/
def stop (c : Chain) : Chain × List DetectorError :=
  let c := { c with tracker := c.tracker.stop }
  let (c, failed) := c.stopEach c.active
  ({ c with active := failed.map (·.1) }, failed.map (·.2))

/-! ### Packets -/

/-- Assigns a packet to its flow. -/
def assign (c : Chain) (now : Int) (p : Packet) : Except NoTable (Chain × Assigned) :=
  (c.tracker.assign now p).map fun (tracker, assigned) => ({ c with tracker }, assigned)

/-- Drops the expired flows from the tracker's table, and says how many there were. -/
def sweep (c : Chain) (now : Int) : Chain × Nat :=
  let (tracker, removed) := c.tracker.sweep now
  ({ c with tracker }, removed)

/-- Forgets every flow in the tracker's table. -/
def clear (c : Chain) : Chain := { c with tracker := c.tracker.clear }

/-- The flow with a number, as the tracker has it. -/
def flow (c : Chain) (number : Nat) : Flow := c.tracker.flow number

/-- Replaces a flow of the tracker. -/
def setFlow (c : Chain) (number : Nat) (f : Flow) : Chain :=
  { c with tracker := c.tracker.setFlow number f }

/-! ### Judging -/

/-- Asks a detector for its verdict on a flow. -/
def ask (c : Chain) (i : Nat) (f : Flow) : Chain × Flow × Verdict :=
  let (d, f, verdict) := (c.detector i).judge f
  ((c.setDetector i d).record i .asked, f, verdict)

/-- Asks a detector for all its verdicts on a flow. -/
def askAll (c : Chain) (i : Nat) (f : Flow) : Chain × Flow × List Verdict :=
  let (d, f, verdicts) := (c.detector i).judgeAll f
  ((c.setDetector i d).record i .asked, f, verdicts)

/-- The first known verdict of some detectors, asked in order. -/
def firstVerdict (c : Chain) (f : Flow) : List Nat → Chain × Flow × Verdict
  | [] => (c, f, .unknown)
  | i :: later =>
    let (c, f, verdict) := c.ask i f
    if verdict.isUnknown then firstVerdict c f later else (c, f, verdict)

/-- Every verdict of some detectors, asked in order. -/
def allVerdicts (c : Chain) (f : Flow) : List Nat → Chain × Flow × List Verdict
  | [] => (c, f, [])
  | i :: later =>
    let (c, f, verdicts) := c.askAll i f
    let (c, f, others) := allVerdicts c f later
    (c, f, verdicts ++ others)

/-- The verdict of the chain on a flow: the first known one, if an active detector has one. -/
def judge (c : Chain) (f : Flow) : Chain × Flow × Verdict := c.firstVerdict f c.active

/-- Every known verdict of the active detectors on a flow. -/
def judgeAll (c : Chain) (f : Flow) : Chain × Flow × List Verdict :=
  let (c, f, verdicts) := c.allVerdicts f c.active
  (c, f, verdicts.filter (!·.isUnknown))

/-- Judges a flow of the tracker, which keeps what the detectors store with it. -/
def judgeTracked (c : Chain) (number : Nat) : Chain × Verdict :=
  let (c, f, verdict) := c.judge (c.flow number)
  (c.setFlow number f, verdict)

/-- Judges a flow of the tracker by all the active detectors. -/
def judgeAllTracked (c : Chain) (number : Nat) : Chain × List Verdict :=
  let (c, f, verdicts) := c.judgeAll (c.flow number)
  (c.setFlow number f, verdicts)

end Chain
end FlowScope
