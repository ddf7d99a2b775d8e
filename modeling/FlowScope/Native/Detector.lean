import FlowScope.Detector.Error
import FlowScope.Flow.Basic
import FlowScope.History
import FlowScope.Native.Inspector

/-!
# Detection by native libraries

The detector that asks native libraries. Its inspectors are known by their numbers in a pool of all
inspectors it ever had to do with; those **configured** are to be started, those **active** have been
started. Configuring does not touch the active ones.

* Starting starts every configured inspector. If one fails, those that did start are released again.
  Libraries that are disabled in the build do not count as failed, but if nothing else is left the
  detector itself is disabled.
* Stopping releases every active inspector. One that cannot be released stays active.
* Judging asks the active inspectors in order. An error counts as no answer.
-/

namespace FlowScope

structure NativeDetector where
  pool : Array Inspector := #[]
  configured : List Nat := []
  active : List Nat := []
  /-- What happened to the inspectors. -/
  history : History InspectorEvent := []

namespace NativeDetector

/-- The name under which the detector reports its own state; verdicts carry the library's name. -/
def name : String := "wrappers"

/-- The inspector with a number; one that is disabled for a number that is none. -/
def inspector (d : NativeDetector) (i : Nat) : Inspector := d.pool.getD i .ndpiDisabled

/-- Adds inspectors to the pool, and gives their numbers. -/
def enroll (d : NativeDetector) (inspectors : List Inspector) : NativeDetector × List Nat :=
  ({ d with pool := d.pool ++ inspectors.toArray }, List.range' d.pool.size inspectors.length)

/-- Puts other inspectors in place of the configured ones, from the next start on. -/
def configure (d : NativeDetector) (numbers : List Nat) : NativeDetector :=
  { d with configured := numbers }

/-- A detector over some inspectors, none of them started. -/
def ofInspectors (inspectors : List Inspector) : NativeDetector :=
  let (d, numbers) := enroll {} inspectors
  d.configure numbers

/-- The names of the active inspectors. -/
def activeNames (d : NativeDetector) : List String := d.active.map fun i => (d.inspector i).name

/-! ### Calls to one inspector -/

def record (d : NativeDetector) (i : Nat) (event : InspectorEvent) : NativeDetector :=
  { d with history := d.history.record i event }

/-- Starts an inspector. -/
def startInspector (d : NativeDetector) (i : Nat) : NativeDetector × Except InspectorError Unit :=
  let code := (d.inspector i).status ((d.history.about i).countP (·.isStart))
  (d.record i (.started code), InspectorError.ofStatus (d.inspector i).name code)

/-- Releases an inspector, and says whether that succeeded. -/
def releaseInspector (d : NativeDetector) (i : Nat) : NativeDetector × Bool :=
  let success := (d.inspector i).releases ((d.history.about i).countP (·.isRelease))
  (d.record i (.released success), success)

/-- Asks an inspector for the protocol of a flow. -/
def askInspector (d : NativeDetector) (i : Nat) (packets : List Packet) :
    NativeDetector × Except InspectorError Protocol :=
  let inquiry := (d.inspector i).engine.ask packets
  (d.record i (.asked inquiry.calls), inquiry.answer)

/-! ### Starting and stopping -/

/-- The outcome of starting several inspectors: the numbers of those that started, and the errors of
those that failed. -/
structure Starts where
  started : List Nat := []
  errors : List InspectorError := []
  deriving Repr, DecidableEq

/-- Starts inspectors in order; those that are disabled are neither started nor failed. -/
def startEach (d : NativeDetector) : List Nat → NativeDetector × Starts
  | [] => (d, {})
  | i :: later =>
    let (d, outcome) := d.startInspector i
    let (d, starts) := startEach d later
    match outcome with
    | .ok () => (d, { starts with started := i :: starts.started })
    | .error (.disabled _) => (d, starts)
    | .error e => (d, { starts with errors := e :: starts.errors })

/-- Releases inspectors in order, and gives the numbers of those that could not be released. -/
def releaseEach (d : NativeDetector) : List Nat → NativeDetector × List Nat
  | [] => (d, [])
  | i :: later =>
    let (d, success) := d.releaseInspector i
    let (d, failed) := releaseEach d later
    (d, if success then failed else i :: failed)

def start (d : NativeDetector) : NativeDetector × Except DetectorError Unit :=
  let (d, starts) := d.startEach d.configured
  if starts.errors.isEmpty then
    if starts.started.isEmpty then (d, .error (.disabled name))
    else ({ d with active := starts.started }, .ok ())
  else ((d.releaseEach starts.started).1, .error (.inspectors starts.errors))

def stop (d : NativeDetector) : NativeDetector × Except DetectorError Unit :=
  let (d, failed) := d.releaseEach d.active
  let d := { d with active := failed }
  if failed.isEmpty then (d, .ok ())
  else
    let reasons := failed.map fun i => (InspectorError.release (d.inspector i).name).message
    (d, .error (.stop name ("; ".intercalate reasons)))

/-! ### Judging -/

/-- Asks inspectors in order, up to the first that names a known protocol. -/
def firstAnswer (d : NativeDetector) (packets : List Packet) : List Nat → NativeDetector × Verdict
  | [] => (d, .unknown)
  | i :: later =>
    match d.askInspector i packets with
    | (d, .ok protocol) =>
      if protocol.isUnknown then firstAnswer d packets later
      else (d, ⟨protocol, (d.inspector i).name⟩)
    | (d, .error _) => firstAnswer d packets later

/-- Asks all the inspectors, and gives a verdict for each that has an answer. -/
def allAnswers (d : NativeDetector) (packets : List Packet) : List Nat → NativeDetector × List Verdict
  | [] => (d, [])
  | i :: later =>
    match d.askInspector i packets with
    | (d, .ok protocol) =>
      let (d, verdicts) := allAnswers d packets later
      (d, ⟨protocol, (d.inspector i).name⟩ :: verdicts)
    | (d, .error _) => allAnswers d packets later

/-- The first known protocol that an active inspector names; it is stored with the flow. -/
def judge (d : NativeDetector) (f : Flow) : NativeDetector × Flow × Verdict :=
  let (d, verdict) := d.firstAnswer f.packets d.active
  (d, if verdict.isUnknown then f else f.store verdict, verdict)

/-- Every active inspector's answer; the known ones are stored with the flow, one after the other. -/
def judgeAll (d : NativeDetector) (f : Flow) : NativeDetector × Flow × List Verdict :=
  let (d, verdicts) := d.allAnswers f.packets d.active
  (d, (verdicts.filter (!·.isUnknown)).foldl Flow.store f, verdicts)

end NativeDetector
end FlowScope
