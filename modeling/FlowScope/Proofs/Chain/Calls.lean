import FlowScope.Chain.Session
import FlowScope.Proofs.History

/-!
# The calls that a chain makes

Each operation of a chain is a sequence of calls to detectors. This module says, once for each kind of
call, what it does to the list of active detectors and to the history; and for each operation, which
calls it makes and how its answer is read off their outcomes (`startEach_calls`, `stopEach_calls`), and
that it keeps whatever its calls keep (`startEach_induction` and the like).
-/

namespace FlowScope

namespace DetectorEvent

/-- A start or a stop that succeeded. -/
def succeeds : DetectorEvent → Bool
  | started outcome => outcome.isOk
  | stopped outcome => outcome.isOk
  | asked => false

/-- The latest start or stop that succeeded was a start. The calls are given the latest first. -/
def isUp (calls : List DetectorEvent) : Bool := (calls.find? succeeds).any isStart

variable {calls : List DetectorEvent} {u : Unit} {e : DetectorError}

@[simp] theorem isUp_nil : isUp [] = false := rfl

@[simp] theorem isUp_started_ok : isUp (started (.ok u) :: calls) = true := rfl

@[simp] theorem isUp_started_error : isUp (started (.error e) :: calls) = isUp calls := rfl

@[simp] theorem isUp_stopped_ok : isUp (stopped (.ok u) :: calls) = false := rfl

@[simp] theorem isUp_stopped_error : isUp (stopped (.error e) :: calls) = isUp calls := rfl

@[simp] theorem isUp_asked : isUp (asked :: calls) = isUp calls := rfl

/-- The rule of use: a detector is started only while it is not up, and stopped and asked only while
it is. -/
def Allowed (earlier : List DetectorEvent) : DetectorEvent → Prop
  | started _ => isUp earlier = false
  | stopped _ => isUp earlier = true
  | asked => isUp earlier = true

/-- The error of a start, unless it only says that the detector is disabled. -/
def startError? : DetectorEvent → Option DetectorError
  | started (.error e) => if e.isDisabled then none else some e
  | _ => none

/-- The error of a stop. -/
def stopError? : DetectorEvent → Option DetectorError
  | stopped (.error e) => some e
  | _ => none

end DetectorEvent

namespace Chain

variable {c c' : Chain} {sources : Sources} {i : Nat}

/-! ### One call -/

/-- What a start does: it is recorded, and makes the detector active if it succeeds. -/
theorem startDetector_eq {d : Detector} {outcome : Except DetectorError Unit}
    (h : (c.detector i).start sources ((c.history.about i).countP (·.isStart)) = (d, outcome)) :
    c.startDetector sources i =
      ({ c.setDetector i d with
          active := if outcome.isOk then c.active ++ [i] else c.active
          history := c.history.record i (.started outcome) }, outcome) := by
  unfold startDetector
  rw [h]
  rcases outcome with e | ⟨⟩ <;> rfl

theorem startDetector_history {outcome : Except DetectorError Unit}
    (h : c.startDetector sources i = (c', outcome)) :
    c'.history = c.history.record i (.started outcome) := by
  rw [startDetector_eq rfl] at h
  cases h
  rfl

theorem startDetector_active {outcome : Except DetectorError Unit}
    (h : c.startDetector sources i = (c', outcome)) :
    c'.active = if outcome.isOk then c.active ++ [i] else c.active := by
  rw [startDetector_eq rfl] at h
  cases h
  rfl

theorem stopDetector_history {outcome : Except DetectorError Unit}
    (h : c.stopDetector i = (c', outcome)) :
    c'.history = c.history.record i (.stopped outcome) := by
  cases h
  rfl

/-! ### The calls of an operation -/

theorem startEach_of_mem {later : List Nat} (hi : i ∈ c.active) :
    c.startEach sources (i :: later) = c.startEach sources later := by
  rw [startEach, if_pos hi]

theorem startEach_of_ok {later : List Nat} (hi : i ∉ c.active)
    (h : c.startDetector sources i = (c', .ok ())) :
    c.startEach sources (i :: later) = c'.startEach sources later := by
  rw [startEach, if_neg hi, h]

theorem startEach_of_error {later : List Nat} {e : DetectorError} (hi : i ∉ c.active)
    (h : c.startDetector sources i = (c', .error e)) :
    c.startEach sources (i :: later) =
      ((c'.startEach sources later).1,
        if e.isDisabled then (c'.startEach sources later).2
        else e :: (c'.startEach sources later).2) := by
  rw [startEach, if_neg hi, h]

/-- Starting some detectors and then others. -/
theorem startEach_append (sources : Sources) (first second : List Nat) (c : Chain) :
    c.startEach sources (first ++ second) =
      (((c.startEach sources first).1.startEach sources second).1,
        (c.startEach sources first).2 ++
          ((c.startEach sources first).1.startEach sources second).2) := by
  induction first generalizing c with
  | nil => rfl
  | cons i first ih =>
      rw [List.cons_append]
      by_cases hi : i ∈ c.active
      · rw [startEach_of_mem hi, startEach_of_mem hi, ih]
      · rcases hstart : c.startDetector sources i with ⟨c', e | ⟨⟩⟩
        · rw [startEach_of_error hi hstart, startEach_of_error hi hstart, ih]
          -- the error of a disabled detector is left out
          cases e.isDisabled with
          | true => simp
          | false => simp
        · rw [startEach_of_ok hi hstart, startEach_of_ok hi hstart, ih]

theorem stopEach_of_ok {later : List Nat} (h : c.stopDetector i = (c', .ok ())) :
    c.stopEach (i :: later) = c'.stopEach later := by
  rw [stopEach, h]

theorem stopEach_of_error {later : List Nat} {e : DetectorError}
    (h : c.stopDetector i = (c', .error e)) :
    c.stopEach (i :: later) = ((c'.stopEach later).1, (i, e) :: (c'.stopEach later).2) := by
  rw [stopEach, h]

/-- A start makes calls that start detectors, and the errors it reports are those of its calls. -/
theorem startEach_calls (sources : Sources) (l : List Nat) (c : Chain) :
    ∃ calls : List (Nat × DetectorEvent), (∀ call ∈ calls, call.2.isStart = true) ∧
      (c.startEach sources l).1.history = calls.reverse ++ c.history ∧
      (c.startEach sources l).2 = calls.filterMap (·.2.startError?) := by
  induction l generalizing c with
  | nil => exact ⟨[], by simp, rfl, rfl⟩
  | cons i later ih =>
      by_cases hi : i ∈ c.active
      · -- an active detector is passed over without a call
        rw [startEach_of_mem hi]
        exact ih c
      · rcases hstart : c.startDetector sources i with ⟨c', e | ⟨⟩⟩
        · obtain ⟨calls, hstarts, hhistory, herrors⟩ := ih c'
          refine ⟨(i, .started (.error e)) :: calls, List.forall_mem_cons.mpr ⟨rfl, hstarts⟩, ?_, ?_⟩
          · rw [startEach_of_error hi hstart, hhistory, startDetector_history hstart]
            simp [History.record]
          · rw [startEach_of_error hi hstart, herrors]
            cases hdisabled : e.isDisabled with
            | true => simp [DetectorEvent.startError?, hdisabled]
            | false => simp [DetectorEvent.startError?, hdisabled]
        · obtain ⟨calls, hstarts, hhistory, herrors⟩ := ih c'
          refine ⟨(i, .started (.ok ())) :: calls, List.forall_mem_cons.mpr ⟨rfl, hstarts⟩, ?_, ?_⟩
          · rw [startEach_of_ok hi hstart, hhistory, startDetector_history hstart]
            simp [History.record]
          · rw [startEach_of_ok hi hstart, herrors]
            simp [DetectorEvent.startError?]

/-- A stop stops each of the detectors once, in order. Those that remain are the ones whose calls
failed, with the errors of these calls. -/
theorem stopEach_calls (l : List Nat) (c : Chain) :
    ∃ calls : List (Nat × DetectorEvent),
      (∀ call ∈ calls, call.2.isStop = true) ∧ calls.map (·.1) = l ∧
      (c.stopEach l).1.history = calls.reverse ++ c.history ∧
      (c.stopEach l).2 = calls.filterMap (fun call => call.2.stopError?.map (call.1, ·)) := by
  induction l generalizing c with
  | nil => exact ⟨[], by simp, rfl, rfl, rfl⟩
  | cons i later ih =>
      rcases hstop : c.stopDetector i with ⟨c', e | ⟨⟩⟩
      · obtain ⟨calls, hstops, hnumbers, hhistory, hfailed⟩ := ih c'
        refine ⟨(i, .stopped (.error e)) :: calls, List.forall_mem_cons.mpr ⟨rfl, hstops⟩,
          by rw [List.map_cons, hnumbers], ?_, ?_⟩
        · rw [stopEach_of_error hstop, hhistory, stopDetector_history hstop]
          simp [History.record]
        · rw [stopEach_of_error hstop, hfailed]
          simp [DetectorEvent.stopError?]
      · obtain ⟨calls, hstops, hnumbers, hhistory, hfailed⟩ := ih c'
        refine ⟨(i, .stopped (.ok ())) :: calls, List.forall_mem_cons.mpr ⟨rfl, hstops⟩,
          by rw [List.map_cons, hnumbers], ?_, ?_⟩
        · rw [stopEach_of_ok hstop, hhistory, stopDetector_history hstop]
          simp [History.record]
        · rw [stopEach_of_ok hstop, hfailed]
          simp [DetectorEvent.stopError?]

/-! ### What every call keeps -/

/-- What every start of a detector that is not active keeps, the start of a chain keeps. -/
theorem startEach_induction {motive : Chain → Prop}
    (start_case : ∀ c i c' outcome, i ∉ c.active → c.startDetector sources i = (c', outcome) →
      motive c → motive c')
    (l : List Nat) (h : motive c) : motive (c.startEach sources l).1 := by
  induction l generalizing c with
  | nil => exact h
  | cons i later ih =>
      by_cases hi : i ∈ c.active
      · rw [startEach_of_mem hi]
        exact ih h
      · rcases hstart : c.startDetector sources i with ⟨c', outcome⟩
        have h' : motive c' := start_case c i c' outcome hi hstart h
        rcases outcome with e | ⟨⟩
        · rw [startEach_of_error hi hstart]
          exact ih h'
        · rw [startEach_of_ok hi hstart]
          exact ih h'

/-- What every stop of a detector keeps, stopping some of them keeps. -/
theorem stopEach_induction {motive : Chain → Prop}
    (stop_case : ∀ c i c' outcome, c.stopDetector i = (c', outcome) → motive c → motive c')
    (l : List Nat) (h : motive c) : motive (c.stopEach l).1 := by
  induction l generalizing c with
  | nil => exact h
  | cons i later ih =>
      rcases hstop : c.stopDetector i with ⟨c', outcome⟩
      have h' : motive c' := stop_case c i c' outcome hstop h
      rcases outcome with e | ⟨⟩
      · rw [stopEach_of_error hstop]
        exact ih h'
      · rw [stopEach_of_ok hstop]
        exact ih h'

/-- The parts of a chain that are not touched by starting and stopping its detectors. -/
structure SameSetup (c c' : Chain) : Prop where
  configured_eq : c'.configured = c.configured
  expiration_eq : c'.expiration = c.expiration
  tracker_eq : c'.tracker = c.tracker

theorem startEach_setup (sources : Sources) (l : List Nat) (c : Chain) :
    SameSetup c (c.startEach sources l).1 := by
  apply startEach_induction (motive := SameSetup c)
  · intro c₁ i c₂ outcome _ hstart h
    rw [startDetector_eq rfl] at hstart
    cases hstart
    exact ⟨h.configured_eq, h.expiration_eq, h.tracker_eq⟩
  · exact ⟨rfl, rfl, rfl⟩

theorem stopEach_setup (l : List Nat) (c : Chain) : SameSetup c (c.stopEach l).1 := by
  apply stopEach_induction (motive := SameSetup c)
  · intro c₁ i c₂ outcome hstop h
    cases hstop
    exact ⟨h.configured_eq, h.expiration_eq, h.tracker_eq⟩
  · exact ⟨rfl, rfl, rfl⟩

theorem firstVerdict_cons (c : Chain) (f : Flow) (i : Nat) (later : List Nat) :
    (c.firstVerdict f (i :: later)).1 = (c.ask i f).1 ∨
      (c.firstVerdict f (i :: later)).1 = ((c.ask i f).1.firstVerdict (c.ask i f).2.1 later).1 := by
  rcases hask : c.ask i f with ⟨c', f', verdict⟩
  rw [firstVerdict, hask]
  cases hverdict : verdict.isUnknown with
  | true => simp [hverdict]
  | false => simp [hverdict]

/-- What asking any of some detectors keeps, the first verdict among them keeps. -/
theorem firstVerdict_induction {motive : Chain → Prop} (l : List Nat)
    (ask_case : ∀ c f, ∀ i ∈ l, motive c → motive (c.ask i f).1) (f : Flow) (h : motive c) :
    motive (c.firstVerdict f l).1 := by
  induction l generalizing c f with
  | nil => exact h
  | cons i later ih =>
      have hask : motive (c.ask i f).1 := ask_case c f i List.mem_cons_self h
      rcases firstVerdict_cons c f i later with heq | heq
      · rw [heq]
        exact hask
      · rw [heq]
        exact ih (fun c f j hj => ask_case c f j (List.mem_cons_of_mem i hj)) _ hask

/-- What asking any of some detectors for all verdicts keeps, all their verdicts keep. -/
theorem allVerdicts_induction {motive : Chain → Prop} (l : List Nat)
    (ask_case : ∀ c f, ∀ i ∈ l, motive c → motive (c.askAll i f).1) (f : Flow) (h : motive c) :
    motive (c.allVerdicts f l).1 := by
  induction l generalizing c f with
  | nil => exact h
  | cons i later ih =>
      have hask : motive (c.askAll i f).1 := ask_case c f i List.mem_cons_self h
      exact ih (fun c f j hj => ask_case c f j (List.mem_cons_of_mem i hj))
        (c.askAll i f).2.1 hask

end Chain
end FlowScope
