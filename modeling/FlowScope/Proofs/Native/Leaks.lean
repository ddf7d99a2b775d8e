import FlowScope.Native.Session
import FlowScope.Proofs.Native.Inspectors
import FlowScope.Proofs.Run

/-!
# Inspectors that are never released

A stop releases the active inspectors. So an inspector that is up without being active is leaked: no
stop will release it. Stops leak nothing, since what cannot be released stays active. A start that
fails releases what it has started so far, and it gives up what it cannot release (`Abandons`).

What each event does to the leaked inspectors is said by `leaked_step_iff`. The main statement is
`leaked_iff_abandoned`, about all runs in which the detector is started only while it is not active.
-/

namespace FlowScope

namespace InspectorEvent

variable {events : List InspectorEvent}

theorem isUp_started_iff {code : Int} : isUp (started code :: events) = true ↔ code = 0 := by
  simp [isUp, decides]

@[simp] theorem isUp_released_true : isUp (released true :: events) = false := rfl

@[simp] theorem isUp_released_false : isUp (released false :: events) = isUp events := rfl

@[simp] theorem isUp_asked {calls : List NativeCall} :
    isUp (asked calls :: events) = isUp events := rfl

end InspectorEvent

namespace NativeDetector

variable {d : NativeDetector} {i : Nat} {l : List Nat}

/-- If each thing has one entry, the things whose entries are chosen are known by their entries. -/
theorem mem_map_filter_iff {α : Type} {entries : List (Nat × α)}
    (hnodup : (entries.map (·.1)).Nodup) (chosen : Nat × α → Bool) {entry : Nat × α} (hmem : entry ∈ entries) :
    entry.1 ∈ (entries.filter chosen).map (·.1) ↔ chosen entry = true := by
  constructor
  · intro h
    obtain ⟨other, hother, heq⟩ := List.mem_map.mp h
    obtain ⟨hmem', hchosen⟩ := List.mem_filter.mp hother
    rw [← List.inj_on_of_nodup_map hnodup hmem' hmem heq]
    exact hchosen
  · intro h
    exact List.mem_map_of_mem (List.mem_filter.mpr ⟨hmem, h⟩)

/-! ## Who is up after starts and releases -/

theorem startEach_isUp_iff (hl : l.Nodup) (hi : i ∈ l) :
    InspectorEvent.isUp ((d.startEach l).1.history.about i) = true ↔
      i ∈ (d.startEach l).2.started := by
  obtain ⟨statuses, hnumbers, hd, hstarted, -⟩ := startEach_calls l d
  rw [← hnumbers] at hl hi
  obtain ⟨⟨i, status⟩, hmem, rfl⟩ := List.mem_map.mp hi
  have habout : (d.startEach l).1.history.about i = .started status :: d.history.about i := by
    rw [hd]
    exact History.about_calls .started hl hmem d.history
  rw [habout, hstarted, mem_map_filter_iff hl _ hmem, InspectorEvent.isUp_started_iff]
  simp

/-- The events of releases with these results, the latest first. -/
def releaseEvents (results : List (Nat × Bool)) : History InspectorEvent :=
  (results.map fun call => (call.1, .released call.2)).reverse

theorem releaseEvents_cons (call : Nat × Bool) (results : List (Nat × Bool))
    (h : History InspectorEvent) :
    releaseEvents (call :: results) ++ h =
      releaseEvents results ++ h.record call.1 (.released call.2) := by
  simp [releaseEvents, History.record]

/-- Releasing inspectors, by the results. -/
theorem releaseEach_results (l : List Nat) (d : NativeDetector) :
    ∃ results : List (Nat × Bool), results.map (·.1) = l ∧
      (d.releaseEach l).1 = { d with history := releaseEvents results ++ d.history } ∧
      (d.releaseEach l).2 = (results.filter (!·.2)).map (·.1) := by
  induction l generalizing d with
  | nil => exact ⟨[], rfl, rfl, rfl⟩
  | cons i l ih =>
      obtain ⟨results, hnumbers, hd, hfailed⟩ := ih (d.record i (.released (d.nextRelease i)))
      refine ⟨(i, d.nextRelease i) :: results, by rw [List.map_cons, hnumbers], ?_⟩
      rw [releaseEvents_cons]
      cases h : d.nextRelease i with
      | true =>
          rw [h] at hd hfailed
          rw [releaseEach_of_true h, List.filter_cons_of_neg (by simp)]
          exact ⟨hd, hfailed⟩
      | false =>
          rw [h] at hd hfailed
          rw [releaseEach_of_false h, List.filter_cons_of_pos (by simp)]
          exact ⟨hd, congrArg (i :: ·) hfailed⟩

theorem mem_releaseEvents_iff {results : List (Nat × Bool)} :
    (i, .released false) ∈ releaseEvents results ↔ i ∈ (results.filter (!·.2)).map (·.1) := by
  simp [releaseEvents]

theorem releaseEach_isUp_iff (hl : l.Nodup)
    (hup : ∀ i ∈ l, InspectorEvent.isUp (d.history.about i) = true) (hi : i ∈ l) :
    InspectorEvent.isUp ((d.releaseEach l).1.history.about i) = true ↔ i ∈ (d.releaseEach l).2 := by
  have hupi := hup i hi
  obtain ⟨results, hnumbers, hd, hfailed⟩ := releaseEach_results l d
  rw [← hnumbers] at hl hi
  obtain ⟨⟨i, success⟩, hmem, rfl⟩ := List.mem_map.mp hi
  -- each inspector is released once, so its release is the last thing that happened to it
  have habout : (d.releaseEach l).1.history.about i = .released success :: d.history.about i := by
    rw [hd]
    exact History.about_calls .released hl hmem d.history
  rw [habout, hfailed, mem_map_filter_iff hl _ hmem]
  cases success with
  | true => simp
  | false => simp [hupi]

/-! ## Leaks -/

/-- The inspector is up, and no stop will release it. -/
def Leaked (d : NativeDetector) (i : Nat) : Prop :=
  InspectorEvent.isUp (d.history.about i) = true ∧ i ∉ d.active

/-- If the detector is started now, it tries to release the inspector and fails. -/
def Abandons (d : NativeDetector) (i : Nat) : Prop :=
  ∃ events, d.start.1.history = events ++ d.history ∧ (i, .released false) ∈ events

theorem abandons_iff {events : History InspectorEvent}
    (h : d.start.1.history = events ++ d.history) :
    d.Abandons i ↔ (i, .released false) ∈ events := by
  constructor
  · rintro ⟨events', h', hmem⟩
    rw [List.append_cancel_right (h.symm.trans h')]
    exact hmem
  · exact fun hmem => ⟨events, h, hmem⟩

/-- What starts if no inspector fails is then active. -/
theorem start_of_no_errors (hactive : d.active = [])
    (herrors : (d.startEach d.configured).2.errors = []) :
    d.start.1 = { (d.startEach d.configured).1 with
      active := (d.startEach d.configured).2.started } := by
  by_cases hstarted : (d.startEach d.configured).2.started = []
  · obtain ⟨statuses, -, hd, -, -⟩ := startEach_calls d.configured d
    rw [start_of_none herrors hstarted, hstarted, hd, hactive]
  · rw [start_of_some herrors hstarted]

theorem not_abandons_of_no_errors (hactive : d.active = [])
    (herrors : (d.startEach d.configured).2.errors = []) : ¬ d.Abandons i := by
  obtain ⟨statuses, -, hd, -, -⟩ := startEach_calls d.configured d
  have hhistory : d.start.1.history = startEvents statuses ++ d.history := by
    rw [start_of_no_errors hactive herrors, hd]
  rw [abandons_iff hhistory]
  simp [startEvents]

/-- The inspectors given up by a start that fails are those that it could not release again. -/
theorem abandons_iff_of_errors (herrors : (d.startEach d.configured).2.errors ≠ []) :
    d.Abandons i ↔ i ∈ ((d.startEach d.configured).1.releaseEach
      (d.startEach d.configured).2.started).2 := by
  obtain ⟨statuses, -, hd, -, -⟩ := startEach_calls d.configured d
  obtain ⟨results, -, hd', hfailed⟩ := releaseEach_results (d.startEach d.configured).2.started
    (d.startEach d.configured).1
  have hhistory : d.start.1.history =
      (releaseEvents results ++ startEvents statuses) ++ d.history := by
    rw [start_of_errors herrors, hd', List.append_assoc]
    show _ ++ (d.startEach d.configured).1.history = _
    rw [hd]
  rw [abandons_iff hhistory, hfailed, ← mem_releaseEvents_iff, List.mem_append]
  simp [startEvents]

theorem active_start_of_errors (herrors : (d.startEach d.configured).2.errors ≠ []) :
    d.start.1.active = d.active := by
  obtain ⟨statuses, -, hd, -, -⟩ := startEach_calls d.configured d
  obtain ⟨releases, -, hd'⟩ := releaseEach_calls (d.startEach d.configured).2.started
    (d.startEach d.configured).1
  rw [start_of_errors herrors, hd']
  show (d.startEach d.configured).1.active = d.active
  rw [hd]

theorem leaked_start_iff_of_no_errors (h : d.Sound) (hactive : d.active = [])
    (herrors : (d.startEach d.configured).2.errors = []) :
    d.start.1.Leaked i ↔ d.Abandons i ∨ (d.Leaked i ∧ i ∉ d.configured) := by
  have hleaves := startEach_leaves d.configured h.configured_nodup h.lawful
  have hnone : ¬ d.Abandons i := not_abandons_of_no_errors hactive herrors
  have hnotactive : i ∉ d.active := by simp [hactive]
  unfold Leaked
  rw [start_of_no_errors hactive herrors]
  show InspectorEvent.isUp ((d.startEach d.configured).1.history.about i) = true ∧
    i ∉ (d.startEach d.configured).2.started ↔ _
  -- what started is active now, and what was not configured is as it was
  by_cases hi : i ∈ d.configured
  · rw [startEach_isUp_iff h.configured_nodup hi]
    grind
  · have hi' : i ∉ (d.startEach d.configured).2.started :=
      fun hmem => hi (hleaves.sublist.subset hmem)
    rw [hleaves.about_eq i hi]
    grind

theorem leaked_start_iff_of_errors (h : d.Sound) (hactive : d.active = [])
    (herrors : (d.startEach d.configured).2.errors ≠ []) :
    d.start.1.Leaked i ↔ d.Abandons i ∨ (d.Leaked i ∧ i ∉ d.configured) := by
  have hleaves := startEach_leaves d.configured h.configured_nodup h.lawful
  have hnodup := hleaves.sublist.nodup h.configured_nodup
  have hreleased := releaseEach_leaves _ hnodup hleaves.isUp hleaves.lawful
  have hnotactive : i ∉ d.active := by simp [hactive]
  have hleaked : d.start.1.Leaked i ↔ InspectorEvent.isUp (d.start.1.history.about i) = true :=
    and_iff_left (by rw [active_start_of_errors herrors]; exact hnotactive)
  rw [hleaked, abandons_iff_of_errors herrors, start_of_errors herrors]
  by_cases hstarted : i ∈ (d.startEach d.configured).2.started
  · -- it started and was released again, or not
    have hi : i ∈ d.configured := hleaves.sublist.subset hstarted
    rw [releaseEach_isUp_iff hnodup hleaves.isUp hstarted]
    grind
  · have hi' := mt (hreleased.sublist.subset ·) hstarted
    rw [hreleased.about_eq i hstarted]
    by_cases hi : i ∈ d.configured
    · rw [startEach_isUp_iff h.configured_nodup hi]
      grind
    · rw [hleaves.about_eq i hi]
      unfold Leaked
      grind

theorem leaked_start_iff (h : d.Sound) (hactive : d.active = []) :
    d.start.1.Leaked i ↔ d.Abandons i ∨ (d.Leaked i ∧ i ∉ d.configured) := by
  by_cases herrors : (d.startEach d.configured).2.errors = []
  · exact leaked_start_iff_of_no_errors h hactive herrors
  · exact leaked_start_iff_of_errors h hactive herrors

/-- A stop leaves nothing up that is not active, unless it was so before. -/
theorem leaked_stop_iff (h : d.Sound) : d.stop.1.Leaked i ↔ d.Leaked i := by
  have hleaves := releaseEach_leaves d.active h.active_nodup h.isUp h.lawful
  unfold Leaked
  rw [stop_fst]
  show InspectorEvent.isUp ((d.releaseEach d.active).1.history.about i) = true ∧
    i ∉ (d.releaseEach d.active).2 ↔ _
  by_cases hi : i ∈ d.active
  · rw [releaseEach_isUp_iff h.active_nodup h.isUp hi]
    grind
  · have hi' := mt (hleaves.sublist.subset ·) hi
    rw [hleaves.about_eq i hi]
    grind

/-! ### Asking -/

theorem isUp_askInspector (d : NativeDetector) (j : Nat) (packets : List Packet) (i : Nat) :
    InspectorEvent.isUp ((d.askInspector j packets).1.history.about i) =
      InspectorEvent.isUp (d.history.about i) := by
  show InspectorEvent.isUp ((d.history.record j (.asked _)).about i) = _
  rw [History.about_record]
  split
  · exact InspectorEvent.isUp_asked
  · rfl

theorem firstAnswer_keeps (packets : List Packet) (l : List Nat) (d : NativeDetector) :
    (d.firstAnswer packets l).1.active = d.active ∧
      ∀ i, InspectorEvent.isUp ((d.firstAnswer packets l).1.history.about i) =
        InspectorEvent.isUp (d.history.about i) := by
  induction l generalizing d with
  | nil => exact ⟨rfl, fun _ => rfl⟩
  | cons j l ih =>
      have hask := isUp_askInspector d j packets
      obtain ⟨hactive, hup⟩ := ih (d.askInspector j packets).1
      rcases firstAnswer_cons d packets j l with heq | heq
      · rw [heq]
        exact ⟨rfl, hask⟩
      · rw [heq]
        exact ⟨hactive, fun i => (hup i).trans (hask i)⟩

theorem allAnswers_keeps (packets : List Packet) (l : List Nat) (d : NativeDetector) :
    (d.allAnswers packets l).1.active = d.active ∧
      ∀ i, InspectorEvent.isUp ((d.allAnswers packets l).1.history.about i) =
        InspectorEvent.isUp (d.history.about i) := by
  induction l generalizing d with
  | nil => exact ⟨rfl, fun _ => rfl⟩
  | cons j l ih =>
      have hask := isUp_askInspector d j packets
      obtain ⟨hactive, hup⟩ := ih (d.askInspector j packets).1
      rw [allAnswers_cons]
      exact ⟨hactive, fun i => (hup i).trans (hask i)⟩

theorem leaked_judge_iff (d : NativeDetector) (f : Flow) : (d.judge f).1.Leaked i ↔ d.Leaked i := by
  obtain ⟨hactive, hup⟩ := firstAnswer_keeps f.packets d.active d
  unfold Leaked
  show InspectorEvent.isUp ((d.firstAnswer f.packets d.active).1.history.about i) = true ∧
    i ∉ (d.firstAnswer f.packets d.active).1.active ↔ _
  rw [hup, hactive]

theorem leaked_judgeAll_iff (d : NativeDetector) (f : Flow) :
    (d.judgeAll f).1.Leaked i ↔ d.Leaked i := by
  obtain ⟨hactive, hup⟩ := allAnswers_keeps f.packets d.active d
  unfold Leaked
  show InspectorEvent.isUp ((d.allAnswers f.packets d.active).1.history.about i) = true ∧
    i ∉ (d.allAnswers f.packets d.active).1.active ↔ _
  rw [hup, hactive]

end NativeDetector

/-! ## Runs -/

namespace NativeSession

open NativeDetector

variable {s : NativeSession} {event : NativeEvent} {events : List NativeEvent} {i : Nat}

/-- The detector is started only while it is not active, and each inspector is configured once. -/
def Proper (s : NativeSession) : NativeEvent → Prop
  | .start => s.isActive = false
  | .configure inspectors => inspectors.Nodup
  | _ => True

structure Held (s : NativeSession) : Prop where
  sound : s.detector.Sound
  active_eq_nil : s.isActive = false → s.detector.active = []

theorem held_step (hproper : s.Proper event) (h : s.Held) : (s.step event).1.Held := by
  cases event with
  | start =>
      obtain ⟨hsound, hfailed⟩ := h.sound.start (h.active_eq_nil hproper)
      refine ⟨hsound, fun hinactive => hfailed ?_⟩
      intro hok
      have hinactive : (s.detector.start.2.isOk || s.isActive) = false := hinactive
      rw [hok] at hinactive
      cases hinactive
  | stop =>
      obtain ⟨hsound, hstopped⟩ := h.sound.stop
      refine ⟨hsound, fun hinactive => ?_⟩
      have hinactive : (!s.detector.stop.2.isOk && s.isActive) = false := hinactive
      cases hresult : s.detector.stop.2 with
      | ok u => exact hstopped hresult
      | error e =>
          rw [hresult] at hinactive
          have hnil := h.active_eq_nil hinactive
          show s.detector.stop.1.active = []
          rw [stop_fst, hnil]
          rfl
  | configure inspectors => exact ⟨h.sound.configure hproper, h.active_eq_nil⟩
  | judge f =>
      obtain ⟨hsound, hactive⟩ := h.sound.judge f
      exact ⟨hsound, fun hinactive => hactive.trans (h.active_eq_nil hinactive)⟩
  | judgeAll f =>
      obtain ⟨hsound, hactive⟩ := h.sound.judgeAll f
      exact ⟨hsound, fun hinactive => hactive.trans (h.active_eq_nil hinactive)⟩

/-- What an event does to the leaked inspectors: a start gives some up, and takes up those that it is
for again. -/
theorem leaked_step_iff (hproper : s.Proper event) (h : s.Held) :
    (s.step event).1.detector.Leaked i ↔ (event = .start ∧ s.detector.Abandons i) ∨
      (s.detector.Leaked i ∧ (event = .start → i ∉ s.detector.configured)) := by
  have hkept : ∀ {d : NativeDetector}, (d.Leaked i ↔ s.detector.Leaked i) → event ≠ .start →
      (d.Leaked i ↔ (event = .start ∧ s.detector.Abandons i) ∨
        (s.detector.Leaked i ∧ (event = .start → i ∉ s.detector.configured))) := by
    intro d hiff hne
    grind
  cases event with
  | start =>
      have hiff := leaked_start_iff (i := i) h.sound (h.active_eq_nil hproper)
      have hiff : (s.step .start).1.detector.Leaked i ↔ _ := hiff
      simpa using hiff
  | stop => exact hkept (leaked_stop_iff h.sound) nofun
  | configure inspectors => exact hkept Iff.rfl nofun
  | judge f => exact hkept (leaked_judge_iff _ f) nofun
  | judgeAll f => exact hkept (leaked_judgeAll_iff _ f) nofun

/-- No start of the run is for the inspector. -/
def LeftAlone (s : NativeSession) (events : List NativeEvent) (i : Nat) : Prop :=
  Always step (fun s event => event = .start → i ∉ s.detector.configured) s events

/-- A start of the run gave the inspector up, and none since was for it. -/
def Abandoned (s : NativeSession) (events : List NativeEvent) (i : Nat) : Prop :=
  ∃ first later, events = first ++ .start :: later ∧ (after step s first).detector.Abandons i ∧
    ((after step s first).step .start).1.LeftAlone later i

theorem abandoned_iff_since :
    s.Abandoned events i ↔ Since step (fun s event => event = .start ∧ s.detector.Abandons i)
      (fun s event => event = .start → i ∉ s.detector.configured) s events := by
  constructor
  · rintro ⟨first, later, hsplit, habandons, hleft⟩
    exact ⟨first, .start, later, hsplit, ⟨rfl, habandons⟩, hleft⟩
  · rintro ⟨first, event, later, hsplit, ⟨rfl, habandons⟩, hleft⟩
    exact ⟨first, later, hsplit, habandons, hleft⟩

/-- After a run, the leaked inspectors are those that it gave up, and those of before. -/
theorem leaked_after_iff (hproper : Always step Proper s events) (h : s.Held) :
    (after step s events).detector.Leaked i ↔
      s.Abandoned events i ∨ (s.detector.Leaked i ∧ s.LeftAlone events i) := by
  have hheld : Always step (fun s _ => s.Held) s events :=
    hproper.keeping (fun _ _ hevent h => held_step hevent h) h
  rw [abandoned_iff_since, LeftAlone]
  refine after_iff_since (R := fun s : NativeSession => s.detector.Leaked i) ?_
  intro first event later hsplit
  exact leaked_step_iff (hproper first event later hsplit) (hheld first event later hsplit)

/-- **What is leaked, and why.** After any run of a new detector, with each inspector configured once,
in which it is started only while it is not active:

* the active inspectors are up, and a stop tries to release each of them and keeps those that it could
  not release;
* an inspector that is up is not active exactly if some start failed and could not release it again,
  and no start since was for it;
* so if no start gives an inspector up, those that are up are the active ones. -/
theorem leaked_iff_abandoned (pool : Array Inspector) (configured : List Nat)
    (events : List NativeEvent) (hconfigured : configured.Nodup)
    (hproper : Always step Proper { detector := { pool, configured } } events) :
    let new : NativeSession := { detector := { pool, configured } }
    let s := after step new events
    (∀ i ∈ s.detector.active, InspectorEvent.isUp (s.detector.history.about i) = true) ∧
    (∃ results : List (Nat × Bool), results.map (·.1) = s.detector.active ∧
      (s.step .stop).1.detector.history = releaseEvents results ++ s.detector.history ∧
      (s.step .stop).1.detector.active = (results.filter (!·.2)).map (·.1)) ∧
    (∀ i, (InspectorEvent.isUp (s.detector.history.about i) = true ∧ i ∉ s.detector.active) ↔
      new.Abandoned events i) ∧
    ((∀ first later, events = first ++ .start :: later →
        ∀ i, ¬ (after step new first).detector.Abandons i) →
      ∀ i, InspectorEvent.isUp (s.detector.history.about i) = true ↔ i ∈ s.detector.active) := by
  intro new s
  have hnew : new.Held := by
    refine ⟨⟨hconfigured, List.nodup_nil, ?_, History.lawful_nil _⟩, fun _ => rfl⟩
    simp [new]
  have hup : s.Held :=
    after_induction_of_always (fun _ _ hevent h => held_step hevent h) hproper hnew
  -- nothing has leaked at first, so what has leaked since was abandoned by a start
  have hleaked : ∀ i, s.detector.Leaked i ↔ new.Abandoned events i := by
    intro i
    have hnone : ¬ new.detector.Leaked i := by
      simp [Leaked, new, History.about, InspectorEvent.isUp]
    rw [leaked_after_iff hproper hnew]
    grind
  refine ⟨hup.sound.isUp, ?_, hleaked, ?_⟩
  · obtain ⟨results, hnumbers, hd, hfailed⟩ := releaseEach_results s.detector.active s.detector
    refine ⟨results, hnumbers, ?_, ?_⟩
    · show s.detector.stop.1.history = _
      rw [stop_fst, hd]
    · show s.detector.stop.1.active = _
      rw [stop_fst, hfailed]
  · intro hnone i
    have hkept : ¬ new.Abandoned events i := by
      rintro ⟨first, later, hsplit, habandons, -⟩
      exact hnone first later hsplit i habandons
    have hiff := hleaked i
    have hactive := hup.sound.isUp i
    unfold Leaked at hiff
    grind

/-- An inspector that starts and cannot be released. -/
def clinging : Inspector :=
  { name := "clinging"
    status := fun _ => 0
    releases := fun _ => false
    engine := .protoident none }

/-- An inspector that does not start. -/
def broken : Inspector :=
  { name := "broken"
    status := fun _ => -3
    releases := fun _ => true
    engine := .protoident none }

/-- What clings is kept active by stops, if nothing else goes wrong. -/
theorem active_of_clinging :
    let new : NativeSession := { detector := { pool := #[clinging], configured := [0] } }
    let s := after step new [.start, .stop, .stop]
    Always step Proper new [.start, .stop, .stop] ∧ s.detector.active = [0] ∧
      ∀ i, InspectorEvent.isUp (s.detector.history.about i) = true ↔ i ∈ s.detector.active := by
  intro new s
  have hproper : Always step Proper new [.start, .stop, .stop] :=
    always_cons_iff.mpr ⟨rfl, always_cons_iff.mpr ⟨trivial, always_cons_iff.mpr
      ⟨trivial, always_nil⟩⟩⟩
  -- the only start has no failure to roll back
  have hnone : Always step (fun s event => event = .start → ∀ i, ¬ s.detector.Abandons i) new
      [.start, .stop, .stop] := by
    have hhistory : new.detector.start.1.history = [(0, .started 0)] ++ new.detector.history := rfl
    refine always_cons_iff.mpr ⟨fun _ i => ?_, always_cons_iff.mpr ⟨nofun, always_cons_iff.mpr
      ⟨nofun, always_nil⟩⟩⟩
    rw [abandons_iff hhistory]
    simp
  obtain ⟨-, -, -, hup⟩ :=
    leaked_iff_abandoned #[clinging] [0] [.start, .stop, .stop] (by decide) hproper
  exact ⟨hproper, rfl, hup fun first later hsplit => hnone first .start later hsplit rfl⟩

/-- What clings is leaked if another inspector does not start: it is up, and the next stop makes no
call. -/
theorem leaked_of_clinging :
    let new : NativeSession := { detector := { pool := #[clinging, broken], configured := [0, 1] } }
    let s := after step new [.start]
    Always step Proper new [.start] ∧
      InspectorEvent.isUp (s.detector.history.about 0) = true ∧ 0 ∉ s.detector.active ∧
      (s.step .stop).1.detector.history = s.detector.history := by
  intro new s
  have hproper : Always step Proper new [.start] := always_cons_iff.mpr ⟨rfl, always_nil⟩
  have hactive : s.detector.active = [] := rfl
  refine ⟨hproper, rfl, ?_, rfl⟩
  rw [hactive]
  exact List.not_mem_nil

end NativeSession
end FlowScope
