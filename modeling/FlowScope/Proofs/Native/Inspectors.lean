import FlowScope.Native.Detector
import FlowScope.Proofs.History
import Mathlib.Data.List.Nodup

/-!
# The life of inspectors

A detector over native libraries must use an inspector only while it is up: the latest start gave the
status zero, and no release has succeeded since (`InspectorEvent.isUp`). The invariant is
`NativeDetector.Sound`: the active inspectors are up, and every event so far was allowed. Stopping,
judging and configuring keep it in any case. Starting keeps it if no inspector is active, which is for
the owner of the detector to see to (`Sound.start`).

What a start answers is a matter of the statuses alone: `start_answers`.
-/

namespace FlowScope

namespace InspectorEvent

/-- A start, or a release that succeeded. -/
def decides : InspectorEvent → Bool
  | started _ => true
  | released success => success
  | asked _ => false

/-- The latest start gave the status zero, and no release has succeeded since. The events are given the
latest first. -/
def isUp (events : List InspectorEvent) : Bool := events.find? decides == some (started 0)

/-- The rule of use: an inspector is released and asked only while it is up. It may always be
started. -/
def Allowed (earlier : List InspectorEvent) : InspectorEvent → Prop
  | started _ => True
  | released _ => isUp earlier = true
  | asked _ => isUp earlier = true

end InspectorEvent

namespace NativeDetector

variable {d : NativeDetector} {i j : Nat} {l : List Nat}

/-! ## Starting inspectors -/

/-- The status that the next start of an inspector will give. -/
def nextStatus (d : NativeDetector) (i : Nat) : Int :=
  (d.inspector i).status ((d.history.about i).countP (·.isStart))

/-- The inspector neither started nor is disabled. -/
def Failed (status : Int) : Prop := status ≠ 0 ∧ status ≠ disabledStatus

instance (status : Int) : Decidable (Failed status) := inferInstanceAs (Decidable (_ ∧ _))

theorem startEach_of_zero (h : d.nextStatus i = 0) :
    d.startEach (i :: l) =
      (((d.record i (.started 0)).startEach l).1,
        { ((d.record i (.started 0)).startEach l).2 with
          started := i :: ((d.record i (.started 0)).startEach l).2.started }) := by
  have hstart : d.startInspector i = (d.record i (.started 0), .ok ()) := by
    show (d.record i (.started (d.nextStatus i)), InspectorError.ofStatus _ (d.nextStatus i)) = _
    rw [h]
    rfl
  rw [startEach, hstart]

theorem startEach_of_disabled (h : d.nextStatus i = disabledStatus) :
    d.startEach (i :: l) = (d.record i (.started disabledStatus)).startEach l := by
  have hstart : d.startInspector i =
      (d.record i (.started disabledStatus), .error (.disabled (d.inspector i).name)) := by
    show (d.record i (.started (d.nextStatus i)), InspectorError.ofStatus _ (d.nextStatus i)) = _
    rw [h]
    rfl
  rw [startEach, hstart]

theorem startEach_of_failed (h : Failed (d.nextStatus i)) :
    d.startEach (i :: l) =
      (((d.record i (.started (d.nextStatus i))).startEach l).1,
        { ((d.record i (.started (d.nextStatus i))).startEach l).2 with
          errors := .status (d.inspector i).name (d.nextStatus i) ::
            ((d.record i (.started (d.nextStatus i))).startEach l).2.errors }) := by
  have hstart : d.startInspector i = (d.record i (.started (d.nextStatus i)),
      .error (.status (d.inspector i).name (d.nextStatus i))) := by
    show (d.record i (.started (d.nextStatus i)), InspectorError.ofStatus _ (d.nextStatus i)) = _
    rw [InspectorError.ofStatus, if_neg h.1, if_neg h.2]
  rw [startEach, hstart]

/-- A status is zero, or that of a disabled library, or one of failure. -/
theorem status_cases (status : Int) : status = 0 ∨ status = disabledStatus ∨ Failed status := by
  by_cases hzero : status = 0
  · exact .inl hzero
  · by_cases hdisabled : status = disabledStatus
    · exact .inr (.inl hdisabled)
    · exact .inr (.inr ⟨hzero, hdisabled⟩)

/-- The error that an inspector's status stands for, if that is one of failure. -/
def statusError? (d : NativeDetector) (call : Nat × Int) : Option InspectorError :=
  if Failed call.2 then some (.status (d.inspector call.1).name call.2) else none

/-- The events of starts with these statuses, the latest first. -/
def startEvents (statuses : List (Nat × Int)) : History InspectorEvent :=
  (statuses.map fun call => (call.1, .started call.2)).reverse

theorem startEvents_cons (call : Nat × Int) (statuses : List (Nat × Int)) (h : History InspectorEvent) :
    startEvents (call :: statuses) ++ h =
      startEvents statuses ++ h.record call.1 (.started call.2) := by
  simp [startEvents, History.record]

/-- Starting inspectors, by their statuses. -/
theorem startEach_calls (l : List Nat) (d : NativeDetector) :
    ∃ statuses : List (Nat × Int), statuses.map (·.1) = l ∧
      (d.startEach l).1 = { d with history := startEvents statuses ++ d.history } ∧
      (d.startEach l).2.started = (statuses.filter (·.2 = 0)).map (·.1) ∧
      (d.startEach l).2.errors = statuses.filterMap d.statusError? := by
  induction l generalizing d with
  | nil => exact ⟨[], rfl, rfl, rfl, rfl⟩
  | cons i l ih =>
      obtain ⟨statuses, hnumbers, hd, hstarted, herrors⟩ :=
        ih (d.record i (.started (d.nextStatus i)))
      have hd : ((d.record i (.started (d.nextStatus i))).startEach l).1 =
          { d with history := startEvents ((i, d.nextStatus i) :: statuses) ++ d.history } := by
        rw [hd, startEvents_cons]
        rfl
      -- recording a start changes no inspector, so the errors are told alike before and after
      have herrors : ((d.record i (.started (d.nextStatus i))).startEach l).2.errors =
          statuses.filterMap d.statusError? := herrors
      refine ⟨(i, d.nextStatus i) :: statuses, by rw [List.map_cons, hnumbers], ?_⟩
      rcases status_cases (d.nextStatus i) with h | h | h
      · rw [startEach_of_zero h, List.filterMap_cons_none (by simp [statusError?, Failed, h]),
          List.filter_cons_of_pos (by simp [h])]
        rw [h] at hd hstarted herrors ⊢
        exact ⟨hd, congrArg (i :: ·) hstarted, herrors⟩
      · rw [startEach_of_disabled h, List.filterMap_cons_none (by simp [statusError?, Failed, h]),
          List.filter_cons_of_neg (by simp [h, disabledStatus])]
        rw [h] at hd hstarted herrors ⊢
        exact ⟨hd, hstarted, herrors⟩
      · rw [startEach_of_failed h, List.filterMap_cons_some (by simp [statusError?, h]; rfl),
          List.filter_cons_of_neg (by simp [h.1])]
        exact ⟨hd, hstarted, congrArg _ herrors⟩

/-! ## What calls leave up -/

/-- Lawful calls to the inspectors `l`, one after the other, that leave `kept` up. -/
structure Leaves (d d' : NativeDetector) (l kept : List Nat) : Prop where
  sublist : kept.Sublist l
  isUp : ∀ i ∈ kept, InspectorEvent.isUp (d'.history.about i) = true
  about_eq : ∀ i ∉ l, d'.history.about i = d.history.about i
  lawful : d'.history.Lawful InspectorEvent.Allowed

theorem Leaves.cons {d' : NativeDetector} {event : InspectorEvent} {kept : List Nat}
    (h : Leaves (d.record i event) d' l kept) : Leaves d d' (i :: l) kept where
  sublist := h.sublist.cons i
  isUp := h.isUp
  about_eq := by
    intro j hj
    rw [h.about_eq j (List.not_mem_of_not_mem_cons hj)]
    exact History.about_record_of_ne _ _ (Ne.symm (List.ne_of_not_mem_cons hj))
  lawful := h.lawful

/-- An inspector is left up if its own call leaves it up and no later one is about it. -/
theorem Leaves.cons_of_isUp {d' : NativeDetector} {event : InspectorEvent} {kept : List Nat}
    (h : Leaves (d.record i event) d' l kept) (hi : i ∉ l)
    (hup : InspectorEvent.isUp (event :: d.history.about i) = true) :
    Leaves d d' (i :: l) (i :: kept) where
  sublist := h.sublist.cons_cons i
  isUp := by
    refine List.forall_mem_cons.mpr ⟨?_, h.isUp⟩
    rw [h.about_eq i hi, show (d.record i event).history.about i = _ from
      History.about_record_self _ _ _]
    exact hup
  about_eq := h.cons.about_eq
  lawful := h.lawful

theorem startEach_leaves (l : List Nat) (hl : l.Nodup)
    (hlawful : d.history.Lawful InspectorEvent.Allowed) :
    Leaves d (d.startEach l).1 l (d.startEach l).2.started := by
  induction l generalizing d with
  | nil => exact ⟨List.Sublist.slnil, by simp [startEach], fun _ _ => rfl, hlawful⟩
  | cons i l ih =>
      obtain ⟨hi, hl⟩ := List.nodup_cons.mp hl
      have hlaw : (d.record i (.started (d.nextStatus i))).history.Lawful InspectorEvent.Allowed :=
        History.lawful_record_iff.mpr ⟨trivial, hlawful⟩
      have hleaves := ih hl hlaw
      -- of the three kinds of status, only zero leaves the inspector up
      rcases status_cases (d.nextStatus i) with h | h | h
      · rw [startEach_of_zero h]
        rw [h] at hleaves
        exact hleaves.cons_of_isUp hi rfl
      · rw [startEach_of_disabled h]
        rw [h] at hleaves
        exact hleaves.cons
      · rw [startEach_of_failed h]
        exact hleaves.cons

/-- Whether the next release of an inspector will succeed. -/
def nextRelease (d : NativeDetector) (i : Nat) : Bool :=
  (d.inspector i).releases ((d.history.about i).countP (·.isRelease))

theorem releaseEach_of_true (h : d.nextRelease i = true) :
    d.releaseEach (i :: l) = (d.record i (.released true)).releaseEach l := by
  have hrelease : d.releaseInspector i = (d.record i (.released true), true) := by
    show (d.record i (.released (d.nextRelease i)), d.nextRelease i) = _
    rw [h]
  rw [releaseEach, hrelease]
  rfl

theorem releaseEach_of_false (h : d.nextRelease i = false) :
    d.releaseEach (i :: l) = (((d.record i (.released false)).releaseEach l).1,
      i :: ((d.record i (.released false)).releaseEach l).2) := by
  have hrelease : d.releaseInspector i = (d.record i (.released false), false) := by
    show (d.record i (.released (d.nextRelease i)), d.nextRelease i) = _
    rw [h]
  rw [releaseEach, hrelease]
  rfl

/-- Of inspectors that are up, a release leaves up those that could not be released. -/
theorem releaseEach_leaves (l : List Nat) (hl : l.Nodup)
    (hup : ∀ i ∈ l, InspectorEvent.isUp (d.history.about i) = true)
    (hlawful : d.history.Lawful InspectorEvent.Allowed) :
    Leaves d (d.releaseEach l).1 l (d.releaseEach l).2 := by
  induction l generalizing d with
  | nil => exact ⟨List.Sublist.slnil, by simp [releaseEach], fun _ _ => rfl, hlawful⟩
  | cons i l ih =>
      obtain ⟨hi, hl⟩ := List.nodup_cons.mp hl
      obtain ⟨hupi, hupl⟩ := List.forall_mem_cons.mp hup
      have hleaves : ∀ success, Leaves (d.record i (.released success))
          ((d.record i (.released success)).releaseEach l).1 l
          ((d.record i (.released success)).releaseEach l).2 := by
        intro success
        refine ih hl ?_ (History.lawful_record_iff.mpr ⟨hupi, hlawful⟩)
        intro j hj
        have hij : i ≠ j := fun heq => hi (heq ▸ hj)
        -- those still to be released are other inspectors
        rw [show (d.record i (.released success)).history.about j = _ from
          History.about_record_of_ne _ _ hij]
        exact hupl j hj
      cases h : d.nextRelease i with
      | true =>
          rw [releaseEach_of_true h]
          exact (hleaves true).cons
      | false =>
          rw [releaseEach_of_false h]
          exact (hleaves false).cons_of_isUp hi hupi

/-- Releasing adds releases to the history, and changes nothing else. -/
theorem releaseEach_calls (l : List Nat) (d : NativeDetector) :
    ∃ releases : History InspectorEvent, (∀ call ∈ releases, call.2.isRelease = true) ∧
      (d.releaseEach l).1 = { d with history := releases ++ d.history } := by
  induction l generalizing d with
  | nil => exact ⟨[], by simp, rfl⟩
  | cons i l ih =>
      obtain ⟨releases, hreleases, heq⟩ := ih (d.record i (.released (d.nextRelease i)))
      refine ⟨releases ++ [(i, .released (d.nextRelease i))], ?_, ?_⟩
      · exact List.forall_mem_append.mpr ⟨hreleases, by simp [InspectorEvent.isRelease]⟩
      · rw [List.append_assoc]
        exact heq

/-! ## The invariant -/

structure Sound (d : NativeDetector) : Prop where
  configured_nodup : d.configured.Nodup
  active_nodup : d.active.Nodup
  isUp : ∀ i ∈ d.active, InspectorEvent.isUp (d.history.about i) = true
  lawful : d.history.Lawful InspectorEvent.Allowed

theorem start_of_errors (h : (d.startEach d.configured).2.errors ≠ []) :
    d.start = (((d.startEach d.configured).1.releaseEach (d.startEach d.configured).2.started).1,
      .error (.inspectors (d.startEach d.configured).2.errors)) := by
  rw [← List.isEmpty_eq_false_iff] at h
  simp only [start, h, Bool.false_eq_true, if_false]

theorem start_of_none (herrors : (d.startEach d.configured).2.errors = [])
    (hstarted : (d.startEach d.configured).2.started = []) :
    d.start = ((d.startEach d.configured).1, .error (.disabled name)) := by
  simp only [start, herrors, hstarted, List.isEmpty_nil, if_true]

theorem start_of_some (herrors : (d.startEach d.configured).2.errors = [])
    (hstarted : (d.startEach d.configured).2.started ≠ []) :
    d.start = ({ (d.startEach d.configured).1 with
      active := (d.startEach d.configured).2.started }, .ok ()) := by
  rw [← List.isEmpty_eq_false_iff] at hstarted
  simp only [start, herrors, hstarted, List.isEmpty_nil, Bool.false_eq_true, if_true, if_false]

/-- Starting while nothing is active keeps the invariant, and leaves nothing active if it fails. -/
theorem Sound.start (h : d.Sound) (hactive : d.active = []) :
    d.start.1.Sound ∧ (d.start.2 ≠ .ok () → d.start.1.active = []) := by
  have hleaves := startEach_leaves d.configured h.configured_nodup h.lawful
  have hnodup := hleaves.sublist.nodup h.configured_nodup
  obtain ⟨_, -, hd, -, -⟩ := startEach_calls d.configured d
  have hconfigured : (d.startEach d.configured).1.configured.Nodup := by
    rw [hd]
    exact h.configured_nodup
  have hactive' : (d.startEach d.configured).1.active = [] := by
    rw [hd]
    exact hactive
  by_cases herrors : (d.startEach d.configured).2.errors = []
  · by_cases hstarted : (d.startEach d.configured).2.started = []
    · rw [start_of_none herrors hstarted]
      refine ⟨⟨hconfigured, by rw [hactive']; exact List.nodup_nil, ?_, hleaves.lawful⟩,
        fun _ => hactive'⟩
      rw [hactive']
      simp
    · rw [start_of_some herrors hstarted]
      exact ⟨⟨hconfigured, hnodup, hleaves.isUp, hleaves.lawful⟩, fun hne => absurd rfl hne⟩
  · -- What could not be rolled back stays up, but it is not active.
    rw [start_of_errors herrors]
    have hreleased := releaseEach_leaves _ hnodup hleaves.isUp hleaves.lawful
    obtain ⟨releases, -, heq⟩ := releaseEach_calls (d.startEach d.configured).2.started
      (d.startEach d.configured).1
    have hlaw := hreleased.lawful
    rw [heq] at hlaw ⊢
    refine ⟨⟨hconfigured, ?_, ?_, hlaw⟩, fun _ => hactive'⟩
    · exact hactive' ▸ List.nodup_nil
    · intro i hi
      rw [show _ = [] from hactive'] at hi
      cases hi

theorem stop_fst : d.stop.1 =
    { (d.releaseEach d.active).1 with active := (d.releaseEach d.active).2 } := by
  unfold stop
  cases h : (d.releaseEach d.active).2.isEmpty with
  | true => simp only [h, if_true]
  | false => simp only [h, Bool.false_eq_true, if_false]

theorem failed_eq_nil_of_stop (h : d.stop.2 = .ok ()) : (d.releaseEach d.active).2 = [] := by
  cases hfailed : (d.releaseEach d.active).2.isEmpty with
  | true => exact List.isEmpty_iff.mp hfailed
  | false =>
      unfold stop at h
      simp only [hfailed, Bool.false_eq_true, if_false] at h
      cases h

/-- Stopping keeps the invariant, and leaves nothing active if it succeeds. -/
theorem Sound.stop (h : d.Sound) :
    d.stop.1.Sound ∧ (d.stop.2 = .ok () → d.stop.1.active = []) := by
  have hleaves := releaseEach_leaves d.active h.active_nodup h.isUp h.lawful
  obtain ⟨_, -, heq⟩ := releaseEach_calls d.active d
  have hconfigured : (d.releaseEach d.active).1.configured.Nodup := by
    rw [heq]
    exact h.configured_nodup
  rw [stop_fst]
  exact ⟨⟨hconfigured, hleaves.sublist.nodup h.active_nodup, hleaves.isUp, hleaves.lawful⟩,
    failed_eq_nil_of_stop⟩

theorem Sound.configure (h : d.Sound) (hl : l.Nodup) : (d.configure l).Sound :=
  ⟨hl, h.active_nodup, h.isUp, h.lawful⟩

/-- Asking active inspectors keeps the invariant. -/
theorem Sound.record_asked (h : d.Sound) (hi : i ∈ d.active) (calls : List NativeCall) :
    (d.record i (.asked calls)).Sound where
  configured_nodup := h.configured_nodup
  active_nodup := h.active_nodup
  isUp := by
    intro j hj
    show InspectorEvent.isUp ((d.history.record i (.asked calls)).about j) = true
    rw [History.about_record]
    split
    · exact h.isUp j hj
    · exact h.isUp j hj
  lawful := History.lawful_record_iff.mpr ⟨h.isUp i hi, h.lawful⟩

/-- The inspector's answer to a question about the packets is a known protocol. -/
def Names (d : NativeDetector) (packets : List Packet) (i : Nat) (protocol : Protocol) : Prop :=
  ((d.inspector i).engine.ask packets).answer = .ok protocol ∧ protocol.isUnknown = false

theorem firstAnswer_of_names {packets : List Packet} {protocol : Protocol}
    (h : d.Names packets i protocol) :
    d.firstAnswer packets (i :: l) =
      ((d.askInspector i packets).1, ⟨protocol, (d.inspector i).name⟩) := by
  have hask : d.askInspector i packets = ((d.askInspector i packets).1, .ok protocol) :=
    Prod.ext rfl h.1
  rw [firstAnswer, hask]
  simp only [h.2, Bool.false_eq_true, if_false]
  rfl

theorem firstAnswer_of_not_names {packets : List Packet}
    (h : ¬ ∃ protocol, d.Names packets i protocol) :
    d.firstAnswer packets (i :: l) = (d.askInspector i packets).1.firstAnswer packets l := by
  cases hanswer : ((d.inspector i).engine.ask packets).answer with
  | error e =>
      have hask : d.askInspector i packets = ((d.askInspector i packets).1, .error e) :=
        Prod.ext rfl hanswer
      rw [firstAnswer, hask]
  | ok protocol =>
      have hask : d.askInspector i packets = ((d.askInspector i packets).1, .ok protocol) :=
        Prod.ext rfl hanswer
      have hunknown : protocol.isUnknown = true := by
        by_contra hknown
        exact h ⟨protocol, hanswer, Bool.eq_false_iff.mpr hknown⟩
      rw [firstAnswer, hask]
      simp only [hunknown, if_true]

theorem firstAnswer_cons (d : NativeDetector) (packets : List Packet) (i : Nat) (l : List Nat) :
    (d.firstAnswer packets (i :: l)).1 = (d.askInspector i packets).1 ∨
      (d.firstAnswer packets (i :: l)).1 = ((d.askInspector i packets).1.firstAnswer packets l).1 := by
  by_cases h : ∃ protocol, d.Names packets i protocol
  · obtain ⟨protocol, h⟩ := h
    rw [firstAnswer_of_names h]
    exact .inl rfl
  · rw [firstAnswer_of_not_names h]
    exact .inr rfl

theorem allAnswers_cons {packets : List Packet} :
    (d.allAnswers packets (i :: l)).1 = ((d.askInspector i packets).1.allAnswers packets l).1 := by
  rcases hask : d.askInspector i packets with ⟨d', e | protocol⟩
  · rw [allAnswers, hask]
  · rw [allAnswers, hask]

theorem Sound.firstAnswer {packets : List Packet} (l : List Nat) (h : d.Sound) (hl : l ⊆ d.active) :
    (d.firstAnswer packets l).1.Sound ∧ (d.firstAnswer packets l).1.active = d.active := by
  induction l generalizing d with
  | nil => exact ⟨h, rfl⟩
  | cons i l ih =>
      obtain ⟨hi, hl⟩ := List.cons_subset.mp hl
      have hask : (d.askInspector i packets).1.Sound := h.record_asked hi _
      rcases firstAnswer_cons d packets i l with heq | heq
      · rw [heq]
        exact ⟨hask, rfl⟩
      · rw [heq]
        exact ih hask hl

theorem Sound.allAnswers {packets : List Packet} (l : List Nat) (h : d.Sound) (hl : l ⊆ d.active) :
    (d.allAnswers packets l).1.Sound ∧ (d.allAnswers packets l).1.active = d.active := by
  induction l generalizing d with
  | nil => exact ⟨h, rfl⟩
  | cons i l ih =>
      obtain ⟨hi, hl⟩ := List.cons_subset.mp hl
      rw [allAnswers_cons]
      exact ih (h.record_asked hi _) hl

theorem Sound.judge (h : d.Sound) (f : Flow) :
    (d.judge f).1.Sound ∧ (d.judge f).1.active = d.active :=
  h.firstAnswer d.active (List.Subset.refl _)

theorem Sound.judgeAll (h : d.Sound) (f : Flow) :
    (d.judgeAll f).1.Sound ∧ (d.judgeAll f).1.active = d.active :=
  h.allAnswers d.active (List.Subset.refl _)

/-! ## What a start answers -/

/-- What the answer to a start says, given the statuses of the inspectors in order: it is one of
three, and lists the failed inspectors if there are any. -/
structure Answers (d : NativeDetector) (statuses : List (Nat × Int))
    (outcome : Except DetectorError Unit) : Prop where
  ok_iff : outcome = .ok () ↔
    (∀ call ∈ statuses, ¬ Failed call.2) ∧ ∃ call ∈ statuses, call.2 = 0
  disabled_iff : outcome = .error (.disabled name) ↔ ∀ call ∈ statuses, call.2 = disabledStatus
  failed_iff : outcome = .error (.inspectors (statuses.filterMap d.statusError?)) ↔
    ∃ call ∈ statuses, Failed call.2

theorem filterMap_statusError_eq_nil_iff (d : NativeDetector) {statuses : List (Nat × Int)} :
    statuses.filterMap d.statusError? = [] ↔ ∀ call ∈ statuses, ¬ Failed call.2 := by
  rw [List.filterMap_eq_nil_iff]
  refine forall₂_congr fun call _ => ?_
  by_cases h : Failed call.2
  · simp [statusError?, h]
  · simp [statusError?, h]

/-- The three answers, by what is found among the statuses. -/
theorem answers_of_starts {statuses : List (Nat × Int)} {outcome : Except DetectorError Unit}
    (hfailed : (∃ call ∈ statuses, Failed call.2) →
      outcome = .error (.inspectors (statuses.filterMap d.statusError?)))
    (hnone : (∀ call ∈ statuses, call.2 = disabledStatus) → outcome = .error (.disabled name))
    (hsome : (∀ call ∈ statuses, ¬ Failed call.2) → (∃ call ∈ statuses, call.2 = 0) →
      outcome = .ok ()) :
    d.Answers statuses outcome := by
  -- A failure goes before all else, then comes a start; all others being disabled is what is left.
  by_cases hf : ∃ call ∈ statuses, Failed call.2
  · obtain ⟨call, hmem, hcall⟩ := hf
    rw [hfailed ⟨call, hmem, hcall⟩]
    refine ⟨iff_of_false nofun ?_, iff_of_false nofun ?_, iff_of_true rfl ⟨call, hmem, hcall⟩⟩
    · exact fun hall => hall.1 call hmem hcall
    · exact fun hall => hcall.2 (hall call hmem)
  · have hnot : ∀ call ∈ statuses, ¬ Failed call.2 := fun call hmem hcall => hf ⟨call, hmem, hcall⟩
    by_cases hz : ∃ call ∈ statuses, call.2 = 0
    · rw [hsome hnot hz]
      refine ⟨iff_of_true rfl ⟨hnot, hz⟩, iff_of_false nofun ?_, iff_of_false nofun hf⟩
      intro hall
      obtain ⟨call, hmem, hcall⟩ := hz
      exact absurd (hcall.symm.trans (hall call hmem)) (by decide)
    · have hall : ∀ call ∈ statuses, call.2 = disabledStatus := by
        intro call hmem
        rcases status_cases call.2 with h | h | h
        · exact absurd ⟨call, hmem, h⟩ hz
        · exact h
        · exact absurd h (hnot call hmem)
      rw [hnone hall]
      exact ⟨iff_of_false nofun fun h => hz h.2, iff_of_true rfl hall, iff_of_false nofun hf⟩

/-- A start starts the configured inspectors in order, and then releases some if it fails. -/
theorem start_answers (d : NativeDetector) :
    ∃ statuses, statuses.map (·.1) = d.configured ∧ d.Answers statuses d.start.2 ∧
      ∃ releases : History InspectorEvent, (∀ call ∈ releases, call.2.isRelease = true) ∧
        d.start.1.history = releases ++ startEvents statuses ++ d.history := by
  obtain ⟨statuses, hnumbers, hd, hstarted, herrors⟩ := startEach_calls d.configured d
  have hhistory : (d.startEach d.configured).1.history = startEvents statuses ++ d.history := by
    rw [hd]
  -- the two lists that the outcome depends on, in terms of the statuses
  have herrors_iff : (d.startEach d.configured).2.errors = [] ↔
      ∀ call ∈ statuses, ¬ Failed call.2 := by
    rw [herrors]
    exact filterMap_statusError_eq_nil_iff d
  have hstarted_iff : (d.startEach d.configured).2.started = [] ↔
      ∀ call ∈ statuses, ¬ call.2 = 0 := by
    rw [hstarted, List.map_eq_nil_iff, List.filter_eq_nil_iff]
    simp
  refine ⟨statuses, hnumbers, answers_of_starts ?_ ?_ ?_, ?_⟩
  · rintro ⟨call, hmem, hcall⟩
    rw [start_of_errors fun h => herrors_iff.mp h call hmem hcall, herrors]
  · intro hall
    rw [start_of_none]
    · exact herrors_iff.mpr fun call hmem hcall => hcall.2 (hall call hmem)
    · refine hstarted_iff.mpr fun call hmem hcall => ?_
      exact absurd (hcall.symm.trans (hall call hmem)) (by decide)
  · rintro hnot ⟨call, hmem, hcall⟩
    rw [start_of_some (herrors_iff.mpr hnot) fun h => hstarted_iff.mp h call hmem hcall]
  · -- releases follow the starts only where some start failed
    by_cases hnot : (d.startEach d.configured).2.errors = []
    · refine ⟨[], by simp, ?_⟩
      by_cases hnone : (d.startEach d.configured).2.started = []
      · rw [start_of_none hnot hnone]
        exact hhistory
      · rw [start_of_some hnot hnone]
        exact hhistory
    · obtain ⟨releases, hreleases, heq⟩ := releaseEach_calls
        (d.startEach d.configured).2.started (d.startEach d.configured).1
      refine ⟨releases, hreleases, ?_⟩
      rw [start_of_errors hnot, heq, List.append_assoc, ← hhistory]

end NativeDetector
end FlowScope
