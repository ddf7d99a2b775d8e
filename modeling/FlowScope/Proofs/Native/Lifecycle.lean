import FlowScope.Proofs.Chain.Lifecycle
import FlowScope.Proofs.Native.Inspectors

/-!
# Native libraries in a chain

A detector over native libraries does not see to it that it is started only while it has no active
inspectors. A chain does. The invariant `Chain.NativeAt` says of one detector of a chain that it is
sound, and that it has active inspectors only while it is active itself. Every operation of the chain
keeps it, whatever the other detectors are, so that no inspector is ever used while it is not up:
`inspectors_of_chain`.
-/

namespace FlowScope
namespace Chain

variable {c c' : Chain} {sources : Sources} {i n : Nat} {f : Flow} {d : NativeDetector}

/-- The detector with number `n` is a sound one over native libraries, and without active inspectors
unless it is active. -/
structure NativeAt (c : Chain) (n : Nat) (d : NativeDetector) : Prop where
  detector_eq : c.detector n = .native d
  sound : d.Sound
  active_eq_nil : n ∉ c.active → d.active = []

/-! ## Detectors in the pool -/

theorem detector_of_pool {x : Detector} (h : c.pool[n]? = some x) : c.detector n = x := by
  rw [detector, Array.getD_eq_getD_getElem?, h, Option.getD_some]

/-- A number that is none stands for a detector of signatures. -/
theorem lt_size_of_native (h : c.detector n = .native d) : n < c.pool.size := by
  by_contra hn
  rw [detector, Array.getD_eq_getD_getElem?, Array.getElem?_eq_none (Nat.le_of_not_lt hn)] at h
  cases h

theorem detector_setDetector_of_ne (hin : i ≠ n) (x : Detector) :
    (c.setDetector i x).detector n = c.detector n := by
  simp only [detector, setDetector, Array.getD_eq_getD_getElem?,
    Array.getElem?_setIfInBounds_ne hin]

theorem detector_setDetector_self (h : c.detector n = .native d) (x : Detector) :
    (c.setDetector n x).detector n = x := by
  simp only [detector, setDetector, Array.getD_eq_getD_getElem?,
    Array.getElem?_setIfInBounds_self_of_lt (lt_size_of_native h), Option.getD_some]

/-- Operations on the other parts of a chain keep the invariant. -/
theorem NativeAt.of_eq (h : c.NativeAt n d) (hdetector : c'.detector n = c.detector n)
    (hactive : c.active ⊆ c'.active) : c'.NativeAt n d where
  detector_eq := hdetector.trans h.detector_eq
  sound := h.sound
  active_eq_nil := fun hn => h.active_eq_nil fun hmem => hn (hactive hmem)

/-! ## Starting -/

/-- Starting the detector itself starts its inspectors. -/
theorem startDetector_native (sources : Sources) (h : c.detector n = .native d) :
    (c.startDetector sources n).2 = d.start.2 ∧
      (c.startDetector sources n).1.detector n = .native d.start.1 := by
  have hstart : (c.detector n).start sources ((c.history.about n).countP (·.isStart)) =
      (.native d.start.1, d.start.2) := by
    rw [h]
    rfl
  rw [startDetector_eq hstart]
  exact ⟨rfl, detector_setDetector_self h _⟩

theorem detector_startDetector_of_ne (sources : Sources) (hin : i ≠ n) :
    (c.startDetector sources i).1.detector n = c.detector n := by
  rcases hstart : (c.detector i).start sources ((c.history.about i).countP (·.isStart))
    with ⟨x, outcome⟩
  rw [startDetector_eq hstart]
  exact detector_setDetector_of_ne hin x

theorem NativeAt.startDetector (h : c.NativeAt n d) (hi : i ∉ c.active)
    {outcome : Except DetectorError Unit} (hstart : c.startDetector sources i = (c', outcome)) :
    ∃ d', c'.NativeAt n d' := by
  have hactive := startDetector_active hstart
  by_cases hin : i = n
  · -- It is not active yet, so it has no active inspectors to lose.
    subst hin
    obtain ⟨houtcome, hdetector⟩ := startDetector_native sources h.detector_eq
    rw [hstart] at houtcome hdetector
    have houtcome : outcome = d.start.2 := houtcome
    obtain ⟨hsound, hfailed⟩ := h.sound.start (h.active_eq_nil hi)
    refine ⟨d.start.1, hdetector, hsound, ?_⟩
    intro hn
    apply hfailed
    rintro hok
    rw [hok] at houtcome
    apply hn
    rw [hactive, houtcome]
    exact List.mem_append_right _ (List.mem_singleton_self i)
  · have hdetector := detector_startDetector_of_ne sources hin (c := c)
    rw [hstart] at hdetector
    refine ⟨d, h.of_eq hdetector ?_⟩
    intro j hj
    rw [hactive]
    split
    · exact List.mem_append_left _ hj
    · exact hj

theorem NativeAt.startEach (sources : Sources) (l : List Nat) (h : c.NativeAt n d) :
    ∃ d', (c.startEach sources l).1.NativeAt n d' := by
  apply startEach_induction (motive := fun c => ∃ d, c.NativeAt n d)
  · rintro c₁ i c₂ outcome hi hstart ⟨d', h'⟩
    exact h'.startDetector hi hstart
  · exact ⟨d, h⟩

theorem NativeAt.withTable (h : c.NativeAt n d) : c.withTable.NativeAt n d := by
  refine h.of_eq ?_ (by rw [withTable_active]; exact List.Subset.refl _)
  unfold Chain.withTable
  split <;> rfl

/-! ## Stopping -/

theorem stopDetector_native (h : c.detector n = .native d) :
    (c.stopDetector n).2 = d.stop.2 ∧ (c.stopDetector n).1.detector n = .native d.stop.1 := by
  have hstop : (c.detector n).stop ((c.history.about n).countP (·.isStop)) =
      (.native d.stop.1, d.stop.2) := by
    rw [h]
    rfl
  unfold stopDetector
  rw [hstop]
  exact ⟨rfl, detector_setDetector_self h _⟩

theorem detector_stopDetector_of_ne (hin : i ≠ n) :
    (c.stopDetector i).1.detector n = c.detector n :=
  detector_setDetector_of_ne hin _

/-- After some stops, the detector has no active inspectors if its own stops did not fail. -/
theorem stopEach_native (l : List Nat) (hdetector : c.detector n = .native d) (hsound : d.Sound) :
    ∃ d', (c.stopEach l).1.detector n = .native d' ∧ d'.Sound ∧
      (n ∉ (c.stopEach l).2.map (·.1) → n ∈ l ∨ d.active = [] → d'.active = []) := by
  induction l generalizing c d with
  | nil => exact ⟨d, hdetector, hsound, fun _ hactive => hactive.resolve_left List.not_mem_nil⟩
  | cons i later ih =>
      rcases hstop : c.stopDetector i with ⟨c', outcome⟩
      by_cases hin : i = n
      · subst hin
        obtain ⟨houtcome, hdetector'⟩ := stopDetector_native hdetector
        obtain ⟨hsound', hstopped⟩ := hsound.stop
        rw [hstop] at houtcome hdetector'
        obtain ⟨d', hd', hs', hactive'⟩ := ih hdetector' hsound'
        refine ⟨d', ?_⟩
        rcases outcome with e | ⟨⟩
        · -- it is among those that failed, and then nothing is claimed
          rw [stopEach_of_error hstop]
          exact ⟨hd', hs', fun hn => absurd List.mem_cons_self hn⟩
        · -- nothing is active from here on, however often it is stopped again
          rw [stopEach_of_ok hstop]
          exact ⟨hd', hs', fun hn _ => hactive' hn (.inr (hstopped houtcome.symm))⟩
      · have hdetector' := detector_stopDetector_of_ne hin (c := c)
        rw [hstop, hdetector] at hdetector'
        obtain ⟨d', hd', hs', hactive'⟩ := ih hdetector' hsound
        refine ⟨d', ?_⟩
        have hmem : n ∈ i :: later ∨ d.active = [] → n ∈ later ∨ d.active = [] :=
          Or.imp_left fun hn => (List.mem_cons.mp hn).resolve_left (Ne.symm hin)
        rcases outcome with e | ⟨⟩
        · rw [stopEach_of_error hstop]
          exact ⟨hd', hs', fun hn hactive =>
            hactive' (List.not_mem_of_not_mem_cons hn) (hmem hactive)⟩
        · rw [stopEach_of_ok hstop]
          exact ⟨hd', hs', fun hn hactive => hactive' hn (hmem hactive)⟩

theorem NativeAt.stop (h : c.NativeAt n d) : ∃ d', c.stop.1.NativeAt n d' := by
  have hdetector : detector { c with tracker := c.tracker.stop } n = .native d := h.detector_eq
  obtain ⟨d', hd', hsound, hactive⟩ := stopEach_native c.active hdetector h.sound
  refine ⟨d', hd', hsound, fun hn => hactive hn ?_⟩
  by_cases hmem : n ∈ c.active
  · exact .inl hmem
  · exact .inr (h.active_eq_nil hmem)

/-! ## Judging and configuring -/

theorem NativeAt.setDetector {d' : NativeDetector} (h : c.NativeAt n d) (hsound : d'.Sound)
    (hactive : d'.active = d.active) : (c.setDetector n (.native d')).NativeAt n d' where
  detector_eq := detector_setDetector_self h.detector_eq _
  sound := hsound
  active_eq_nil := fun hn => hactive.trans (h.active_eq_nil hn)

theorem NativeAt.setDetector_of_ne (h : c.NativeAt n d) (hin : i ≠ n) (x : Detector) :
    (c.setDetector i x).NativeAt n d :=
  h.of_eq (detector_setDetector_of_ne hin x) (List.Subset.refl _)

theorem NativeAt.record (h : c.NativeAt n d) (i : Nat) (event : DetectorEvent) :
    (c.record i event).NativeAt n d :=
  h.of_eq rfl (List.Subset.refl _)

theorem NativeAt.ask (h : c.NativeAt n d) (i : Nat) (f : Flow) :
    ∃ d', (c.ask i f).1.NativeAt n d' := by
  by_cases hin : i = n
  · subst hin
    obtain ⟨hsound, hactive⟩ := h.sound.judge f
    refine ⟨(d.judge f).1, ?_⟩
    unfold Chain.ask
    rw [h.detector_eq]
    exact (h.setDetector hsound hactive).record i _
  · exact ⟨d, (h.setDetector_of_ne hin _).record i _⟩

theorem NativeAt.askAll (h : c.NativeAt n d) (i : Nat) (f : Flow) :
    ∃ d', (c.askAll i f).1.NativeAt n d' := by
  by_cases hin : i = n
  · subst hin
    obtain ⟨hsound, hactive⟩ := h.sound.judgeAll f
    refine ⟨(d.judgeAll f).1, ?_⟩
    unfold Chain.askAll
    rw [h.detector_eq]
    exact (h.setDetector hsound hactive).record i _
  · exact ⟨d, (h.setDetector_of_ne hin _).record i _⟩

theorem NativeAt.firstVerdict (h : c.NativeAt n d) (f : Flow) (l : List Nat) :
    ∃ d', (c.firstVerdict f l).1.NativeAt n d' := by
  apply firstVerdict_induction (motive := fun c => ∃ d, c.NativeAt n d)
  · rintro c' f i - ⟨d', h'⟩
    exact h'.ask i f
  · exact ⟨d, h⟩

theorem NativeAt.allVerdicts (h : c.NativeAt n d) (f : Flow) (l : List Nat) :
    ∃ d', (c.allVerdicts f l).1.NativeAt n d' := by
  apply allVerdicts_induction (motive := fun c => ∃ d, c.NativeAt n d)
  · rintro c' f i - ⟨d', h'⟩
    exact h'.askAll i f
  · exact ⟨d, h⟩

theorem NativeAt.configureNative {numbers : List Nat} (h : c.NativeAt n d)
    (hnumbers : i = n → numbers.Nodup) : ∃ d', (c.configureNative i numbers).NativeAt n d' := by
  by_cases hin : i = n
  · subst hin
    refine ⟨d.configure numbers, ?_⟩
    unfold Chain.configureNative
    rw [h.detector_eq]
    exact h.setDetector (h.sound.configure (hnumbers rfl)) rfl
  · -- a number that is not of a native detector configures nothing
    refine ⟨d, ?_⟩
    unfold Chain.configureNative
    split
    · exact h.setDetector_of_ne hin _
    · exact h

end Chain

/-! ## Runs -/

namespace ChainSession

open Chain

variable {s : ChainSession} {n : Nat} {d : NativeDetector}

/-- Every event keeps the invariant, if it does not configure an inspector twice. -/
theorem nativeAt_step (event : ChainEvent) (h : s.chain.NativeAt n d)
    (hevent : ∀ numbers, event = .configureNative n numbers → numbers.Nodup) :
    ∃ d', (s.step event).1.chain.NativeAt n d' := by
  -- most events call no detector
  have hsame : ∀ {c : Chain}, c.pool = s.chain.pool → c.active = s.chain.active →
      ∃ d', c.NativeAt n d' := by
    intro c hpool hactive
    exact ⟨d, h.of_eq (by rw [detector, detector, hpool]) (hactive ▸ List.Subset.refl _)⟩
  cases event with
  | start sources =>
      show ∃ d', (s.chain.start sources).1.NativeAt n d'
      rw [start_eq]
      exact h.withTable.startEach sources _
  | stop => exact h.stop
  | configure detectors => exact hsame rfl rfl
  | configureNative detector inspectors =>
      refine h.configureNative fun hin => hevent inspectors ?_
      rw [hin]
  | setExpiration expiration => exact hsame rfl rfl
  | pass milliseconds => exact hsame rfl rfl
  | packet p =>
      obtain ⟨tracker, htracker⟩ := step_packet_chain s p
      rw [htracker]
      exact hsame rfl rfl
  | sweep => exact hsame rfl rfl
  | clear => exact hsame rfl rfl
  | judge subject =>
      cases subject with
      | tracked number =>
          obtain ⟨d', h'⟩ := h.firstVerdict (s.chain.flow number) s.chain.active
          exact ⟨d', h'.of_eq rfl (List.Subset.refl _)⟩
      | apart f => exact h.firstVerdict f s.chain.active
  | judgeAll subject =>
      cases subject with
      | tracked number =>
          obtain ⟨d', h'⟩ := h.allVerdicts (s.chain.flow number) s.chain.active
          exact ⟨d', h'.of_eq rfl (List.Subset.refl _)⟩
      | apart f => exact h.allVerdicts f s.chain.active

theorem nativeAt_after (events : List ChainEvent) (h : s.chain.NativeAt n d)
    (hevents : ∀ numbers, ChainEvent.configureNative n numbers ∈ events → numbers.Nodup) :
    ∃ d', (after step s events).chain.NativeAt n d' := by
  induction events generalizing s d with
  | nil => exact ⟨d, h⟩
  | cons event events ih =>
      obtain ⟨d', h'⟩ := nativeAt_step event h fun numbers heq =>
        hevents numbers (heq ▸ List.mem_cons_self)
      exact ih h' fun numbers hmem => hevents numbers (List.mem_cons_of_mem _ hmem)

/-- The chain at a moment when, going through what is configured, a start starts the detector with
number `n`. -/
def Starting (s : ChainSession) (sources : Sources) (n : Nat) (c : Chain) : Prop :=
  ∃ first later, s.chain.configured = first ++ n :: later ∧
    c = (s.chain.withTable.startEach sources first).1 ∧ n ∉ c.active

/-- From that moment on, the start goes on with the detectors that follow. -/
theorem Starting.start_eq {sources : Sources} {c : Chain} (h : s.Starting sources n c) :
    ∃ later, (s.chain.start sources).1 = ((c.startDetector sources n).1.startEach sources later).1 := by
  obtain ⟨first, later, hconfigured, rfl, hn⟩ := h
  refine ⟨later, ?_⟩
  rw [Chain.start_eq, hconfigured, startEach_append]
  rcases hstart : (s.chain.withTable.startEach sources first).1.startDetector sources n
    with ⟨c', e | ⟨⟩⟩
  · rw [startEach_of_error hn hstart]
  · rw [startEach_of_ok hn hstart]

/-- **The life of inspectors.** Take a chain with a new detector over native libraries among its
detectors, and a run of it in which that detector is never configured with an inspector twice. Then

* every event so far was allowed: each inspector was asked and released only while the latest status
  of a start was zero and no release had succeeded since;
* whenever a start of the chain starts the detector, the answer is told by the statuses of the
  inspectors, which are started in the order in which they are configured (`NativeDetector.Answers`),
  and nothing is active after a start that fails. -/
theorem inspectors_of_chain (pool : Array Detector) (configured : List Nat) (expiration : Option Nat)
    (now : Int) (events : List ChainEvent) (n : Nat) (inspectors : Array Inspector)
    (chosen : List Nat)
    (hpool : pool[n]? = some (.native { pool := inspectors, configured := chosen }))
    (hchosen : chosen.Nodup)
    (hevents : ∀ numbers, ChainEvent.configureNative n numbers ∈ events → numbers.Nodup) :
    let s := after step { chain := { pool, configured, expiration }, now } events
    (∃ d, s.chain.detector n = .native d ∧ d.history.Lawful InspectorEvent.Allowed) ∧
    ∀ sources c, s.Starting sources n c → ∃ d statuses,
      (∃ later, (s.step (.start sources)).1.chain =
        ((c.startDetector sources n).1.startEach sources later).1) ∧
      c.detector n = .native d ∧
      (c.startDetector sources n).1.detector n = .native d.start.1 ∧
      (c.startDetector sources n).2 = d.start.2 ∧
      statuses.map (·.1) = d.configured ∧
      (∃ releases : History InspectorEvent, (∀ call ∈ releases, call.2.isRelease = true) ∧
        d.start.1.history = releases ++ NativeDetector.startEvents statuses ++ d.history) ∧
      d.Answers statuses d.start.2 ∧
      (d.start.2 ≠ .ok () → d.start.1.active = []) := by
  intro s
  have hnew : Chain.NativeAt { pool, configured, expiration } n
      { pool := inspectors, configured := chosen } :=
    ⟨detector_of_pool hpool, ⟨hchosen, List.nodup_nil, by simp, History.lawful_nil _⟩, fun _ => rfl⟩
  obtain ⟨d, h⟩ : ∃ d, s.chain.NativeAt n d := nativeAt_after events hnew hevents
  refine ⟨⟨d, h.detector_eq, h.sound.lawful⟩, ?_⟩
  intro sources c hstarting
  have hstart := hstarting.start_eq
  -- when its turn comes, the detector is what the starts before it have left
  obtain ⟨first, -, -, rfl, hn⟩ := hstarting
  obtain ⟨d', h'⟩ := h.withTable.startEach sources first
  obtain ⟨houtcome, hdetector⟩ := startDetector_native sources h'.detector_eq
  obtain ⟨statuses, hnumbers, hanswers, hhistory⟩ := d'.start_answers
  exact ⟨d', statuses, hstart, h'.detector_eq, hdetector, houtcome, hnumbers, hhistory, hanswers,
    (h'.sound.start (h'.active_eq_nil hn)).2⟩

/-- Two inspectors, the first of which fails to start when the chain is started first. -/
theorem inspectors_of_second_start :
    let first : Inspector :=
      { name := "first"
        status := fun before => if before = 0 then 7 else 0
        releases := fun _ => true
        engine := .direct fun _ => .ok .unknown }
    let inspectors := #[first, .ndpi 0 fun _ => none]
    let pool := #[.native { pool := inspectors, configured := [0, 1] }]
    let events := [.start fun _ => none, .configureNative 0 [1, 0]]
    let s := after step { chain := { pool, configured := [0] } } events
    (pool[0]? = some (.native { pool := inspectors, configured := [0, 1] }) ∧ [0, 1].Nodup ∧
      ∀ numbers, .configureNative 0 numbers ∈ events → numbers.Nodup) ∧
    (∃ d, s.chain.detector 0 = .native d ∧ d.history.Lawful InspectorEvent.Allowed) ∧
    ∃ d statuses, s.chain.withTable.detector 0 = .native d ∧ statuses.map (·.1) = [1, 0] ∧
      d.Answers statuses (.ok ()) := by
  intro first inspectors pool events s
  have hpool : pool[0]? = some (.native { pool := inspectors, configured := [0, 1] }) := rfl
  have hchosen : [0, 1].Nodup := by decide
  have hevents : ∀ numbers, ChainEvent.configureNative 0 numbers ∈ events → numbers.Nodup := by
    intro numbers hmem
    obtain rfl : numbers = [1, 0] := by simpa [events] using hmem
    decide
  obtain ⟨hlawful, hstarts⟩ :=
    inspectors_of_chain pool [0] (some 300000) 0 events 0 inspectors [0, 1] hpool hchosen hevents
  refine ⟨⟨hpool, hchosen, hevents⟩, hlawful, ?_⟩
  obtain ⟨d', statuses, -, hd', -, -, hnumbers, -, hanswers, -⟩ :=
    hstarts (fun _ => none) s.chain.withTable ⟨[], [], rfl, rfl, by decide⟩
  -- the inspector that failed first starts on the second attempt
  have hnow : ∃ e, s.chain.withTable.detector 0 = .native e ∧ e.configured = [1, 0] ∧
      e.start.2 = .ok () := ⟨_, rfl, rfl, rfl⟩
  obtain ⟨e, he, hconfigured, hok⟩ := hnow
  obtain rfl : e = d' := Detector.native.inj (he.symm.trans hd')
  rw [hconfigured] at hnumbers
  rw [hok] at hanswers
  exact ⟨e, statuses, he, hnumbers, hanswers⟩

end ChainSession
end FlowScope
