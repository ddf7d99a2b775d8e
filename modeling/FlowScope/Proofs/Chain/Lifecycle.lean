import FlowScope.Proofs.Chain.Calls
import Mathlib.Data.List.Nodup

/-!
# The life of the detectors of a chain

The invariant of a chain (`Chain.Sound`) ties its active list to the record of all calls: a detector is
active exactly if its latest start or stop that succeeded was a start, and every call so far was
allowed at its time. Starts keep it call by call. While a stop goes on the list is not up to date, so
for stops the record alone is followed (`stopEach_up`), and the list is compared at the end.

The main statement is `lifecycle_of_detectors`. It is about all runs of a chain, over any pool of
detectors and any configured lists, with repetitions or without.
-/

namespace FlowScope
namespace Chain

variable {c c' : Chain} {sources : Sources} {i : Nat} {f : Flow}

structure Sound (c : Chain) : Prop where
  nodup : c.active.Nodup
  mem_active_iff : ∀ i, i ∈ c.active ↔ DetectorEvent.isUp (c.history.about i) = true
  lawful : c.history.Lawful DetectorEvent.Allowed

/-- Operations that touch neither the active list nor the record keep the invariant. -/
theorem Sound.of_eq (h : c.Sound) (hactive : c'.active = c.active)
    (hhistory : c'.history = c.history) : c'.Sound where
  nodup := by rw [hactive]; exact h.nodup
  mem_active_iff := by rw [hactive, hhistory]; exact h.mem_active_iff
  lawful := by rw [hhistory]; exact h.lawful

/-- Calls that change the state of no detector keep the invariant, where they are allowed. -/
theorem Sound.of_record (h : c.Sound) {event : DetectorEvent} (hactive : c'.active = c.active)
    (hhistory : c'.history = c.history.record i event)
    (hallowed : DetectorEvent.Allowed (c.history.about i) event)
    (hsame : DetectorEvent.isUp (event :: c.history.about i) = DetectorEvent.isUp (c.history.about i)) :
    c'.Sound where
  nodup := by rw [hactive]; exact h.nodup
  mem_active_iff := by
    intro j
    rw [hactive, h.mem_active_iff, hhistory, History.about_record]
    split
    next hij =>
      subst hij
      rw [hsame]
    next => rfl
  lawful := by
    rw [hhistory]
    exact History.lawful_record_iff.mpr ⟨hallowed, h.lawful⟩

/-! ## Starting -/

theorem Sound.isUp_eq_false (h : c.Sound) (hi : i ∉ c.active) :
    DetectorEvent.isUp (c.history.about i) = false := by
  rw [h.mem_active_iff] at hi
  exact Bool.eq_false_iff.mpr hi

theorem Sound.startDetector (h : c.Sound) (hi : i ∉ c.active)
    {outcome : Except DetectorError Unit} (hstart : c.startDetector sources i = (c', outcome)) :
    c'.Sound := by
  have hdown := h.isUp_eq_false hi
  have hhistory := startDetector_history hstart
  have hactive := startDetector_active hstart
  rcases outcome with e | ⟨⟩
  · -- a start that failed leaves the detector down, as it was
    exact h.of_record hactive hhistory hdown rfl
  · -- one that succeeded puts it up and at the end of the active ones
    have hactive : c'.active = c.active ++ [i] := hactive
    refine ⟨?_, ?_, ?_⟩
    · rw [hactive]
      refine List.nodup_append.mpr ⟨h.nodup, List.nodup_singleton i, ?_⟩
      intro x hx y hy
      obtain rfl := List.mem_singleton.mp hy
      exact fun hxy => hi (hxy ▸ hx)
    · intro j
      rw [hactive, hhistory, History.about_record, List.mem_append, List.mem_singleton]
      split
      next hij => simp [hij]
      next hij => simp [Ne.symm hij, h.mem_active_iff]
    · rw [hhistory]
      exact History.lawful_record_iff.mpr ⟨hdown, h.lawful⟩

theorem Sound.startEach (sources : Sources) (l : List Nat) (h : c.Sound) :
    (c.startEach sources l).1.Sound :=
  startEach_induction (fun _ _ _ _ hi hstart h => h.startDetector hi hstart) l h

/-- Starting never makes a detector inactive. -/
theorem active_subset_startEach (sources : Sources) (l : List Nat) :
    c.active ⊆ (c.startEach sources l).1.active := by
  apply startEach_induction (motive := fun c' => c.active ⊆ c'.active)
  · intro c₁ i c₂ outcome _ hstart hsub
    rw [startDetector_active hstart]
    split
    · exact fun j hj => List.mem_append_left _ (hsub hj)
    · exact hsub
  · exact List.Subset.refl _

/-- The chain that a start works on: with a table of flows, made if there was none. -/
def withTable (c : Chain) : Chain :=
  if c.tracker.isStarted then c else { c with tracker := c.tracker.start c.expiration }

@[simp] theorem withTable_active : c.withTable.active = c.active := by
  unfold withTable
  split <;> rfl

@[simp] theorem withTable_history : c.withTable.history = c.history := by
  unfold withTable
  split <;> rfl

@[simp] theorem withTable_configured : c.withTable.configured = c.configured := by
  unfold withTable
  split <;> rfl

theorem start_eq : c.start sources = c.withTable.startEach sources c.configured := by
  rw [← withTable_configured]
  rfl

theorem Sound.start (h : c.Sound) (sources : Sources) : (c.start sources).1.Sound := by
  rw [start_eq]
  exact (h.of_eq withTable_active withTable_history).startEach sources c.configured

/-! ## Stopping -/

/-- After some detectors that were up have been stopped, those up are the ones whose stops failed,
and the others. -/
theorem stopEach_up (l : List Nat) (hl : l.Nodup)
    (hup : ∀ i ∈ l, DetectorEvent.isUp (c.history.about i) = true)
    (hlawful : c.history.Lawful DetectorEvent.Allowed) :
    ((c.stopEach l).2.map (·.1)).Sublist l ∧
    (c.stopEach l).1.history.Lawful DetectorEvent.Allowed ∧
    ∀ i, DetectorEvent.isUp ((c.stopEach l).1.history.about i) = true ↔
      i ∈ (c.stopEach l).2.map (·.1) ∨
        (i ∉ l ∧ DetectorEvent.isUp (c.history.about i) = true) := by
  induction l generalizing c with
  | nil =>
      refine ⟨List.Sublist.slnil, hlawful, ?_⟩
      intro i
      simp [stopEach]
  | cons j later ih =>
      obtain ⟨hj, hlater⟩ := List.nodup_cons.mp hl
      rcases hstop : c.stopDetector j with ⟨c', outcome⟩
      have hhistory := stopDetector_history hstop
      have hlawful' : c'.history.Lawful DetectorEvent.Allowed := by
        rw [hhistory]
        exact History.lawful_record_iff.mpr ⟨hup j (by simp), hlawful⟩
      -- a stop is about one detector, and the list names no detector twice
      have hup' : ∀ i ∈ later, DetectorEvent.isUp (c'.history.about i) = true := by
        intro i hi
        have hji : j ≠ i := fun heq => hj (heq ▸ hi)
        rw [hhistory, History.about_record, if_neg hji]
        exact hup i (List.mem_cons_of_mem _ hi)
      obtain ⟨hsub, hlaw, hiff⟩ := ih hlater hup' hlawful'
      rcases outcome with e | ⟨⟩
      · rw [stopEach_of_error hstop]
        refine ⟨hsub.cons_cons j, hlaw, ?_⟩
        intro i
        rw [hiff, hhistory, History.about_record]
        by_cases hij : j = i
        · subst hij
          simp [hj, hup j (by simp)]
        · simp [hij, Ne.symm hij]
      · rw [stopEach_of_ok hstop]
        refine ⟨hsub.cons j, hlaw, ?_⟩
        intro i
        rw [hiff, hhistory, History.about_record]
        by_cases hij : j = i
        · subst hij
          simp
        · simp [hij, Ne.symm hij]

theorem Sound.stop (h : c.Sound) : c.stop.1.Sound := by
  -- Up were exactly the active ones, so of those that are up now none was left out.
  have hup : ∀ i ∈ c.active, DetectorEvent.isUp (c.history.about i) = true :=
    fun i => (h.mem_active_iff i).mp
  obtain ⟨hsub, hlaw, hiff⟩ :=
    stopEach_up (c := { c with tracker := c.tracker.stop }) c.active h.nodup hup h.lawful
  refine ⟨hsub.nodup h.nodup, ?_, hlaw⟩
  intro i
  show i ∈ (stopEach { c with tracker := c.tracker.stop } c.active).2.map (·.1) ↔ _
  rw [show c.stop.1.history = (stopEach { c with tracker := c.tracker.stop } c.active).1.history
    from rfl, hiff]
  constructor
  · intro hi
    exact .inl hi
  · rintro (hi | ⟨hi, hiup⟩)
    · exact hi
    · exact absurd ((h.mem_active_iff i).mpr hiup) hi

/-! ## Judging -/

theorem Sound.ask (h : c.Sound) (hi : i ∈ c.active) :
    (c.ask i f).1.Sound ∧ (c.askAll i f).1.Sound := by
  have hup := (h.mem_active_iff i).mp hi
  exact ⟨h.of_record rfl rfl hup rfl, h.of_record rfl rfl hup rfl⟩

/-- Asking active detectors keeps the invariant, and the active list. -/
theorem Sound.firstVerdict (h : c.Sound) (f : Flow) :
    (c.firstVerdict f c.active).1.Sound ∧ (c.firstVerdict f c.active).1.active = c.active := by
  apply firstVerdict_induction (motive := fun c' => c'.Sound ∧ c'.active = c.active)
  · rintro c' f i hi ⟨h', hactive⟩
    rw [← hactive] at hi
    exact ⟨(h'.ask hi).1, hactive⟩
  · exact ⟨h, rfl⟩

theorem Sound.allVerdicts (h : c.Sound) (f : Flow) :
    (c.allVerdicts f c.active).1.Sound ∧ (c.allVerdicts f c.active).1.active = c.active := by
  apply allVerdicts_induction (motive := fun c' => c'.Sound ∧ c'.active = c.active)
  · rintro c' f i hi ⟨h', hactive⟩
    rw [← hactive] at hi
    exact ⟨(h'.ask hi).2, hactive⟩
  · exact ⟨h, rfl⟩

end Chain

/-! ## Runs -/

namespace ChainSession

open Chain

variable {s : ChainSession} {event : ChainEvent}

/-- A packet is refused without a trace, or it is assigned. -/
theorem packet_cases (s : ChainSession) (p : Packet) :
    (s.step (.packet p) = (s, .refused .noTable) ∧
        s.chain.tracker.assign s.now p = .error .noTable) ∨
      ∃ tracker a, s.step (.packet p) = ({ s with chain := { s.chain with tracker } }, .assigned a) ∧
        s.chain.tracker.assign s.now p = .ok (tracker, a) := by
  cases hassign : s.chain.tracker.assign s.now p with
  | error cause =>
      refine .inl ⟨?_, rfl⟩
      simp only [step, Chain.assign, hassign, Except.map]
  | ok out =>
      refine .inr ⟨out.1, out.2, ?_, rfl⟩
      simp only [step, Chain.assign, hassign, Except.map]

/-- A packet concerns the tracker of the chain only. -/
theorem step_packet_chain (s : ChainSession) (p : Packet) :
    ∃ tracker, (s.step (.packet p)).1.chain = { s.chain with tracker } := by
  rcases s.packet_cases p with ⟨hstep, -⟩ | ⟨tracker, a, hstep, -⟩
  · exact ⟨s.chain.tracker, by rw [hstep]⟩
  · exact ⟨tracker, by rw [hstep]⟩

/-- Every event keeps the invariant, and none but a stop makes a detector inactive. -/
theorem sound_step (event : ChainEvent) (h : s.chain.Sound) :
    (s.step event).1.chain.Sound ∧
      (event ≠ .stop → s.chain.active ⊆ (s.step event).1.chain.active) := by
  -- most events call no detector
  have hsame : ∀ {c : Chain}, c.active = s.chain.active → c.history = s.chain.history →
      c.Sound ∧ (event ≠ .stop → s.chain.active ⊆ c.active) := by
    intro c hactive hhistory
    exact ⟨h.of_eq hactive hhistory, fun _ => hactive ▸ List.Subset.refl _⟩
  -- and judging stores the verdict with the flow, which is the tracker's
  have hjudged : ∀ {c : Chain}, c.Sound ∧ c.active = s.chain.active →
      c.Sound ∧ (event ≠ .stop → s.chain.active ⊆ c.active) := by
    rintro c ⟨hsound, hactive⟩
    exact ⟨hsound, fun _ => hactive ▸ List.Subset.refl _⟩
  cases event with
  | start sources =>
      refine ⟨h.start sources, fun _ => ?_⟩
      show s.chain.active ⊆ (s.chain.start sources).1.active
      rw [start_eq, ← withTable_active]
      exact active_subset_startEach sources _
  | stop => exact ⟨h.stop, fun hne => absurd rfl hne⟩
  | configure detectors => exact hsame rfl rfl
  | configureNative detector inspectors =>
      refine hsame (c := s.chain.configureNative detector inspectors) ?_ ?_
      all_goals
        unfold configureNative
        split <;> rfl
  | setExpiration expiration => exact hsame rfl rfl
  | pass milliseconds => exact hsame rfl rfl
  | packet p =>
      obtain ⟨tracker, htracker⟩ := step_packet_chain s p
      rw [htracker]
      exact hsame rfl rfl
  | sweep => exact hsame rfl rfl
  | clear => exact hsame rfl rfl
  | judge subject =>
      cases subject with
      | tracked number =>
          obtain ⟨hsound, hactive⟩ := h.firstVerdict (s.chain.flow number)
          exact hjudged ⟨hsound.of_eq rfl rfl, hactive⟩
      | apart f => exact hjudged (h.firstVerdict f)
  | judgeAll subject =>
      cases subject with
      | tracked number =>
          obtain ⟨hsound, hactive⟩ := h.allVerdicts (s.chain.flow number)
          exact hjudged ⟨hsound.of_eq rfl rfl, hactive⟩
      | apart f => exact hjudged (h.allVerdicts f)

theorem sound_after (h : s.chain.Sound) (events : List ChainEvent) :
    (after step s events).chain.Sound :=
  after_induction (motive := fun s : ChainSession => s.chain.Sound)
    (fun _ event h => (sound_step event h).1) h events

/-- What is active stays so until the next stop. -/
theorem active_subset_after (h : s.chain.Sound) (events : List ChainEvent)
    (hstop : ∀ event ∈ events, event ≠ .stop) :
    s.chain.active ⊆ (after step s events).chain.active := by
  induction events generalizing s with
  | nil => exact List.Subset.refl _
  | cons event events ih =>
      obtain ⟨hevent, hevents⟩ := List.forall_mem_cons.mp hstop
      obtain ⟨hsound, hsub⟩ := sound_step event h
      exact List.Subset.trans (hsub hevent) (ih hsound hevents)

/-- The calls to detectors in an event, in order: what the event adds to the record. -/
def Calls (s : ChainSession) (event : ChainEvent) (calls : List (Nat × DetectorEvent)) : Prop :=
  (s.step event).1.chain.history = calls.reverse ++ s.chain.history

theorem start_answer (s : ChainSession) (sources : Sources) :
    ∃ calls, s.Calls (.start sources) calls ∧ (∀ call ∈ calls, call.2.isStart = true) ∧
      (s.step (.start sources)).2 = .errors (calls.filterMap (·.2.startError?)) := by
  obtain ⟨calls, hstarts, hhistory, herrors⟩ :=
    startEach_calls sources s.chain.configured s.chain.withTable
  rw [withTable_history, ← start_eq] at hhistory
  rw [← start_eq] at herrors
  exact ⟨calls, hhistory, hstarts, congrArg ChainAnswer.errors herrors⟩

theorem stop_answer (s : ChainSession) :
    ∃ calls, s.Calls .stop calls ∧ (∀ call ∈ calls, call.2.isStop = true) ∧
      calls.map (·.1) = s.chain.active ∧
      (s.step .stop).2 = .errors (calls.filterMap (·.2.stopError?)) ∧
      (s.step .stop).1.chain.active =
        calls.filterMap (fun call => call.2.stopError?.map fun _ => call.1) := by
  -- errors and active detectors are both read off the stops that failed
  obtain ⟨calls, hstops, hnumbers, hhistory, hfailed⟩ :=
    stopEach_calls s.chain.active { s.chain with tracker := s.chain.tracker.stop }
  refine ⟨calls, hhistory, hstops, hnumbers, ?_, ?_⟩
  · show ChainAnswer.errors (List.map _ (stopEach _ s.chain.active).2) = _
    rw [hfailed, List.map_filterMap]
    congr 1
    refine List.filterMap_congr fun call _ => ?_
    cases call.2.stopError? <;> rfl
  · show List.map _ (stopEach _ s.chain.active).2 = _
    rw [hfailed, List.map_filterMap]
    refine List.filterMap_congr fun call _ => ?_
    cases call.2.stopError? <;> rfl

/-- **The life of the detectors.** After any run of a chain none of whose detectors had been called,

* no detector is active twice, and a detector is active exactly if its latest start or stop that
  succeeded was a start;
* every call so far was allowed: detectors were started only while not active, stopped and asked only
  while active;
* a start reports the errors of the starts it makes, in order, save those of disabled detectors;
* a stop stops every active detector once, and reports the errors of these calls, in order;
* a detector whose stop failed stays active until the next stop, whatever is configured meanwhile, and
  that stop calls it again. -/
theorem lifecycle_of_detectors (pool : Array Detector) (configured : List Nat)
    (expiration : Option Nat) (now : Int) (events : List ChainEvent) :
    let s := after step { chain := { pool, configured, expiration }, now } events
    s.chain.active.Nodup ∧
    (∀ i, i ∈ s.chain.active ↔ DetectorEvent.isUp (s.chain.history.about i) = true) ∧
    s.chain.history.Lawful DetectorEvent.Allowed ∧
    (∀ sources, ∃ calls, s.Calls (.start sources) calls ∧ (∀ call ∈ calls, call.2.isStart = true) ∧
      (s.step (.start sources)).2 = .errors (calls.filterMap (·.2.startError?))) ∧
    ∃ calls, s.Calls .stop calls ∧ (∀ call ∈ calls, call.2.isStop = true) ∧
      calls.map (·.1) = s.chain.active ∧
      (s.step .stop).2 = .errors (calls.filterMap (·.2.stopError?)) ∧
      ∀ i e, (i, .stopped (.error e)) ∈ calls →
        ∀ later, (∀ event ∈ later, event ≠ .stop) →
          let s' := after step (s.step .stop).1 later
          i ∈ s'.chain.active ∧
          ∃ calls' outcome, s'.Calls .stop calls' ∧ (i, .stopped outcome) ∈ calls' := by
  intro s
  have hnew : Chain.Sound { pool, configured, expiration } :=
    ⟨List.nodup_nil, by simp [History.about], History.lawful_nil _⟩
  have h : s.chain.Sound := sound_after hnew events
  refine ⟨h.nodup, h.mem_active_iff, h.lawful, start_answer s, ?_⟩
  obtain ⟨calls, hcalls, hstops, hnumbers, herrors, hactive⟩ := stop_answer s
  refine ⟨calls, hcalls, hstops, hnumbers, herrors, ?_⟩
  intro i e hcall later hlater s'
  -- what failed to stop is what stays active, and nothing but a stop ends that
  have hi : i ∈ (s.step .stop).1.chain.active := by
    rw [hactive]
    exact List.mem_filterMap.mpr ⟨_, hcall, rfl⟩
  have hi' : i ∈ s'.chain.active := active_subset_after (sound_step .stop h).1 later hlater hi
  refine ⟨hi', ?_⟩
  obtain ⟨calls', hcalls', hstops', hnumbers', -⟩ := stop_answer s'
  rw [← hnumbers'] at hi'
  obtain ⟨⟨j, call⟩, hmem, rfl⟩ := List.mem_map.mp hi'
  cases call with
  | stopped outcome => exact ⟨calls', outcome, hcalls', hmem⟩
  | started outcome => cases hstops' _ hmem
  | asked => cases hstops' _ hmem

/-- A detector that is configured twice and does not stop at the first try, beside one that is disabled and
one that does not start. The start reports the error of the last one only. -/
theorem lifecycle_of_flaky :
    let flaky : ScriptedDetector :=
      { name := "flaky"
        starts := fun _ => .ok ()
        stops := fun before => if before = 0 then .error (.stop "flaky" "busy") else .ok ()
        verdict := fun _ => .unknown }
    let off : ScriptedDetector :=
      { flaky with name := "off", starts := fun _ => .error (.disabled "off") }
    let down : ScriptedDetector :=
      { flaky with name := "down", starts := fun _ => .error (.start "down" "no memory") }
    let s₀ : ChainSession :=
      { chain := { pool := #[.scripted flaky, .scripted off, .scripted down]
                   configured := [0, 1, 2, 0] } }
    let s := after step s₀ [.start fun _ => none]
    let s' := after step (s.step .stop).1 [.configure [], .clear]
    (∃ calls, s₀.Calls (.start fun _ => none) calls ∧
      calls.map (·.2) = [.started (.ok ()), .started (.error (.disabled "off")),
        .started (.error (.start "down" "no memory"))] ∧
      (s₀.step (.start fun _ => none)).2 = .errors [.start "down" "no memory"]) ∧
    (∃ calls, s.Calls .stop calls ∧ (0, .stopped (.error (.stop "flaky" "busy"))) ∈ calls) ∧
      0 ∈ s'.chain.active ∧
      ∃ calls outcome, s'.Calls .stop calls ∧ (0, .stopped outcome) ∈ calls := by
  intro flaky off down s₀ s s'
  let pool : Array Detector := #[.scripted flaky, .scripted off, .scripted down]
  -- the first start, of detectors that were not called before
  obtain ⟨-, -, -, hstart, -⟩ := lifecycle_of_detectors pool [0, 1, 2, 0] (some 300000) 0 []
  obtain ⟨starts, hstarts, -, herrors⟩ := hstart fun _ => none
  have hreverse : starts.reverse = [(2, .started (.error (.start "down" "no memory"))),
      (1, .started (.error (.disabled "off"))), (0, .started (.ok ()))] :=
    List.append_cancel_right (hstarts.symm.trans rfl)
  obtain rfl := List.reverse_eq_iff.mp hreverse
  -- a stop after it, of the one that is active
  obtain ⟨-, -, -, -, calls, hcalls, -, -, -, hretry⟩ :=
    lifecycle_of_detectors pool [0, 1, 2, 0] (some 300000) 0 [.start fun _ => none]
  have hreverse : calls.reverse = [(0, .stopped (.error (.stop "flaky" "busy")))] :=
    List.append_cancel_right (hcalls.symm.trans rfl)
  have hfailed : (0, .stopped (.error (.stop "flaky" "busy"))) ∈ calls := by
    rw [← List.mem_reverse, hreverse]
    exact List.mem_singleton_self _
  have hlater : ∀ event ∈ [ChainEvent.configure [], .clear], event ≠ .stop := by simp
  exact ⟨⟨_, hstarts, rfl, herrors⟩, ⟨calls, hcalls, hfailed⟩, hretry 0 _ hfailed _ hlater⟩

end ChainSession
end FlowScope
