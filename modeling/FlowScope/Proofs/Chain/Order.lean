import FlowScope.Proofs.Chain.Lifecycle
import FlowScope.Proofs.Chain.Verdicts
import FlowScope.Proofs.Run
import Mathlib.Data.List.Sort

/-!
# The order in which detectors are asked

A chain asks its active detectors in the order of the active list. A detector joins that list at its
end when it is started, so the list is sorted by the times of the latest starts that succeeded
(`startedAt`, read off the record of calls). This is the configured order as long as the detectors
were started in that order; a detector that is started late, or again while others stayed active, is
asked after these.

Only a start makes detectors active. What the other events do is said by `Quiet`, so that each
invariant has two cases: starts, and the rest.

The main statement, `dispatch_order_of_starts`, is about all runs over a fixed list of distinct
detectors. It says when exactly the active list is in the configured order.
-/

namespace FlowScope

/-- The first of two numbers comes before the other in a list. -/
def Precedes (l : List Nat) (i j : Nat) : Prop := [i, j].Sublist l

namespace Precedes

variable {l : List Nat} {i j : Nat}

theorem mem_right (h : Precedes l i j) : j ∈ l :=
  List.Sublist.subset h (List.mem_cons_of_mem i (List.mem_singleton_self j))

theorem asymm (hl : l.Nodup) (hij : Precedes l i j) : ¬ Precedes l j i := by
  intro hji
  induction l with
  | nil => cases hij
  | cons x later ih =>
      obtain ⟨hx, hlater⟩ := List.nodup_cons.mp hl
      -- the head of the list is before all others, and it is not among them
      cases hij with
      | cons _ hij =>
          cases hji with
          | cons _ hji => exact ih hlater hij hji
          | cons_cons _ hi => exact hx (mem_right hij)
      | cons_cons _ hj =>
          cases hji with
          | cons _ hji => exact hx (mem_right hji)
          | cons_cons _ hi => exact hx (List.singleton_sublist.mp hi)

theorem total (hi : i ∈ l) (hj : j ∈ l) (hij : i ≠ j) : Precedes l i j ∨ Precedes l j i := by
  induction l with
  | nil => cases hi
  | cons x later ih =>
      rcases List.mem_cons.mp hi with rfl | hi'
      · have hj' : j ∈ later := (List.mem_cons.mp hj).resolve_left (Ne.symm hij)
        exact .inl ((List.singleton_sublist.mpr hj').cons_cons i)
      · rcases List.mem_cons.mp hj with rfl | hj'
        · exact .inr ((List.singleton_sublist.mpr hi').cons_cons j)
        · exact (ih hi' hj').imp (·.cons x) (·.cons x)

/-- A list sorted by some time is in the order of another if times follow that order. -/
theorem sublist_iff {a : List Nat} {time : Nat → Nat} (hl : l.Nodup) (ha : a ⊆ l)
    (hsorted : a.Pairwise fun i j => time i < time j) :
    a.Sublist l ↔ ∀ i ∈ a, ∀ j ∈ a, Precedes l i j → time i < time j := by
  have hpair : ∀ {i j}, [i, j].Sublist a → time i < time j :=
    List.pairwise_iff_forall_sublist.mp hsorted
  constructor
  · intro hsub i hi j hj hij
    have hne : i ≠ j := by
      rintro rfl
      exact asymm hl hij hij
    -- one of them stands before the other in the part as well
    rcases total hi hj hne with h | h
    · exact hpair h
    · exact absurd (List.Sublist.trans h hsub) (asymm hl hij)
  · intro htime
    have hanti : Std.Antisymm (Precedes l) := ⟨fun i j hij hji => absurd hji (asymm hl hij)⟩
    have hnodup : a.Nodup := hsorted.imp fun hlt heq => Nat.ne_of_lt hlt (congrArg time heq)
    -- without repetition, a list of elements in the order of another is part of it
    have horder : a.Pairwise (Precedes l) := by
      apply List.pairwise_iff_forall_sublist.mpr
      intro i j hij
      have hlt := hpair hij
      have hi : i ∈ a := hij.subset List.mem_cons_self
      have hj : j ∈ a := mem_right hij
      have hne : i ≠ j := fun heq => Nat.ne_of_lt hlt (congrArg time heq)
      rcases total (ha hi) (ha hj) hne with h | h
      · exact h
      · have hgt := htime j hj i hi h
        omega
    have hself : l.Pairwise (Precedes l) := List.pairwise_iff_forall_sublist.mpr fun h => h
    exact List.sublist_of_subperm_of_pairwise (List.subperm_of_subset hnodup ha) horder hself

end Precedes

/-! ## The time of the latest start -/

namespace DetectorEvent

/-- A start of the detector with number `i` that succeeded. -/
def isStartOf (i : Nat) (call : Nat × DetectorEvent) : Bool :=
  call.1 == i && call.2.isStart && call.2.succeeds

/-- The place of the latest start of a detector that succeeded, among all calls in their order; zero
if there was none. -/
def startedAt (h : History DetectorEvent) (i : Nat) : Nat :=
  (h.dropWhile (!isStartOf i ·)).length

theorem startedAt_le (h : History DetectorEvent) (i : Nat) : startedAt h i ≤ h.length :=
  (List.dropWhile_sublist _).length_le

theorem startedAt_append {calls h : History DetectorEvent} {i : Nat}
    (hcalls : ∀ call ∈ calls, isStartOf i call = false) :
    startedAt (calls ++ h) i = startedAt h i := by
  unfold startedAt
  rw [List.dropWhile_append_of_pos]
  intro call hmem
  simp [hcalls call hmem]

theorem startedAt_record_ok (h : History DetectorEvent) (i : Nat) :
    startedAt (h.record i (.started (.ok ()))) i = h.length + 1 := by
  simp [startedAt, History.record, isStartOf, isStart, succeeds, Except.isOk, Except.toBool]

theorem startedAt_record_of_ne (h : History DetectorEvent) {i j : Nat} (hij : i ≠ j)
    (event : DetectorEvent) : startedAt (h.record i event) j = startedAt h j := by
  show startedAt ([(i, event)] ++ h) j = _
  apply startedAt_append
  simp [isStartOf, hij]

end DetectorEvent

open DetectorEvent

namespace Chain

variable {c c' : Chain} {sources : Sources} {i : Nat} {f : Flow}

/-! ## Operations that start nothing -/

/-- Detectors were called and may have been stopped, but none was started. -/
structure Quiet (c c' : Chain) : Prop where
  active : c'.active.Sublist c.active
  configured_eq : c'.configured = c.configured
  history : ∃ calls, c'.history = calls ++ c.history ∧ ∀ call ∈ calls, ∀ i, isStartOf i call = false

namespace Quiet

theorem of_eq (hactive : c'.active = c.active) (hconfigured : c'.configured = c.configured)
    (hhistory : c'.history = c.history) : Quiet c c' :=
  ⟨by rw [hactive], hconfigured, [], hhistory, by simp⟩

theorem of_asked (hactive : c'.active = c.active) (hconfigured : c'.configured = c.configured)
    (hhistory : c'.history = c.history.record i asked) : Quiet c c' :=
  ⟨by rw [hactive], hconfigured, [(i, asked)], hhistory, by simp [isStartOf, isStart]⟩

theorem trans {c₁ c₂ c₃ : Chain} (h : Quiet c₁ c₂) (h' : Quiet c₂ c₃) : Quiet c₁ c₃ := by
  obtain ⟨calls, hhistory, hcalls⟩ := h.history
  obtain ⟨calls', hhistory', hcalls'⟩ := h'.history
  refine ⟨h'.active.trans h.active, h'.configured_eq.trans h.configured_eq, calls' ++ calls, ?_, ?_⟩
  · rw [hhistory', hhistory, List.append_assoc]
  · exact List.forall_mem_append.mpr ⟨hcalls', hcalls⟩

theorem startedAt_eq (h : Quiet c c') (i : Nat) :
    startedAt c'.history i = startedAt c.history i := by
  obtain ⟨calls, hhistory, hcalls⟩ := h.history
  rw [hhistory]
  exact startedAt_append fun call hmem => hcalls call hmem i

theorem judge (c : Chain) (f : Flow) : Quiet c (c.judge f).1 := by
  apply firstVerdict_induction (motive := Quiet c)
  · intro c' f' i _ h
    exact h.trans (of_asked rfl rfl rfl)
  · exact of_eq rfl rfl rfl

theorem judgeAll (c : Chain) (f : Flow) : Quiet c (c.judgeAll f).1 := by
  apply allVerdicts_induction (motive := Quiet c)
  · intro c' f' i _ h
    exact h.trans (of_asked rfl rfl rfl)
  · exact of_eq rfl rfl rfl

end Quiet

theorem Quiet.stop (h : c.Sound) : Quiet c c.stop.1 := by
  have hup : ∀ i ∈ c.active, DetectorEvent.isUp (c.history.about i) = true :=
    fun i => (h.mem_active_iff i).mp
  obtain ⟨hactive, -, -⟩ :=
    stopEach_up (c := { c with tracker := c.tracker.stop }) c.active h.nodup hup h.lawful
  obtain ⟨calls, hstops, -, hhistory, -⟩ :=
    stopEach_calls c.active { c with tracker := c.tracker.stop }
  refine ⟨hactive, (stopEach_setup c.active _).configured_eq, calls.reverse, hhistory, ?_⟩
  intro call hmem i
  have hstop := hstops call (List.mem_reverse.mp hmem)
  obtain ⟨n, event⟩ := call
  cases event with
  | started outcome => cases hstop
  | stopped outcome => simp [isStartOf, isStart]
  | asked => cases hstop

/-! ## Starting -/

/-- The detectors that a start makes active are asked after the others, in the order in which they were
given. -/
theorem startEach_active (sources : Sources) (l : List Nat) (c : Chain) :
    ∃ added, added.Sublist l ∧ (c.startEach sources l).1.active = c.active ++ added := by
  -- a detector is added when its turn comes, so those added are in the order of the list
  induction l generalizing c with
  | nil => exact ⟨[], List.Sublist.refl _, (List.append_nil _).symm⟩
  | cons i later ih =>
      by_cases hi : i ∈ c.active
      · obtain ⟨added, hsub, hadded⟩ := ih c
        rw [startEach_of_mem hi]
        exact ⟨added, hsub.cons i, hadded⟩
      · rcases hstart : c.startDetector sources i with ⟨c', e | ⟨⟩⟩
        · have hactive : c'.active = c.active := startDetector_active hstart
          obtain ⟨added, hsub, hadded⟩ := ih c'
          rw [startEach_of_error hi hstart]
          exact ⟨added, hsub.cons i, by rw [hadded, hactive]⟩
        · have hactive : c'.active = c.active ++ [i] := startDetector_active hstart
          obtain ⟨added, hsub, hadded⟩ := ih c'
          rw [startEach_of_ok hi hstart]
          exact ⟨i :: added, hsub.cons_cons i, by rw [hadded, hactive, List.append_assoc]; rfl⟩

/-- The active detectors were started in the order in which they are asked. -/
def InStartOrder (c : Chain) : Prop :=
  c.active.Pairwise fun i j => startedAt c.history i < startedAt c.history j

theorem InStartOrder.of_quiet (h : c.InStartOrder) (hquiet : Quiet c c') : c'.InStartOrder := by
  unfold InStartOrder
  simp only [hquiet.startedAt_eq]
  exact List.Pairwise.sublist hquiet.active h

theorem InStartOrder.startDetector (h : c.InStartOrder) (hi : i ∉ c.active)
    {outcome : Except DetectorError Unit} (hstart : c.startDetector sources i = (c', outcome)) :
    c'.InStartOrder := by
  have hhistory := startDetector_history hstart
  have hactive := startDetector_active hstart
  have hother : ∀ j ∈ c.active, startedAt c'.history j = startedAt c.history j := by
    intro j hj
    rw [hhistory]
    exact startedAt_record_of_ne _ (fun heq : i = j => hi (heq ▸ hj)) _
  have horder : c.active.Pairwise fun j k => startedAt c'.history j < startedAt c'.history k := by
    refine List.Pairwise.imp_of_mem ?_ h
    intro j k hj hk hlt
    rw [hother j hj, hother k hk]
    exact hlt
  unfold InStartOrder
  rcases outcome with e | ⟨⟩
  · have hactive : c'.active = c.active := hactive
    rw [hactive]
    exact horder
  · have hactive : c'.active = c.active ++ [i] := hactive
    -- the detector starts now, and all others have started before
    have hself : startedAt c'.history i = c.history.length + 1 := by
      rw [hhistory]
      exact startedAt_record_ok _ _
    rw [hactive, List.pairwise_append]
    refine ⟨horder, List.pairwise_singleton _ _, ?_⟩
    intro j hj k hk
    obtain rfl := List.mem_singleton.mp hk
    have hle := startedAt_le c.history j
    rw [hother j hj, hself]
    omega

theorem InStartOrder.startEach (sources : Sources) (l : List Nat) (h : c.InStartOrder) :
    (c.startEach sources l).1.InStartOrder :=
  startEach_induction (fun _ _ _ _ hi hstart h => h.startDetector hi hstart) l h

/-! ## Who is heard -/

/-- The verdict on a flow is that of the active detector that precedes all others which have a known
one. -/
def Dispatches (precedes : Nat → Nat → Prop) (c : Chain) (f : Flow) : Prop :=
  ((c.judge f).2.2 = .unknown ∧ ∀ i ∈ c.active, ((c.detector i).judge f).2.2.isUnknown = true) ∨
    ∃ i ∈ c.active, (c.judge f).2.2 = ((c.detector i).judge f).2.2 ∧
      (c.judge f).2.2.isUnknown = false ∧
      ∀ j ∈ c.active, j ≠ i → ((c.detector j).judge f).2.2.isUnknown = false → precedes i j

theorem firstKnown_cases (verdict : Nat → Verdict) (l : List Nat) :
    (Verdict.firstKnown (l.map verdict) = .unknown ∧ ∀ i ∈ l, (verdict i).isUnknown = true) ∨
      ∃ first i later, l = first ++ i :: later ∧
        Verdict.firstKnown (l.map verdict) = verdict i ∧ (verdict i).isUnknown = false ∧
        ∀ j ∈ first, (verdict j).isUnknown = true := by
  induction l with
  | nil => exact .inl ⟨rfl, by simp⟩
  | cons i l ih =>
      rw [List.map_cons, Verdict.firstKnown_cons]
      cases hi : (verdict i).isUnknown with
      | false => exact .inr ⟨[], i, l, rfl, rfl, hi, by simp⟩
      | true =>
          rcases ih with ⟨hnone, hall⟩ | ⟨first, j, later, rfl, heq, hj, hfirst⟩
          · exact .inl ⟨hnone, List.forall_mem_cons.mpr ⟨hi, hall⟩⟩
          · exact .inr ⟨i :: first, j, later, rfl, heq, hj, List.forall_mem_cons.mpr ⟨hi, hfirst⟩⟩

theorem dispatches_of_pairwise {precedes : Nat → Nat → Prop} (h : c.active.Pairwise precedes)
    (f : Flow) : Dispatches precedes c f := by
  have hverdict : ∀ i, ((c.detector i).judge f).2.2 = (c.detector i).verdict f.packets :=
    fun i => ((c.detector i).judge_eq f).2.1
  unfold Dispatches
  simp only [hverdict, judge_verdict]
  rcases firstKnown_cases (fun i => (c.detector i).verdict f.packets) c.active
    with hnone | ⟨first, i, later, hsplit, heq, hknown, hfirst⟩
  · exact .inl hnone
  · have hi : i ∈ c.active := by simp [hsplit]
    have heq : c.verdict f.packets = (c.detector i).verdict f.packets := heq
    refine .inr ⟨i, hi, heq, by rw [heq]; exact hknown, ?_⟩
    intro j hj hji hjknown
    rw [hsplit] at hj h
    -- it is not among those asked before, which had nothing to say
    have hj' : j ∈ later := by
      rcases List.mem_append.mp hj with hmem | hmem
      · have hunknown := hfirst j hmem
        simp only [hjknown, Bool.false_eq_true] at hunknown
      · exact (List.mem_cons.mp hmem).resolve_left hji
    exact (List.pairwise_cons.mp (List.pairwise_append.mp h).2.1).1 j hj'

end Chain

/-! ## Runs -/

namespace ChainSession

open Chain

variable {s : ChainSession}

/-- A chain whose active detectors are among the configured ones, which are these. -/
structure Arranged (configured : List Nat) (c : Chain) : Prop where
  sound : c.Sound
  configured_eq : c.configured = configured
  subset : c.active ⊆ configured
  inStartOrder : c.InStartOrder

theorem quiet_step {event : ChainEvent} (hevent : ∀ numbers, event ≠ .configure numbers)
    (hstart : ∀ sources, event ≠ .start sources) (h : s.chain.Sound) :
    Quiet s.chain (s.step event).1.chain := by
  -- only a start makes detectors active, and only a configuration rearranges them
  cases event with
  | start sources => exact absurd rfl (hstart sources)
  | configure numbers => exact absurd rfl (hevent numbers)
  | stop => exact .stop h
  | configureNative detector inspectors =>
      refine .of_eq ?_ ?_ ?_
      all_goals
        show _ = _
        simp only [step, configureNative]
        split <;> rfl
  | setExpiration expiration => exact .of_eq rfl rfl rfl
  | pass milliseconds => exact .of_eq rfl rfl rfl
  | packet p =>
      obtain ⟨tracker, htracker⟩ := step_packet_chain s p
      rw [htracker]
      exact .of_eq rfl rfl rfl
  | sweep => exact .of_eq rfl rfl rfl
  | clear => exact .of_eq rfl rfl rfl
  | judge subject =>
      cases subject with
      | tracked number => exact (Quiet.judge _ _).trans (.of_eq rfl rfl rfl)
      | apart f => exact .judge _ f
  | judgeAll subject =>
      cases subject with
      | tracked number => exact (Quiet.judgeAll _ _).trans (.of_eq rfl rfl rfl)
      | apart f => exact .judgeAll _ f

theorem arranged_step {configured : List Nat} {event : ChainEvent}
    (hevent : ∀ numbers, event ≠ .configure numbers) (h : Arranged configured s.chain) :
    Arranged configured (s.step event).1.chain := by
  have hsound := (sound_step event h.sound).1
  by_cases hstart : ∃ sources, event = .start sources
  · obtain ⟨sources, rfl⟩ := hstart
    have hchain : (s.step (.start sources)).1.chain =
        (s.chain.withTable.startEach sources configured).1 := by
      rw [← h.configured_eq]
      exact congrArg Prod.fst start_eq
    obtain ⟨added, hsub, hactive⟩ := startEach_active sources configured s.chain.withTable
    -- making the table is no call of a detector
    have hquiet : Quiet s.chain s.chain.withTable :=
      .of_eq withTable_active withTable_configured withTable_history
    rw [hchain] at hsound ⊢
    refine ⟨hsound, ?_, ?_, (h.inStartOrder.of_quiet hquiet).startEach sources _⟩
    · rw [(startEach_setup sources _ _).configured_eq, withTable_configured, h.configured_eq]
    · rw [hactive, withTable_active]
      exact List.append_subset.mpr ⟨h.subset, hsub.subset⟩
  · have hquiet := quiet_step hevent (fun sources heq => hstart ⟨sources, heq⟩) h.sound
    exact ⟨hsound, hquiet.configured_eq.trans h.configured_eq,
      List.Subset.trans hquiet.active.subset h.subset, h.inStartOrder.of_quiet hquiet⟩

theorem arranged_after {configured : List Nat} {events : List ChainEvent}
    (hevents : ∀ event ∈ events, ∀ numbers, event ≠ .configure numbers)
    (h : Arranged configured s.chain) : Arranged configured (after step s events).chain :=
  after_induction_of_always (motive := fun s : ChainSession => Arranged configured s.chain)
    (fun _ _ hevent h => arranged_step hevent h) (always_of_forall hevents) h

/-- The configured order is kept by all events but the start of a chain with active detectors. -/
theorem sublist_step {configured : List Nat} {event : ChainEvent}
    (hevent : ∀ numbers, event ≠ .configure numbers) (h : Arranged configured s.chain)
    (hafresh : ∀ sources, event = .start sources → s.chain.active = [])
    (hsub : s.chain.active.Sublist configured) :
    (s.step event).1.chain.active.Sublist configured := by
  by_cases hstart : ∃ sources, event = .start sources
  · obtain ⟨sources, rfl⟩ := hstart
    obtain ⟨added, hadded, hactive⟩ := startEach_active sources s.chain.configured s.chain.withTable
    rw [withTable_active, hafresh sources rfl, List.nil_append, ← start_eq] at hactive
    have hactive : (s.step (.start sources)).1.chain.active = added := hactive
    rw [hactive, ← h.configured_eq]
    exact hadded
  · have hquiet := quiet_step hevent (fun sources heq => hstart ⟨sources, heq⟩) h.sound
    exact hquiet.active.trans hsub

/-- Whenever the chain is started in the run, no detector is active. -/
def StartsAfresh (s : ChainSession) (events : List ChainEvent) : Prop :=
  Always step (fun s event => ∀ sources, event = .start sources → s.chain.active = []) s events

theorem sublist_after {configured : List Nat} {events : List ChainEvent}
    (hevents : ∀ event ∈ events, ∀ numbers, event ≠ .configure numbers)
    (h : Arranged configured s.chain) (hafresh : s.StartsAfresh events)
    (hsub : s.chain.active.Sublist configured) :
    (after step s events).chain.active.Sublist configured := by
  have hafter := after_induction_of_always
    (motive := fun s : ChainSession =>
      Arranged configured s.chain ∧ s.chain.active.Sublist configured)
    (fun s event hevent h =>
      ⟨arranged_step hevent.1 h.1, sublist_step hevent.1 h.1 hevent.2 h.2⟩)
    ((always_of_forall hevents).and hafresh) ⟨h, hsub⟩
  exact hafter.2

/-- **The order of dispatch.** After any run of a chain over a fixed list of distinct detectors, only
these are active, and

* they are in the order of their latest starts that succeeded, and the verdict on a flow is that of the
  detector that was started first among those with a known one;
* they are in the configured order exactly if their latest starts happened in that order. This holds
  if all starts of the chain were made with no detector active. Then the detector configured first is
  heard. -/
theorem dispatch_order_of_starts (pool : Array Detector) (configured : List Nat)
    (expiration : Option Nat) (now : Int) (events : List ChainEvent)
    (hconfigured : configured.Nodup)
    (hevents : ∀ event ∈ events, ∀ numbers, event ≠ .configure numbers) :
    let new : ChainSession := { chain := { pool, configured, expiration }, now }
    let chain := (after step new events).chain
    let time := startedAt chain.history
    chain.active ⊆ configured ∧ chain.active.Pairwise (time · < time ·) ∧
    (∀ f, chain.Dispatches (time · < time ·) f) ∧
    (chain.active.Sublist configured ↔
      ∀ i ∈ chain.active, ∀ j ∈ chain.active, Precedes configured i j → time i < time j) ∧
    (new.StartsAfresh events → chain.active.Sublist configured) ∧
    (chain.active.Sublist configured → ∀ f, chain.Dispatches (Precedes configured) f) := by
  intro new chain time
  have hnew : Arranged configured new.chain := by
    refine ⟨⟨List.nodup_nil, ?_, History.lawful_nil _⟩, rfl, List.nil_subset _, List.Pairwise.nil⟩
    intro i
    simp [new, History.about]
  have h : Arranged configured chain := arranged_after hevents hnew
  refine ⟨h.subset, h.inStartOrder, dispatches_of_pairwise h.inStartOrder,
    Precedes.sublist_iff hconfigured h.subset h.inStartOrder, ?_, ?_⟩
  · intro hafresh
    exact sublist_after hevents hnew hafresh (List.nil_sublist _)
  · intro hsub
    have hself : configured.Pairwise (Precedes configured) :=
      List.pairwise_iff_forall_sublist.mpr fun h => h
    exact dispatches_of_pairwise (hself.sublist hsub)

/-- Two detectors of which the first does not start at the first try. -/
def lateStarter : ChainSession :=
  let first : ScriptedDetector :=
    { name := "first"
      starts := fun before => if before = 0 then .error (.start "first" "down") else .ok ()
      stops := fun _ => .ok ()
      verdict := fun _ => ⟨.ssh, "first"⟩ }
  let second : ScriptedDetector :=
    { name := "second"
      starts := fun _ => .ok ()
      stops := fun _ => .ok ()
      verdict := fun _ => ⟨.dns, "second"⟩ }
  { chain := { pool := #[.scripted first, .scripted second], configured := [0, 1] } }

/-- When everything is stopped and started again, the configured order is restored. -/
theorem dispatch_order_of_restart :
    let chain := (after step lateStarter
      [.start fun _ => none, .start fun _ => none, .stop, .start fun _ => none]).chain
    chain.active = [0, 1] ∧ ∀ f, chain.Dispatches (Precedes [0, 1]) f := by
  intro chain
  have hactive : chain.active = [0, 1] := rfl
  obtain ⟨-, -, -, -, -, hdispatches⟩ :=
    dispatch_order_of_starts lateStarter.chain.pool [0, 1] (some 300000) 0
      [.start fun _ => none, .start fun _ => none, .stop, .start fun _ => none]
      (by decide) (by simp)
  exact ⟨hactive, hdispatches (List.Sublist.refl _)⟩

/-- The detector that was started late is asked last, though it is configured first. -/
theorem late_start_is_asked_last :
    let chain := (after step lateStarter [.start fun _ => none, .start fun _ => none]).chain
    chain.configured = [0, 1] ∧ chain.active = [1, 0] ∧ ¬ chain.active.Sublist chain.configured ∧
      (chain.judge {}).2.2 = ⟨.dns, "second"⟩ ∧
      ((chain.detector 0).judge {}).2.2 = ⟨.ssh, "first"⟩ ∧
      ¬ chain.Dispatches (Precedes chain.configured) {} := by
  intro chain
  have hconfigured : chain.configured = [0, 1] := rfl
  have hactive : chain.active = [1, 0] := rfl
  have hverdict : (chain.judge {}).2.2 = ⟨.dns, "second"⟩ := rfl
  have hfirst : ((chain.detector 0).judge {}).2.2 = ⟨.ssh, "first"⟩ := rfl
  have hsecond : ((chain.detector 1).judge {}).2.2 = ⟨.dns, "second"⟩ := rfl
  refine ⟨hconfigured, hactive, ?_, hverdict, hfirst, ?_⟩
  · rw [hconfigured, hactive]
    decide
  · rintro (⟨hunknown, -⟩ | ⟨i, hi, heq, -, hlater⟩)
    · rw [hverdict] at hunknown
      cases hunknown
    · rw [hactive] at hi
      rw [hverdict] at heq
      -- the verdict is that of the second, and the first, which has one, is configured before it
      have hi : i = 1 := by
        rcases List.mem_pair.mp hi with rfl | rfl
        · rfl
        · rw [hfirst] at heq
          cases heq
      have hprecedes : Precedes chain.configured 1 0 :=
        hi ▸ hlater 0 (by rw [hactive]; decide) (by rw [hi]; decide) (by rw [hfirst]; rfl)
      rw [hconfigured] at hprecedes
      revert hprecedes
      unfold Precedes
      decide

end ChainSession
end FlowScope
