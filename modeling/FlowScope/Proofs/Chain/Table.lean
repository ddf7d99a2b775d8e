import FlowScope.Proofs.Chain.Agreement
import FlowScope.Proofs.Chain.Lifecycle

/-!
# The table of a chain and its history

Whether a chain has a table of flows, and which expiration time is in force, is read off the events so
far, whatever the detectors did when they were called:

* `Started events` — there was a start, and no stop since;
* `StartedAfter before events` — the start that came after the events `before` is the one that made the
  table that there is;
* `lastExpiration initial events` — the expiration time that is configured.

The invariant `Follows` ties them to the chain, one event at a time. The main statement is
`table_of_history`.
-/

namespace FlowScope

/-! ## What an operation of the tracker leaves of the table -/

namespace Tracker

variable {t t' : Tracker} {now : Int} {p : Packet} {a : Assigned}

/-- The expiration time of the table, if there is a table. -/
def inForce (t : Tracker) : Option (Option Nat) := t.table.map (·.expiration)

@[simp] theorem isSome_inForce : t.inForce.isSome = t.isStarted := Option.isSome_map

theorem inForce_eq_none_iff : t.inForce = none ↔ ¬ t.isStarted = true := by
  rw [← isSome_inForce]
  exact Option.not_isSome_iff_eq_none.symm

theorem Assigns.inForce_eq (h : Assigns t now p t' a) : t'.inForce = t.inForce := by
  unfold inForce
  cases h with
  | apart => rfl
  | opened hp htable => simp [htable]
  | joined hp htable => simp [htable]

@[simp] theorem inForce_sweep : (t.sweep now).1.inForce = t.inForce := by
  unfold inForce
  rw [sweep_table, Option.map_map]
  rfl

@[simp] theorem inForce_clear : t.clear.inForce = t.inForce := by
  unfold inForce clear
  rw [Option.map_map]
  rfl

/-- A packet is refused if it has a conversation and there is no table, and then only. -/
theorem assign_eq_error_iff : t.assign now p = .error .noTable ↔
    (Conversation.ofPacket? p).isSome = true ∧ t.isStarted = false := by
  constructor
  · intro h
    have hnone := table_eq_none_of_assign h
    refine ⟨?_, by rw [isStarted, hnone]; rfl⟩
    -- a packet of no conversation needs no table
    cases hp : Conversation.ofPacket? p with
    | none => simp [assign, hp] at h
    | some c => rfl
  · rintro ⟨hp, hstarted⟩
    obtain ⟨c, hp⟩ := Option.isSome_iff_exists.mp hp
    have hnone : t.table = none := by simpa [isStarted] using hstarted
    simp only [assign, hp, hnone]

end Tracker

/-! ## Histories -/

namespace ChainEvent

variable {before events : List ChainEvent} {event : ChainEvent}

/-- The chain was started, and not stopped since. -/
def Started (events : List ChainEvent) : Prop :=
  ∃ before sources since, events = before ++ .start sources :: since ∧ ∀ x ∈ since, x ≠ .stop

/-- After the first events the chain was not started. Then it was, and it has not been stopped since. -/
def StartedAfter (before events : List ChainEvent) : Prop :=
  ¬ Started before ∧
    ∃ sources since, events = before ++ .start sources :: since ∧ ∀ x ∈ since, x ≠ .stop

theorem started_snoc_iff : Started (events ++ [event]) ↔
    (∃ sources, event = .start sources) ∨ event ≠ .stop ∧ Started events := by
  constructor
  · rintro ⟨before, sources, since, hsplit, hsince⟩
    rcases snoc_eq_append_cons_iff.mp hsplit with ⟨-, rfl, -⟩ | ⟨since', hevents, rfl⟩
    · exact .inl ⟨sources, rfl⟩
    · obtain ⟨hsince, hevent⟩ := List.forall_mem_append.mp hsince
      exact .inr ⟨hevent event List.mem_cons_self, before, sources, since', hevents, hsince⟩
  · rintro (⟨sources, rfl⟩ | ⟨hevent, before, sources, since, rfl, hsince⟩)
    · exact ⟨events, sources, [], rfl, by simp⟩
    · refine ⟨before, sources, since ++ [event], by simp, ?_⟩
      exact List.forall_mem_append.mpr ⟨hsince, by simpa using hevent⟩

theorem startedAfter_snoc_iff : StartedAfter before (events ++ [event]) ↔
    (before = events ∧ ¬ Started events ∧ ∃ sources, event = .start sources) ∨
      event ≠ .stop ∧ StartedAfter before events := by
  constructor
  · rintro ⟨hbefore, sources, since, hsplit, hsince⟩
    rcases snoc_eq_append_cons_iff.mp hsplit with ⟨rfl, rfl, -⟩ | ⟨since', hevents, rfl⟩
    · exact .inl ⟨rfl, hbefore, sources, rfl⟩
    · obtain ⟨hsince, hevent⟩ := List.forall_mem_append.mp hsince
      exact .inr ⟨hevent event List.mem_cons_self, hbefore, sources, since', hevents, hsince⟩
  · rintro (⟨rfl, hbefore, sources, rfl⟩ | ⟨hevent, hbefore, sources, since, rfl, hsince⟩)
    · exact ⟨hbefore, sources, [], rfl, by simp⟩
    · refine ⟨hbefore, sources, since ++ [event], by simp, ?_⟩
      exact List.forall_mem_append.mpr ⟨hsince, by simpa using hevent⟩

theorem StartedAfter.started (h : StartedAfter before events) : Started events := by
  obtain ⟨-, hstart⟩ := h
  exact ⟨before, hstart⟩

theorem not_started_nil : ¬ Started [] := by
  rintro ⟨before, sources, since, h, -⟩
  simp at h

/-- A start made the table, the first one since the latest stop. -/
theorem exists_startedAfter (h : Started events) : ∃ before, StartedAfter before events := by
  induction events using List.reverseRecOn with
  | nil => exact absurd h not_started_nil
  | append_singleton events event ih =>
      -- the first start since the last stop is one of before, or it is this event
      by_cases hstarted : Started events
      · obtain ⟨before, hbefore⟩ := ih hstarted
        refine ⟨before, startedAfter_snoc_iff.mpr (.inr ⟨?_, hbefore⟩)⟩
        rcases started_snoc_iff.mp h with ⟨sources, rfl⟩ | ⟨hevent, -⟩
        · simp
        · exact hevent
      · rcases started_snoc_iff.mp h with hstart | ⟨-, hstarted'⟩
        · exact ⟨events, startedAfter_snoc_iff.mpr (.inl ⟨rfl, hstarted, hstart⟩)⟩
        · exact absurd hstarted' hstarted

/-- The expiration time that the event sets. -/
def expiration? : ChainEvent → Option (Option Nat)
  | setExpiration expiration => some expiration
  | _ => none

/-- The expiration time that was set last, or the one at first. -/
def lastExpiration (initial : Option Nat) (events : List ChainEvent) : Option Nat :=
  (events.filterMap expiration?).getLast?.getD initial

theorem lastExpiration_snoc (initial : Option Nat) (events : List ChainEvent) (event : ChainEvent) :
    lastExpiration initial (events ++ [event]) =
      event.expiration?.getD (lastExpiration initial events) := by
  unfold lastExpiration
  cases h : event.expiration? with
  | none => simp [h]
  | some expiration => simp [h]

end ChainEvent

/-! ## One event -/

namespace Chain

variable {c : Chain} {sources : Sources}

theorem start_tracker : (c.start sources).1.tracker = c.withTable.tracker := by
  rw [start_eq]
  exact (startEach_setup sources _ _).tracker_eq

@[simp] theorem withTable_expiration : c.withTable.expiration = c.expiration := by
  unfold withTable
  split <;> rfl

theorem withTable_of_started (h : c.tracker.isStarted = true) : c.withTable = c := by
  rw [withTable, if_pos h]

theorem withTable_inForce : c.withTable.tracker.inForce =
    some (c.tracker.inForce.getD (c.expiration.filter (· ≠ 0))) := by
  unfold withTable
  rw [← Tracker.isSome_inForce]
  cases h : c.tracker.inForce with
  | none => rfl
  | some expiration => exact h

theorem stop_tracker (c : Chain) : c.stop.1.tracker = { c.tracker with table := none } :=
  (stopEach_setup c.active { c with tracker := c.tracker.stop }).tracker_eq

theorem judge_expiration (c : Chain) (f : Flow) : (c.judge f).1.expiration = c.expiration :=
  firstVerdict_induction (motive := fun c' => c'.expiration = c.expiration) c.active
    (fun _ _ _ _ h => h) f rfl

theorem judgeAll_expiration (c : Chain) (f : Flow) : (c.judgeAll f).1.expiration = c.expiration :=
  allVerdicts_induction (motive := fun c' => c'.expiration = c.expiration) c.active
    (fun _ _ _ _ h => h) f rfl

end Chain

namespace ChainSession

open ChainEvent

variable {s : ChainSession} {initial : Option Nat} {events : List ChainEvent} {event : ChainEvent}

theorem step_expiration (s : ChainSession) (event : ChainEvent) :
    (s.step event).1.chain.expiration = event.expiration?.getD s.chain.expiration := by
  cases event with
  | start sources =>
      show (s.chain.start sources).1.expiration = s.chain.expiration
      rw [Chain.start_eq, (Chain.startEach_setup sources _ _).expiration_eq,
        Chain.withTable_expiration]
  | stop => exact (Chain.stopEach_setup s.chain.active _).expiration_eq
  | configureNative detector inspectors =>
      show (s.chain.configureNative detector inspectors).expiration = _
      unfold Chain.configureNative
      split <;> rfl
  | packet p =>
      obtain ⟨tracker, hchain⟩ := step_packet_chain s p
      rw [hchain]
      rfl
  | judge subject =>
      cases subject with
      | tracked number => exact s.chain.judge_expiration _
      | apart f => exact s.chain.judge_expiration f
  | judgeAll subject =>
      cases subject with
      | tracked number => exact s.chain.judgeAll_expiration _
      | apart f => exact s.chain.judgeAll_expiration f
  | _ => rfl

/-- Only starts and stops make and remove tables, or change the expiration time of the table. -/
theorem step_inForce (hstart : ∀ sources, event ≠ .start sources) (hstop : event ≠ .stop) :
    (s.step event).1.chain.tracker.inForce = s.chain.tracker.inForce := by
  -- the table that is there goes on with its own expiration, whatever is configured
  cases event with
  | start sources => exact absurd rfl (hstart sources)
  | stop => exact absurd rfl hstop
  | configureNative detector inspectors =>
      show (s.chain.configureNative detector inspectors).tracker.inForce = _
      unfold Chain.configureNative
      split <;> rfl
  | packet p =>
      rcases s.packet_cases p with ⟨hstep, -⟩ | ⟨tracker, a, hstep, hassign⟩
      · rw [hstep]
      · rw [hstep]
        exact (Tracker.assigns_of_assign hassign).inForce_eq
  | sweep => exact Tracker.inForce_sweep
  | clear => exact Tracker.inForce_clear
  | judge subject =>
      cases subject with
      | tracked number => exact congrArg (Option.map _) (s.chain.judgeTracked_table number)
      | apart f => exact congrArg Tracker.inForce (s.chain.judge_frame f).tracker_eq
  | judgeAll subject =>
      cases subject with
      | tracked number =>
          show (s.chain.judgeAll (s.chain.flow number)).1.tracker.inForce = _
          rw [s.chain.judgeAll_tracker]
      | apart f => exact congrArg Tracker.inForce (s.chain.judgeAll_tracker f)
  | _ => rfl

/-! ## Runs -/

/-- The chain has the table that it should have after the events. -/
structure Follows (initial : Option Nat) (s : ChainSession) (events : List ChainEvent) : Prop where
  expiration_eq : s.chain.expiration = lastExpiration initial events
  isStarted_iff : s.chain.tracker.isStarted = true ↔ Started events
  inForce_eq : ∀ before, StartedAfter before events →
    s.chain.tracker.inForce = some ((lastExpiration initial before).filter (· ≠ 0))

theorem Follows.start (h : Follows initial s events) (sources : Sources) :
    Follows initial (s.step (.start sources)).1 (events ++ [.start sources]) := by
  have htracker : (s.step (.start sources)).1.chain.tracker = s.chain.withTable.tracker :=
    Chain.start_tracker
  have hinForce := s.chain.withTable_inForce
  rw [← htracker] at hinForce
  refine ⟨?_, ?_, ?_⟩
  · rw [step_expiration, lastExpiration_snoc, h.expiration_eq]
  · rw [← Tracker.isSome_inForce, hinForce]
    exact iff_of_true rfl (started_snoc_iff.mpr (.inl ⟨sources, rfl⟩))
  · intro before hbefore
    rw [hinForce]
    -- the table is new with this start, or it is kept by it
    rcases startedAfter_snoc_iff.mp hbefore with ⟨rfl, hnew, -⟩ | ⟨-, hbefore⟩
    · rw [← h.isStarted_iff, ← Tracker.inForce_eq_none_iff] at hnew
      rw [hnew, h.expiration_eq]
      rfl
    · rw [h.inForce_eq before hbefore]
      rfl

theorem Follows.stop (h : Follows initial s events) :
    Follows initial (s.step .stop).1 (events ++ [.stop]) := by
  have htracker : (s.step .stop).1.chain.tracker = { s.chain.tracker with table := none } :=
    s.chain.stop_tracker
  have hstopped : ¬ Started (events ++ [.stop]) := by
    simp [started_snoc_iff]
  refine ⟨?_, ?_, ?_⟩
  · rw [step_expiration, lastExpiration_snoc, h.expiration_eq]
  · rw [htracker]
    exact iff_of_false Bool.false_ne_true hstopped
  · intro before hbefore
    exact absurd hbefore.started hstopped

theorem Follows.step (h : Follows initial s events) (event : ChainEvent) :
    Follows initial (s.step event).1 (events ++ [event]) := by
  by_cases hstart : ∃ sources, event = .start sources
  · obtain ⟨sources, rfl⟩ := hstart
    exact h.start sources
  by_cases hstop : event = .stop
  · subst hstop
    exact h.stop
  -- any other event keeps the table, and is neither a start nor a stop in the history
  have hinForce : (s.step event).1.chain.tracker.inForce = s.chain.tracker.inForce :=
    step_inForce (not_exists.mp hstart) hstop
  refine ⟨?_, ?_, ?_⟩
  · rw [step_expiration, lastExpiration_snoc, h.expiration_eq]
  · rw [← Tracker.isSome_inForce, hinForce, Tracker.isSome_inForce, h.isStarted_iff,
      started_snoc_iff]
    simp [hstart, hstop]
  · intro before hbefore
    rcases startedAfter_snoc_iff.mp hbefore with ⟨-, -, hstart'⟩ | ⟨-, hbefore⟩
    · exact absurd hstart' hstart
    · rw [hinForce]
      exact h.inForce_eq before hbefore

theorem follows_after (pool : Array Detector) (configured : List Nat) (expiration : Option Nat)
    (now : Int) (events : List ChainEvent) :
    Follows expiration (after step { chain := { pool, configured, expiration }, now } events)
      events := by
  induction events using List.reverseRecOn with
  | nil =>
      refine ⟨rfl, iff_of_false Bool.false_ne_true not_started_nil, ?_⟩
      intro before hbefore
      exact absurd hbefore.started not_started_nil
  | append_singleton events event ih =>
      rw [after_snoc]
      exact ih.step event

/-- **The table follows the starts and stops of the chain.** After any run of a chain that has never
been started, whatever its detectors answered,

* a packet is refused if and only if it has a conversation and the chain was not started since the latest
  stop. A packet that is refused leaves everything as it was, and all others are assigned;
* another start of a chain that is started leaves the tracker as it is, with every flow of the table and
  the time when it was last seen;
* the table has the expiration time that was configured at the start that made it, zero standing for none;
  what is configured later is for the next table;
* a stop removes the table, also if detectors fail to stop, and leaves the rest of the tracker. -/
theorem table_of_history (pool : Array Detector) (configured : List Nat) (expiration : Option Nat)
    (now : Int) (events : List ChainEvent) :
    let s := after step { chain := { pool, configured, expiration }, now } events
    (∀ p, s.step (.packet p) = (s, .refused .noTable) ↔
      (Conversation.ofPacket? p).isSome = true ∧ ¬ Started events) ∧
    (∀ p, s.step (.packet p) = (s, .refused .noTable) ∨
      ∃ a, (s.step (.packet p)).2 = .assigned a) ∧
    (Started events → ∀ sources,
      (s.step (.start sources)).1.chain.tracker = s.chain.tracker) ∧
    (Started events → ∃ before, StartedAfter before events) ∧
    (∀ before, StartedAfter before events → ∃ table, s.chain.tracker.table = some table ∧
      table.expiration = (lastExpiration expiration before).filter (· ≠ 0)) ∧
    (s.step .stop).1.chain.tracker = { s.chain.tracker with table := none } := by
  intro s
  have h : Follows expiration s events := follows_after pool configured expiration now events
  refine ⟨?_, ?_, ?_, exists_startedAfter, ?_, s.chain.stop_tracker⟩
  · intro p
    rw [← h.isStarted_iff, Bool.not_eq_true, ← Tracker.assign_eq_error_iff]
    rcases s.packet_cases p with ⟨hstep, hassign⟩ | ⟨tracker, a, hstep, hassign⟩
    · exact iff_of_true hstep hassign
    · rw [hstep, hassign]
      simp
  · intro p
    rcases s.packet_cases p with ⟨hstep, -⟩ | ⟨tracker, a, hstep, -⟩
    · exact .inl hstep
    · exact .inr ⟨a, congrArg Prod.snd hstep⟩
  · intro hstarted sources
    show (s.chain.start sources).1.tracker = s.chain.tracker
    rw [Chain.start_tracker, Chain.withTable_of_started (h.isStarted_iff.mpr hstarted)]
  · intro before hbefore
    have hinForce := h.inForce_eq before hbefore
    exact Option.map_eq_some_iff.mp hinForce

/-- An expiration time that is set too late, and a detector that never stops. -/
theorem table_of_stubborn :
    let stubborn : ScriptedDetector :=
      { name := "stubborn"
        starts := fun _ => .ok ()
        stops := fun _ => .error (.stop "stubborn" "busy")
        verdict := fun _ => .unknown }
    let query := Packet.udp ⟨.v4 1, 5000⟩ ⟨.v4 2, 53⟩ []
    let events : List ChainEvent :=
      [.setExpiration (some 40), .start fun _ => none, .setExpiration (some 7), .packet query]
    let s := after step { chain := { pool := #[.scripted stubborn], configured := [0] } } events
    let stopped := (s.step .stop).1
    (∃ table, s.chain.tracker.table = some table ∧ table.expiration = some 40) ∧
      (s.step (.start fun _ => none)).1.chain.tracker = s.chain.tracker ∧
      (s.step .stop).2 = .errors [.stop "stubborn" "busy"] ∧
      stopped.chain.tracker.table = none ∧
      stopped.step (.packet query) = (stopped, .refused .noTable) := by
  intro stubborn query events s stopped
  obtain ⟨-, -, hagain, -, htable, hstop⟩ :=
    table_of_history #[.scripted stubborn] [0] (some 300000) 0 events
  obtain ⟨hrefused, -⟩ :=
    table_of_history #[.scripted stubborn] [0] (some 300000) 0 (events ++ [.stop])
  -- the start with which the table came has one configuration before it
  have hbefore : StartedAfter [.setExpiration (some 40)] events := by
    refine ⟨?_, _, _, rfl, by simp⟩
    rintro ⟨before, sources, since, hsplit, -⟩
    have hmem : ChainEvent.start sources ∈ [ChainEvent.setExpiration (some 40)] := by
      rw [hsplit]
      simp
    simp at hmem
  have hstopped : ¬ Started (events ++ [.stop]) := by
    simp [started_snoc_iff]
  refine ⟨htable _ hbefore, hagain hbefore.started _, rfl, congrArg Tracker.table hstop, ?_⟩
  exact (hrefused query).mpr ⟨rfl, hstopped⟩

end ChainSession
end FlowScope
