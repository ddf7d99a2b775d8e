import FlowScope.Proofs.Tracking.Step
import FlowScope.Proofs.Tracking.Chronicle

/-!
# Where flows go

Every flow that is opened for a conversation enters the table. It leaves the table by being evicted,
which is counted, or because the whole table is dropped. The balance of the two sides is kept by each
event (`balance_step`), so it holds over whole runs, from any session whose table has one entry at
most for each conversation: `balance_after`.

The main statement is `conservation_of_flows`.
-/

namespace FlowScope

namespace Tracker

variable {t t' : Tracker} {now : Int} {p : Packet} {a : Assigned}

def KeysUnique (t : Tracker) : Prop := ∀ table, t.table = some table → table.KeysUnique

/-! ### Sweeping -/

theorem KeysUnique.sweep (h : t.KeysUnique) (now : Int) : (t.sweep now).1.KeysUnique := by
  intro table htable
  rw [sweep_table] at htable
  obtain ⟨before, hbefore, rfl⟩ := Option.map_eq_some_iff.mp htable
  exact (h before hbefore).filter _

/-- What a sweep removes is gone from the table and counted as evicted. -/
theorem sweep_balance (t : Tracker) (now : Int) :
    (t.sweep now).1.tracked + (t.sweep now).2 = t.tracked ∧
      (t.sweep now).1.evicted = t.evicted + (t.sweep now).2 := by
  unfold sweep
  split
  next => exact ⟨rfl, rfl⟩
  next table htable =>
    split
    next => exact ⟨rfl, rfl⟩
    next ttl httl =>
      have hkept : (table.entries.filter fun e => elapsed e.2.lastSeen now < ttl).length ≤
          table.entries.length := List.length_filter_le _ _
      refine ⟨?_, rfl⟩
      simp only [tracked, htable]
      omega

/-! ### Assigning -/

theorem Assigns.keysUnique (h : Assigns t now p t' a) (ht : t.KeysUnique) : t'.KeysUnique := by
  intro table htable
  cases h with
  | apart => exact ht table htable
  | opened hp htable' hgone =>
      cases htable
      exact (ht _ htable').insert _ _
  | joined hp htable' hfind hlive =>
      cases htable
      exact (ht _ htable').insert _ _

/-- A flow opened for a conversation is one more in the table, in place of one that is evicted or
not. -/
theorem Assigns.balance (h : Assigns t now p t' a) (ht : t.KeysUnique) :
    t'.tracked + t'.evicted =
      t.tracked + t.evicted + if a.isNew && (Conversation.ofPacket? p).isSome then 1 else 0 := by
  cases h with
  | apart hp => simp [tracked, hp]
  | @opened c table hp htable hgone =>
      -- the entry of an expired flow is tracked until now and evicted by this
      have hlength := FlowTable.length_insert (ht table htable) c ⟨t.flows.size, now⟩
      simp only [tracked, htable, hp, Option.isSome_some, Bool.and_self, if_true]
      omega
  | @joined c table entry hp htable hfind hlive =>
      have hlength := FlowTable.length_insert (ht table htable) c { entry with lastSeen := now }
      rw [hfind, Option.isSome_some, if_pos rfl] at hlength
      simp only [tracked, htable, Bool.false_and, Bool.false_eq_true, if_false]
      omega

theorem Assigns.evicted_le (h : Assigns t now p t' a) : t.evicted ≤ t'.evicted := by
  cases h with
  | apart => exact Nat.le_refl _
  | opened => exact Nat.le_add_right _ _
  | joined => exact Nat.le_refl _

end Tracker

namespace TrackerSession

variable {s : TrackerSession}

/-! ## The two sides of the balance -/

/-- A packet of a conversation opened a flow. -/
def Moment.opens (m : Moment) : Bool :=
  match m.event, m.answer with
  | .packet p, .assigned a => a.isNew && (Conversation.ofPacket? p).isSome
  | _, _ => false

/-- How often a packet of a conversation opened a flow. -/
def opened (log : List Moment) : Nat := log.countP Moment.opens

/-- The number of flows that leave the table because an event drops the whole table. -/
def discards (s : TrackerSession) : TrackerEvent → Nat
  | .start _ => s.tracker.tracked
  | .stop => s.tracker.tracked
  | .clear => s.tracker.tracked
  | _ => 0

/-- The sum of these numbers over a run. -/
def discarded (s : TrackerSession) : List TrackerEvent → Nat
  | [] => 0
  | event :: events => s.discards event + discarded (s.step event).1 events

/-! ## One event -/

theorem keysUnique_step (event : TrackerEvent) (h : s.tracker.KeysUnique) :
    (s.step event).1.tracker.KeysUnique := by
  cases event with
  | start expiration =>
      intro table htable
      cases htable
      exact FlowTable.keysUnique_empty _
  | stop =>
      intro table htable
      cases htable
  | clear =>
      intro table htable
      obtain ⟨before, -, rfl⟩ := Option.map_eq_some_iff.mp htable
      exact FlowTable.keysUnique_empty _
  | sweep => exact h.sweep s.now
  | pass milliseconds => exact h
  | packet p =>
      cases hassign : s.tracker.assign s.now p with
      | ok out =>
          rw [step_packet_of_ok hassign]
          exact (Tracker.assigns_of_assign hassign).keysUnique h
      | error cause =>
          rw [step_packet_of_error hassign]
          exact h

theorem balance_step (event : TrackerEvent) (h : s.tracker.KeysUnique) :
    s.tracker.tracked + s.tracker.evicted + (if (s.moment event).opens then 1 else 0) =
      (s.step event).1.tracker.tracked + (s.step event).1.tracker.evicted + s.discards event := by
  -- A start, a stop and a clear discard what is tracked; a sweep moves from tracked to evicted; a
  -- packet adds one to what is tracked, where it opens a flow.
  cases event with
  | start expiration =>
      simp only [moment, step, discards, Moment.opens, Tracker.start, Tracker.tracked,
        Bool.false_eq_true, if_false, List.length_nil]
      omega
  | stop =>
      simp only [moment, step, discards, Moment.opens, Tracker.stop, Tracker.tracked,
        Bool.false_eq_true, if_false]
      omega
  | clear =>
      have hcleared : s.tracker.clear.tracked = 0 := by
        unfold Tracker.clear Tracker.tracked
        cases s.tracker.table <;> rfl
      have hevicted : s.tracker.clear.evicted = s.tracker.evicted := rfl
      simp only [moment, step, discards, Moment.opens, Bool.false_eq_true, if_false]
      omega
  | sweep =>
      obtain ⟨htracked, hevicted⟩ := s.tracker.sweep_balance s.now
      simp only [moment, step, discards, Moment.opens, Bool.false_eq_true, if_false]
      omega
  | pass milliseconds => rfl
  | packet p =>
      cases hassign : s.tracker.assign s.now p with
      | ok out =>
          obtain ⟨t, a⟩ := out
          rw [moment, step_packet_of_ok hassign]
          exact ((Tracker.assigns_of_assign hassign).balance h).symm
      | error cause =>
          rw [moment, step_packet_of_error hassign]
          rfl

theorem evicted_le_step (s : TrackerSession) (event : TrackerEvent) :
    s.tracker.evicted ≤ (s.step event).1.tracker.evicted := by
  cases event with
  | sweep =>
      have hevicted := (s.tracker.sweep_balance s.now).2
      show s.tracker.evicted ≤ (s.tracker.sweep s.now).1.evicted
      omega
  | packet p =>
      cases hassign : s.tracker.assign s.now p with
      | ok out =>
          obtain ⟨t, a⟩ := out
          rw [step_packet_of_ok hassign]
          exact (Tracker.assigns_of_assign hassign).evicted_le
      | error cause =>
          exact Nat.le_of_eq (by rw [step_packet_of_error hassign])
  | start expiration => exact Nat.le_refl _
  | stop => exact Nat.le_refl _
  | clear => exact Nat.le_refl _
  | pass milliseconds => exact Nat.le_refl _

/-! ## Runs -/

theorem balance_after (events : List TrackerEvent) (h : s.tracker.KeysUnique) :
    s.tracker.tracked + s.tracker.evicted + opened (s.chronicle events) =
      (after step s events).tracker.tracked + (after step s events).tracker.evicted +
        s.discarded events := by
  induction events generalizing s with
  | nil => rfl
  | cons event events ih =>
      have hstep := balance_step event h
      have hlater := ih (keysUnique_step event h)
      show s.tracker.tracked + s.tracker.evicted +
          opened (s.moment event :: chronicle (s.step event).1 events) =
        (after step (s.step event).1 events).tracker.tracked +
          (after step (s.step event).1 events).tracker.evicted +
          (s.discards event + discarded (s.step event).1 events)
      have hopened : opened (s.moment event :: chronicle (s.step event).1 events) =
          opened (chronicle (s.step event).1 events) +
            if (s.moment event).opens then 1 else 0 := List.countP_cons
      omega

theorem evicted_le_after (s : TrackerSession) (events : List TrackerEvent) :
    s.tracker.evicted ≤ (after step s events).tracker.evicted := by
  induction events generalizing s with
  | nil => exact Nat.le_refl _
  | cons event events ih => exact Nat.le_trans (evicted_le_step s event) (ih (s.step event).1)

/-- **Conservation of flows.** After any run from a new tracker,

* the flows opened for packets of a conversation are those in the table now, those evicted, and those
  that were in the table whenever it was started anew, stopped or cleared;
* a sweep answers with the number of flows that it takes from the table and adds to the evictions;
* whatever happens from now on, the number of evictions does not fall. -/
theorem conservation_of_flows (now : Int) (events : List TrackerEvent) :
    let s := after step { now } events
    opened (chronicle { now } events) =
      s.tracker.tracked + s.tracker.evicted + discarded { now } events ∧
    (∃ removed, (s.step .sweep).2 = .swept removed ∧
      (s.step .sweep).1.tracker.tracked + removed = s.tracker.tracked ∧
      (s.step .sweep).1.tracker.evicted = s.tracker.evicted + removed) ∧
    ∀ later, s.tracker.evicted ≤ (after step s later).tracker.evicted := by
  intro s
  have hnew : Tracker.KeysUnique {} := by
    intro table htable
    cases htable
  refine ⟨?_, ⟨(s.tracker.sweep s.now).2, rfl, s.tracker.sweep_balance s.now⟩, evicted_le_after s⟩
  have hbalance := balance_after (s := { now }) events hnew
  -- a new tracker has nothing on either side
  have hnone : Tracker.tracked {} + Tracker.evicted {} = 0 := rfl
  rw [hnone, Nat.zero_add] at hbalance
  exact hbalance

end TrackerSession
end FlowScope
