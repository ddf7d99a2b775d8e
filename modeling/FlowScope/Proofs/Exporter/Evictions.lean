import FlowScope.Exporter.Session
import FlowScope.Proofs.Tracking.Evictions

/-!
# Evictions in the metrics

The metrics get the evictions of a tracker as differences to the number copied last. This is the number
itself as long as no difference is lost or added twice, which the invariant `InStep` says: what has been
added up is what was copied last, and the tracker's own counter has not fallen since.

The main statement is `evictions_are_exported_once`.
-/

namespace FlowScope
namespace MonitorSession

variable {s : MonitorSession}

/-! ## The tracker's part of a run -/

/-- The events of the tracker, in order. -/
def trackerEvents (events : List MonitorEvent) : List TrackerEvent :=
  events.filterMap fun
    | .tracker event => some event
    | .observe => none

/-- Copying does not touch the tracker. -/
theorem tracking_after (s : MonitorSession) (events : List MonitorEvent) :
    (after step s events).tracking = after TrackerSession.step s.tracking (trackerEvents events) := by
  induction events generalizing s with
  | nil => rfl
  | cons event events ih =>
      cases event with
      | tracker event => exact ih (s.step (.tracker event)).1
      | observe => exact ih (s.step .observe).1

/-! ## The copied number and the counter -/

/-- The exported counter is the number of evictions copied last, and the tracker has had at least as
many. -/
structure InStep (s : MonitorSession) : Prop where
  exported_eq : s.metrics.evictions = s.metrics.lastEvictions
  last_le : s.metrics.lastEvictions ≤ s.tracking.tracker.evicted

theorem inStep_new (tracking : TrackerSession) : InStep { tracking } := ⟨rfl, Nat.zero_le _⟩

/-- A copy adds what the tracker has evicted since the one before. -/
theorem InStep.evictions_observe (h : s.InStep) :
    (s.step .observe).1.metrics.evictions = s.tracking.tracker.evicted := by
  have hexported := h.exported_eq
  have hlast := h.last_le
  show s.metrics.evictions + (s.tracking.tracker.evicted - s.metrics.lastEvictions) = _
  omega

theorem InStep.step (s : MonitorSession) (event : MonitorEvent) (h : s.InStep) :
    (s.step event).1.InStep := by
  cases event with
  | tracker event =>
      exact ⟨h.exported_eq, Nat.le_trans h.last_le (TrackerSession.evicted_le_step s.tracking event)⟩
  | observe => exact ⟨h.evictions_observe, Nat.le_refl _⟩

theorem inStep_after (tracking : TrackerSession) (events : List MonitorEvent) :
    (after step { tracking } events).InStep :=
  after_induction InStep.step (inStep_new tracking) events

/-- **Evictions are exported exactly once.** Let a new tracker and new metrics run through any events,
and be copied at the end. Then

* the exported counter of evictions is the tracker's own, and the exported size that of its table;
* that number is the number of flows that left the table in the run, other than by the table being
  dropped: each of these flows is counted, and no flow was evicted twice;
* the tracker is as it would be without any copying. -/
theorem evictions_are_exported_once (now : Int) (events : List MonitorEvent) :
    let s := after step { tracking := { now } } (events ++ [.observe])
    let evicted := TrackerSession.evictedIn { now } (trackerEvents events)
    s.metrics.evictions = s.tracking.tracker.evicted ∧
    s.metrics.trackedFlows = s.tracking.tracker.tracked ∧
    s.metrics.evictions = evicted.length ∧ evicted.Nodup ∧
    s.tracking = after TrackerSession.step { now } (trackerEvents events) := by
  intro s evicted
  -- the run ends in a copy of the counters, so what is exported is what the tracker says then
  have hlast : s = (step (after step { tracking := { now } } events) .observe).1 := after_snoc _ _ _ _
  have htracking : s.tracking = after TrackerSession.step { now } (trackerEvents events) := by
    rw [hlast]
    exact tracking_after _ events
  have hevictions : s.metrics.evictions = s.tracking.tracker.evicted := by
    rw [hlast]
    exact (inStep_after { now } events).evictions_observe
  have hdistinct : Tracker.Distinct {} := by
    apply Tracker.distinct_of_members_eq_nil
    · intro table htable
      cases htable
    · rfl
  have hcount := TrackerSession.evicted_after (s := { now }) (trackerEvents events) hdistinct
  refine ⟨hevictions, ?_, ?_, TrackerSession.nodup_evictedIn _ hdistinct, htracking⟩
  · rw [hlast]
    rfl
  · rw [hevictions, htracking, hcount]
    exact Nat.zero_add _

end MonitorSession
end FlowScope
