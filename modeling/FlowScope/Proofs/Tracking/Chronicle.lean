import FlowScope.Flow.Session
import FlowScope.Proofs.Run
import Mathlib.Data.List.Induction

/-!
# Chronicles of tracking sessions

What an observer of a session can write down: each event with the reading of the clock and the answer.
Statements about the history of a tracker speak of the chronicle only, so they say nothing about how a
tracker keeps its flows.

* `LatestCall log c q since` — `q` is the latest call of conversation `c`, no event has emptied the
  table since, and `since` is what happened after it;
* `InForce log expiration` — the table exists, and was started with this expiration time;
* `chronicle_induction` — what one step keeps, of the session and its chronicle together, holds after
  every run.
-/

namespace FlowScope
namespace TrackerSession

structure Moment where
  time : Int
  event : TrackerEvent
  answer : TrackerAnswer

namespace Moment

/-- The flow to which the answer assigned a packet. -/
def flow? (m : Moment) : Option Nat :=
  match m.answer with
  | .assigned a => some a.flow
  | _ => none

/-- A packet of the conversation arrived. -/
def Calls (m : Moment) (c : Conversation) : Prop :=
  ∃ p, m.event = .packet p ∧ Conversation.ofPacket? p = some c

/-- The table was started, stopped or cleared. -/
def Resets (m : Moment) : Prop :=
  (∃ expiration, m.event = .start expiration) ∨ m.event = .stop ∨ m.event = .clear

theorem not_resets_of_packet {m : Moment} {p : Packet} (hm : m.event = .packet p) : ¬ m.Resets := by
  rintro (⟨e, he⟩ | he | he)
  all_goals
    rw [hm] at he
    cases he

/-- A packet calls its own conversation only. -/
theorem Calls.unique {m : Moment} {c d : Conversation} (hc : m.Calls c) (hd : m.Calls d) : c = d := by
  obtain ⟨p, hp, hpc⟩ := hc
  obtain ⟨p', hp', hpd⟩ := hd
  rw [hp] at hp'
  cases hp'
  exact Option.some.inj (hpc.symm.trans hpd)

end Moment

theorem step_packet_of_ok {s : TrackerSession} {p : Packet} {t : Tracker} {a : Assigned}
    (h : s.tracker.assign s.now p = .ok (t, a)) :
    s.step (.packet p) = ({ s with tracker := t }, .assigned a) := by
  simp only [step, h]

theorem step_packet_of_error {s : TrackerSession} {p : Packet} {cause : NoTable}
    (h : s.tracker.assign s.now p = .error cause) : s.step (.packet p) = (s, .refused cause) := by
  simp only [step, h]

/-- The next moment of a session in which an event happens. -/
def moment (s : TrackerSession) (event : TrackerEvent) : Moment := ⟨s.now, event, (s.step event).2⟩

/-- The moments of a run, in order. -/
def chronicle (s : TrackerSession) : List TrackerEvent → List Moment
  | [] => []
  | event :: events => s.moment event :: chronicle (s.step event).1 events

/-- A property of sessions and chronicles that each step keeps holds after every run. -/
theorem chronicle_induction {motive : TrackerSession → List Moment → Prop}
    (step_case : ∀ s log event, motive s log → motive (s.step event).1 (log ++ [s.moment event]))
    {s : TrackerSession} (start_case : motive s []) (events : List TrackerEvent) :
    motive (after step s events) (s.chronicle events) := by
  -- The run is longer at its end, the recursion at its front: hence the moments before it.
  have key : ∀ events s log, motive s log →
      motive (after step s events) (log ++ s.chronicle events) := by
    intro events
    induction events with
    | nil =>
        intro s log h
        rw [chronicle, List.append_nil]
        exact h
    | cons event events ih =>
        intro s log h
        rw [chronicle, List.append_cons]
        exact ih _ _ (step_case s log event h)
  exact key events s [] start_case

/-! ### The latest call of a conversation -/

structure LatestCall (log : List Moment) (c : Conversation) (q : Moment) (since : List Moment) :
    Prop where
  split : ∃ before, log = before ++ q :: since
  calls : q.Calls c
  undisturbed : ∀ m ∈ since, ¬ m.Resets ∧ ¬ m.Calls c

theorem not_latestCall_nil {c : Conversation} {q : Moment} {since : List Moment} :
    ¬ LatestCall [] c q since := by
  rintro ⟨⟨before, h⟩, -, -⟩
  simp at h

/-- With one more moment, the latest call is that moment or the one before, if nothing intervened. -/
theorem latestCall_snoc_iff {log : List Moment} {m q : Moment} {c : Conversation}
    {since : List Moment} :
    LatestCall (log ++ [m]) c q since ↔
      (m.Calls c ∧ q = m ∧ since = []) ∨
      (¬ m.Resets ∧ ¬ m.Calls c ∧ ∃ since', since = since' ++ [m] ∧ LatestCall log c q since') := by
  constructor
  · rintro ⟨⟨before, hsplit⟩, hcalls, hsince⟩
    -- the call is the last moment itself, or it was the latest one before
    rcases snoc_eq_append_cons_iff.mp hsplit with ⟨-, rfl, rfl⟩ | ⟨since', hlog, rfl⟩
    · exact .inl ⟨hcalls, rfl, rfl⟩
    · have hm := hsince m (by simp)
      refine .inr ⟨hm.1, hm.2, since', rfl, ⟨before, hlog⟩, hcalls, ?_⟩
      intro x hx
      exact hsince x (List.mem_append_left _ hx)
  · rintro (⟨hcalls, rfl, rfl⟩ | ⟨hresets, hcalls, since', rfl, ⟨before, hlog⟩, hq, hsince⟩)
    · exact ⟨⟨log, rfl⟩, hcalls, by simp⟩
    · refine ⟨⟨before, by rw [hlog]; simp⟩, hq, ?_⟩
      intro x hx
      rcases List.mem_append.mp hx with hx | hx
      · exact hsince x hx
      · obtain rfl := List.mem_singleton.mp hx
        exact ⟨hresets, hcalls⟩

/-- A call is the latest of its conversation. -/
theorem latestCall_snoc_iff_of_calls {log : List Moment} {m q : Moment} {c : Conversation}
    {since : List Moment} (hcalls : m.Calls c) :
    LatestCall (log ++ [m]) c q since ↔ q = m ∧ since = [] := by
  rw [latestCall_snoc_iff]
  constructor
  · rintro (⟨-, hq⟩ | ⟨-, h, -⟩)
    · exact hq
    · exact absurd hcalls h
  · intro hq
    exact .inl ⟨hcalls, hq⟩

/-- Any other moment, unless it empties the table, comes after the latest call. -/
theorem latestCall_snoc_iff_of_not_calls {log : List Moment} {m q : Moment} {c : Conversation}
    {since : List Moment} (hresets : ¬ m.Resets) (hcalls : ¬ m.Calls c) :
    LatestCall (log ++ [m]) c q since ↔
      ∃ since', since = since' ++ [m] ∧ LatestCall log c q since' := by
  rw [latestCall_snoc_iff]
  constructor
  · rintro (⟨h, -⟩ | ⟨-, -, h⟩)
    · exact absurd h hcalls
    · exact h
  · intro h
    exact .inr ⟨hresets, hcalls, h⟩

/-- After an event that empties the table there is no call to remember. -/
theorem not_latestCall_of_resets {log : List Moment} {m q : Moment} {c : Conversation}
    {since : List Moment} (hm : m.Resets) : ¬ LatestCall (log ++ [m]) c q since := by
  intro h
  rcases latestCall_snoc_iff.mp h with ⟨⟨p, hp, -⟩, -, -⟩ | ⟨hresets, -⟩
  · exact Moment.not_resets_of_packet hp hm
  · exact hresets hm

theorem LatestCall.mem {log : List Moment} {c : Conversation} {q : Moment} {since : List Moment}
    (h : LatestCall log c q since) : q ∈ log := by
  obtain ⟨before, rfl⟩ := h.split
  simp

/-- There is one latest call at most. -/
theorem LatestCall.unique {log : List Moment} {c : Conversation} {q r : Moment}
    {since since' : List Moment} (hq : LatestCall log c q since) (hr : LatestCall log c r since') :
    q = r ∧ since = since' := by
  induction log using List.reverseRecOn generalizing since since' with
  | nil => exact absurd hq not_latestCall_nil
  | append_singleton log m ih =>
      -- whether the last moment calls decides for both where they are
      rcases latestCall_snoc_iff.mp hq with ⟨hm, rfl, rfl⟩ | ⟨-, hm, since₁, rfl, hq'⟩
      · rcases latestCall_snoc_iff.mp hr with ⟨-, rfl, rfl⟩ | ⟨-, hm', -⟩
        · exact ⟨rfl, rfl⟩
        · exact absurd hm hm'
      · rcases latestCall_snoc_iff.mp hr with ⟨hm', -⟩ | ⟨-, -, since₂, rfl, hr'⟩
        · exact absurd hm' hm
        · obtain ⟨hqr, hsince⟩ := ih hq' hr'
          exact ⟨hqr, by rw [hsince]⟩

/-! ### The expiration time in force -/

/-- The latest event that made or removed a table made one, with this expiration time. -/
def InForce (log : List Moment) (expiration : Option Nat) : Prop :=
  ∃ before m since, log = before ++ m :: since ∧ m.event = .start expiration ∧
    ∀ x ∈ since, x.event ≠ .stop ∧ ∀ e, x.event ≠ .start e

theorem inForce_snoc_of_start {log : List Moment} {m : Moment} {expiration : Option Nat}
    (hm : m.event = .start expiration) : InForce (log ++ [m]) expiration :=
  ⟨log, m, [], rfl, hm, by simp⟩

theorem InForce.snoc {log : List Moment} {expiration : Option Nat} (h : InForce log expiration)
    {m : Moment} (hstop : m.event ≠ .stop) (hstart : ∀ e, m.event ≠ .start e) :
    InForce (log ++ [m]) expiration := by
  obtain ⟨before, start, since, rfl, hevent, hsince⟩ := h
  refine ⟨before, start, since ++ [m], by simp, hevent, ?_⟩
  intro x hx
  rcases List.mem_append.mp hx with hx | hx
  · exact hsince x hx
  · obtain rfl := List.mem_singleton.mp hx
    exact ⟨hstop, hstart⟩

end TrackerSession
end FlowScope
