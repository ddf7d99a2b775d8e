import FlowScope.Proofs.Tracking.Conservation

/-!
# Sweeps cannot be observed

An expired flow leaves the table in one of two ways: a packet of its conversation finds it expired, or
a sweep does. The two are compared by what a sweep would leave of a session now
(`TrackerSession.settled`). An event does the same to two sessions that settle alike, as long as the
clock is not set back:

* a packet gets the same answer, and the flows are the same afterwards;
* the two sessions settle alike afterwards.

So sweeps put into a run at any places change no answer, and a last sweep makes up for all that were
left out. The main statement is `sweeps_are_unobservable`.
-/

namespace FlowScope

/-! ## The live part of a table -/

namespace FlowTable

variable {table : FlowTable} {now later : Int} {c : Conversation} {entry : TableEntry}

/-- The table without the flows that have expired. -/
def live (table : FlowTable) (now : Int) : FlowTable :=
  { table with entries := table.entries.filter (!table.isExpired now ·.2) }

theorem find?_live (h : table.KeysUnique) (now : Int) (c : Conversation) :
    (table.live now).find? c = (table.find? c).filter (!table.isExpired now ·) :=
  find?_filter h (!table.isExpired now ·) c

theorem isExpired_of_le (h : now ≤ later) (hexpired : table.isExpired now entry = true) :
    table.isExpired later entry = true := by
  unfold isExpired at hexpired ⊢
  cases hexpiration : table.expiration with
  | none => simp [hexpiration] at hexpired
  | some ttl =>
      have hidle : ttl ≤ elapsed entry.lastSeen now := by simpa [hexpiration] using hexpired
      have hlonger : elapsed entry.lastSeen now ≤ elapsed entry.lastSeen later := by
        unfold elapsed
        omega
      simpa using Nat.le_trans hidle hlonger

/-- What is live later is what is live later of what is live now. -/
theorem live_live (h : now ≤ later) : (table.live now).live later = table.live later := by
  have hentries : (table.entries.filter (!table.isExpired now ·.2)).filter
      (!table.isExpired later ·.2) = table.entries.filter (!table.isExpired later ·.2) := by
    rw [List.filter_filter]
    refine List.filter_congr fun e _ => ?_
    cases hnow : table.isExpired now e.2 with
    | false => simp
    | true => simp [isExpired_of_le h hnow]
  exact congrArg (FlowTable.mk table.expiration) hentries

theorem live_insert :
    ((table.live now).insert c entry).live now = (table.insert c entry).live now := by
  -- to drop what has expired once more makes no difference to the other entries
  have hothers : ((table.entries.filter (!table.isExpired now ·.2)).filter (·.1 ≠ c)).filter
      (!table.isExpired now ·.2) =
      (table.entries.filter (·.1 ≠ c)).filter (!table.isExpired now ·.2) := by
    simp only [List.filter_filter]
    refine List.filter_congr fun e _ => ?_
    cases table.isExpired now e.2 <;> simp
  have hentries : ((c, entry) :: (table.entries.filter (!table.isExpired now ·.2)).filter
      (·.1 ≠ c)).filter (!table.isExpired now ·.2) =
      ((c, entry) :: table.entries.filter (·.1 ≠ c)).filter (!table.isExpired now ·.2) := by
    rw [List.filter_cons, List.filter_cons, hothers]
  exact congrArg (FlowTable.mk table.expiration) hentries

end FlowTable

/-! ## One assignment -/

namespace Tracker

variable {t t' u : Tracker} {now later : Int} {p : Packet} {a : Assigned}

theorem sweep_table_live : (t.sweep now).1.table = t.table.map (·.live now) := sweep_table

/-- Two trackers with the same flows settle alike if the live parts of their tables are the same, and
the rest is made up for by evictions. -/
theorem sweep_eq_of_live (hlive : t.table.map (·.live now) = u.table.map (·.live now))
    (hflows : t.flows = u.flows) (hsum : t.tracked + t.evicted = u.tracked + u.evicted) :
    (t.sweep now).1 = (u.sweep now).1 := by
  have htable : (t.sweep now).1.table = (u.sweep now).1.table := by
    rw [sweep_table_live, sweep_table_live, hlive]
  have htracked : (t.sweep now).1.tracked = (u.sweep now).1.tracked := by
    unfold tracked
    rw [htable]
  -- after the sweeps equally much is tracked, and what is tracked and evicted adds up to the same
  have hevicted : (t.sweep now).1.evicted = (u.sweep now).1.evicted := by
    obtain ⟨ht, ht'⟩ := t.sweep_balance now
    obtain ⟨hu, hu'⟩ := u.sweep_balance now
    omega
  have hswept : (t.sweep now).1.flows = (u.sweep now).1.flows := by
    rw [sweep_flows, sweep_flows, hflows]
  rcases hts : (t.sweep now).1 with ⟨table, evicted, flows⟩
  rcases hus : (u.sweep now).1 with ⟨table', evicted', flows'⟩
  rw [hts, hus] at htable hevicted hswept
  simp only at htable hevicted hswept
  rw [htable, hevicted, hswept]

theorem sweep_sum (t : Tracker) (now : Int) :
    (t.sweep now).1.tracked + (t.sweep now).1.evicted = t.tracked + t.evicted := by
  have hbalance := t.sweep_balance now
  omega

/-- Sweeping now makes no difference to a sweep later. -/
theorem sweep_sweep (h : now ≤ later) : ((t.sweep now).1.sweep later).1 = (t.sweep later).1 := by
  refine sweep_eq_of_live ?_ sweep_flows (t.sweep_sum now)
  rw [sweep_table_live, Option.map_map]
  congr 1
  funext table
  exact FlowTable.live_live h

/-- An assignment does the same to a tracker that has only the live part of the table. -/
theorem Assigns.live (h : t.Assigns now p t' a) (ht : t.KeysUnique) (hflows : u.flows = t.flows)
    (hlive : u.table = t.table.map (·.live now)) :
    ∃ u', u.Assigns now p u' a ∧ u'.flows = t'.flows ∧
      u'.table.map (·.live now) = t'.table.map (·.live now) := by
  obtain ⟨_, evicted, flows⟩ := u
  obtain rfl : flows = t.flows := hflows
  cases h with
  | apart hp =>
      refine ⟨_, .apart hp, rfl, ?_⟩
      obtain rfl := hlive
      rw [Option.map_map]
      congr 1
      funext table
      exact FlowTable.live_live (Int.le_refl now)
  | @opened c table hp htable hgone =>
      -- an expired entry is none at all in the live part
      rw [htable] at hlive
      have hfind : (table.live now).find? c = none := by
        rw [FlowTable.find?_live (ht table htable), Option.filter_eq_none_iff]
        simpa using hgone
      refine ⟨_, .opened hp hlive (by simp [hfind]), rfl, ?_⟩
      exact congrArg some FlowTable.live_insert
  | @joined c table entry hp htable hfind hfresh =>
      -- and one that is not expired is there as well
      rw [htable] at hlive
      have hfind' : (table.live now).find? c = some entry := by
        rw [FlowTable.find?_live (ht table htable), hfind]
        simp [Option.filter, hfresh]
      exact ⟨_, .joined hp hlive hfind' hfresh, rfl, congrArg some FlowTable.live_insert⟩

/-- A tracker that was just swept gives a packet the same answer, and settles alike afterwards. -/
theorem Assigns.sweep (h : t.Assigns now p t' a) (ht : t.KeysUnique) :
    ∃ u, (t.sweep now).1.Assigns now p u a ∧ u.flows = t'.flows ∧
      (u.sweep now).1 = (t'.sweep now).1 := by
  obtain ⟨u, hu, hflows, hlive⟩ := h.live ht sweep_flows sweep_table_live
  refine ⟨u, hu, hflows, sweep_eq_of_live hlive hflows ?_⟩
  have hbalance := h.balance ht
  have hbalance' := hu.balance (ht.sweep now)
  have hsum := t.sweep_sum now
  omega

end Tracker

namespace TrackerSession

variable {s s' : TrackerSession} {event : TrackerEvent} {events swept : List TrackerEvent}

/-! ## One event -/

/-- The session after a sweep at this moment. -/
def settled (s : TrackerSession) : TrackerSession := (s.step .sweep).1

/-- The table is not dropped, and the clock is not set back. -/
def Forward : TrackerEvent → Prop
  | .packet _ => True
  | .sweep => True
  | .pass milliseconds => 0 ≤ milliseconds
  | _ => False

theorem settled_settled (s : TrackerSession) : s.settled.settled = s.settled :=
  congrArg (TrackerSession.mk · s.now) (Tracker.sweep_sweep (Int.le_refl s.now))

/-- A packet finds no difference between a session and what is left of it after a sweep. -/
theorem packet_settled (hs : s.tracker.KeysUnique) (p : Packet) :
    (s.settled.step (.packet p)).2 = (s.step (.packet p)).2 ∧
      (s.settled.step (.packet p)).1.tracker.flows = (s.step (.packet p)).1.tracker.flows ∧
      (s.settled.step (.packet p)).1.settled = (s.step (.packet p)).1.settled := by
  cases hassign : s.tracker.assign s.now p with
  | ok out =>
      obtain ⟨t, a⟩ := out
      obtain ⟨u, hu, hflows, hsettled⟩ := (Tracker.assigns_of_assign hassign).sweep hs
      have hassign' : s.settled.tracker.assign s.settled.now p = .ok (u, a) :=
        Tracker.assign_of_assigns hu
      rw [step_packet_of_ok hassign, step_packet_of_ok hassign']
      exact ⟨rfl, hflows, congrArg (TrackerSession.mk · s.now) hsettled⟩
  | error cause =>
      -- without a table there is nothing to sweep
      have hnone := Tracker.table_eq_none_of_assign hassign
      have hsettled : s.settled = s := by
        show { s with tracker := (s.tracker.sweep s.now).1 } = s
        rw [Tracker.sweep_of_none hnone]
      rw [hsettled]
      exact ⟨rfl, rfl, rfl⟩

theorem settled_step (hs : s.tracker.KeysUnique) (hforward : Forward event) :
    (s.settled.step event).1.settled = (s.step event).1.settled := by
  cases event with
  | packet p => exact (packet_settled hs p).2.2
  | sweep => exact settled_settled s.settled
  | pass milliseconds =>
      -- what has expired at one time is so at any later one
      have hlater : s.now ≤ s.now + milliseconds := by
        have hpass : 0 ≤ milliseconds := hforward
        omega
      exact congrArg (TrackerSession.mk · (s.now + milliseconds)) (Tracker.sweep_sweep hlater)
  | start expiration => exact hforward.elim
  | stop => exact hforward.elim
  | clear => exact hforward.elim

/-! ## Runs -/

/-- The second run is the first with sweeps added at any places. -/
inductive AddsSweeps : List TrackerEvent → List TrackerEvent → Prop
  | nil : AddsSweeps [] []
  | keep (event : TrackerEvent) {events swept : List TrackerEvent} (h : AddsSweeps events swept) :
      AddsSweeps (event :: events) (event :: swept)
  | add {events swept : List TrackerEvent} (h : AddsSweeps events swept) :
      AddsSweeps events (.sweep :: swept)

/-- What the caller of a packet gets: the answer, and all flows as they are then. -/
def delivery? (s : TrackerSession) : TrackerEvent → Option (TrackerAnswer × Array Flow)
  | .packet p => some ((s.step (.packet p)).2, (s.step (.packet p)).1.tracker.flows)
  | _ => none

/-- What the callers of the packets of a run get, in order. -/
def deliveries (s : TrackerSession) : List TrackerEvent → List (TrackerAnswer × Array Flow)
  | [] => []
  | event :: events => (s.delivery? event).toList ++ deliveries (s.step event).1 events

theorem delivery?_settled (hs : s.tracker.KeysUnique) (event : TrackerEvent) :
    s.settled.delivery? event = s.delivery? event := by
  cases event with
  | packet p =>
      obtain ⟨hanswer, hflows, -⟩ := packet_settled hs p
      simp only [delivery?, hanswer, hflows]
  | sweep => rfl
  | pass milliseconds => rfl
  | start expiration => rfl
  | stop => rfl
  | clear => rfl

/-- From sessions that settle alike, runs that differ in sweeps deliver the same and settle alike. -/
theorem deliveries_of_addsSweeps (hadds : AddsSweeps events swept)
    (hforward : ∀ event ∈ events, Forward event) (hs : s.tracker.KeysUnique)
    (hs' : s'.tracker.KeysUnique) (hsettled : s'.settled = s.settled) :
    s'.deliveries swept = s.deliveries events ∧
      (after step s' swept).settled = (after step s events).settled := by
  -- Both sessions take the same event, or the second one sweeps: either way they settle alike.
  induction hadds generalizing s s' with
  | nil => exact ⟨rfl, hsettled⟩
  | @keep event events swept _ ih =>
      have hevent : Forward event := hforward event List.mem_cons_self
      have hlater : ∀ event ∈ events, Forward event :=
        fun event hmem => hforward event (List.mem_cons_of_mem _ hmem)
      have hdelivery : s'.delivery? event = s.delivery? event := by
        rw [← delivery?_settled hs', hsettled, delivery?_settled hs]
      have hnext : (s'.step event).1.settled = (s.step event).1.settled := by
        rw [← settled_step hs' hevent, hsettled, settled_step hs hevent]
      obtain ⟨hdeliveries, hafter⟩ :=
        ih hlater (keysUnique_step event hs) (keysUnique_step event hs') hnext
      refine ⟨?_, hafter⟩
      rw [deliveries, deliveries, hdelivery, hdeliveries]
  | @add events swept _ ih =>
      have hnext : s'.settled.settled = s.settled := by rw [settled_settled, hsettled]
      exact ih hforward hs (keysUnique_step .sweep hs') hnext

theorem isStarted_step (hforward : Forward event) (hstarted : s.tracker.isStarted = true) :
    (s.step event).1.tracker.isStarted = true := by
  cases event with
  | packet p =>
      cases hassign : s.tracker.assign s.now p with
      | ok out =>
          rw [step_packet_of_ok hassign]
          exact (Tracker.assigns_of_assign hassign).isStarted hstarted
      | error cause =>
          rw [step_packet_of_error hassign]
          exact hstarted
  | sweep =>
      show (s.tracker.sweep s.now).1.table.isSome = true
      rw [Tracker.sweep_table, Option.isSome_map]
      exact hstarted
  | pass milliseconds => exact hstarted
  | start expiration => exact hforward.elim
  | stop => exact hforward.elim
  | clear => exact hforward.elim

/-- While there is a table, no packet is refused. -/
theorem assigned_of_mem_deliveries (hforward : ∀ event ∈ events, Forward event)
    (hstarted : s.tracker.isStarted = true) :
    ∀ d ∈ s.deliveries events, ∃ a, d.1 = .assigned a := by
  induction events generalizing s with
  | nil =>
      intro d hd
      cases hd
  | cons event events ih =>
      intro d hd
      rcases List.mem_append.mp hd with hd | hd
      · cases event with
        | packet p =>
            obtain rfl : d = _ := List.mem_singleton.mp hd
            cases hassign : s.tracker.assign s.now p with
            | ok out => exact ⟨out.2, by rw [step_packet_of_ok hassign]⟩
            | error cause =>
                rw [Tracker.isStarted, Tracker.table_eq_none_of_assign hassign] at hstarted
                cases hstarted
        | _ => cases hd
      · have hevent : Forward event := hforward event List.mem_cons_self
        exact ih (fun event hmem => hforward event (List.mem_cons_of_mem _ hmem))
          (isStarted_step hevent hstarted) d hd

/-- **Sweeps cannot be observed.** Take a run of packets after a start, with a clock that is not set
back, and the run with sweeps added to it at any places. Then

* every packet is assigned, and in both runs it gets the same answer and finds the same flows with the
  same packets;
* after a last sweep, the trackers are the same: the table, the number of evictions and all flows. -/
theorem sweeps_are_unobservable (s₀ : TrackerSession) (expiration : Option Nat)
    (events swept : List TrackerEvent) (hforward : ∀ event ∈ events, Forward event)
    (hadds : AddsSweeps events swept) :
    let s := (s₀.step (.start expiration)).1
    let lazy := after step s (events ++ [.sweep])
    let eager := after step s (swept ++ [.sweep])
    s.deliveries swept = s.deliveries events ∧
    (∀ d ∈ s.deliveries events, ∃ a, d.1 = .assigned a) ∧
    eager.tracker = lazy.tracker ∧
    eager.tracker.tracked = lazy.tracker.tracked ∧
    eager.tracker.evicted = lazy.tracker.evicted := by
  intro s lazy eager
  have hs : s.tracker.KeysUnique := by
    intro table htable
    cases htable
    exact FlowTable.keysUnique_empty _
  obtain ⟨hdeliveries, hsettled⟩ := deliveries_of_addsSweeps hadds hforward hs hs rfl
  -- a last sweep is what settles a session
  have hlast : ∀ l, after step s (l ++ [.sweep]) = (after step s l).settled := by
    intro l
    unfold after
    rw [run_append]
    rfl
  have heq : eager = lazy := (hlast swept).trans (hsettled.trans (hlast events).symm)
  refine ⟨hdeliveries, assigned_of_mem_deliveries hforward rfl, ?_⟩
  rw [heq]
  exact ⟨rfl, rfl, rfl⟩

/-- A flow expires while a query waits for its answer, which opens another one. With two sweeps or with none,
it is evicted once. -/
theorem sweeps_around_late_answer :
    let query := Packet.udp ⟨.v4 1, 5000⟩ ⟨.v4 2, 53⟩ []
    let answer := Packet.udp ⟨.v4 2, 53⟩ ⟨.v4 1, 5000⟩ []
    let events := [.packet query, .pass 50, .packet answer, .pass 20]
    let swept := [.packet query, .sweep, .pass 50, .sweep, .packet answer, .pass 20]
    let s := (step {} (.start (some 50))).1
    (∀ event ∈ events, Forward event) ∧ AddsSweeps events swept ∧
      s.deliveries swept = s.deliveries events ∧
      (s.deliveries events).map (·.1) = [.assigned ⟨0, true⟩, .assigned ⟨1, true⟩] ∧
      (after step s (swept ++ [.sweep])).tracker.evicted =
        (after step s (events ++ [.sweep])).tracker.evicted ∧
      (after step s (events ++ [.sweep])).tracker.evicted = 1 := by
  intro query answer events swept s
  have hforward : ∀ event ∈ events, Forward event := by
    simp [events, Forward]
  have hadds : AddsSweeps events swept :=
    .keep _ (.add (.keep _ (.add (.keep _ (.keep _ .nil)))))
  obtain ⟨hdeliveries, -, -, -, hevicted⟩ :=
    sweeps_are_unobservable {} (some 50) events swept hforward hadds
  refine ⟨hforward, hadds, hdeliveries, ?_, hevicted, ?_⟩
  · decide
  · decide

end TrackerSession
end FlowScope
