import FlowScope.Proofs.Tracking.Recall

/-!
# The packets of the flows

A flow lives on when it has left the table, and its number is all that a caller has of it. The main
statement, `packets_of_flows`, is about all flows ever handed out, tracked or not: each holds exactly
the packets that were assigned to it, in the order of the calls, so the assigned packets are
partitioned among the flows; and the packets of a flow belong to one conversation, unless it holds a
single packet of none.

The invariant (`Gathers`) rests on the one of `Recalls`: the flow that a packet joins is the flow of
the latest call of its conversation, so it holds a packet of that conversation already.
-/

namespace FlowScope
namespace TrackerSession

variable {s s' : TrackerSession} {log : List Moment} {m : Moment}

/-! ## Assignments -/

/-- The packet that was assigned to a flow, and the number of the flow. -/
def Moment.assignment? (m : Moment) : Option (Packet × Nat) :=
  match m.event, m.answer with
  | .packet p, .assigned a => some (p, a.flow)
  | _, _ => none

/-- The packets that were assigned, with the numbers of their flows, in the order of the calls. -/
def assignments (log : List Moment) : List (Packet × Nat) := log.filterMap Moment.assignment?

/-- The packets that were assigned to a flow, in the order of the calls. -/
def packetsInto (log : List Moment) (n : Nat) : List Packet :=
  ((assignments log).filter (·.2 = n)).map (·.1)

theorem assignments_snoc : assignments (log ++ [m]) = assignments log ++ m.assignment?.toList := by
  unfold assignments
  rw [List.filterMap_append, List.filterMap_cons]
  cases m.assignment? <;> rfl

theorem mem_packetsInto {n : Nat} {p : Packet} :
    p ∈ packetsInto log n ↔ (p, n) ∈ assignments log := by
  unfold packetsInto
  rw [List.mem_map]
  constructor
  · rintro ⟨⟨p', n'⟩, h, rfl⟩
    obtain ⟨hmem, hn⟩ := List.mem_filter.mp h
    obtain rfl : n' = n := by simpa using hn
    exact hmem
  · intro h
    exact ⟨(p, n), List.mem_filter.mpr ⟨h, by simp⟩, rfl⟩

theorem packetsInto_snoc_of_none (hm : m.assignment? = none) (n : Nat) :
    packetsInto (log ++ [m]) n = packetsInto log n := by
  unfold packetsInto
  rw [assignments_snoc, hm, Option.toList_none, List.append_nil]

theorem packetsInto_snoc {p : Packet} {k : Nat} (hm : m.assignment? = some (p, k)) (n : Nat) :
    packetsInto (log ++ [m]) n =
      if n = k then packetsInto log n ++ [p] else packetsInto log n := by
  unfold packetsInto
  rw [assignments_snoc, hm, Option.toList_some, List.filter_append, List.map_append]
  by_cases hn : n = k
  · rw [if_pos hn]
    simp [hn]
  · rw [if_neg hn]
    simp [Ne.symm hn]

/-- Sorted into buckets by a number, all those with small numbers are there once. -/
theorem flatMap_filter_perm {α : Type} (key : α → Nat) (xs : List α) (size : Nat) :
    ((List.range size).flatMap fun n => xs.filter (key · = n)).Perm (xs.filter (key · < size)) := by
  induction size with
  | zero => simp
  | succ size ih =>
      rw [List.range_succ, List.flatMap_append, List.flatMap_singleton]
      have hsplit := List.filter_append_perm (key · < size) (xs.filter (key · < size + 1))
      rw [List.filter_filter, List.filter_filter] at hsplit
      -- below the bound are those below its predecessor, and those that are equal to it
      have hless : xs.filter (fun x => decide (key x < size) && decide (key x < size + 1)) =
          xs.filter (key · < size) := by
        refine List.filter_congr fun x _ => ?_
        rw [← Bool.decide_and]
        exact decide_eq_decide.mpr (by omega)
      have hequal : xs.filter (fun x => (!decide (key x < size)) && decide (key x < size + 1)) =
          xs.filter (key · = size) := by
        refine List.filter_congr fun x _ => ?_
        rw [← decide_not, ← Bool.decide_and]
        exact decide_eq_decide.mpr (by omega)
      rw [hless, hequal] at hsplit
      exact (ih.append_right _).trans hsplit

/-! ## The invariant -/

/-- The packets of one conversation, or a single packet of none. -/
def OfOneConversation (packets : List Packet) : Prop :=
  (∃ c, ∀ p ∈ packets, Conversation.ofPacket? p = some c) ∨
    ∃ p, packets = [p] ∧ Conversation.ofPacket? p = none

structure Gathers (s : TrackerSession) (log : List Moment) : Prop where
  recalls : Recalls s log
  packets : ∀ n, (s.tracker.flow n).packets = packetsInto log n
  returned : ∀ n, n < s.tracker.flows.size ↔ ∃ p, (p, n) ∈ assignments log
  oneConversation : ∀ n < s.tracker.flows.size, OfOneConversation (packetsInto log n)

theorem Gathers.nil (now : Int) : Gathers { now } [] where
  recalls := .nil now
  packets := by
    intro n
    rw [Tracker.flow_of_size_le (Nat.zero_le n)]
    rfl
  returned := by
    intro n
    simp [assignments]
  oneConversation := by
    intro n hn
    exact absurd hn (Nat.not_lt_zero n)

/-- The flow of an entry holds packets of the conversation of the entry, and no others. -/
theorem Gathers.packets_of_entry (h : Gathers s log) {table : FlowTable} {c : Conversation}
    {entry : TableEntry} (htable : s.tracker.table = some table)
    (hfind : table.find? c = some entry) :
    packetsInto log entry.flow ≠ [] ∧
      ∀ p ∈ packetsInto log entry.flow, Conversation.ofPacket? p = some c := by
  obtain ⟨q, since, hq, hflow, -⟩ := ((h.recalls.table table htable).find?_iff c entry).mp hfind
  obtain ⟨p, hevent, hp⟩ := hq.calls
  -- the call that was answered with the flow of the entry put its packet there
  have hassignment : q.assignment? = some (p, entry.flow) := by
    unfold Moment.flow? at hflow
    unfold Moment.assignment?
    rw [hevent]
    split at hflow
    next a ha =>
      rw [ha]
      exact congrArg (fun n => some (p, n)) (Option.some.inj hflow)
    next => cases hflow
  have hmem : p ∈ packetsInto log entry.flow :=
    mem_packetsInto.mpr (List.mem_filterMap.mpr ⟨q, hq.mem, hassignment⟩)
  refine ⟨List.ne_nil_of_mem hmem, ?_⟩
  -- The latest call put a packet of the conversation there, so the flow is not one of no conversation.
  rcases h.oneConversation entry.flow (h.recalls.flow_lt htable hfind)
    with ⟨d, hd⟩ | ⟨p', hsingle, hnone⟩
  · intro x hx
    rw [hd x hx, ← hd p hmem, hp]
  · rw [hsingle] at hmem
    obtain rfl := List.mem_singleton.mp hmem
    rw [hnone] at hp
    cases hp

/-! ## One more moment -/

/-- An event that assigns no packet leaves the flows as they are. -/
theorem Gathers.of_flows_eq (h : Gathers s log) (hrecalls : Recalls s' (log ++ [m]))
    (hflows : s'.tracker.flows = s.tracker.flows) (hm : m.assignment? = none) :
    Gathers s' (log ++ [m]) where
  recalls := hrecalls
  packets := by
    intro n
    rw [packetsInto_snoc_of_none hm, ← h.packets]
    unfold Tracker.flow
    rw [hflows]
  returned := by
    intro n
    rw [hflows, h.returned, assignments_snoc, hm, Option.toList_none, List.append_nil]
  oneConversation := by
    intro n hn
    rw [packetsInto_snoc_of_none hm]
    exact h.oneConversation n (hflows ▸ hn)

/-- The flow to which a packet was assigned: empty before if it is new, and else holding packets of
the packet's conversation only. -/
theorem Gathers.target (h : Gathers s log) {p : Packet} {t : Tracker} {a : Assigned}
    (ha : s.tracker.Assigns s.now p t a) :
    (a.isNew = true ∧ packetsInto log a.flow = []) ∨
      (a.isNew = false ∧ a.flow < s.tracker.flows.size ∧ packetsInto log a.flow ≠ [] ∧
        ∃ c, Conversation.ofPacket? p = some c ∧
          ∀ x ∈ packetsInto log a.flow, Conversation.ofPacket? x = some c) := by
  have hempty : packetsInto log s.tracker.flows.size = [] := by
    rw [← h.packets, Tracker.flow_of_size_le (Nat.le_refl _)]
  cases ha with
  | apart => exact .inl ⟨rfl, hempty⟩
  | opened => exact .inl ⟨rfl, hempty⟩
  | @joined c _ entry hp ht hfind _ =>
      obtain ⟨hne, hall⟩ := h.packets_of_entry ht hfind
      exact .inr ⟨rfl, h.recalls.flow_lt ht hfind, hne, c, hp, hall⟩

/-- The flows after a packet was assigned. -/
theorem Gathers.packets_assign (h : Gathers s log) {p : Packet} {t : Tracker} {a : Assigned}
    (ha : s.tracker.Assigns s.now p t a) (n : Nat) :
    (t.flow n).packets = if n = a.flow then packetsInto log n ++ [p] else packetsInto log n := by
  have hlt : a.isNew = false → a.flow < s.tracker.flows.size := by
    intro hnew
    rcases h.target ha with ⟨htrue, -⟩ | ⟨-, hlt, -⟩
    · rw [htrue] at hnew
      cases hnew
    · exact hlt
  rw [ha.flow_eq hlt n, ← h.packets n]
  split
  next => rw [Flow.packets_push]
  next => rfl

theorem Gathers.assign (h : Gathers s log) {p : Packet} {t : Tracker} {a : Assigned}
    (ha : s.tracker.Assigns s.now p t a)
    (hrecalls : Recalls { s with tracker := t } (log ++ [⟨s.now, .packet p, .assigned a⟩])) :
    Gathers { s with tracker := t } (log ++ [⟨s.now, .packet p, .assigned a⟩]) where
  recalls := hrecalls
  packets := by
    intro n
    rw [packetsInto_snoc rfl]
    exact h.packets_assign ha n
  returned := by
    intro n
    rw [assignments_snoc]
    show n < t.flows.size ↔ ∃ x, (x, n) ∈ assignments log ++ [(p, a.flow)]
    have hsplit : (∃ x, (x, n) ∈ assignments log ++ [(p, a.flow)]) ↔
        n < s.tracker.flows.size ∨ n = a.flow := by
      rw [h.returned]
      simp [exists_or]
    rw [hsplit, ha.size_eq]
    -- a new flow is the next number, any other one was returned before
    rcases h.target ha with ⟨hnew, -⟩ | ⟨hnew, hlt, -⟩
    · rw [ha.flow_of_isNew hnew, hnew, if_pos rfl]
      omega
    · rw [hnew, if_neg (by decide)]
      omega
  oneConversation := by
    intro n hn
    rw [packetsInto_snoc rfl]
    split
    next heq =>
      subst heq
      rcases h.target ha with ⟨-, hempty⟩ | ⟨-, -, -, c, hp, hall⟩
      · -- a flow that was empty has this one packet, whatever its conversation
        rw [hempty, List.nil_append]
        cases hp : Conversation.ofPacket? p with
        | none => exact .inr ⟨p, rfl, hp⟩
        | some c =>
            refine .inl ⟨c, ?_⟩
            intro x hx
            obtain rfl := List.mem_singleton.mp hx
            exact hp
      · -- a flow that is joined has packets of the conversation of this one
        refine .inl ⟨c, ?_⟩
        intro x hx
        rcases List.mem_append.mp hx with hx | hx
        · exact hall x hx
        · obtain rfl := List.mem_singleton.mp hx
          exact hp
    next hne =>
      refine h.oneConversation n ?_
      have hsize : n < t.flows.size := hn
      rw [ha.size_eq] at hsize
      rcases h.target ha with ⟨hnew, -⟩ | ⟨hnew, -⟩
      · rw [hnew, if_pos rfl] at hsize
        rw [ha.flow_of_isNew hnew] at hne
        omega
      · rw [hnew, if_neg (by decide)] at hsize
        exact hsize

theorem Gathers.step (s : TrackerSession) (log : List Moment) (event : TrackerEvent)
    (h : Gathers s log) : Gathers (s.step event).1 (log ++ [s.moment event]) := by
  have hrecalls := h.recalls.step s log event
  -- only a packet writes to a flow
  cases event with
  | start expiration => exact h.of_flows_eq hrecalls rfl rfl
  | stop => exact h.of_flows_eq hrecalls rfl rfl
  | clear => exact h.of_flows_eq hrecalls rfl rfl
  | sweep => exact h.of_flows_eq hrecalls Tracker.sweep_flows rfl
  | pass milliseconds => exact h.of_flows_eq hrecalls rfl rfl
  | packet p =>
      cases hassign : s.tracker.assign s.now p with
      | ok out =>
          obtain ⟨t, a⟩ := out
          rw [moment, step_packet_of_ok hassign] at hrecalls ⊢
          exact h.assign (Tracker.assigns_of_assign hassign) hrecalls
      | error cause =>
          rw [moment, step_packet_of_error hassign] at hrecalls ⊢
          exact h.of_flows_eq hrecalls rfl rfl

theorem gathers_after (now : Int) (events : List TrackerEvent) :
    Gathers (after step { now } events) (chronicle { now } events) :=
  chronicle_induction Gathers.step (Gathers.nil now) events

/-! ## Nothing is lost, doubled, reordered or mixed -/

/-- **The packets of every flow ever returned.** After any run from a new tracker,

* each flow holds exactly the packets assigned to it, in the order of the calls;
* the flows are those that answers named, and together they hold every assigned packet once;
* the packets of a flow are of one conversation, or it holds a single packet of none;
* a further packet opens a flow exactly if it is then the only packet of the flow in the answer. -/
theorem packets_of_flows (now : Int) (events : List TrackerEvent) :
    let s := after step { now } events
    let log := chronicle { now } events
    (∀ n, (s.tracker.flow n).packets = packetsInto log n) ∧
    (∀ n, n < s.tracker.flows.size ↔ ∃ p, (p, n) ∈ assignments log) ∧
    ((List.range s.tracker.flows.size).flatMap fun n => (s.tracker.flow n).packets).Perm
      ((assignments log).map (·.1)) ∧
    (∀ n < s.tracker.flows.size, OfOneConversation (s.tracker.flow n).packets) ∧
    (∀ p a, (s.step (.packet p)).2 = .assigned a →
      (a.isNew = true ↔ ((s.step (.packet p)).1.tracker.flow a.flow).packets = [p])) := by
  intro s log
  have h : Gathers s log := gathers_after now events
  refine ⟨h.packets, h.returned, ?_, ?_, ?_⟩
  · -- every assignment is to one of the flows, so going through the flows meets each once
    have hall : (assignments log).filter (·.2 < s.tracker.flows.size) = assignments log := by
      refine List.filter_eq_self.mpr ?_
      rintro ⟨p, n⟩ hpn
      exact decide_eq_true ((h.returned n).mpr ⟨p, hpn⟩)
    have hperm := flatMap_filter_perm (·.2) (assignments log) s.tracker.flows.size
    rw [hall] at hperm
    have hmap := hperm.map (·.1)
    rw [List.map_flatMap] at hmap
    simp only [h.packets]
    exact hmap
  · intro n hn
    rw [h.packets]
    exact h.oneConversation n hn
  · intro p a ha
    cases hassign : s.tracker.assign s.now p with
    | error cause =>
        rw [step_packet_of_error hassign] at ha
        cases ha
    | ok out =>
        obtain ⟨t, b⟩ := out
        rw [step_packet_of_ok hassign] at ha ⊢
        obtain rfl : b = a := TrackerAnswer.assigned.inj ha
        have hassigns := Tracker.assigns_of_assign hassign
        show _ ↔ (t.flow b.flow).packets = [p]
        rw [h.packets_assign hassigns, if_pos rfl]
        -- a new flow was empty before, a joined one was not
        rcases h.target hassigns with ⟨hnew, hempty⟩ | ⟨hnew, -, hne, -⟩
        · rw [hempty, List.nil_append]
          exact ⟨fun _ => rfl, fun _ => hnew⟩
        · rw [hnew]
          constructor
          · intro hfalse
            cases hfalse
          · intro hsingle
            rw [List.append_eq_singleton_iff] at hsingle
            simp [hne] at hsingle

/-- A query and its answer share a flow. -/
theorem packets_of_query :
    let query := Packet.udp ⟨.v4 1, 5000⟩ ⟨.v4 2, 53⟩ []
    let answer := Packet.udp ⟨.v4 2, 53⟩ ⟨.v4 1, 5000⟩ []
    let s := after step {} [.start (some 50), .packet query]
    (0 < s.tracker.flows.size ∧ OfOneConversation (s.tracker.flow 0).packets) ∧
      (s.step (.packet answer)).2 = .assigned ⟨0, false⟩ ∧
      (false = true ↔ ((s.step (.packet answer)).1.tracker.flow 0).packets = [answer]) := by
  intro query answer s
  obtain ⟨-, -, -, hone, hnew⟩ := packets_of_flows 0 [.start (some 50), .packet query]
  have hflow : 0 < s.tracker.flows.size := by decide
  have hanswer : (s.step (.packet answer)).2 = .assigned ⟨0, false⟩ := by decide
  exact ⟨⟨hflow, hone 0 hflow⟩, hanswer, hnew answer ⟨0, false⟩ hanswer⟩

end TrackerSession
end FlowScope
