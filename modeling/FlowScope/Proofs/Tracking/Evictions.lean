import FlowScope.Proofs.Tracking.Conservation

/-!
# Which flows are evicted

A tracker counts its evictions but does not name the flows. This module does: the flows that an event
evicts are those that leave the table with it (`TrackerSession.evictions`), unless the event drops the
table as a whole.

What an event does to the flows in the table is said once, for all kinds of events, by
`Tracker.Exchanges`: some leave, others stay, new ones enter, and those that leave are counted. From
this follows, over runs, that no flow is evicted twice and that the tracker's counter is the number of
flows evicted: `evicted_after`.
-/

namespace FlowScope

namespace FlowTable

variable {table : FlowTable} {c : Conversation} {entry : TableEntry}

theorem erase_of_find?_none (h : table.find? c = none) : (table.erase c).entries = table.entries := by
  have hnone : table.entries.lookup c = none := h
  rw [List.lookup_eq_none_iff] at hnone
  apply List.filter_eq_self.mpr
  intro e he
  have hne : c ≠ e.1 := by simpa using hnone e he
  simpa using hne.symm

/-- The keys being unique, the entry that is found is the only one that erasing takes away. -/
theorem entries_perm_of_find? (hk : table.KeysUnique) (h : table.find? c = some entry) :
    table.entries.Perm ((c, entry) :: (table.erase c).entries) := by
  obtain ⟨expiration, entries⟩ := table
  have hnodup : (entries.map (·.1)).Nodup := hk
  have hlookup : entries.lookup c = some entry := h
  show entries.Perm ((c, entry) :: entries.filter (·.1 ≠ c))
  clear hk h
  induction entries with
  | nil => cases hlookup
  | cons e rest ih =>
      obtain ⟨d, other⟩ := e
      rw [List.map_cons, List.nodup_cons] at hnodup
      rw [List.lookup_cons] at hlookup
      by_cases hcd : c = d
      · subst hcd
        -- keys are unique, so no later entry is erased along with this one
        have hrest : rest.filter (·.1 ≠ c) = rest := by
          apply List.filter_eq_self.mpr
          intro x hx
          have hne : x.1 ≠ c := fun heq => hnodup.1 (List.mem_map.mpr ⟨x, hx, heq⟩)
          simpa using hne
        have hentry : other = entry := by simpa using hlookup
        rw [List.filter_cons_of_neg (by simp), hrest, hentry]
      · have hne : (c == d) = false := by simpa using hcd
        rw [hne] at hlookup
        rw [List.filter_cons_of_pos (by simpa using Ne.symm hcd)]
        exact ((ih hnodup.2 hlookup).cons _).trans (List.Perm.swap _ _ _)

end FlowTable

namespace Tracker

variable {t t' : Tracker} {now : Int} {p : Packet} {a : Assigned} {gone : List Nat} {n : Nat}

/-! ## The flows in the table -/

/-- The numbers of the flows in the table. -/
def members (t : Tracker) : List Nat :=
  match t.table with
  | some table => table.entries.map (·.2.flow)
  | none => []

theorem members_of_table {table : FlowTable} (h : t.table = some table) :
    t.members = table.entries.map (·.2.flow) := by
  unfold members
  rw [h]

/-- The table has one entry at most for a conversation and for a flow, and its flows have been handed
out. -/
structure Distinct (t : Tracker) : Prop where
  keysUnique : t.KeysUnique
  nodup : t.members.Nodup
  lt : ∀ n ∈ t.members, n < t.flows.size

theorem distinct_of_members_eq_nil (hkeys : t.KeysUnique) (hmembers : t.members = []) :
    t.Distinct where
  keysUnique := hkeys
  nodup := hmembers ▸ List.nodup_nil
  lt := by simp [hmembers]

/-! ## Leaving, staying and entering -/

/-- The flows `gone` leave the table and are counted as evicted; all others stay, and those that enter
are new. -/
structure Exchanges (t t' : Tracker) (gone : List Nat) : Prop where
  exchange : ∃ stayed entered, t.members.Perm (gone ++ stayed) ∧ t'.members.Perm (entered ++ stayed) ∧
    entered.Nodup ∧ ∀ n ∈ entered, t.flows.size ≤ n ∧ n < t'.flows.size
  size_le : t.flows.size ≤ t'.flows.size
  evicted_eq : t'.evicted = t.evicted + gone.length

theorem Exchanges.none (hmembers : t'.members = t.members) (hsize : t.flows.size ≤ t'.flows.size)
    (hevicted : t'.evicted = t.evicted) : Exchanges t t' [] where
  exchange := ⟨t.members, [], .refl _, .of_eq hmembers, List.nodup_nil, by simp⟩
  size_le := hsize
  evicted_eq := hevicted

theorem exchanges_sweep (t : Tracker) (now : Int) : ∃ gone, Exchanges t (t.sweep now).1 gone := by
  cases htable : t.table with
  | none =>
      rw [sweep_of_none htable]
      exact ⟨[], .none rfl (Nat.le_refl _) rfl⟩
  | some table =>
      cases hexpiration : table.expiration with
      | none =>
          have hsweep : t.sweep now = (t, 0) := by simp [sweep, htable, hexpiration]
          rw [hsweep]
          exact ⟨[], .none rfl (Nat.le_refl _) rfl⟩
      | some ttl =>
          let isKept := fun e : Conversation × TableEntry => decide (elapsed e.2.lastSeen now < ttl)
          -- what is dropped and what is kept make up the entries, in some order
          have hsplit : table.entries.Perm
              (table.entries.filter (!isKept ·) ++ table.entries.filter isKept) :=
            ((List.filter_append_perm isKept table.entries).symm).trans List.perm_append_comm
          have hsweep : (t.sweep now).1 =
              { t with
                table := some { table with entries := table.entries.filter isKept }
                evicted := t.evicted + (table.entries.length - (table.entries.filter isKept).length) } := by
            simp only [sweep, htable, hexpiration, isKept]
          rw [hsweep]
          refine ⟨(table.entries.filter (!isKept ·)).map (·.2.flow), ⟨?_, Nat.le_refl _, ?_⟩⟩
          · refine ⟨(table.entries.filter isKept).map (·.2.flow), [], ?_, .refl _, List.nodup_nil, by simp⟩
            rw [members_of_table htable, ← List.map_append]
            exact hsplit.map _
          · have hlength := hsplit.length_eq
            rw [List.length_append] at hlength
            rw [List.length_map]
            show t.evicted + _ = _
            omega

theorem exchanges_assign (h : Assigns t now p t' a) (ht : t.Distinct) :
    ∃ gone, Exchanges t t' gone := by
  cases h with
  | apart => exact ⟨[], .none rfl (by simp) rfl⟩
  | @opened c table hp htable hgone =>
      have hmembers := members_of_table htable
      cases hfind : table.find? c with
      | none =>
          -- the new flow comes in for nothing
          refine ⟨[], ⟨⟨t.members, [t.flows.size], .refl _, ?_, by simp, by simp⟩, by simp, by simp⟩⟩
          apply List.Perm.of_eq
          rw [hmembers, ← FlowTable.erase_of_find?_none hfind]
          rfl
      | some entry =>
          -- the expired flow makes room for the new one
          have hperm := FlowTable.entries_perm_of_find? (ht.keysUnique table htable) hfind
          refine ⟨[entry.flow], ⟨⟨(table.erase c).entries.map (·.2.flow), [t.flows.size], ?_,
            .refl _, by simp, by simp⟩, by simp, by simp⟩⟩
          rw [hmembers]
          exact hperm.map (·.2.flow)
  | @joined c table entry hp htable hfind hlive =>
      -- the entry is put in anew with its flow as before
      have hperm := FlowTable.entries_perm_of_find? (ht.keysUnique table htable) hfind
      refine ⟨[], ⟨⟨t.members, [], .refl _, ?_, List.nodup_nil, by simp⟩, by simp, rfl⟩⟩
      rw [members_of_table htable]
      exact (hperm.map (·.2.flow)).symm

/-! ### Afterwards -/

theorem Exchanges.mem_members (h : Exchanges t t' gone) (hn : n ∈ t'.members) :
    n ∈ t.members ∨ t.flows.size ≤ n := by
  obtain ⟨stayed, entered, hbefore, hafter, -, hnew⟩ := h.exchange
  rcases List.mem_append.mp (hafter.mem_iff.mp hn) with hentered | hstayed
  · exact .inr (hnew n hentered).1
  · exact .inl (hbefore.mem_iff.mpr (List.mem_append_right _ hstayed))

theorem Exchanges.distinct (h : Exchanges t t' gone) (ht : t.Distinct) (hkeys : t'.KeysUnique) :
    t'.Distinct := by
  obtain ⟨stayed, entered, hbefore, hafter, hentered, hnew⟩ := h.exchange
  have hstayed : ∀ n ∈ stayed, n < t.flows.size := fun n hn =>
    ht.lt n (hbefore.mem_iff.mpr (List.mem_append_right _ hn))
  refine ⟨hkeys, ?_, ?_⟩
  · rw [hafter.nodup_iff]
    refine List.Nodup.append hentered ?_ ?_
    · exact (List.nodup_append.mp (hbefore.nodup_iff.mp ht.nodup)).2.1
    · -- a flow that enters is at least the size before, one that stayed is less
      intro n hn hn'
      have hle := (hnew n hn).1
      have hlt := hstayed n hn'
      omega
  · intro n hn
    rcases List.mem_append.mp (hafter.mem_iff.mp hn) with hn | hn
    · exact (hnew n hn).2
    · exact Nat.lt_of_lt_of_le (hstayed n hn) h.size_le

/-- The flows that leave are those that are no longer in the table. -/
theorem Exchanges.filter_members (h : Exchanges t t' gone) (ht : t.Distinct) :
    (t.members.filter (· ∉ t'.members)).Perm gone := by
  obtain ⟨stayed, entered, hbefore, hafter, -, hnew⟩ := h.exchange
  have hnodup := hbefore.nodup_iff.mp ht.nodup
  have hgone : gone.filter (· ∉ t'.members) = gone := by
    apply List.filter_eq_self.mpr
    intro n hn
    rw [decide_eq_true_iff]
    intro hmem
    -- what is gone is neither new, as it was tracked, nor has it stayed, as flows are tracked once
    rcases List.mem_append.mp (hafter.mem_iff.mp hmem) with hentered | hstayed
    · have hlt := ht.lt n (hbefore.mem_iff.mpr (List.mem_append_left _ hn))
      have hle := (hnew n hentered).1
      omega
    · exact (List.nodup_append.mp hnodup).2.2 n hn n hstayed rfl
  have hstayed : stayed.filter (· ∉ t'.members) = [] := by
    apply List.filter_eq_nil_iff.mpr
    intro n hn
    simpa using hafter.mem_iff.mpr (List.mem_append_right _ hn)
  have hfilter := hbefore.filter (· ∉ t'.members)
  rw [List.filter_append, hgone, hstayed, List.append_nil] at hfilter
  exact hfilter

end Tracker

/-- The event drops the table with all that is in it. -/
def TrackerEvent.dropsTable : TrackerEvent → Bool
  | .start _ => true
  | .stop => true
  | .clear => true
  | _ => false

namespace TrackerSession

variable {s : TrackerSession} {event : TrackerEvent} {n : Nat}

/-! ## Evictions -/

/-- The flows that leave the table with an event, unless it drops the table as a whole. -/
def evictions (s : TrackerSession) (event : TrackerEvent) : List Nat :=
  if event.dropsTable then []
  else s.tracker.members.filter (· ∉ (s.step event).1.tracker.members)

/-- The flows evicted in a run, in the order of the events. -/
def evictedIn (s : TrackerSession) : List TrackerEvent → List Nat
  | [] => []
  | event :: events => s.evictions event ++ evictedIn (s.step event).1 events

/-! ### One event -/

/-- After an event that drops the table there is no flow in it, and none was evicted. -/
theorem step_of_dropsTable (h : event.dropsTable = true) :
    (s.step event).1.tracker.members = [] ∧
      (s.step event).1.tracker.evicted = s.tracker.evicted ∧
      (s.step event).1.tracker.flows = s.tracker.flows := by
  cases event with
  | start expiration => exact ⟨rfl, rfl, rfl⟩
  | stop => exact ⟨rfl, rfl, rfl⟩
  | clear =>
      have hmembers : s.tracker.clear.members = [] := by
        unfold Tracker.clear Tracker.members
        cases s.tracker.table <;> rfl
      exact ⟨hmembers, rfl, rfl⟩
  | sweep => cases h
  | pass milliseconds => cases h
  | packet p => cases h

theorem exchanges_step (hevent : event.dropsTable = false) (h : s.tracker.Distinct) :
    ∃ gone, Tracker.Exchanges s.tracker (s.step event).1.tracker gone := by
  cases event with
  | start expiration => cases hevent
  | stop => cases hevent
  | clear => cases hevent
  | sweep => exact Tracker.exchanges_sweep s.tracker s.now
  | pass milliseconds => exact ⟨[], .none rfl (Nat.le_refl _) rfl⟩
  | packet p =>
      cases hassign : s.tracker.assign s.now p with
      | ok out =>
          rw [step_packet_of_ok hassign]
          exact Tracker.exchanges_assign (Tracker.assigns_of_assign hassign) h
      | error cause =>
          rw [step_packet_of_error hassign]
          exact ⟨[], .none rfl (Nat.le_refl _) rfl⟩

theorem distinct_step (event : TrackerEvent) (h : s.tracker.Distinct) :
    (s.step event).1.tracker.Distinct := by
  have hkeys := keysUnique_step event h.keysUnique
  cases hevent : event.dropsTable with
  | true => exact Tracker.distinct_of_members_eq_nil hkeys (step_of_dropsTable hevent).1
  | false =>
      obtain ⟨gone, hgone⟩ := exchanges_step hevent h
      exact hgone.distinct h hkeys

/-- A flow in the table afterwards was in it before, or is new. -/
theorem mem_members_step (event : TrackerEvent) (h : s.tracker.Distinct)
    (hn : n ∈ (s.step event).1.tracker.members) :
    n ∈ s.tracker.members ∨ s.tracker.flows.size ≤ n := by
  cases hevent : event.dropsTable with
  | true =>
      rw [(step_of_dropsTable hevent).1] at hn
      cases hn
  | false =>
      obtain ⟨gone, hgone⟩ := exchanges_step hevent h
      exact hgone.mem_members hn

theorem size_le_step (event : TrackerEvent) (h : s.tracker.Distinct) :
    s.tracker.flows.size ≤ (s.step event).1.tracker.flows.size := by
  cases hevent : event.dropsTable with
  | true => exact Nat.le_of_eq (by rw [(step_of_dropsTable hevent).2.2])
  | false =>
      obtain ⟨gone, hgone⟩ := exchanges_step hevent h
      exact hgone.size_le

theorem evicted_step (event : TrackerEvent) (h : s.tracker.Distinct) :
    (s.step event).1.tracker.evicted = s.tracker.evicted + (s.evictions event).length := by
  unfold evictions
  cases hevent : event.dropsTable with
  | true => exact (step_of_dropsTable hevent).2.1
  | false =>
      obtain ⟨gone, hgone⟩ := exchanges_step hevent h
      rw [if_neg Bool.false_ne_true, (hgone.filter_members h).length_eq]
      exact hgone.evicted_eq

theorem nodup_evictions (event : TrackerEvent) (h : s.tracker.Distinct) :
    (s.evictions event).Nodup := by
  unfold evictions
  split
  next => exact List.nodup_nil
  next => exact h.nodup.filter _

theorem mem_of_mem_evictions (hn : n ∈ s.evictions event) :
    n ∈ s.tracker.members ∧ n ∉ (s.step event).1.tracker.members := by
  unfold evictions at hn
  split at hn
  next => cases hn
  next => simpa using hn

/-! ### Runs -/

/-- A flow that is evicted in a run is in the table at its beginning, or new. -/
theorem mem_of_mem_evictedIn (events : List TrackerEvent) (h : s.tracker.Distinct)
    (hn : n ∈ s.evictedIn events) : n ∈ s.tracker.members ∨ s.tracker.flows.size ≤ n := by
  induction events generalizing s with
  | nil => cases hn
  | cons event events ih =>
      rcases List.mem_append.mp hn with hn | hn
      · exact .inl (mem_of_mem_evictions hn).1
      · rcases ih (distinct_step event h) hn with hmem | hle
        · exact mem_members_step event h hmem
        · exact .inr (Nat.le_trans (size_le_step event h) hle)

/-- No flow is evicted twice: once it has left the table it does not come back. -/
theorem nodup_evictedIn (events : List TrackerEvent) (h : s.tracker.Distinct) :
    (s.evictedIn events).Nodup := by
  induction events generalizing s with
  | nil => exact List.nodup_nil
  | cons event events ih =>
      refine List.Nodup.append (nodup_evictions event h) (ih (distinct_step event h)) ?_
      intro n hn hlater
      -- A flow evicted now is no longer tracked, and whatever is evicted later is tracked then or new.
      obtain ⟨hmem, hgone⟩ := mem_of_mem_evictions hn
      rcases mem_of_mem_evictedIn events (distinct_step event h) hlater with hmem' | hle
      · exact hgone hmem'
      · have hlt := h.lt n hmem
        have hsize := size_le_step event h
        omega

theorem evicted_after (events : List TrackerEvent) (h : s.tracker.Distinct) :
    (after step s events).tracker.evicted = s.tracker.evicted + (s.evictedIn events).length := by
  induction events generalizing s with
  | nil => rfl
  | cons event events ih =>
      have hlater := ih (distinct_step event h)
      have hevent := evicted_step event h
      show (after step (s.step event).1 events).tracker.evicted =
        s.tracker.evicted + (s.evictions event ++ (s.step event).1.evictedIn events).length
      rw [List.length_append]
      omega

end TrackerSession
end FlowScope
