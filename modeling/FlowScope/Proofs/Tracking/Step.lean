import FlowScope.Proofs.Tracking.Table

/-!
# What the operations of a tracker do

`Tracker.Assigns` is the relation behind `Tracker.assign`: it says once all that an assignment can do
to a tracker, and later proofs are case analyses on it.

* `assigns_of_assign` — every assignment is one of the three kinds;
* `Assigns.flow_eq`, `Assigns.size_eq` — all three kinds append the packet to the flow of the answer
  and touch no other flow, a flow not yet handed out being empty;
* `sweep_table` — a sweep keeps the entries that are not expired, with or without an expiration time.
-/

namespace FlowScope

@[simp] theorem Flow.packets_push (f : Flow) (p : Packet) : (f.push p).packets = f.packets ++ [p] :=
  rfl

namespace Tracker

variable {t t' : Tracker} {now : Int} {p : Packet} {a : Assigned}

inductive Assigns (t : Tracker) (now : Int) (p : Packet) : Tracker → Assigned → Prop
  /-- A packet of no conversation: the table plays no part. -/
  | apart (hp : Conversation.ofPacket? p = none) :
      Assigns t now p { t with flows := t.flows.push (.single p) } ⟨t.flows.size, true⟩
  /-- A new flow for a conversation that has none in the table, or only an expired one. -/
  | opened {c : Conversation} {table : FlowTable} (hp : Conversation.ofPacket? p = some c)
      (ht : t.table = some table)
      (hgone : ∀ entry, table.find? c = some entry → table.isExpired now entry = true) :
      Assigns t now p
        { table := some (table.insert c ⟨t.flows.size, now⟩)
          evicted := t.evicted + if (table.find? c).isSome then 1 else 0
          flows := t.flows.push (.single p) }
        ⟨t.flows.size, true⟩
  /-- The flow that the table has for the conversation. -/
  | joined {c : Conversation} {table : FlowTable} {entry : TableEntry}
      (hp : Conversation.ofPacket? p = some c) (ht : t.table = some table)
      (hfind : table.find? c = some entry) (hlive : table.isExpired now entry = false) :
      Assigns t now p
        { t with
          table := some (table.insert c { entry with lastSeen := now })
          flows := t.flows.setIfInBounds entry.flow ((t.flow entry.flow).push p) }
        ⟨entry.flow, false⟩

theorem assigns_of_assign (h : t.assign now p = .ok (t', a)) : Assigns t now p t' a := by
  unfold assign at h
  split at h
  next hp =>
    cases h
    exact .apart hp
  next c hp =>
    split at h
    next => cases h
    next table ht =>
      split at h
      next hfind =>
        -- with no entry, and with an expired one, the table is the same but for that entry: both are
        -- `opened`
        cases h
        have hgone : ∀ entry, table.find? c = some entry → table.isExpired now entry = true := by
          simp [hfind]
        have hopened := Assigns.opened hp ht hgone
        rw [hfind] at hopened
        exact hopened
      next entry hfind =>
        split at h
        next hexpired =>
          cases h
          have hgone : ∀ entry, table.find? c = some entry →
              table.isExpired now entry = true := by
            simpa [hfind] using hexpired
          have hopened := Assigns.opened hp ht hgone
          rw [hfind] at hopened
          exact hopened
        next hlive =>
          cases h
          exact .joined hp ht hfind (by simpa using hlive)

theorem assign_of_assigns (h : t.Assigns now p t' a) : t.assign now p = .ok (t', a) := by
  cases h with
  | apart hp => simp only [assign, hp, openFlow]
  | @opened c table hp htable hgone =>
      cases hfind : table.find? c with
      | none => simp [assign, hp, htable, hfind, openTracked, openFlow]
      | some entry => simp [assign, hp, htable, hfind, hgone entry hfind, openTracked, openFlow]
  | joined hp htable hfind hlive => simp [assign, hp, htable, hfind, hlive, join, setFlow, flow]

/-- Only a tracker without a table refuses a packet. -/
theorem table_eq_none_of_assign {cause : NoTable} (h : t.assign now p = .error cause) :
    t.table = none := by
  unfold assign at h
  split at h
  next => cases h
  next =>
    split at h
    next ht => exact ht
    next =>
      split at h
      next => cases h
      next => split at h <;> cases h

/-- An assignment does not make or remove a table. -/
theorem Assigns.isStarted (h : Assigns t now p t' a) (ht : t.isStarted = true) :
    t'.isStarted = true := by
  cases h with
  | apart => exact ht
  | opened => rfl
  | joined => rfl

/-! ### The flows afterwards -/

theorem flow_of_size_le {n : Nat} (h : t.flows.size ≤ n) : t.flow n = {} := by
  simp [flow, Array.getElem?_eq_none h]

/-- A new flow has the next number. -/
theorem Assigns.flow_of_isNew (h : Assigns t now p t' a) (hnew : a.isNew = true) :
    a.flow = t.flows.size := by
  cases h with
  | apart => rfl
  | opened => rfl
  | joined => cases hnew

theorem Assigns.size_eq (h : Assigns t now p t' a) :
    t'.flows.size = t.flows.size + if a.isNew then 1 else 0 := by
  cases h with
  | apart => simp
  | opened => simp
  | joined => simp

/-- The packet is appended to the flow of the answer, and to no other. The flow of a table entry must
have been handed out before. -/
theorem Assigns.flow_eq (h : Assigns t now p t' a)
    (hjoin : a.isNew = false → a.flow < t.flows.size) (n : Nat) :
    t'.flow n = if n = a.flow then (t.flow n).push p else t.flow n := by
  -- a flow beyond the array reads as the empty one, so the new flow is an empty one with the packet
  have hpush : (t.flows.push (.single p)).getD n {} =
      if n = t.flows.size then (t.flow n).push p else t.flow n := by
    by_cases hn : n = t.flows.size
    · rw [if_pos hn, flow_of_size_le (Nat.le_of_eq hn.symm)]
      simp [hn, Flow.single, Flow.push]
    · rw [if_neg hn]
      simp [flow, Array.getElem?_push, hn]
  cases h with
  | apart => exact hpush
  | opened => exact hpush
  | @joined _ _ entry =>
      have hlt : entry.flow < t.flows.size := hjoin rfl
      show (t.flows.setIfInBounds entry.flow _).getD n {} = _
      by_cases hn : n = entry.flow
      · subst hn
        simp [hlt]
      · rw [if_neg hn]
        simp [flow, Ne.symm hn]

/-- Only flows in the table are joined, so what has been handed out covers them. -/
theorem Assigns.flow_lt (h : Assigns t now p t' a)
    (hjoin : a.isNew = false → a.flow < t.flows.size) : a.flow < t'.flows.size := by
  rw [h.size_eq]
  cases hnew : a.isNew with
  | true =>
      have heq := h.flow_of_isNew hnew
      simp only [if_true]
      omega
  | false => exact hjoin hnew

/-! ### Replacing a flow -/

theorem flow_setFlow {n : Nat} (hn : n < t.flows.size) (f : Flow) (m : Nat) :
    (t.setFlow n f).flow m = if m = n then f else t.flow m := by
  show (t.flows.setIfInBounds n f).getD m {} = _
  by_cases hm : m = n
  · subst hm
    simp [hn]
  · rw [if_neg hm]
    simp [flow, Ne.symm hm]

@[simp] theorem setFlow_size (n : Nat) (f : Flow) : (t.setFlow n f).flows.size = t.flows.size :=
  Array.size_setIfInBounds

/-- A flow may be replaced by itself. -/
@[simp] theorem setFlow_flow (n : Nat) : t.setFlow n (t.flow n) = t := by
  obtain ⟨table, evicted, flows⟩ := t
  have hflows : flows.setIfInBounds n (flows.getD n {}) = flows := by
    apply Array.ext
    · exact Array.size_setIfInBounds
    · intro m hm hm'
      rw [Array.getElem_setIfInBounds hm']
      split
      next hnm =>
        -- only the flow at the number is written, and with what it was
        subst hnm
        simp [hm']
      next => rfl
  exact congrArg (Tracker.mk table evicted) hflows

@[simp] theorem setFlow_setFlow (n : Nat) (f g : Flow) :
    (t.setFlow n f).setFlow n g = t.setFlow n g := by
  simp [setFlow]

/-! ### Sweeping -/

@[simp] theorem sweep_flows : (t.sweep now).1.flows = t.flows := by
  unfold sweep
  split
  next => rfl
  next => split <;> rfl

theorem sweep_of_none (h : t.table = none) : t.sweep now = (t, 0) := by
  simp only [sweep, h]

theorem sweep_table : (t.sweep now).1.table = t.table.map fun table =>
    { table with entries := table.entries.filter (!table.isExpired now ·.2) } := by
  cases ht : t.table with
  | none => simp [sweep, ht]
  | some table =>
      obtain ⟨expiration, entries⟩ := table
      cases expiration with
      | none => simp [sweep, ht, FlowTable.isExpired]
      | some ttl =>
          -- to be kept by the sweep is not to be expired
          have hkeep : ∀ e : Conversation × TableEntry,
              (!FlowTable.isExpired ⟨some ttl, entries⟩ now e.2) =
                decide (elapsed e.2.lastSeen now < ttl) := by
            intro e
            show (!decide (ttl ≤ elapsed e.2.lastSeen now)) = _
            rw [← decide_not]
            exact decide_eq_decide.mpr Nat.not_le
          simp only [sweep, ht, Option.map_some, hkeep]

end Tracker
end FlowScope
