import FlowScope.Proofs.Tracking.Step
import FlowScope.Proofs.Tracking.Chronicle

/-!
# What a tracker remembers of its history

The answer to a packet depends on the whole history of the session, and this module says how. The
invariant (`Recalls`) ties each entry of the table to the latest call of its conversation: the entry is
there exactly if the flow of that call was spared by every sweep since. The invariant is kept by each
kind of event (`TableRecalls.start`, `.clear`, `.filter`, `.insert`), hence by runs.

The main statement is `packet_answer_of_history`: a packet joins the flow of the latest call of its
conversation exactly if the expiration time has passed neither now nor at a sweep since then, and
otherwise gets a flow that was never handed out before.
-/

namespace FlowScope
namespace TrackerSession

variable {s : TrackerSession} {log since : List Moment} {m q : Moment} {c : Conversation}
  {table : FlowTable} {entry : TableEntry}

/-- At no sweep since the call had the expiration time passed. By a clock that was set back, no time has
passed: the difference of its readings counts as zero then. -/
def Spared (expiration : Option Nat) (q : Moment) (since : List Moment) : Prop :=
  ∀ ttl, expiration = some ttl → ∀ m ∈ since, m.event = .sweep → (m.time - q.time).toNat < ttl

/-- The flow of a call can be joined at the time `now`: if there is an expiration time, and it is not
zero, it has passed neither now nor at a sweep since the call. -/
def Joinable (expiration : Option Nat) (q : Moment) (since : List Moment) (now : Int) : Prop :=
  ∀ ttl, expiration = some ttl → ttl ≠ 0 →
    (now - q.time).toNat < ttl ∧ ∀ m ∈ since, m.event = .sweep → (m.time - q.time).toNat < ttl

theorem spared_snoc_iff {expiration : Option Nat} :
    Spared expiration q (since ++ [m]) ↔
      Spared expiration q since ∧
        (m.event = .sweep → ∀ ttl, expiration = some ttl → (m.time - q.time).toNat < ttl) := by
  constructor
  · intro h
    refine ⟨?_, ?_⟩
    · intro ttl httl x hx
      exact h ttl httl x (List.mem_append_left _ hx)
    · intro hm ttl httl
      exact h ttl httl m (by simp) hm
  · rintro ⟨hsince, hm⟩ ttl httl x hx hsweep
    rcases List.mem_append.mp hx with hx | hx
    · exact hsince ttl httl x hx hsweep
    · obtain rfl := List.mem_singleton.mp hx
      exact hm hsweep ttl httl

/-- A table started with an expiration time of zero has none. -/
theorem joinable_iff {expiration : Option Nat} {now : Int} :
    Joinable expiration q since now ↔
      (∀ ttl, expiration.filter (· ≠ 0) = some ttl → (now - q.time).toNat < ttl) ∧
        Spared (expiration.filter (· ≠ 0)) q since := by
  -- an expiration of zero is none at all
  have hfilter : ∀ ttl, expiration.filter (· ≠ 0) = some ttl ↔ expiration = some ttl ∧ ttl ≠ 0 := by
    intro ttl
    rw [Option.filter_eq_some_iff]
    simp
  constructor
  · intro h
    refine ⟨?_, ?_⟩
    · intro ttl httl
      obtain ⟨hexp, hne⟩ := (hfilter ttl).mp httl
      exact (h ttl hexp hne).1
    · intro ttl httl
      obtain ⟨hexp, hne⟩ := (hfilter ttl).mp httl
      exact (h ttl hexp hne).2
  · rintro ⟨hnow, hspared⟩ ttl hexp hne
    have httl := (hfilter ttl).mpr ⟨hexp, hne⟩
    exact ⟨hnow ttl httl, hspared ttl httl⟩

/-! ## The invariant -/

/-- A table agrees with the chronicle of its session. -/
structure TableRecalls (table : FlowTable) (log : List Moment) : Prop where
  keysUnique : table.KeysUnique
  inForce : ∃ expiration, InForce log expiration ∧ table.expiration = expiration.filter (· ≠ 0)
  answered : ∀ c q since, LatestCall log c q since → ∃ n, q.flow? = some n
  find?_iff : ∀ c entry, table.find? c = some entry ↔
    ∃ q since, LatestCall log c q since ∧ q.flow? = some entry.flow ∧ q.time = entry.lastSeen ∧
      Spared table.expiration q since

structure Recalls (s : TrackerSession) (log : List Moment) : Prop where
  handedOut : ∀ m ∈ log, ∀ n, m.flow? = some n → n < s.tracker.flows.size
  table : ∀ table, s.tracker.table = some table → TableRecalls table log

/-! ### One more moment -/

theorem TableRecalls.of_resets (hunique : table.KeysUnique) (hempty : ∀ c, table.find? c = none)
    (hforce : ∃ expiration, InForce (log ++ [m]) expiration ∧
      table.expiration = expiration.filter (· ≠ 0))
    (hm : m.Resets) : TableRecalls table (log ++ [m]) where
  keysUnique := hunique
  inForce := hforce
  answered := fun _ _ _ h => absurd h (not_latestCall_of_resets hm)
  find?_iff := by
    intro c entry
    rw [hempty c]
    constructor
    · intro h
      cases h
    · rintro ⟨q, since, h, -⟩
      exact absurd h (not_latestCall_of_resets hm)

theorem TableRecalls.start {expiration : Option Nat} (hm : m.event = .start expiration) :
    TableRecalls { expiration := expiration.filter (· ≠ 0) } (log ++ [m]) :=
  .of_resets (FlowTable.keysUnique_empty _) (fun _ => rfl)
    ⟨expiration, inForce_snoc_of_start hm, rfl⟩ (.inl ⟨expiration, hm⟩)

theorem TableRecalls.clear (h : TableRecalls table log) (hm : m.event = .clear) :
    TableRecalls { table with entries := [] } (log ++ [m]) := by
  obtain ⟨expiration, hforce, hexp⟩ := h.inForce
  refine .of_resets (FlowTable.keysUnique_empty _) (fun _ => rfl) ⟨expiration, ?_, hexp⟩
    (.inr (.inr hm))
  exact hforce.snoc (by simp [hm]) (by simp [hm])

theorem InForce.snoc_of_not_resets {expiration : Option Nat} (h : InForce log expiration)
    (hm : ¬ m.Resets) : InForce (log ++ [m]) expiration :=
  h.snoc (fun he => hm (.inr (.inl he))) (fun e he => hm (.inl ⟨e, he⟩))

/-- Sweeping drops the entries whose flows were not spared. Events other than sweeps, resets and calls
are the case in which every entry is kept. -/
theorem TableRecalls.filter (h : TableRecalls table log) (hresets : ¬ m.Resets)
    (hcalls : ∀ c, ¬ m.Calls c) (keep : TableEntry → Bool)
    (hkeep : ∀ e, keep e = true ↔
      (m.event = .sweep → ∀ ttl, table.expiration = some ttl → (m.time - e.lastSeen).toNat < ttl)) :
    TableRecalls { table with entries := table.entries.filter (keep ·.2) } (log ++ [m]) where
  keysUnique := h.keysUnique.filter _
  inForce := by
    obtain ⟨expiration, hforce, hexp⟩ := h.inForce
    exact ⟨expiration, hforce.snoc_of_not_resets hresets, hexp⟩
  answered := by
    intro c q since hq
    obtain ⟨since', -, hq'⟩ := (latestCall_snoc_iff_of_not_calls hresets (hcalls c)).mp hq
    exact h.answered c q since' hq'
  find?_iff := by
    intro c entry
    rw [FlowTable.find?_filter h.keysUnique, Option.filter_eq_some_iff, h.find?_iff, hkeep]
    constructor
    · -- what stays was spared before and is so by this moment, if it is a sweep
      rintro ⟨⟨q, since, hq, hflow, htime, hspared⟩, hsweep⟩
      refine ⟨q, since ++ [m], ?_, hflow, htime, ?_⟩
      · exact (latestCall_snoc_iff_of_not_calls hresets (hcalls c)).mpr ⟨since, rfl, hq⟩
      · rw [← htime] at hsweep
        exact spared_snoc_iff.mpr ⟨hspared, hsweep⟩
    · rintro ⟨q, since, hq, hflow, htime, hspared⟩
      obtain ⟨since', rfl, hq'⟩ := (latestCall_snoc_iff_of_not_calls hresets (hcalls c)).mp hq
      obtain ⟨hspared', hsweep⟩ := spared_snoc_iff.mp hspared
      rw [htime] at hsweep
      exact ⟨⟨q, since', hq', hflow, htime, hspared'⟩, hsweep⟩

theorem TableRecalls.quiet (h : TableRecalls table log) (hresets : ¬ m.Resets)
    (hcalls : ∀ c, ¬ m.Calls c) (hsweep : m.event ≠ .sweep) : TableRecalls table (log ++ [m]) := by
  have hall := h.filter hresets hcalls (fun _ => true) (by simp [hsweep])
  rwa [List.filter_true] at hall

/-- The entry of a conversation remembers its latest call. -/
theorem TableRecalls.insert (h : TableRecalls table log) {p : Packet}
    (hm : m.event = .packet p) (hp : Conversation.ofPacket? p = some c)
    (hflow : m.flow? = some entry.flow) (htime : m.time = entry.lastSeen) :
    TableRecalls (table.insert c entry) (log ++ [m]) := by
  have hcalls : m.Calls c := ⟨p, hm, hp⟩
  have hresets : ¬ m.Resets := Moment.not_resets_of_packet hm
  -- for the other conversations, the moment is only one more since their latest calls
  have hother : ∀ {d q since}, d ≠ c → (LatestCall (log ++ [m]) d q since ↔
      ∃ since', since = since' ++ [m] ∧ LatestCall log d q since') :=
    fun hd => latestCall_snoc_iff_of_not_calls hresets (fun hc => hd (hc.unique hcalls))
  -- and it is no sweep
  have hspared : ∀ {q since}, Spared table.expiration q (since ++ [m]) ↔
      Spared table.expiration q since := by
    intro q since
    rw [spared_snoc_iff]
    simp [hm]
  refine ⟨h.keysUnique.insert c entry, ?_, ?_, ?_⟩
  · obtain ⟨expiration, hforce, hexp⟩ := h.inForce
    exact ⟨expiration, hforce.snoc_of_not_resets hresets, hexp⟩
  · intro d q since hq
    by_cases hd : d = c
    · subst hd
      -- the moment itself is now the latest call
      obtain ⟨rfl, -⟩ := (latestCall_snoc_iff_of_calls hcalls).mp hq
      exact ⟨entry.flow, hflow⟩
    · obtain ⟨since', -, hq'⟩ := (hother hd).mp hq
      exact h.answered d q since' hq'
  · intro d e
    by_cases hd : d = c
    · subst hd
      -- nothing has passed since, so the new entry is spared
      rw [FlowTable.find?_insert_self]
      constructor
      · intro he
        cases he
        refine ⟨m, [], (latestCall_snoc_iff_of_calls hcalls).mpr ⟨rfl, rfl⟩, hflow, htime, ?_⟩
        intro ttl _ x hx
        cases hx
      · rintro ⟨q, since, hq, hqflow, hqtime, -⟩
        obtain ⟨rfl, -⟩ := (latestCall_snoc_iff_of_calls hcalls).mp hq
        obtain ⟨flow, lastSeen⟩ := entry
        obtain ⟨flow', lastSeen'⟩ := e
        obtain rfl : flow = flow' := Option.some.inj (hflow.symm.trans hqflow)
        obtain rfl : lastSeen = lastSeen' := htime.symm.trans hqtime
        rfl
    · rw [FlowTable.find?_insert_of_ne hd, h.find?_iff]
      constructor
      · rintro ⟨q, since, hq, hrest⟩
        refine ⟨q, since ++ [m], (hother hd).mpr ⟨since, rfl, hq⟩, ?_⟩
        rw [FlowTable.insert_expiration, hspared]
        exact hrest
      · rintro ⟨q, since, hq, hrest⟩
        obtain ⟨since', rfl, hq'⟩ := (hother hd).mp hq
        rw [FlowTable.insert_expiration, hspared] at hrest
        exact ⟨q, since', hq', hrest⟩

/-! ## Runs -/

theorem Recalls.nil (now : Int) : Recalls { now } [] where
  handedOut := by
    intro m hm
    cases hm
  table := by
    intro table h
    cases h

theorem Recalls.flow_lt (h : Recalls s log) (htable : s.tracker.table = some table)
    (hfind : table.find? c = some entry) : entry.flow < s.tracker.flows.size := by
  obtain ⟨q, since, hq, hflow, -⟩ := ((h.table table htable).find?_iff c entry).mp hfind
  exact h.handedOut q hq.mem _ hflow

theorem Recalls.handedOut_snoc (h : Recalls s log) {size : Nat} (hsize : s.tracker.flows.size ≤ size)
    (hm : ∀ n, m.flow? = some n → n < size) :
    ∀ x ∈ log ++ [m], ∀ n, x.flow? = some n → n < size := by
  intro x hx n hn
  rcases List.mem_append.mp hx with hx | hx
  · exact Nat.lt_of_lt_of_le (h.handedOut x hx n hn) hsize
  · obtain rfl := List.mem_singleton.mp hx
    exact hm n hn

/-- A moment whose answer names no flow hands none out. -/
theorem Recalls.handedOut_of_none (h : Recalls s log) (hm : m.flow? = none) :
    ∀ x ∈ log ++ [m], ∀ n, x.flow? = some n → n < s.tracker.flows.size := by
  apply h.handedOut_snoc (Nat.le_refl _)
  intro n hn
  rw [hm] at hn
  cases hn

/-- Assigning a packet keeps the invariant. -/
theorem Recalls.assign (h : Recalls s log) {p : Packet} {t : Tracker} {a : Assigned}
    (ha : s.tracker.Assigns s.now p t a) (hm : m = ⟨s.now, .packet p, .assigned a⟩) :
    Recalls { s with tracker := t } (log ++ [m]) := by
  have hevent : m.event = .packet p := by rw [hm]
  have hflow : m.flow? = some a.flow := by rw [hm]; rfl
  have htime : m.time = s.now := by rw [hm]
  have hsize : s.tracker.flows.size ≤ t.flows.size := by
    rw [ha.size_eq]
    exact Nat.le_add_right _ _
  refine ⟨h.handedOut_snoc hsize ?_, ?_⟩
  · intro n hn
    obtain rfl : a.flow = n := Option.some.inj (hflow.symm.trans hn)
    cases ha with
    | apart => simp
    | opened => simp
    | joined _ ht hfind _ => simpa using h.flow_lt ht hfind
  · -- the table is touched for a packet of a conversation only, and then by one insertion
    intro table htable
    cases ha with
    | apart hp =>
        have hcalls : ∀ c, ¬ m.Calls c := by
          rintro c ⟨p', hp', hc⟩
          rw [hevent] at hp'
          cases hp'
          rw [hp] at hc
          cases hc
        exact (h.table table htable).quiet (Moment.not_resets_of_packet hevent) hcalls
          (by simp [hevent])
    | opened hp ht hgone =>
        cases htable
        exact (h.table _ ht).insert hevent hp hflow htime
    | joined hp ht hfind hlive =>
        cases htable
        exact (h.table _ ht).insert hevent hp hflow htime

/-- Every event keeps the invariant. -/
theorem Recalls.step (s : TrackerSession) (log : List Moment) (event : TrackerEvent)
    (h : Recalls s log) : Recalls (s.step event).1 (log ++ [s.moment event]) := by
  cases event with
  | start expiration =>
      refine ⟨h.handedOut_of_none rfl, ?_⟩
      intro table htable
      cases htable
      exact .start rfl
  | stop =>
      refine ⟨h.handedOut_of_none rfl, ?_⟩
      intro table htable
      cases htable
  | clear =>
      refine ⟨h.handedOut_of_none rfl, ?_⟩
      intro table htable
      obtain ⟨before, hbefore, rfl⟩ := Option.map_eq_some_iff.mp htable
      exact (h.table before hbefore).clear rfl
  | sweep =>
      -- A sweep is the one event that drops entries by their age.
      refine ⟨h.handedOut_snoc ?_ (by intro n hn; cases hn), ?_⟩
      · show _ ≤ (s.tracker.sweep s.now).1.flows.size
        exact Nat.le_of_eq (congrArg Array.size Tracker.sweep_flows.symm)
      · intro table htable
        have hswept : (s.tracker.sweep s.now).1.table = some table := htable
        rw [Tracker.sweep_table] at hswept
        obtain ⟨before, hbefore, rfl⟩ := Option.map_eq_some_iff.mp hswept
        refine (h.table before hbefore).filter ?_ ?_ (!before.isExpired s.now ·) ?_
        · rintro (⟨e, he⟩ | he | he) <;> cases he
        · rintro c ⟨p, hp, -⟩
          cases hp
        · intro e
          rw [Bool.not_eq_true', FlowTable.isExpired_eq_false_iff]
          exact ⟨fun hlt _ => hlt, fun hlt => hlt rfl⟩
  | pass milliseconds =>
      refine ⟨h.handedOut_of_none rfl, ?_⟩
      intro table htable
      refine (h.table table htable).quiet ?_ ?_ (by intro he; cases he)
      · rintro (⟨e, he⟩ | he | he) <;> cases he
      · rintro c ⟨p, hp, -⟩
        cases hp
  | packet p =>
      cases hassign : s.tracker.assign s.now p with
      | ok out =>
          obtain ⟨t, a⟩ := out
          rw [moment, step_packet_of_ok hassign]
          exact h.assign (Tracker.assigns_of_assign hassign) rfl
      | error cause =>
          rw [moment, step_packet_of_error hassign]
          refine ⟨h.handedOut_of_none rfl, ?_⟩
          intro table htable
          rw [Tracker.table_eq_none_of_assign hassign] at htable
          cases htable

theorem recalls_after (now : Int) (events : List TrackerEvent) :
    Recalls (after step { now } events) (chronicle { now } events) :=
  chronicle_induction Recalls.step (Recalls.nil now) events

/-! ## Answers -/

/-- A flow that no answer has named so far. -/
def NeverReturned (log : List Moment) (n : Nat) : Prop := ∀ m ∈ log, m.flow? ≠ some n

theorem Recalls.neverReturned (h : Recalls s log) : NeverReturned log s.tracker.flows.size := by
  intro m hm hflow
  exact Nat.lt_irrefl _ (h.handedOut m hm _ hflow)

/-- A packet of a conversation joins the flow of its latest call if that can be joined, and otherwise
opens a flow. -/
theorem Recalls.answer (h : Recalls s log) {p : Packet} (hp : Conversation.ofPacket? p = some c)
    {expiration : Option Nat} (htable : s.tracker.table = some table)
    (hexp : table.expiration = expiration.filter (· ≠ 0)) :
    ∃ a, (s.step (.packet p)).2 = .assigned a ∧
      (∀ q since, LatestCall log c q since → ∃ n, q.flow? = some n ∧
        (a = ⟨n, false⟩ ↔ Joinable expiration q since s.now)) ∧
      ((∀ q since, LatestCall log c q since → ¬ Joinable expiration q since s.now) →
        a.isNew = true ∧ NeverReturned log a.flow) := by
  have hrecalls := h.table table htable
  -- The flow in the table is that of the latest call, and not expired now: that is joinable.
  have hjoinable : ∀ {q since n}, LatestCall log c q since → q.flow? = some n →
      (Joinable expiration q since s.now ↔
        ∃ entry, table.find? c = some entry ∧ table.isExpired s.now entry = false) := by
    intro q since n hq hn
    rw [joinable_iff, ← hexp]
    constructor
    · rintro ⟨hnow, hspared⟩
      refine ⟨⟨n, q.time⟩, (hrecalls.find?_iff c _).mpr ⟨q, since, hq, hn, rfl, hspared⟩, ?_⟩
      exact FlowTable.isExpired_eq_false_iff.mpr hnow
    · rintro ⟨entry, hfind, hlive⟩
      obtain ⟨q', since', hq', -, htime, hspared⟩ := (hrecalls.find?_iff c entry).mp hfind
      obtain ⟨rfl, rfl⟩ := hq.unique hq'
      rw [FlowTable.isExpired_eq_false_iff, ← htime] at hlive
      exact ⟨hlive, hspared⟩
  cases hassign : s.tracker.assign s.now p with
  | error cause =>
      rw [Tracker.table_eq_none_of_assign hassign] at htable
      cases htable
  | ok out =>
      obtain ⟨t, a⟩ := out
      refine ⟨a, by rw [step_packet_of_ok hassign], ?_⟩
      cases Tracker.assigns_of_assign hassign with
      | apart hnone =>
          rw [hnone] at hp
          cases hp
      | opened hp' ht hgone =>
          -- An entry that is gone or expired is that of a call nobody can join.
          obtain rfl := Option.some.inj (hp.symm.trans hp')
          obtain rfl := Option.some.inj (htable.symm.trans ht)
          refine ⟨?_, fun _ => ⟨rfl, h.neverReturned⟩⟩
          intro q since hq
          obtain ⟨n, hn⟩ := hrecalls.answered c q since hq
          refine ⟨n, hn, ?_⟩
          rw [hjoinable hq hn]
          constructor
          · intro ha
            cases ha
          · rintro ⟨entry, hfind, hlive⟩
            rw [hgone entry hfind] at hlive
            cases hlive
      | @joined _ _ entry hp' ht hfind hlive =>
          -- There is a call to join, so nothing is to be said of a flow that is new.
          obtain rfl := Option.some.inj (hp.symm.trans hp')
          obtain rfl := Option.some.inj (htable.symm.trans ht)
          obtain ⟨q, since, hq, hflow, -⟩ := (hrecalls.find?_iff c entry).mp hfind
          refine ⟨?_, ?_⟩
          · intro q' since' hq'
            obtain ⟨rfl, rfl⟩ := hq.unique hq'
            refine ⟨entry.flow, hflow, ?_⟩
            rw [hjoinable hq hflow]
            exact ⟨fun _ => ⟨entry, hfind, hlive⟩, fun _ => rfl⟩
          · intro hnone
            exact absurd ((hjoinable hq hflow).mpr ⟨entry, hfind, hlive⟩) (hnone q since hq)

/-- **The answer to a packet, from the history alone.** After any run from a new tracker,

* a packet of a conversation, arriving while the table exists, joins the flow of the latest call of
  that conversation since the table was last emptied, exactly if that flow can be joined; in every
  other case it opens a flow never returned before;
* a packet of no conversation always does the latter, and changes neither the table nor the number of
  evictions nor any flow handed out. -/
theorem packet_answer_of_history (now : Int) (events : List TrackerEvent) (p : Packet) :
    let s := after step { now } events
    let log := chronicle { now } events
    (∀ c, Conversation.ofPacket? p = some c → s.tracker.isStarted = true →
      ∃ expiration a, InForce log expiration ∧ (s.step (.packet p)).2 = .assigned a ∧
        (∀ q since, LatestCall log c q since → ∃ n, q.flow? = some n ∧
          (a = ⟨n, false⟩ ↔ Joinable expiration q since s.now)) ∧
        ((∀ q since, LatestCall log c q since → ¬ Joinable expiration q since s.now) →
          a.isNew = true ∧ NeverReturned log a.flow)) ∧
    (Conversation.ofPacket? p = none →
      ∃ n, (s.step (.packet p)).2 = .assigned ⟨n, true⟩ ∧ NeverReturned log n ∧
        (s.step (.packet p)).1.tracker.table = s.tracker.table ∧
        (s.step (.packet p)).1.tracker.evicted = s.tracker.evicted ∧
        ∀ k ≠ n, (s.step (.packet p)).1.tracker.flow k = s.tracker.flow k) := by
  intro s log
  have h : Recalls s log := recalls_after now events
  refine ⟨?_, ?_⟩
  · -- a started tracker has a table, and the invariant tells which expiration that table has
    intro c hp hstarted
    obtain ⟨table, htable⟩ := Option.isSome_iff_exists.mp hstarted
    obtain ⟨expiration, hforce, hexp⟩ := (h.table table htable).inForce
    obtain ⟨a, ha, hrest⟩ := h.answer hp htable hexp
    exact ⟨expiration, a, hforce, ha, hrest⟩
  · -- a packet of no conversation opens a flow before the table is looked at
    intro hp
    have hassign : s.tracker.assign s.now p = .ok (s.tracker.openFlow p) := by
      simp only [Tracker.assign, hp]
    rw [step_packet_of_ok hassign]
    refine ⟨s.tracker.flows.size, rfl, h.neverReturned, rfl, rfl, ?_⟩
    intro k hk
    have happart : s.tracker.Assigns s.now p (s.tracker.openFlow p).1 (s.tracker.openFlow p).2 :=
      .apart hp
    exact (happart.flow_eq (fun hnew => by cases hnew) k).trans (if_neg hk)

/-- The answer to a query, which comes after a sweep but within the expiration time, joins the flow of the
query; one millisecond later it opens a flow, and so it does if the clock is set back after a sweep that came
too late for the query. A packet of no conversation always opens one. -/
theorem packet_answer_of_query :
    let query := Packet.udp ⟨.v4 1, 5000⟩ ⟨.v4 2, 53⟩ []
    let answer := Packet.udp ⟨.v4 2, 53⟩ ⟨.v4 1, 5000⟩ []
    let stray := Packet.icmp (.v4 1) (.v4 2)
    let c : Conversation := ⟨.udp, ⟨.v4 2, 53⟩, ⟨.v4 1, 5000⟩⟩
    let events := [.start (some 50), .packet query, .pass 40, .sweep, .pass 9]
    let s := after step {} events
    let log := chronicle {} events
    (Conversation.ofPacket? answer = some c ∧ s.tracker.isStarted = true ∧
      ∃ expiration a, InForce log expiration ∧ (s.step (.packet answer)).2 = .assigned a ∧
        (∀ q since, LatestCall log c q since → ∃ n, q.flow? = some n ∧
          (a = ⟨n, false⟩ ↔ Joinable expiration q since s.now)) ∧
        ((∀ q since, LatestCall log c q since → ¬ Joinable expiration q since s.now) →
          a.isNew = true ∧ NeverReturned log a.flow)) ∧
    (Conversation.ofPacket? stray = none ∧
      ∃ n, (s.step (.packet stray)).2 = .assigned ⟨n, true⟩ ∧ NeverReturned log n) ∧
    (s.step (.packet answer)).2 = .assigned ⟨0, false⟩ ∧
    ((after step s [.pass 1]).step (.packet answer)).2 = .assigned ⟨1, true⟩ ∧
    ((after step s [.pass 1, .sweep, .pass (-49)]).step (.packet answer)).2 = .assigned ⟨1, true⟩ := by
  intro query answer stray c events s log
  have hp : Conversation.ofPacket? answer = some c := by decide
  have hstray : Conversation.ofPacket? stray = none := by decide
  obtain ⟨n, hn, hnever, -⟩ := (packet_answer_of_history 0 events stray).2 hstray
  refine ⟨⟨hp, rfl, (packet_answer_of_history 0 events answer).1 c hp rfl⟩,
    ⟨hstray, n, hn, hnever⟩, ?_, ?_, ?_⟩
  · decide
  · decide
  · decide

end TrackerSession
end FlowScope
