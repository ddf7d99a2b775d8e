import FlowScope.Proofs.Chain.Calls
import FlowScope.Proofs.Exporter.Lines
import Mathlib.Data.List.Dedup

/-!
# What the counters of an exporter count

The counters of an exporter are changed line by line, and say something about flows. The link between
the two is the list of the packets read so far with the flows that they were assigned to
(`Exporter.assignments`), for which two invariants are kept:

* `Gathers` — each flow has the packets assigned to it, and the new flows were counted;
* `Settled` — each flow has the verdict on the shortest part of it that the chain has one on, and the
  flows with a known verdict were counted once, as they got it.

The main statement is `accounts_of_input`, about every input to an exporter that was just started.
-/

namespace FlowScope

/-! ## Verdicts that come with time -/

/-- The verdict is the first to name a protocol of those that `V` gives as the packets come one by one,
or `unknown` if none does. There is a first packet before there is a verdict. -/
def SettledBy (V : List Packet → Verdict) (packets : List Packet) (v : Verdict) : Prop :=
  (v = .unknown ∧ ∀ n, 0 < n → n ≤ packets.length → (V (packets.take n)).isUnknown = true) ∨
    ∃ n, 0 < n ∧ n ≤ packets.length ∧ v = V (packets.take n) ∧ v.isUnknown = false ∧
      ∀ m, 0 < m → m < n → (V (packets.take m)).isUnknown = true

namespace SettledBy

variable {V : List Packet → Verdict} {packets : List Packet} {v : Verdict}

theorem nil : SettledBy V [] .unknown := by
  refine .inl ⟨rfl, ?_⟩
  intro n hn hle
  have hle : n ≤ 0 := hle
  omega

/-- A known verdict stays. -/
theorem snoc_of_known (h : SettledBy V packets v) (hv : v.isUnknown = false) (p : Packet) :
    SettledBy V (packets ++ [p]) v := by
  rcases h with ⟨rfl, -⟩ | ⟨n, hn, hle, hvn, -, hfirst⟩
  · cases hv
  · -- the parts that settled the verdict end before the new packet
    have htake : ∀ m, m ≤ n → (packets ++ [p]).take m = packets.take m :=
      fun m hm => List.take_append_of_le_length (by omega)
    refine .inr ⟨n, hn, ?_, ?_, hv, ?_⟩
    · rw [List.length_append]
      omega
    · rw [htake n (Nat.le_refl n)]
      exact hvn
    · intro m hm hmn
      rw [htake m (by omega)]
      exact hfirst m hm hmn

/-- If there was none, the verdict on all the packets decides. -/
theorem snoc_of_unknown (h : SettledBy V packets v) (hv : v.isUnknown = true) (p : Packet) :
    SettledBy V (packets ++ [p])
      (if (V (packets ++ [p])).isUnknown then v else V (packets ++ [p])) := by
  rcases h with ⟨rfl, hnone⟩ | ⟨n, -, -, -, hknown, -⟩
  · have hbefore : ∀ m, 0 < m → m ≤ packets.length →
        (V ((packets ++ [p]).take m)).isUnknown = true := by
      intro m hm hle
      rw [List.take_append_of_le_length hle]
      exact hnone m hm hle
    -- the one part that is new is that of all packets
    have hall : (packets ++ [p]).take (packets.length + 1) = packets ++ [p] :=
      List.take_of_length_le (by simp)
    -- it gives the verdict if it is known, and otherwise nothing has settled it yet
    cases hlast : (V (packets ++ [p])).isUnknown with
    | true =>
        refine .inl ⟨rfl, ?_⟩
        intro m hm hle
        rw [List.length_append, List.length_singleton] at hle
        by_cases hm' : m ≤ packets.length
        · exact hbefore m hm hm'
        · obtain rfl : m = packets.length + 1 := by omega
          rw [hall]
          exact hlast
    | false =>
        refine .inr ⟨packets.length + 1, by omega, by simp, ?_, hlast, ?_⟩
        · rw [hall]
          rfl
        · intro m hm hlt
          exact hbefore m hm (by omega)
  · rw [hv] at hknown
    cases hknown

/-- If there is a verdict on the first `m` packets, it was reached with these or before. -/
theorem exists_le (h : SettledBy V packets v) {m : Nat} (hm : 0 < m) (hle : m ≤ packets.length)
    (hknown : (V (packets.take m)).isUnknown = false) :
    ∃ n, n ≤ m ∧ v = V (packets.take n) ∧ v.isUnknown = false := by
  rcases h with ⟨-, hnone⟩ | ⟨n, -, -, hvn, hv, hfirst⟩
  · rw [hnone m hm hle] at hknown
    cases hknown
  · refine ⟨n, ?_, hvn, hv⟩
    by_contra hlt
    rw [hfirst m hm (Nat.lt_of_not_le hlt)] at hknown
    cases hknown

end SettledBy

/-! ## The flows of a table -/

namespace Tracker

variable {t t' : Tracker} {now : Int} {p : Packet} {a : Assigned}

/-- The flows that packets can join have been handed out. -/
def Issued (t : Tracker) : Prop :=
  ∀ table c entry, t.table = some table → table.find? c = some entry → entry.flow < t.flows.size

theorem Issued.flow_lt_of_joined (h : t.Issued) (hassigns : Assigns t now p t' a)
    (hnew : a.isNew = false) : a.flow < t.flows.size := by
  cases hassigns with
  | apart => cases hnew
  | opened => cases hnew
  | joined hp htable hfind hlive => exact h _ _ _ htable hfind

theorem Issued.assign (h : t.Issued) (hassigns : Assigns t now p t' a) : t'.Issued := by
  have hlt : a.flow < t'.flows.size := hassigns.flow_lt (h.flow_lt_of_joined hassigns)
  have hsize : t.flows.size ≤ t'.flows.size := by
    rw [hassigns.size_eq]
    omega
  -- the entry that is set is for the flow of the answer, the others were there before
  have hinsert : ∀ {table : FlowTable} {c d : Conversation} {entry other : TableEntry},
      t.table = some table → (table.insert c entry).find? d = some other → entry.flow = a.flow →
      other.flow < t'.flows.size := by
    intro table c d entry other htable hfind hentry
    by_cases hdc : d = c
    · subst hdc
      rw [FlowTable.find?_insert_self, Option.some.injEq] at hfind
      rw [← hfind, hentry]
      exact hlt
    · rw [FlowTable.find?_insert_of_ne hdc] at hfind
      exact Nat.lt_of_lt_of_le (h _ _ _ htable hfind) hsize
  intro table' c entry htable' hfind
  cases hassigns with
  | apart => exact Nat.lt_of_lt_of_le (h _ _ _ htable' hfind) hsize
  | opened hp htable hgone =>
      cases htable'
      exact hinsert htable hfind rfl
  | joined hp htable hfind' hlive =>
      cases htable'
      exact hinsert htable hfind rfl

end Tracker

namespace Exporter

variable {e e' : Exporter} {assigned : List (Packet × Nat)} {recorded : List Nat} {now : Int}
  {tracker : Tracker} {a : Assigned} {p : Packet} {n : Nat} {V : List Packet → Verdict}

/-! ## Packets and flows -/

/-- The packets assigned to a flow, in order. -/
def packetsInto (assigned : List (Packet × Nat)) (n : Nat) : List Packet :=
  (assigned.filter (·.2 = n)).map (·.1)

theorem packetsInto_snoc (assigned : List (Packet × Nat)) (p : Packet) (m n : Nat) :
    packetsInto (assigned ++ [(p, m)]) n =
      if n = m then packetsInto assigned n ++ [p] else packetsInto assigned n := by
  unfold packetsInto
  rw [List.filter_append, List.map_append]
  by_cases h : n = m
  · simp [h]
  · simp [h, Ne.symm h]

theorem metrics_withAssigned (e : Exporter) (tracker : Tracker) (a : Assigned) (p : Packet) :
    ∃ flows, (e.withAssigned tracker a p).metrics = { e.metrics with flows } := by
  unfold withAssigned
  cases a.isNew with
  | true => exact ⟨_, rfl⟩
  | false => exact ⟨_, rfl⟩

structure Gathers (e : Exporter) (assigned : List (Packet × Nat)) : Prop where
  started : e.chain.tracker.isStarted = true
  issued : e.chain.tracker.Issued
  mem_iff : ∀ n, n ∈ assigned.map (·.2) ↔ n < e.chain.tracker.flows.size
  packets_eq : ∀ n, (e.chain.flow n).packets = packetsInto assigned n
  total_eq : e.metrics.flows.total = e.chain.tracker.flows.size

theorem Gathers.of_eq (h : e.Gathers assigned) (hchain : e'.chain = e.chain)
    (hflows : e'.metrics.flows = e.metrics.flows) : e'.Gathers assigned where
  started := hchain ▸ h.started
  issued := hchain ▸ h.issued
  mem_iff := hchain ▸ h.mem_iff
  packets_eq := hchain ▸ h.packets_eq
  total_eq := by rw [hchain, hflows, h.total_eq]

theorem Gathers.withAssigned (h : e.Gathers assigned)
    (hassigns : Tracker.Assigns e.chain.tracker now p tracker a) :
    (e.withAssigned tracker a p).Gathers (assigned ++ [(p, a.flow)]) := by
  have hlt : a.isNew = false → a.flow < e.chain.tracker.flows.size :=
    h.issued.flow_lt_of_joined hassigns
  have hsize := hassigns.size_eq
  have hflow := hassigns.flow_eq hlt
  refine ⟨hassigns.isStarted h.started, h.issued.assign hassigns, ?_, ?_, ?_⟩
  · intro n
    show n ∈ (assigned ++ [(p, a.flow)]).map (·.2) ↔ n < tracker.flows.size
    rw [List.map_append, List.mem_append, h.mem_iff, List.map_singleton, List.mem_singleton, hsize]
    -- the numbers in use grow by the one of a new flow, which is the next
    cases hnew : a.isNew with
    | true =>
        have hnext := hassigns.flow_of_isNew hnew
        simp only [if_true]
        omega
    | false =>
        have hold := hlt hnew
        simp only [Bool.false_eq_true, if_false]
        omega
  · intro n
    show (tracker.flow n).packets = _
    rw [hflow, packetsInto_snoc]
    split
    next =>
      rw [Flow.packets_push]
      exact congrArg (· ++ [p]) (h.packets_eq n)
    next => exact h.packets_eq n
  · rw [show (e.withAssigned tracker a p).chain.tracker = tracker from rfl, hsize, ← h.total_eq]
    unfold Exporter.withAssigned
    cases a.isNew with
    | true => exact Counters.total_increment _ _
    | false => rfl

/-- Judging touches a verdict and the counters of verdicts. -/
theorem Judges.frame (h : Judges e n e') :
    (∃ v, e'.chain.tracker = e.chain.tracker.setFlow n ((e.chain.flow n).store v)) ∧
      ∃ classifications, e'.metrics = { e.metrics with classifications } := by
  cases h with
  | kept hverdict htracker hunknown =>
      refine ⟨⟨(e.chain.flow n).verdict, ?_⟩, _, rfl⟩
      show _ = e.chain.tracker.setFlow n (e.chain.tracker.flow n)
      rw [Tracker.setFlow_flow]
      exact htracker
  | stored hverdict htracker hunknown hv hknown => exact ⟨⟨_, htracker⟩, _, rfl⟩

theorem Gathers.judged (h : e.Gathers assigned) (hn : n < e.chain.tracker.flows.size)
    (hjudges : Judges e n e') : e'.Gathers assigned := by
  obtain ⟨⟨v, htracker⟩, classifications, hmetrics⟩ := hjudges.frame
  refine ⟨?_, ?_, ?_, ?_, ?_⟩
  · rw [htracker]
    exact h.started
  · rw [htracker]
    intro table c entry htable hfind
    rw [Tracker.setFlow_size]
    exact h.issued table c entry htable hfind
  · rw [htracker, Tracker.setFlow_size]
    exact h.mem_iff
  · intro m
    show (e'.chain.tracker.flow m).packets = _
    rw [htracker, Tracker.flow_setFlow hn, ← h.packets_eq]
    split
    next hm => rw [hm, Flow.packets_store]
    next => rfl
  · rw [htracker, Tracker.setFlow_size, hmetrics]
    exact h.total_eq

/-! ## Verdicts and their counters -/

/-- The label values under which a verdict is counted. -/
def labels (v : Verdict) : List String := [v.protocol.name, v.source]

/-- Each flow is settled, and those in the list are the ones with a known verdict, counted once. -/
structure Settled (V : List Packet → Verdict) (flow : Nat → Flow) (c : Counters)
    (recorded : List Nat) : Prop where
  settled : ∀ n, SettledBy V (flow n).packets (flow n).verdict
  nodup : recorded.Nodup
  mem_iff : ∀ n, n ∈ recorded ↔ (flow n).verdict.isUnknown = false
  total_eq : c.total = recorded.length
  value_eq : ∀ values, c.value values = recorded.countP fun n => labels (flow n).verdict = values

variable {flow flow' : Nat → Flow} {c : Counters} {v : Verdict}

/-- A flow with one more packet is not judged, or without effect. -/
theorem Settled.kept (h : Settled V flow c recorded)
    (hflow : ∀ m, flow' m = if m = n then (flow n).push p else flow m)
    (hunknown : (flow n).verdict.isUnknown = true → (V ((flow n).packets ++ [p])).isUnknown = true) :
    Settled V flow' c recorded := by
  have hverdict : ∀ m, (flow' m).verdict = (flow m).verdict := by
    intro m
    rw [hflow]
    split
    next hm => rw [hm]; rfl
    next => rfl
  refine ⟨?_, h.nodup, ?_, h.total_eq, ?_⟩
  · intro m
    rw [hverdict]
    by_cases hm : m = n
    · subst hm
      rw [hflow, if_pos rfl, Flow.packets_push]
      -- a known verdict stays, an unknown one must not be due
      cases hknown : (flow m).verdict.isUnknown with
      | false => exact (h.settled m).snoc_of_known hknown p
      | true =>
          have hsnoc := (h.settled m).snoc_of_unknown hknown p
          rw [if_pos (hunknown hknown)] at hsnoc
          exact hsnoc
    · rw [hflow, if_neg hm]
      exact h.settled m
  · intro m
    rw [h.mem_iff, hverdict]
  · intro values
    rw [h.value_eq]
    simp only [hverdict]

/-- A flow gets a verdict with one more packet. -/
theorem Settled.stored (h : Settled V flow c recorded)
    (hflow : ∀ m, flow' m = if m = n then ((flow n).push p).store v else flow m)
    (hunknown : (flow n).verdict.isUnknown = true) (hv : V ((flow n).packets ++ [p]) = v)
    (hknown : v.isUnknown = false) :
    Settled V flow' (c.increment (labels v)) (n :: recorded) := by
  have hself : flow' n = ((flow n).push p).store v := by rw [hflow, if_pos rfl]
  have hother : ∀ m, m ≠ n → flow' m = flow m := fun m hm => by rw [hflow, if_neg hm]
  have hnew : n ∉ recorded := by
    rw [h.mem_iff, hunknown]
    exact Bool.noConfusion
  refine ⟨?_, List.nodup_cons.mpr ⟨hnew, h.nodup⟩, ?_, ?_, ?_⟩
  · intro m
    by_cases hm : m = n
    · subst hm
      have hsnoc := (h.settled m).snoc_of_unknown hunknown p
      rw [hv, hknown] at hsnoc
      rw [hself]
      exact hsnoc
    · rw [hother m hm]
      exact h.settled m
  · intro m
    by_cases hm : m = n
    · subst hm
      rw [hself]
      exact iff_of_true List.mem_cons_self hknown
    · rw [hother m hm, ← h.mem_iff, List.mem_cons]
      exact or_iff_right hm
  · rw [Counters.total_increment, h.total_eq, List.length_cons]
  · intro values
    -- the counters of the other flows are as before
    have hbefore : recorded.countP (fun m => labels (flow' m).verdict = values) =
        recorded.countP fun m => labels (flow m).verdict = values := by
      refine List.countP_congr fun m hm => ?_
      rw [hother m fun heq => hnew (heq ▸ hm)]
    rw [Counters.value_increment, h.value_eq, List.countP_cons, hbefore, hself]
    by_cases hvalues : values = labels v
    · rw [if_pos hvalues, if_pos]
      exact decide_eq_true hvalues.symm
    · rw [if_neg hvalues, if_neg]
      exact fun heq => hvalues (of_decide_eq_true heq).symm

/-- A packet is added to a flow, which is then judged. -/
theorem Settled.judged {e₁ : Exporter}
    (h : Settled V e.chain.flow e.metrics.classifications recorded)
    (hverdict : e₁.chain.verdict = V)
    (hmetrics : e₁.metrics.classifications = e.metrics.classifications)
    (hflow : ∀ m, e₁.chain.flow m = if m = n then (e.chain.flow n).push p else e.chain.flow m)
    (hn : n < e₁.chain.tracker.flows.size) (hjudges : Judges e₁ n e') :
    e'.chain.verdict = V ∧
      ∃ recorded', Settled V e'.chain.flow e'.metrics.classifications recorded' := by
  have hself : e₁.chain.flow n = (e.chain.flow n).push p := by rw [hflow, if_pos rfl]
  cases hjudges with
  | @kept chain hverdict' htracker hunknown =>
      -- nothing is stored and nothing is counted
      have hflow' : chain.flow = e₁.chain.flow := congrArg Tracker.flow htracker
      refine ⟨hverdict'.trans hverdict, recorded, ?_⟩
      show Settled V chain.flow e₁.metrics.classifications recorded
      rw [hmetrics, hflow']
      rw [hself, hverdict] at hunknown
      exact h.kept hflow hunknown
  | @stored chain v hverdict' htracker hunknown hv hknown =>
      -- the verdict is stored and counted for this flow, which had none
      have hflow' : ∀ m, chain.flow m =
          if m = n then ((e.chain.flow n).push p).store v else e.chain.flow m := by
        intro m
        show chain.tracker.flow m = _
        rw [htracker, Tracker.flow_setFlow hn, hself]
        split
        next => rfl
        next hm => exact (hflow m).trans (if_neg hm)
      refine ⟨hverdict'.trans hverdict, n :: recorded, ?_⟩
      show Settled V chain.flow (e₁.metrics.classifications.increment (labels v)) (n :: recorded)
      rw [hself, hverdict] at hv
      rw [hself] at hunknown
      rw [hmetrics]
      exact h.stored hflow' hunknown hv hknown

/-- Both invariants are kept when a packet is assigned and its flow judged. -/
theorem accept_assigned (hverdict : e.chain.verdict = V) (hgathers : e.Gathers assigned)
    (hsettled : Settled V e.chain.flow e.metrics.classifications recorded)
    (hassigns : Tracker.Assigns e.chain.tracker now p tracker a) :
    (judge (e.withAssigned tracker a p) a.flow).chain.verdict = V ∧
      (judge (e.withAssigned tracker a p) a.flow).Gathers (assigned ++ [(p, a.flow)]) ∧
      (∃ recorded', Settled V (judge (e.withAssigned tracker a p) a.flow).chain.flow
        (judge (e.withAssigned tracker a p) a.flow).metrics.classifications recorded') ∧
      (judge (e.withAssigned tracker a p) a.flow).metrics.frames = e.metrics.frames ∧
      (judge (e.withAssigned tracker a p) a.flow).metrics.parseErrors = e.metrics.parseErrors := by
  have hjoin := hgathers.issued.flow_lt_of_joined hassigns
  have hlt : a.flow < (e.withAssigned tracker a p).chain.tracker.flows.size :=
    hassigns.flow_lt hjoin
  have hjudges := judges_judge hlt
  obtain ⟨flows, hmetrics⟩ := metrics_withAssigned e tracker a p
  obtain ⟨-, classifications, hmetrics'⟩ := hjudges.frame
  -- first the packet goes into its flow, then the flow is judged
  have hflow : ∀ m, (e.withAssigned tracker a p).chain.flow m =
      if m = a.flow then (e.chain.flow a.flow).push p else e.chain.flow m := by
    intro m
    show tracker.flow m = _
    rw [hassigns.flow_eq hjoin]
    split
    next hm => rw [hm]; rfl
    next => rfl
  have hverdict₁ : (e.withAssigned tracker a p).chain.verdict = V := hverdict
  have hclassifications : (e.withAssigned tracker a p).metrics.classifications =
      e.metrics.classifications := by rw [hmetrics]
  obtain ⟨hverdict', hsettled'⟩ := hsettled.judged hverdict₁ hclassifications hflow hlt hjudges
  refine ⟨hverdict', (hgathers.withAssigned hassigns).judged hlt hjudges, hsettled', ?_, ?_⟩
  · rw [hmetrics', hmetrics]
  · rw [hmetrics', hmetrics]

/-! ## The whole account -/

/-- The account of an exporter that judges by `V` and has read some lines, whose packets were assigned
to flows. -/
structure Accounts (V : List Packet → Verdict) (e : Exporter) (lines : List Bytes)
    (assigned : List (Packet × Nat)) : Prop where
  verdict_eq : e.chain.verdict = V
  gathers : e.Gathers assigned
  settled : ∃ recorded, Settled V e.chain.flow e.metrics.classifications recorded
  lines_eq : e.metrics.frames.total + e.metrics.parseErrors.total = lines.countP isNonblank

theorem Accounts.takes {lines : List Bytes} {line : Bytes} {taken : Option (Packet × Nat)}
    (h : Accounts V e lines assigned) (htakes : Takes e now line e' taken) :
    Accounts V e' (lines ++ [line]) (assigned ++ taken.toList) := by
  have hlines := h.lines_eq
  have hcount : (lines ++ [line]).countP isNonblank =
      lines.countP isNonblank + if isNonblank line then 1 else 0 := by
    rw [List.countP_append, List.countP_singleton]
  cases htakes with
  | blank hblank =>
      rw [Option.toList_none, List.append_nil]
      refine ⟨h.verdict_eq, h.gathers, h.settled, ?_⟩
      rw [hcount, hblank, hlines]
      rfl
  | @failed error hnonblank hdecode =>
      rw [Option.toList_none, List.append_nil]
      refine ⟨h.verdict_eq, h.gathers.of_eq rfl rfl, h.settled, ?_⟩
      show e.metrics.frames.total + (e.metrics.parseErrors.increment _).total = _
      rw [hcount, hnonblank, Counters.total_increment, if_pos rfl]
      omega
  | @accepted record p tracker a hnonblank hdecode hassign =>
      -- the frame is counted first, and neither the chain nor the other counters see that
      obtain ⟨recorded, hsettled⟩ := h.settled
      obtain ⟨hverdict, hgathers, hsettled', hframes, herrors⟩ :=
        accept_assigned (e := { e with metrics := e.metrics.recordFrame record.link.name })
          h.verdict_eq (h.gathers.of_eq rfl rfl) hsettled (Tracker.assigns_of_assign hassign)
      refine ⟨hverdict, hgathers, hsettled', ?_⟩
      rw [hframes, herrors]
      show (e.metrics.frames.increment _).total + e.metrics.parseErrors.total = _
      rw [hcount, hnonblank, Counters.total_increment, if_pos rfl]
      omega

/-- What the counters of flows say, in terms of the flows that packets were assigned to. -/
theorem Accounts.counts {lines : List Bytes} (h : Accounts V e lines assigned) :
    let flows := (assigned.map (·.2)).dedup
    let isKnown := fun n => !(e.chain.flow n).verdict.isUnknown
    e.metrics.flows.total = flows.length ∧
    e.metrics.classifications.total = flows.countP isKnown ∧
    (∀ values, e.metrics.classifications.value values =
      flows.countP fun n => isKnown n && labels (e.chain.flow n).verdict = values) ∧
    ∀ n ∈ flows, packetsInto assigned n ≠ [] ∧
      SettledBy V (packetsInto assigned n) (e.chain.flow n).verdict := by
  intro flows isKnown
  obtain ⟨recorded, hsettled⟩ := h.settled
  have hnodup : flows.Nodup := List.nodup_dedup _
  have hmem : ∀ n, n ∈ flows ↔ n < e.chain.tracker.flows.size := by
    intro n
    rw [List.mem_dedup]
    exact h.gathers.mem_iff n
  have hflows : flows.Perm (List.range e.chain.tracker.flows.size) := by
    refine (List.perm_ext_iff_of_nodup hnodup List.nodup_range).mpr fun n => ?_
    rw [hmem, List.mem_range]
  -- the flows whose verdicts were counted are those with a known one
  have hrecorded : recorded.Perm (flows.filter isKnown) := by
    refine (List.perm_ext_iff_of_nodup hsettled.nodup (hnodup.filter _)).mpr fun n => ?_
    have hknown : isKnown n = true ↔ (e.chain.flow n).verdict.isUnknown = false := by simp [isKnown]
    rw [hsettled.mem_iff, List.mem_filter, hknown, hmem]
    refine ⟨fun hn => ⟨?_, hn⟩, And.right⟩
    -- a number that was not handed out reads as the empty flow, whose verdict is unknown
    by_contra hsize
    have hnone : e.chain.flow n = {} := Tracker.flow_of_size_le (Nat.le_of_not_lt hsize)
    rw [hnone] at hn
    cases hn
  refine ⟨?_, ?_, ?_, ?_⟩
  · rw [h.gathers.total_eq, hflows.length_eq, List.length_range]
  · rw [hsettled.total_eq, hrecorded.length_eq, List.countP_eq_length_filter]
  · intro values
    rw [hsettled.value_eq, hrecorded.countP_eq, List.countP_filter]
    exact List.countP_congr fun n _ => by rw [Bool.and_comm]
  · intro n hn
    constructor
    · obtain ⟨⟨p, m⟩, hassigned, rfl⟩ := List.mem_map.mp (List.mem_dedup.mp hn)
      have hp : p ∈ packetsInto assigned m :=
        List.mem_map.mpr ⟨(p, m), List.mem_filter.mpr ⟨hassigned, by simp⟩, rfl⟩
      exact List.ne_nil_of_mem hp
    · rw [← h.gathers.packets_eq]
      exact hsettled.settled n

/-! ## Whole inputs -/

/-- The packets of some lines, read one after the other, with the flows that they are assigned to. -/
def assignments (e : Exporter) (clock : Nat → Int) (position : Nat) :
    List Bytes → List (Packet × Nat)
  | [] => []
  | line :: later =>
    (e.assignment? (clock position) line).toList ++
      assignments (e.feedLine (clock position) line).exporter clock (position + 1) later

/-- Reading goes on to the last line, and the account is kept. -/
theorem Accounts.feedLines (clock : Nat → Int) (lines : List Bytes) {before : List Bytes}
    (position : Nat)
    (h : Accounts V e before assigned) :
    (e.feedLines clock position lines).stopped = none ∧
      Accounts V (e.feedLines clock position lines).exporter (before ++ lines)
        (assigned ++ e.assignments clock position lines) := by
  -- the account is of the lines before and grows by one line at a time
  induction lines generalizing e before assigned position with
  | nil =>
      rw [List.append_nil, assignments, List.append_nil]
      exact ⟨rfl, h⟩
  | cons line later ih =>
      obtain ⟨hstopped, htakes⟩ := takes_of_started h.gathers.started (clock position) line
      have hlater := ih (position + 1) (h.takes htakes)
      rw [List.append_assoc, List.append_assoc] at hlater
      rw [feedLines_of_none hstopped]
      exact hlater

/-- An exporter with a chain of detectors that was just started. -/
def fresh (pool : Array Detector) (configured : List Nat) (expiration : Option Nat)
    (sources : Sources) : Exporter :=
  { chain := (Chain.start { pool, configured, expiration } sources).1 }

theorem tracker_fresh (pool : Array Detector) (configured : List Nat) (expiration : Option Nat)
    (sources : Sources) :
    (fresh pool configured expiration sources).chain.tracker = Tracker.start {} expiration := by
  show (Chain.startEach { pool, configured, expiration, tracker := Tracker.start {} expiration }
    sources configured).1.tracker = _
  exact (Chain.startEach_setup sources configured _).tracker_eq

theorem accounts_fresh (pool : Array Detector) (configured : List Nat) (expiration : Option Nat)
    (sources : Sources) :
    Accounts (fresh pool configured expiration sources).chain.verdict
      (fresh pool configured expiration sources) [] [] := by
  have htracker := tracker_fresh pool configured expiration sources
  -- the tracker has just been started, so there is no flow yet
  have hflow : ∀ n, (fresh pool configured expiration sources).chain.flow n = {} := by
    intro n
    show (fresh pool configured expiration sources).chain.tracker.flow n = {}
    rw [htracker]
    exact Tracker.flow_of_size_le (Nat.zero_le n)
  refine ⟨rfl, ⟨?_, ?_, ?_, ?_, ?_⟩, ⟨[], ?_, List.nodup_nil, ?_, rfl, ?_⟩, rfl⟩
  · rw [htracker]
    rfl
  · rw [htracker]
    intro table c entry htable hfind
    cases htable
    cases hfind
  · intro n
    rw [htracker]
    simp [Tracker.start]
  · intro n
    rw [hflow]
    rfl
  · rw [htracker]
    rfl
  · intro n
    rw [hflow]
    exact .nil
  · intro n
    rw [hflow]
    simp
  · intro values
    rfl

/-- **The account of an exporter.** Every input is read to its end. Afterwards, with `flows` the
distinct flows that the packets of its lines were assigned to,

* the frames and the parse errors add up to the lines that are not blank, and the new flows to the
  number of `flows`;
* the verdicts that were counted are those now stored with `flows`, once for each flow that has one;
* the verdict stored with a flow is what the chain as it was started says of the shortest part of the
  flow's packets, from the first on, of which it has a known verdict, and unknown if there is none.

A line that cannot be read changes the one counter for its error, and nothing else. -/
theorem accounts_of_input (pool : Array Detector) (configured : List Nat) (expiration : Option Nat)
    (sources : Sources) (clock : Nat → Int) (input : Bytes) :
    let start := fresh pool configured expiration sources
    let lines := endedPieces (· = 10) input
    let assigned := start.assignments clock 0 lines
    let flows := (assigned.map (·.2)).dedup
    let e := (start.feed clock input).exporter
    let isKnown := fun n => !(e.chain.flow n).verdict.isUnknown
    (start.feed clock input).stopped = none ∧
    e.metrics.frames.total + e.metrics.parseErrors.total = lines.countP isNonblank ∧
    e.metrics.flows.total = flows.length ∧
    e.metrics.classifications.total = flows.countP isKnown ∧
    (∀ values, e.metrics.classifications.value values =
      flows.countP fun n => isKnown n && labels (e.chain.flow n).verdict = values) ∧
    (∀ n ∈ flows, packetsInto assigned n ≠ [] ∧
      SettledBy (fun packets => (start.chain.judge { packets }).2.2) (packetsInto assigned n)
        (e.chain.flow n).verdict) ∧
    ∀ (e : Exporter) (now : Int) (line : Bytes) (error : LineError), isNonblank line = true →
      decode (trimmed isBlank line) = .error error →
      ∃ parseErrors,
        e.feedLine now line = ⟨{ e with metrics := { e.metrics with parseErrors } }, none⟩ ∧
        ∀ values, parseErrors.value values =
          e.metrics.parseErrors.value values + if values = [error.name] then 1 else 0 := by
  intro start lines assigned flows e isKnown
  obtain ⟨hstopped, haccounts⟩ :=
    (accounts_fresh pool configured expiration sources).feedLines clock lines 0
  have haccounts : Accounts start.chain.verdict e lines assigned := haccounts
  -- what the chain says of packets is how it judges a flow of them without a verdict
  have hverdict : start.chain.verdict = fun packets => (start.chain.judge { packets }).2.2 := by
    funext packets
    exact (Chain.judge_verdict start.chain { packets }).symm
  rw [hverdict] at haccounts
  obtain ⟨hflows, hclassified, hvalues, hsettled⟩ := haccounts.counts
  refine ⟨hstopped, haccounts.lines_eq, hflows, hclassified, hvalues, hsettled, ?_⟩
  -- the last part is not about this input, but about any exporter and line
  intro e now line error hnonblank hdecode
  refine ⟨e.metrics.parseErrors.increment [error.name], feedLine_of_error hnonblank hdecode, ?_⟩
  exact Counters.value_increment _ _

end Exporter
end FlowScope
