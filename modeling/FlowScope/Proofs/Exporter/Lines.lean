import FlowScope.Exporter
import FlowScope.Proofs.Chain.Verdicts
import FlowScope.Proofs.Pieces
import FlowScope.Proofs.Tracking.Step

/-!
# What an exporter does with a line

`Exporter.Takes` is the relation behind `Exporter.feedLine`: a line is blank, or it fails to be read,
or its packet is assigned to a flow, which is then judged. An exporter whose tracker has a table never
stops (`takes_of_started`), so every line is one of the three.
-/

namespace FlowScope

/-! ## Counters -/

namespace Counters

variable {c : Counters} {values : List String}

/-- The counter of some label values; zero if they did not occur. -/
def value (c : Counters) (values : List String) : Nat := (c.lookup values).getD 0

theorem value_increment (c : Counters) (values other : List String) :
    (c.increment values).value other = c.value other + if other = values then 1 else 0 := by
  induction c with
  | nil =>
      by_cases h : other = values
      · simp [increment, value, h]
      · have hne : (other == values) = false := by simpa using h
        simp [increment, value, List.lookup_cons, hne, h]
  | cons entry later ih =>
      obtain ⟨vs, n⟩ := entry
      unfold value at ih ⊢
      by_cases hvs : vs = values
      · subst hvs
        by_cases h : other = vs
        · simp [increment, h]
        · have hne : (other == vs) = false := by simpa using h
          simp [increment, List.lookup_cons, hne, h]
      · rw [increment, if_neg hvs, List.lookup_cons, List.lookup_cons]
        cases hother : other == vs with
        | true =>
            -- this counter is for other values than those that are counted
            have hne : other ≠ values := fun heq => hvs ((beq_iff_eq.mp hother).symm.trans heq)
            simp [hne]
        | false => exact ih

theorem foldl_eq_add_total (c : Counters) (n : Nat) : c.foldl (· + ·.2) n = n + c.total := by
  induction c generalizing n with
  | nil => rfl
  | cons entry later ih =>
      show later.foldl (· + ·.2) (n + entry.2) = n + later.foldl (· + ·.2) (0 + entry.2)
      rw [ih, ih]
      omega

theorem total_cons (entry : List String × Nat) (c : Counters) :
    total (entry :: c) = entry.2 + c.total := by
  show c.foldl (· + ·.2) (0 + entry.2) = _
  rw [foldl_eq_add_total, Nat.zero_add]

@[simp] theorem total_increment (c : Counters) (values : List String) :
    (c.increment values).total = c.total + 1 := by
  induction c with
  | nil => rfl
  | cons entry later ih =>
      obtain ⟨vs, n⟩ := entry
      by_cases hvs : vs = values
      · rw [increment, if_pos hvs, total_cons, total_cons]
        omega
      · rw [increment, if_neg hvs, total_cons, total_cons, ih]
        omega

end Counters

/-! ## One line -/

namespace Exporter

variable {e e' : Exporter} {now : Int} {line : Bytes}

/-- Some octet of the line is none of a tab, a line feed, a form feed, a carriage return and a space. -/
def isNonblank (line : Bytes) : Bool := line.any fun b => b ∉ ([9, 10, 12, 13, 32] : Bytes)

/-- Something is left of a line that is not blank when the blanks at its ends are dropped. -/
theorem isEmpty_trimmed (line : Bytes) : (trimmed isBlank line).isEmpty = !isNonblank line := by
  have hblank (b : UInt8) : isBlank b = true ↔ b ∈ ([9, 10, 12, 13, 32] : Bytes) := by
    simp only [isBlank, Bool.or_eq_true, decide_eq_true_eq, List.mem_cons, List.not_mem_nil, or_false]
    tauto
  rw [Bool.eq_iff_iff, List.isEmpty_iff, trimmed_eq_nil_iff]
  simp only [hblank, isNonblank, Bool.not_eq_true', List.any_eq_false, decide_eq_true_eq, not_not]

/-- The exporter with a packet assigned, before its flow is judged. -/
def withAssigned (e : Exporter) (tracker : Tracker) (a : Assigned) (p : Packet) : Exporter :=
  { chain := { e.chain with tracker }
    metrics := if a.isNew then e.metrics.recordNewFlow (p.segment.map (·.kind)) else e.metrics }

/-- The packet of a line and the flow that it is assigned to. -/
def assignment? (e : Exporter) (now : Int) (line : Bytes) : Option (Packet × Nat) :=
  if isNonblank line then
    match decode (trimmed isBlank line) with
    | .error _ => none
    | .ok (_, p) => (e.chain.tracker.assign now p).toOption.map fun out => (p, out.2.flow)
  else none

inductive Takes (e : Exporter) (now : Int) (line : Bytes) : Exporter → Option (Packet × Nat) → Prop
  | blank (h : isNonblank line = false) : Takes e now line e none
  | failed {error : LineError} (h : isNonblank line = true)
      (hdecode : decode (trimmed isBlank line) = .error error) :
      Takes e now line { e with metrics := e.metrics.recordParseError error } none
  | accepted {record : CaptureRecord} {p : Packet} {tracker : Tracker} {a : Assigned}
      (h : isNonblank line = true) (hdecode : decode (trimmed isBlank line) = .ok (record, p))
      (hassign : e.chain.tracker.assign now p = .ok (tracker, a)) :
      Takes e now line
        (judge (withAssigned { e with metrics := e.metrics.recordFrame record.link.name } tracker a p)
          a.flow)
        (some (p, a.flow))

theorem feedLine_of_error {error : LineError} (h : isNonblank line = true)
    (hdecode : decode (trimmed isBlank line) = .error error) :
    e.feedLine now line = ⟨{ e with metrics := e.metrics.recordParseError error }, none⟩ := by
  have hempty : (trimmed isBlank line).isEmpty = false := by rw [isEmpty_trimmed, h, Bool.not_true]
  simp only [feedLine, hempty, Bool.false_eq_true, if_false, hdecode]

theorem feedLine_of_ok {record : CaptureRecord} {p : Packet} {tracker : Tracker} {a : Assigned}
    (h : isNonblank line = true) (hdecode : decode (trimmed isBlank line) = .ok (record, p))
    (hassign : e.chain.tracker.assign now p = .ok (tracker, a)) :
    e.feedLine now line =
      ⟨judge (withAssigned { e with metrics := e.metrics.recordFrame record.link.name } tracker a p)
        a.flow, none⟩ := by
  have hempty : (trimmed isBlank line).isEmpty = false := by rw [isEmpty_trimmed, h, Bool.not_true]
  simp only [feedLine, hempty, Bool.false_eq_true, if_false, hdecode, accept, Chain.assign, hassign,
    Except.map]
  rfl

/-- While the tracker has a table, a line never stops the exporter. -/
theorem takes_of_started (hstarted : e.chain.tracker.isStarted = true) (now : Int) (line : Bytes) :
    (e.feedLine now line).stopped = none ∧
      Takes e now line (e.feedLine now line).exporter (e.assignment? now line) := by
  cases h : isNonblank line with
  | false =>
      have hempty : (trimmed isBlank line).isEmpty = true := by rw [isEmpty_trimmed, h, Bool.not_false]
      simp only [feedLine, hempty, if_true, assignment?, h, Bool.false_eq_true, if_false]
      exact ⟨trivial, .blank h⟩
  | true =>
      cases hdecode : decode (trimmed isBlank line) with
      | error error =>
          rw [feedLine_of_error h hdecode]
          simp only [assignment?, h, if_true, hdecode]
          exact ⟨trivial, .failed h hdecode⟩
      | ok read =>
          obtain ⟨record, p⟩ := read
          cases hassign : e.chain.tracker.assign now p with
          | ok out =>
              obtain ⟨tracker, a⟩ := out
              rw [feedLine_of_ok h hdecode hassign]
              simp only [assignment?, h, if_true, hdecode, hassign]
              exact ⟨trivial, .accepted h hdecode hassign⟩
          | error cause =>
              -- a tracker that is started has a table, and only without one is a packet refused
              have hnone := Tracker.table_eq_none_of_assign hassign
              rw [Tracker.isStarted, hnone] at hstarted
              cases hstarted

theorem feedLines_of_none {clock : Nat → Int} {position : Nat} {line : Bytes} {later : List Bytes}
    (h : (e.feedLine (clock position) line).stopped = none) :
    e.feedLines clock position (line :: later) =
      (e.feedLine (clock position) line).exporter.feedLines clock (position + 1) later := by
  rw [feedLines]
  rcases hfeed : e.feedLine (clock position) line with ⟨e', stopped⟩
  rw [hfeed] at h
  obtain rfl : stopped = none := h
  rfl

/-! ## Judging the flow of a line -/

/-- Judging a flow by a chain: the verdict is stored and counted if the flow has none yet and the chain
has one; otherwise nothing is. -/
inductive Judges (e : Exporter) (n : Nat) : Exporter → Prop
  | kept {chain : Chain} (hverdict : chain.verdict = e.chain.verdict)
      (htracker : chain.tracker = e.chain.tracker)
      (h : (e.chain.flow n).verdict.isUnknown = true →
        (e.chain.verdict (e.chain.flow n).packets).isUnknown = true) :
      Judges e n { chain, metrics := e.metrics }
  | stored {chain : Chain} {v : Verdict} (hverdict : chain.verdict = e.chain.verdict)
      (htracker : chain.tracker = e.chain.tracker.setFlow n ((e.chain.flow n).store v))
      (h : (e.chain.flow n).verdict.isUnknown = true)
      (hv : e.chain.verdict (e.chain.flow n).packets = v) (hknown : v.isUnknown = false) :
      Judges e n { chain, metrics := e.metrics.recordVerdict v }

theorem judges_judge {n : Nat} (hn : n < e.chain.tracker.flows.size) : Judges e n (judge e n) := by
  unfold judge
  cases hunknown : (e.chain.flow n).verdict.isUnknown with
  | false => exact .kept rfl rfl (by simp [hunknown])
  | true =>
      have hframe := Chain.judge_frame e.chain (e.chain.flow n)
      have hjudged := Chain.judge_verdict e.chain (e.chain.flow n)
      have hflow := Chain.judge_flow e.chain (e.chain.flow n)
      rcases hjudge : e.chain.judge (e.chain.flow n) with ⟨c, f, v⟩
      rw [hjudge] at hframe hjudged hflow
      have hjudged : e.chain.verdict (e.chain.flow n).packets = v := hjudged.symm
      have htracker : c.tracker = e.chain.tracker := hframe.tracker_eq
      rw [hjudged] at hflow
      simp only [if_true, Chain.judgeTracked, hjudge]
      cases hv : v.isUnknown with
      | true =>
          obtain rfl : f = e.chain.flow n := hflow.eq_of_unknown hv
          refine .kept hframe.verdict ?_ fun _ => hjudged ▸ hv
          show c.tracker.setFlow n (e.chain.tracker.flow n) = _
          rw [htracker, Tracker.setFlow_flow]
      | false =>
          -- a detector may have stored the verdict before, and storing it again changes nothing
          have hstore : f.store v = (e.chain.flow n).store v := by
            rcases hflow with rfl | ⟨-, rfl⟩
            · rfl
            · rfl
          have hself : (c.setFlow n f).flow n = f := by
            show (c.tracker.setFlow n f).flow n = f
            rw [htracker, Tracker.flow_setFlow hn, if_pos rfl]
          refine .stored hframe.verdict ?_ hunknown hjudged hv
          show (c.tracker.setFlow n f).setFlow n (((c.setFlow n f).flow n).store v) = _
          rw [hself, hstore, Tracker.setFlow_setFlow, htracker]

end Exporter
end FlowScope
