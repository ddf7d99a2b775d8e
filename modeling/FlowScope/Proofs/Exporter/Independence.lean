import FlowScope.Proofs.Exporter.Lines

/-!
# Lines are read independently

An exporter knows nothing of its input but the lines, one at a time, and nothing of a line but what is
between the blanks at its ends (`feed_flatten`). So it does not matter where an input is cut into two, as
long as no line is cut, nor whether the last line is ended.

Most of this module is about lines that no packet is read from. They change the counters of parse errors,
and these have no influence on anything else (`feedLine_withParseErrors`), so a run in which such lines
are left out goes on like the run in which they are read (`feedLines_filter`).

The clock stands still here: it is read for each line, and would give other readings to the later lines
if earlier ones were left out.
-/

namespace FlowScope
namespace Exporter

variable {e : Exporter} {now : Int} {clock : Nat → Int} {position : Nat} {line line' : Bytes}
  {lines lines' : List Bytes}

/-! ## Lines and their ends -/

theorem feedLine_congr (h : trimmed isBlank line = trimmed isBlank line') :
    e.feedLine now line = e.feedLine now line' := by
  rw [feedLine, h, ← feedLine]

theorem feedLine_of_blank (h : isNonblank line = false) : e.feedLine now line = ⟨e, none⟩ := by
  have hempty : (trimmed isBlank line).isEmpty = true := by rw [isEmpty_trimmed, h, Bool.not_false]
  simp only [feedLine, hempty, if_true]

theorem feedLines_congr (h : lines.map (trimmed isBlank) = lines'.map (trimmed isBlank)) :
    e.feedLines clock position lines = e.feedLines clock position lines' := by
  induction lines generalizing e position lines' with
  | nil =>
      obtain rfl : lines' = [] := by simpa using h.symm
      rfl
  | cons line later ih =>
      cases lines' with
      | nil => simp at h
      | cons line' later' =>
          obtain ⟨hline, hlater⟩ := List.cons.inj h
          rw [feedLines, feedLines, feedLine_congr hline]
          split
          · exact ih hlater
          · rfl

/-- Lines may be given with the marks that end them. -/
theorem feed_flatten (h : IsWhole (· = 10) lines) :
    e.feed clock lines.flatten = e.feedLines clock 0 lines := by
  apply feedLines_congr
  apply h.map_endedPieces_flatten
  intro line m hm
  obtain rfl : m = 10 := by simpa using hm
  exact trimmed_snoc line rfl

theorem feedLines_snoc_nil :
    e.feedLines clock position (lines ++ [[]]) = e.feedLines clock position lines := by
  induction lines generalizing e position with
  | nil => rfl
  | cons line later ih =>
      rw [List.cons_append, feedLines, feedLines]
      split
      · exact ih
      · rfl

/-- It makes no difference whether the last line is ended. -/
theorem feed_snoc (e : Exporter) (clock : Nat → Int) (input : Bytes) :
    e.feed clock (input ++ [10]) = e.feed clock input := by
  unfold feed
  have hsnoc : endedPieces (· = 10) (input ++ [10]) = endedPieces (· = 10) input ∨
      endedPieces (· = 10) (input ++ [10]) = endedPieces (· = 10) input ++ [[]] :=
    endedPieces_snoc input rfl
  rcases hsnoc with h | h
  · rw [h]
  · rw [h, feedLines_snoc_nil]

/-! ## One input after the other -/

theorem judge_table (e : Exporter) (n : Nat) :
    (judge e n).chain.tracker.table = e.chain.tracker.table := by
  have htable := e.chain.judgeTracked_table n
  unfold judge
  split
  next =>
    dsimp only
    split <;> exact htable
  next => rfl

theorem Takes.isStarted {e' : Exporter} {taken : Option (Packet × Nat)} (h : Takes e now line e' taken)
    (hstarted : e.chain.tracker.isStarted = true) : e'.chain.tracker.isStarted = true := by
  cases h with
  | blank => exact hstarted
  | failed => exact hstarted
  | accepted hnonblank hdecode hassign =>
      rw [Tracker.isStarted, judge_table]
      exact (Tracker.assigns_of_assign hassign).isStarted hstarted

/-- While the tracker has a table, all lines are read, and it keeps its table. -/
theorem feedLines_of_started (hstarted : e.chain.tracker.isStarted = true) :
    (e.feedLines clock position lines).stopped = none := by
  induction lines generalizing e position with
  | nil => rfl
  | cons line later ih =>
      obtain ⟨hstopped, htakes⟩ := takes_of_started hstarted (clock position) line
      rw [feedLines_of_none hstopped]
      exact ih (htakes.isStarted hstarted)

theorem feedLines_append (h : (e.feedLines clock position lines).stopped = none) :
    e.feedLines clock position (lines ++ lines') =
      (e.feedLines clock position lines).exporter.feedLines clock (position + lines.length) lines' := by
  induction lines generalizing e position with
  | nil => rfl
  | cons line later ih =>
      rcases hline : e.feedLine (clock position) line with ⟨e', _ | cause⟩
      · have hstopped : (e.feedLine (clock position) line).stopped = none := by rw [hline]
        rw [feedLines_of_none hstopped] at h
        rw [List.cons_append, feedLines_of_none hstopped, feedLines_of_none hstopped, ih h,
          List.length_cons, Nat.add_assoc, Nat.add_comm 1]
      · rw [feedLines, hline] at h
        cases h

/-- While the clock stands still, it does not matter how many lines were read before. -/
theorem feedLines_position (i j : Nat) :
    e.feedLines (fun _ => now) i lines = e.feedLines (fun _ => now) j lines := by
  induction lines generalizing e i j with
  | nil => rfl
  | cons line later ih =>
      rw [feedLines, feedLines]
      split
      · exact ih (i + 1) (j + 1)
      · rfl

theorem feed_append {a : Bytes} (ha : ∀ x, a.getLast? = some x → x = 10)
    (h : (e.feed (fun _ => now) a).stopped = none) (b : Bytes) :
    e.feed (fun _ => now) (a ++ b) =
      (e.feed (fun _ => now) a).exporter.feed (fun _ => now) b := by
  have hended : ∀ x, a.getLast? = some x → decide (x = 10) = true := by simpa using ha
  rw [feed, endedPieces_append hended, feedLines_append h]
  exact feedLines_position _ _

/-! ## Lines that no packet is read from -/

/-- A packet can be read from the line. -/
def isRead (line : Bytes) : Bool := isNonblank line && (decode (trimmed isBlank line)).isOk

/-- An input without the lines that are blank or cannot be decoded. -/
def readable (input : Bytes) : Bytes := ((wholePieces (· = 10) input).filter isRead).flatten

def withParseErrors (e : Exporter) (parseErrors : Counters) : Exporter :=
  { e with metrics := { e.metrics with parseErrors } }

@[simp] theorem chain_withParseErrors (e : Exporter) (parseErrors : Counters) :
    (e.withParseErrors parseErrors).chain = e.chain := rfl

theorem feedLine_of_not_isRead (e : Exporter) (now : Int) (h : isRead line = false) :
    ∃ parseErrors, e.feedLine now line = ⟨e.withParseErrors parseErrors, none⟩ := by
  cases hnonblank : isNonblank line with
  | false => exact ⟨e.metrics.parseErrors, feedLine_of_blank hnonblank⟩
  | true =>
      cases hdecode : decode (trimmed isBlank line) with
      | error error =>
          exact ⟨e.metrics.parseErrors.increment [error.name], feedLine_of_error hnonblank hdecode⟩
      | ok read =>
          rw [isRead, hnonblank, hdecode] at h
          cases h

theorem judge_withParseErrors (e : Exporter) (parseErrors : Counters) (n : Nat) :
    judge (e.withParseErrors parseErrors) n = (judge e n).withParseErrors parseErrors := by
  unfold judge
  rw [chain_withParseErrors]
  split
  next =>
    dsimp only
    split <;> rfl
  next => rfl

theorem accept_withParseErrors (e : Exporter) (parseErrors : Counters) (now : Int) (p : Packet) :
    (e.withParseErrors parseErrors).accept now p =
      (e.accept now p).map (·.withParseErrors parseErrors) := by
  unfold accept
  rw [chain_withParseErrors]
  cases e.chain.assign now p with
  | error cause => rfl
  | ok out =>
      refine congrArg Except.ok ?_
      dsimp only
      rw [← judge_withParseErrors]
      split <;> rfl

/-- Where a packet is read, the parse errors neither count nor change. -/
theorem feedLine_withParseErrors (h : isRead line = true) (e : Exporter) (parseErrors : Counters)
    (now : Int) :
    (e.withParseErrors parseErrors).feedLine now line =
      ⟨(e.feedLine now line).exporter.withParseErrors parseErrors,
        (e.feedLine now line).stopped⟩ := by
  obtain ⟨hnonblank, hok⟩ := Bool.and_eq_true_iff.mp h
  have hempty : (trimmed isBlank line).isEmpty = false := by
    rw [isEmpty_trimmed, hnonblank, Bool.not_true]
  cases hdecode : decode (trimmed isBlank line) with
  | error error =>
      -- a line that is read decodes
      rw [hdecode] at hok
      cases hok
  | ok read =>
      obtain ⟨record, p⟩ := read
      simp only [feedLine, hempty, Bool.false_eq_true, if_false, hdecode]
      -- counting the frame and setting the parse errors do not touch the same counters
      have hcounted : ({ e.withParseErrors parseErrors with
          metrics := (e.withParseErrors parseErrors).metrics.recordFrame record.link.name } :
            Exporter) =
          withParseErrors { e with metrics := e.metrics.recordFrame record.link.name } parseErrors :=
        rfl
      rw [hcounted, accept_withParseErrors]
      cases accept { e with metrics := e.metrics.recordFrame record.link.name } now p <;> rfl

/-- The same for lines that packets are read from. -/
theorem feedLines_withParseErrors (h : ∀ line ∈ lines, isRead line = true) (e : Exporter)
    (parseErrors : Counters) (clock : Nat → Int) (position : Nat) :
    (e.withParseErrors parseErrors).feedLines clock position lines =
      ⟨(e.feedLines clock position lines).exporter.withParseErrors parseErrors,
        (e.feedLines clock position lines).stopped⟩ := by
  induction lines generalizing e position with
  | nil => rfl
  | cons line later ih =>
      obtain ⟨hline, hlater⟩ := List.forall_mem_cons.mp h
      rw [feedLines, feedLines, feedLine_withParseErrors hline]
      rcases e.feedLine (clock position) line with ⟨e', _ | cause⟩
      · exact ih hlater e' (position + 1)
      · rfl

/-- What a run on some lines makes of an exporter is what the run on those of them makes of it that packets
are read from, but for the parse errors. -/
theorem feedLines_filter (e : Exporter) (now : Int) (lines : List Bytes) (i j : Nat) :
    let q := e.feedLines (fun _ => now) j (lines.filter isRead)
    ∃ parseErrors, e.feedLines (fun _ => now) i lines =
      ⟨q.exporter.withParseErrors parseErrors, q.stopped⟩ := by
  induction lines generalizing e i j with
  | nil => exact ⟨e.metrics.parseErrors, rfl⟩
  | cons line later ih =>
      cases hline : isRead line with
      | false =>
          -- the line changes the parse errors only, which the lines that are read do not see
          obtain ⟨before, hfeed⟩ := feedLine_of_not_isRead e now hline
          obtain ⟨parseErrors, hlater⟩ := ih (e.withParseErrors before) (i + 1) j
          have hread : ∀ line ∈ later.filter isRead, isRead line = true := by simp
          rw [feedLines_withParseErrors hread] at hlater
          rw [List.filter_cons, hline, feedLines, hfeed]
          exact ⟨parseErrors, hlater⟩
      | true =>
          rw [List.filter_cons, hline, if_pos rfl, feedLines, feedLines]
          rcases e.feedLine now line with ⟨e', _ | cause⟩
          · exact ih e' (i + 1) (j + 1)
          · exact ⟨e'.metrics.parseErrors, rfl⟩

theorem feed_readable (e : Exporter) (now : Int) (input : Bytes) :
    e.feed (fun _ => now) (readable input) =
      ⟨(e.feed (fun _ => now) input).exporter.withParseErrors e.metrics.parseErrors,
        (e.feed (fun _ => now) input).stopped⟩ := by
  have hwhole : IsWhole (· = 10) (wholePieces (· = 10) input) := isWhole_wholePieces _ input
  have hinput : e.feed (fun _ => now) input =
      e.feedLines (fun _ => now) 0 (wholePieces (· = 10) input) := by
    rw [← feed_flatten hwhole, flatten_wholePieces]
  obtain ⟨parseErrors, hfilter⟩ := feedLines_filter e now (wholePieces (· = 10) input) 0 0
  rw [hinput, hfilter, readable, feed_flatten (hwhole.filter isRead)]
  -- the exporter has its own parse errors, and where only packets are read it keeps them
  exact feedLines_withParseErrors (by simp) e e.metrics.parseErrors _ _

/-- **Lines are read independently.** While the clock stands still,

* if the tracker has a table, an input of ended lines is read to its end, and what follows it in a longer
  input is read as an input of its own;
* the lines that are blank or cannot be decoded can be left out, wherever they are: the chain, with its
  tracker and all flows, and the metrics will be the same, but for the parse errors that they counted;
* the last line counts like any other, ended or not. -/
theorem lines_are_independent (e : Exporter) (now : Int) :
    let feed := fun (e : Exporter) (input : Bytes) => e.feed (fun _ => now) input
    (e.chain.tracker.isStarted = true →
      ∀ a b : Bytes, (∀ last, a.getLast? = some last → last = 10) →
        (feed e a).stopped = none ∧ feed e (a ++ b) = feed (feed e a).exporter b) ∧
    (∀ input, feed e (readable input) =
      ⟨(feed e input).exporter.withParseErrors e.metrics.parseErrors, (feed e input).stopped⟩) ∧
    ∀ input, feed e (input ++ [10]) = feed e input := by
  intro feed
  refine ⟨?_, feed_readable e now, feed_snoc e _⟩
  intro hstarted a b ha
  have hstopped : (feed e a).stopped = none := feedLines_of_started hstarted
  exact ⟨hstopped, feed_append ha hstopped b⟩

/-- Two lines without a packet, and a record of a UDP datagram after them that is not ended. -/
theorem lines_before_record :
    let e : Exporter := { chain := { tracker := .start {} (some 1000) } }
    let feed := fun (e : Exporter) (input : Bytes) => e.feed (fun _ => 7) input
    let junk := Bytes.ofAscii "no record\n \n"
    let digits := "4500001c00010000401100000a0000010a0000021388003500080000"
    let record := Bytes.ofAscii ("\x7b\"link\":\"ip\",\"frame\":\"" ++ digits ++ "\"\x7d")
    readable (junk ++ record) = record ∧
      feed e (junk ++ record) = feed (feed e junk).exporter record ∧
      (feed e record).exporter = (feed e (junk ++ record)).exporter.withParseErrors [] := by
  intro e feed junk digits record
  obtain ⟨hsplit, hreadable, -⟩ := lines_are_independent e 7
  have hrecord : readable (junk ++ record) = record := by decide +kernel
  have hended : ∀ last, junk.getLast? = some last → last = 10 := by decide +kernel
  obtain ⟨-, hfeed⟩ := hsplit rfl junk record hended
  have hleft : feed e (readable (junk ++ record)) =
      ⟨(feed e (junk ++ record)).exporter.withParseErrors [], (feed e (junk ++ record)).stopped⟩ :=
    hreadable (junk ++ record)
  rw [hrecord] at hleft
  refine ⟨hrecord, hfeed, ?_⟩
  rw [hleft]

end Exporter
end FlowScope
