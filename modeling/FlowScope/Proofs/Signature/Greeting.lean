import FlowScope.Proofs.Pieces
import FlowScope.Proofs.Signature.Scan

/-!
# Greetings and the answers to them

The signatures of FTP and SMTP look at two payloads over TCP and pass over every packet without one. Here is
what these payloads have to be, said of the list of them (`Answered`).

Empty lines of a greeting do not count. So a greeting need not begin with its number: it may begin with a line
feed (`prefix_or_lineFeed`), and then its first line is no reply (`empty_line_is_passed_over`).

The main statement is `answered_greetings_are_detected`.
-/

namespace FlowScope.Signature

open Guarded Probe

variable {packets : List Packet} {payload : Bytes} {commands : List String}

/-- Every line of the payload that is not empty is a reply with the number 220. What stands behind the last
line feed is a line too, unless it is empty. -/
def GreetingLines (payload : Bytes) : Prop :=
  ∀ line ∈ endedPieces (· = lineFeed) payload, line ≠ [] → Bytes.ofAscii "220" <+: line

/-- The payload is a line that begins with one of the commands. -/
def CommandLine (commands : List String) (payload : Bytes) : Prop :=
  (∃ command ∈ commands, Bytes.ofAscii command <+: payload) ∧ payload.getLast? = some lineFeed

/-- The first payload is a greeting, and the next one is a command. -/
def Answered (commands : List String) (packets : List Packet) : Prop :=
  ∃ greeting command later, payloads .tcp packets = greeting :: command :: later ∧
    GreetingLines greeting ∧ CommandLine commands command

theorem isGreeting_iff : isGreeting payload = true ↔ GreetingLines payload := by
  rw [isGreeting, List.all_eq_true]
  refine forall_congr' fun line => ?_
  rw [Bool.or_eq_true, List.isEmpty_iff, List.isPrefixOf_iff_prefix]
  by_cases hne : line = []
  · simp [hne]
  · simp [hne, mem_endedPieces_iff hne]

theorem isCommand_iff : isCommand commands payload = true ↔ CommandLine commands payload := by
  simp only [isCommand, endsLine, CommandLine, Bool.and_eq_true, List.any_eq_true,
    List.isPrefixOf_iff_prefix, beq_iff_eq]

theorem answeredGreeting_iff :
    answeredGreeting commands packets = .ok () ↔ Answered commands packets := by
  rw [answeredGreeting_eq_ok_iff]
  simp only [isGreeting_iff, isCommand_iff]
  constructor
  · intro h
    obtain ⟨position, greeting, hfirst, hgreets, position', command, hnext, hcommand⟩ := h
    -- the greeting is the first payload, and the command is the first one after it
    have hpayloads := payloads_of_some hfirst
    rw [payloads_of_some hnext] at hpayloads
    exact ⟨greeting, command, _, hpayloads, hgreets, hcommand⟩
  · intro h
    obtain ⟨greeting, command, later, hpayloads, hgreets, hcommand⟩ := h
    obtain ⟨position, hfirst, hothers⟩ := payloads_eq_cons_iff.mp hpayloads
    obtain ⟨position', hnext, -⟩ := payloads_eq_cons_iff.mp hothers
    exact ⟨position, greeting, hfirst, hgreets, position', command, hnext, hcommand⟩

/-- A greeting begins with its number, or with an empty line. -/
theorem prefix_or_lineFeed (hne : payload ≠ []) (h : GreetingLines payload) :
    Bytes.ofAscii "220" <+: payload ∨ payload.head? = some lineFeed := by
  obtain ⟨line, later, hpieces⟩ := List.exists_cons_of_ne_nil (pieces_ne_nil (· = lineFeed) payload)
  obtain ⟨-, hends⟩ := exists_of_pieces_eq_cons hpieces
  -- the first line is empty, and then a line feed ends it, or it replies
  by_cases hline : line = []
  · right
    rcases hends with ⟨-, rfl⟩ | ⟨m, rest, hm, rfl, -⟩
    · exact absurd hline hne
    · obtain rfl : m = lineFeed := of_decide_eq_true hm
      rw [hline]
      rfl
  · left
    have hmem : line ∈ pieces (· = lineFeed) payload := by
      rw [hpieces]
      exact List.mem_cons_self
    have hreply := h line ((mem_endedPieces_iff hline).mpr hmem) hline
    apply hreply.trans
    rcases hends with ⟨-, rfl⟩ | ⟨m, rest, -, rfl, -⟩
    · exact List.prefix_rfl
    · exact List.prefix_append line _

/-- **Which flows are taken for FTP and for SMTP.** Those whose first payload over TCP is a greeting, line by
line but for empty lines, and whose next one is a command of the protocol. The first payload then begins
with the number of the greeting, or with an empty line. A payload of line feeds only passes for a greeting
too, since none of its lines counts. -/
theorem answered_greetings_are_detected (packets : List Packet) :
    (ftp.detects packets = true ↔ Answered ["USER "] packets) ∧
    (smtp.detects packets = true ↔ Answered ["EHLO ", "HELO "] packets) ∧
    ∀ s ∈ waiting, s.detects packets = true → ∃ greeting,
      (payloads .tcp packets).head? = some greeting ∧
      (Bytes.ofAscii "220" <+: greeting ∨ greeting.head? = some lineFeed) := by
  refine ⟨?_, ?_, ?_⟩
  · rw [detects_iff]
    exact answeredGreeting_iff
  · rw [detects_iff]
    exact answeredGreeting_iff
  · intro s hs hdetects
    obtain ⟨commands, hmatch⟩ := answeredGreeting_of_waiting hs hdetects
    obtain ⟨greeting, command, later, hpayloads, hgreets, -⟩ := answeredGreeting_iff.mp hmatch
    obtain ⟨position, hfirst, -⟩ := payloads_eq_cons_iff.mp hpayloads
    refine ⟨greeting, by rw [hpayloads]; rfl, ?_⟩
    exact prefix_or_lineFeed (ne_nil_of_firstPayload hfirst) hgreets

/-- A segment from a mail server to its client, or the other way. -/
def mailSegment (fromServer : Bool) (payload : Bytes) : Packet :=
  let server : Endpoint := ⟨.v4 0x0a010114, 25⟩
  let client : Endpoint := ⟨.v4 0x0a01010a, 49152⟩
  if fromServer then .tcp server client .none payload else .tcp client server .none payload

/-- A line feed alone passes for a greeting. -/
example : ftp.detects [mailSegment true [lineFeed], mailSegment false (Bytes.ofAscii "USER x\n")] = true := by
  decide

/-- Segments without a payload are passed over, and an empty line of the greeting too. -/
theorem answered_greetings_are_detected_of_helo :
    let packets := [mailSegment false [], mailSegment true (Bytes.ofAscii "220-mx\r\n\n220 ready\r\n"),
      mailSegment false [], mailSegment false (Bytes.ofAscii "HELO x\r\n")]
    (smtp ∈ waiting ∧ smtp.detects packets = true) ∧ Answered ["EHLO ", "HELO "] packets ∧
    ∃ greeting, (payloads .tcp packets).head? = some greeting ∧
      (Bytes.ofAscii "220" <+: greeting ∨ greeting.head? = some lineFeed) := by
  intro packets
  have hdetects : smtp.detects packets = true := by decide
  have hwaiting : smtp ∈ waiting := by decide
  obtain ⟨-, hsmtp, hbegins⟩ := answered_greetings_are_detected packets
  exact ⟨⟨hwaiting, hdetects⟩, hsmtp.mp hdetects, hbegins smtp hwaiting hdetects⟩

/-- A greeting whose first line is empty is accepted, although that line is no reply and the payload does not
begin with the number. -/
theorem empty_line_is_passed_over :
    let packets := [mailSegment true (Bytes.ofAscii "\n220 ready\r\n"),
      mailSegment false (Bytes.ofAscii "HELO x\n")]
    smtp.detects packets = true ∧
    (¬ ∃ greeting command later, payloads .tcp packets = greeting :: command :: later ∧
      (∀ line ∈ endedPieces (· = lineFeed) greeting, Bytes.ofAscii "220" <+: line) ∧
      CommandLine ["EHLO ", "HELO "] command) ∧
    ¬ ∃ greeting, (payloads .tcp packets).head? = some greeting ∧ Bytes.ofAscii "220" <+: greeting := by
  intro packets
  refine ⟨by decide, ?_, ?_⟩
  · intro h
    obtain ⟨greeting, command, later, hpayloads, hlines, -⟩ := h
    cases hpayloads
    exact absurd (hlines [] (by decide)) (by decide)
  · intro h
    obtain ⟨greeting, hfirst, hprefix⟩ := h
    cases hfirst
    exact absurd hprefix (by decide)

end FlowScope.Signature
