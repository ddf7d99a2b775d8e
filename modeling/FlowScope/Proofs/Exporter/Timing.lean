import FlowScope.Proofs.Exporter.Accounting
import FlowScope.Proofs.Signature.Order
import FlowScope.Proofs.Tracking.Conversation
import Mathlib.Data.List.Find

/-!
# Early and late verdicts

An exporter judges a flow with every packet, and keeps the first verdict that names a protocol. If it
had waited for the whole conversation, would the verdict be another one?

The signatures that match go on to match, so the verdict can only move to a signature that comes earlier
in the list and was slower. These are the signatures of FTP and SMTP, which wait for the answer to a
greeting, and of the greetings that they wait for only those that name OpenSSH are taken for something
else meanwhile. Apart from that, when a flow is judged makes no difference: `early_verdict_agrees`. That
there it does is shown by `greeting_is_recorded_as_ssh`.
-/

namespace FlowScope.Signature

open Guarded Probe

variable {kind : Transport} {packets early : List Packet} {s : Signature} {c : Conversation}
  {v : Verdict} {position : Nat} {payload : Bytes}

/-! ## Conversations -/

theorem carries_of_conversation (h : ∀ p ∈ packets, Conversation.ofPacket? p = some c) :
    Carries c.transport packets := by
  intro p hp segment hsegment
  obtain ⟨segment', hsegment', hrest⟩ := Option.bind_eq_some_iff.mp (h p hp)
  obtain ⟨⟨src, dst⟩, -, hbetween⟩ := Option.bind_eq_some_iff.mp hrest
  obtain rfl : segment' = segment := Option.some.inj (hsegment'.symm.trans hsegment)
  rw [← Option.some.inj hbetween]
  exact Conversation.transport_between.symm

/-! ## A flow that grows after its verdict -/

/-- A known verdict changes only if something matches that waited for an answer. -/
theorem verdict_of_prefix (hearly : early <+: packets) (h : Carries kind packets)
    (hicmp : ∀ p ∈ packets, announcesIcmp p = false)
    (hknown : (verdict defaults early).isUnknown = false) :
    verdict defaults packets = verdict defaults early ∨
      ∃ s ∈ waiting, s.detects early = false ∧ s.detects packets = true := by
  obtain ⟨later, rfl⟩ := hearly
  have hicmp' : ∀ p ∈ early, announcesIcmp p = false :=
    fun p hp => hicmp p (List.mem_append_left _ hp)
  obtain ⟨s, hs, hdetects⟩ := isUnknown_verdict_iff.mp hknown
  have hne : s ≠ icmp := by
    rintro rfl
    rw [icmp_not_detects hicmp'] at hdetects
    cases hdetects
  obtain ⟨other, position, payload, hfirst⟩ := exists_firstPayload_of_detects hs hne hdetects
  obtain rfl := h.of_append.eq_of_firstPayload hfirst
  by_cases hwaiting : ∀ s ∈ waiting, s.detects (early ++ later) = s.detects early
  · left
    -- all but the waiting ones answer from the first payload on, and ICMP is out of the question
    have hkinds : ∀ s ∈ defaults, s ∈ waiting ∨ s = icmp ∨ s.isPrompt = true := by decide
    have hsame : ∀ s ∈ defaults, s.detects (early ++ later) = s.detects early := by
      intro s hs
      rcases hkinds s hs with hwaits | rfl | hprompt
      · exact hwaiting s hwaits
      · rw [icmp_not_detects hicmp, icmp_not_detects hicmp']
      · exact detects_append_of_firstPayload hprompt h hfirst
    rw [verdict_eq, verdict_eq, List.find?_congr hsame]
  · right
    push Not at hwaiting
    obtain ⟨s, hs, hdiffers⟩ := hwaiting
    refine ⟨s, hs, ?_⟩
    -- what matched would go on to match
    cases hearly : s.detects early with
    | true => exact absurd ((detects_append hearly later).trans hearly.symm) hdiffers
    | false =>
        refine ⟨rfl, ?_⟩
        rw [hearly] at hdiffers
        exact Bool.eq_true_of_not_eq_false hdiffers

/-- What has matched before a structural signature does can only be the signature of SSH. -/
theorem verdict_of_late_match (hearly : early <+: packets) (h : Carries .tcp packets)
    (hicmp : ∀ p ∈ packets, announcesIcmp p = false) (hs : s ∈ structural)
    (hlate : s.detects early = false) (hdetects : s.detects packets = true)
    (hknown : (verdict defaults early).isUnknown = false) :
    verdict defaults early = report ssh ∧ NamesOpenSsh packets := by
  obtain ⟨later, rfl⟩ := hearly
  obtain ⟨hunknown, -⟩ | ⟨s', hs', hdetects', hverdict⟩ := verdict_cases early
  · rw [hunknown] at hknown
    cases hknown
  have hicmp' : ∀ p ∈ early, announcesIcmp p = false :=
    fun p hp => hicmp p (List.mem_append_left _ hp)
  have hmatch := detects_append hdetects' later
  rcases eq_ssh_or_openings_ne_nil h.of_append hicmp' hs' hdetects' with rfl | hopenings
  · exact ⟨hverdict, namesOpenSsh_of_detects (openings_ne_nil hs) h hdetects hmatch⟩
  · -- any other would match in the end as well, next to the one that was late
    have heq := eq_of_detects h (openings_ne_nil hs) hopenings hdetects hmatch
    rw [← heq, hlate] at hdetects'
    cases hdetects'

/-! ## Answers to OpenSSH -/

/-- The first payload is a greeting that names OpenSSH, and the next one a command of FTP or SMTP. -/
def AnswersOpenSsh (packets : List Packet) : Prop :=
  NamesOpenSsh packets ∧ ∃ s ∈ waiting, s.detects packets = true

theorem Carries.tcp_of_waiting (h : Carries kind packets) (hs : s ∈ waiting)
    (hdetects : s.detects packets = true) : Carries .tcp packets := by
  obtain ⟨commands, hanswered⟩ := answeredGreeting_of_waiting hs hdetects
  obtain ⟨position, greeting, hfirst, -⟩ := answeredGreeting_eq_ok_iff.mp hanswered
  rw [h.eq_of_firstPayload hfirst]
  exact h

/-- The answer comes after the packet with the greeting. -/
theorem lt_of_waiting_of_take {n : Nat} (hfirst : firstPayload .tcp packets = some (position, payload))
    (hs : s ∈ waiting) (hdetects : s.detects (packets.take n) = true) : position + 1 < n := by
  obtain ⟨commands, hanswered⟩ := answeredGreeting_of_waiting hs hdetects
  obtain ⟨_, greeting, hgreeting, -, next, command, hcommand, -⟩ :=
    answeredGreeting_eq_ok_iff.mp hanswered
  rw [firstPayload_take hfirst] at hgreeting
  split at hgreeting
  · cases hgreeting
    have hlt := lt_of_firstPayload hcommand
    rw [List.length_drop, List.length_take] at hlt
    omega
  · cases hgreeting

theorem mem_structural_of_waiting (hs : s ∈ waiting) : s ∈ structural := by
  revert s
  decide

/-- If no answer came late, the first known verdict is still that on all the packets. -/
theorem verdict_eq_of_settled (h : Carries kind packets)
    (hicmp : ∀ p ∈ packets, announcesIcmp p = false)
    (hsettled : SettledBy (verdict defaults) packets v) (hnot : ¬ AnswersOpenSsh packets) :
    verdict defaults packets = v := by
  -- no part settled a verdict, so all of the packets did not; or the first part that did is a prefix
  obtain ⟨rfl, hunknown⟩ | ⟨n, -, -, rfl, hknown, -⟩ := hsettled
  · rcases packets.eq_nil_or_concat with rfl | ⟨_, _, hne⟩
    · rfl
    · have hlength : 0 < packets.length := by simp [hne]
      have hall := hunknown packets.length hlength le_rfl
      rw [List.take_length] at hall
      exact verdict_eq_unknown hall
  · rcases verdict_of_prefix (packets.take_prefix n) h hicmp hknown with
      hsame | ⟨s, hs, hlate, hdetects⟩
    · exact hsame
    · obtain ⟨-, hnames⟩ := verdict_of_late_match (packets.take_prefix n)
        (h.tcp_of_waiting hs hdetects) hicmp (mem_structural_of_waiting hs) hlate hdetects hknown
      exact absurd ⟨hnames, s, hs, hdetects⟩ hnot

theorem verdict_of_waiting (h : Carries kind packets)
    (hicmp : ∀ p ∈ packets, announcesIcmp p = false) (hs : s ∈ waiting)
    (hdetects : s.detects packets = true) : verdict defaults packets = report s := by
  have hne : s ≠ ssl := by
    rintro rfl
    exact absurd hs (by decide)
  rw [verdict_of_detects (h.tcp_of_waiting hs hdetects) hicmp (mem_structural_of_waiting hs) hdetects,
    if_neg fun hboth => hne hboth.1]

/-- The greeting is taken for SSH before the answer comes. -/
theorem eq_report_ssh_of_settled (h : Carries kind packets)
    (hicmp : ∀ p ∈ packets, announcesIcmp p = false)
    (hsettled : SettledBy (verdict defaults) packets v) (hnames : NamesOpenSsh packets)
    (hs : s ∈ waiting) (hdetects : s.detects packets = true) : v = report ssh := by
  obtain ⟨position, payload, hfirst, hline⟩ := hnames
  have hgreeting : NamesOpenSsh (packets.take (position + 1)) := by
    refine ⟨position, payload, ?_, hline⟩
    rw [firstPayload_take hfirst, if_pos position.lt_succ_self]
  have hknown : (verdict defaults (packets.take (position + 1))).isUnknown = false :=
    isUnknown_verdict_iff.mpr ⟨ssh, by decide, detects_ssh_of_namesOpenSsh hgreeting⟩
  obtain ⟨n, hle, rfl, hv⟩ :=
    hsettled.exists_le position.succ_pos (lt_of_firstPayload hfirst) hknown
  -- the part that settled the verdict ends with the greeting, and a command comes later
  have hlate : s.detects (packets.take n) = false := by
    rw [Bool.eq_false_iff]
    intro hearly
    have hlt := lt_of_waiting_of_take hfirst hs hearly
    omega
  exact (verdict_of_late_match (packets.take_prefix n) (h.tcp_of_waiting hs hdetects) hicmp
    (mem_structural_of_waiting hs) hlate hdetects hv).1

/-- **When a flow is judged.** Let a conversation announce no ICMP, and let its recorded verdict be the
first known one that the default signatures give as the packets come. Then this is their verdict on all
the packets, with one exception: if a greeting that names OpenSSH is answered by a command of FTP or
SMTP, the recorded verdict is SSH, and that on all the packets is FTP or SMTP. -/
theorem early_verdict_agrees (c : Conversation) (packets : List Packet)
    (hconversation : ∀ p ∈ packets, Conversation.ofPacket? p = some c)
    (hicmp : ∀ p ∈ packets, announcesIcmp p = false) (v : Verdict)
    (hsettled : SettledBy (verdict defaults) packets v) :
    (¬ AnswersOpenSsh packets → verdict defaults packets = v) ∧
    (AnswersOpenSsh packets → v = report ssh ∧
      ∃ s ∈ waiting, s.detects packets = true ∧ verdict defaults packets = report s) := by
  have hcarries := carries_of_conversation hconversation
  constructor
  · exact verdict_eq_of_settled hcarries hicmp hsettled
  · rintro ⟨hnames, s, hs, hdetects⟩
    have hfull := verdict_of_waiting hcarries hicmp hs hdetects
    have hearly := eq_report_ssh_of_settled hcarries hicmp hsettled hnames hs hdetects
    exact ⟨hearly, s, hs, hdetects, hfull⟩

/-- The greeting of a mail server. -/
def mailGreeting : Packet :=
  .tcp ⟨.v4 0x0a010114, 25⟩ ⟨.v4 0x0a01010a, 49152⟩ .none (Bytes.ofAscii "220 mail\r\n")

/-- The answer of a client. -/
def heloCommand : Packet :=
  .tcp ⟨.v4 0x0a01010a, 49152⟩ ⟨.v4 0x0a010114, 25⟩ .none (Bytes.ofAscii "HELO x\r\n")

/-- The verdict on mail is known with the second packet of three. -/
theorem early_verdict_on_mail :
    let c := Conversation.between .tcp ⟨.v4 0x0a010114, 25⟩ ⟨.v4 0x0a01010a, 49152⟩
    let packets := [mailGreeting, heloCommand, mailGreeting]
    ((∀ p ∈ packets, Conversation.ofPacket? p = some c) ∧
      (∀ p ∈ packets, announcesIcmp p = false) ∧
      SettledBy (verdict defaults) packets (report smtp) ∧ ¬ AnswersOpenSsh packets) ∧
    verdict defaults packets = report smtp := by
  intro c packets
  have hconversation : ∀ p ∈ packets, Conversation.ofPacket? p = some c := by decide
  have hicmp : ∀ p ∈ packets, announcesIcmp p = false := by decide
  have hsettled : SettledBy (verdict defaults) packets (report smtp) := by
    refine .inr ⟨2, by decide, by decide, by decide, by decide, ?_⟩
    intro m hm hlt
    obtain rfl : m = 1 := by omega
    decide
  have hnot : ¬ AnswersOpenSsh packets := by
    rintro ⟨hnames, -⟩
    exact absurd (detects_ssh_of_namesOpenSsh hnames) (by decide)
  have hagrees := early_verdict_agrees c packets hconversation hicmp (report smtp) hsettled
  exact ⟨⟨hconversation, hicmp, hsettled, hnot⟩, hagrees.1 hnot⟩

/-- A greeting is recorded as SSH, and is one of FTP once it is answered. -/
theorem greeting_is_recorded_as_ssh :
    let c := Conversation.between .tcp ⟨.v4 0x0a010114, 21⟩ ⟨.v4 0x0a01010a, 49152⟩
    let packets := [openSshGreeting, userCommand]
    (∀ p ∈ packets, Conversation.ofPacket? p = some c) ∧
      (∀ p ∈ packets, announcesIcmp p = false) ∧
      SettledBy (verdict defaults) packets (report ssh) ∧
      verdict defaults packets = report ftp ∧ report ftp ≠ report ssh := by
  refine ⟨by decide, by decide, ?_, by decide, by decide⟩
  refine .inr ⟨1, by decide, by decide, by decide, by decide, ?_⟩
  intro m hm hlt
  omega

end FlowScope.Signature
