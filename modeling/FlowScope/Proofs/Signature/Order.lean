import FlowScope.Proofs.Signature.Openings
import Mathlib.Data.List.Find

/-!
# The order of signatures

A list of signatures gives the verdict of the first that matches. Those that look for the structure of a
message over TCP exclude each other, so their order does not matter: `order_is_irrelevant`. Among the
default ones, what matters is where the signature of SSH stands, which accepts any line that names
OpenSSH: it comes after all of them but that of SSL.

What the default ones report of a structural match is `structural_match_is_reported`. That SSL is an
exception is shown by `clientHello_is_reported_as_ssh`.
-/

namespace FlowScope.Signature

open Guarded Probe

variable {packets : List Packet} {s : Signature}

/-- The default signatures that look for the structure of a message over TCP. -/
def structural : List Signature := [ftp, http, netBios, rdp, rpc, smb, smtp, ssl]

theorem openings_ne_nil (hs : s ∈ structural) : s.openings ≠ [] := by
  revert s
  decide

/-! ## Lines that name OpenSSH -/

/-- The first payload over TCP ends in a line feed and names OpenSSH somewhere. -/
def NamesOpenSsh (packets : List Packet) : Prop :=
  ∃ position payload, firstPayload .tcp packets = some (position, payload) ∧
    endsLine payload = true ∧ Bytes.ofAscii "OpenSSH" <:+: payload

theorem detects_ssh_of_namesOpenSsh (h : NamesOpenSsh packets) : ssh.detects packets = true := by
  obtain ⟨position, payload, hfirst, hline, hholds⟩ := h
  refine detects_iff.mpr (onFirstPayload_eq_ok_iff.mpr ⟨position, payload, hfirst, ?_⟩)
  apply demand_eq_ok_iff.mpr
  rw [isIdentification, hline, Bytes.holds_iff_isInfix.mpr hholds, Bool.or_true, Bool.and_true]

/-- A message of a structural protocol does not begin as an SSH identification does. -/
theorem namesOpenSsh_of_detects (hs : s.openings ≠ []) (h : Carries .tcp packets)
    (hdetects : s.detects packets = true) (hssh : ssh.detects packets = true) :
    NamesOpenSsh packets := by
  obtain ⟨position, b, rest, hfirst, hb⟩ := exists_opening hs h hdetects
  obtain ⟨_, _, hfirst', hmatch⟩ := onFirstPayload_eq_ok_iff.mp (detects_iff.mp hssh)
  rw [hfirst] at hfirst'
  cases hfirst'
  have hidentification := demand_eq_ok_iff.mp hmatch
  rw [isIdentification, Bool.and_eq_true, Bool.or_eq_true] at hidentification
  obtain ⟨hline, hstarts | hholds⟩ := hidentification
  · -- no other opening is that of the identification
    obtain rfl : b = 83 := eq_of_isPrefixOf rfl hstarts
    have hother : (83 : UInt8) ∉ s.openings := by
      cases s <;> simp [openings, lineFeed]
    exact absurd hb hother
  · exact ⟨position, b :: rest, hfirst, hline, Bytes.holds_iff_isInfix.mp hholds⟩

/-! ## The first signature that matches -/

theorem verdict_eq (signatures : List Signature) (packets : List Packet) :
    verdict signatures packets =
      ((signatures.find? fun s => s.detects packets).map report).getD .unknown := by
  rw [verdict, scan_eq]

/-! ### One match at most -/

theorem verdict_eq_of_perm {signatures signatures' : List Signature}
    (hperm : signatures.Perm signatures')
    (hunique : ∀ s ∈ signatures, ∀ s' ∈ signatures,
      s.detects packets = true → s'.detects packets = true → s = s') :
    verdict signatures packets = verdict signatures' packets := by
  rw [verdict_eq, verdict_eq]
  congr 2
  apply List.find?_eq_find?_of_perm hperm
  rintro s ⟨hs, hdetects⟩ s' ⟨hs', hdetects'⟩
  exact hunique s hs s' hs' hdetects hdetects'

/-! ### Known verdicts -/

theorem isUnknown_report (hs : s ∈ defaults) : (report s).isUnknown = false := by
  revert s
  decide

/-- The verdict of the default signatures is that of the first that matches, and unknown otherwise. -/
theorem verdict_cases (packets : List Packet) :
    (verdict defaults packets = .unknown ∧ ∀ s ∈ defaults, s.detects packets = false) ∨
      ∃ s ∈ defaults, s.detects packets = true ∧ verdict defaults packets = report s := by
  rw [verdict_eq]
  cases hfind : defaults.find? fun s => s.detects packets with
  | none =>
      refine .inl ⟨rfl, fun s hs => ?_⟩
      simpa using List.find?_eq_none.mp hfind s hs
  | some s =>
      have hdetects : s.detects packets = true :=
        List.find?_some (p := fun s : Signature => s.detects packets) hfind
      exact .inr ⟨s, List.mem_of_find?_eq_some hfind, hdetects, rfl⟩

theorem isUnknown_verdict_iff :
    (verdict defaults packets).isUnknown = false ↔ ∃ s ∈ defaults, s.detects packets = true := by
  obtain ⟨hunknown, hnone⟩ | ⟨s, hs, hdetects, hverdict⟩ := verdict_cases packets
  · rw [hunknown]
    refine iff_of_false (by decide) ?_
    rintro ⟨s, hs, hdetects⟩
    rw [hnone s hs] at hdetects
    cases hdetects
  · rw [hverdict]
    exact iff_of_true (isUnknown_report hs) ⟨s, hs, hdetects⟩

theorem verdict_eq_unknown (h : (verdict defaults packets).isUnknown = true) :
    verdict defaults packets = .unknown := by
  obtain ⟨hunknown, -⟩ | ⟨s, hs, -, hverdict⟩ := verdict_cases packets
  · exact hunknown
  · rw [hverdict, isUnknown_report hs] at h
    cases h

/-! ### One match only -/

theorem find?_eq_some_of_unique {α : Type} {p : α → Bool} {xs : List α} {x : α} (hx : x ∈ xs)
    (hp : p x = true) (hunique : ∀ y ∈ xs, p y = true → y = x) : xs.find? p = some x := by
  cases hfind : xs.find? p with
  | none => exact absurd hp (List.find?_eq_none.mp hfind x hx)
  | some y =>
      rw [hunique y (List.mem_of_find?_eq_some hfind) (List.find?_some hfind)]

/-- The default signatures before that of SSH. -/
def beforeSsh : List Signature := [ftp, http, icmp, netBios, dns, rdp, rpc, smb, smtp]

theorem icmp_not_detects (h : ∀ p ∈ packets, announcesIcmp p = false) :
    icmp.detects packets = false := by
  have hany : packets.any announcesIcmp = false := by
    rw [List.any_eq_false]
    intro p hp
    rw [h p hp]
    exact Bool.false_ne_true
  rw [Bool.eq_false_iff]
  intro hdetects
  have hdemand : packets.any announcesIcmp = true := demand_eq_ok_iff.mp (detects_iff.mp hdetects)
  rw [hany] at hdemand
  cases hdemand

theorem dns_not_detects (h : Carries .tcp packets) : dns.detects packets = false := by
  rw [Bool.eq_false_iff]
  intro hdetects
  have hprobe := detects_iff.mp hdetects
  rw [probe, dnsTest, onFirstPayload_of_none (h.firstPayload_eq_none (by decide))] at hprobe
  cases hprobe

/-- Over TCP and without ICMP, a default signature that matches has an opening or is that of SSH. -/
theorem eq_ssh_or_openings_ne_nil (h : Carries .tcp packets)
    (hicmp : ∀ p ∈ packets, announcesIcmp p = false) (hs : s ∈ defaults)
    (hdetects : s.detects packets = true) : s = ssh ∨ s.openings ≠ [] := by
  have hkinds : ∀ s ∈ defaults, s = icmp ∨ s = dns ∨ s = ssh ∨ s.openings ≠ [] := by decide
  rcases hkinds s hs with rfl | rfl | hkind
  · rw [icmp_not_detects hicmp] at hdetects
    cases hdetects
  · rw [dns_not_detects h] at hdetects
    cases hdetects
  · exact hkind

/-- Before that of SSH, no other signature matches. -/
theorem eq_of_detects_of_mem {s' : Signature} (h : Carries .tcp packets)
    (hicmp : ∀ p ∈ packets, announcesIcmp p = false) (hs : s.openings ≠ [])
    (hdetects : s.detects packets = true) (hs' : s' ∈ beforeSsh)
    (hdetects' : s'.detects packets = true) : s' = s := by
  have hdefault : ∀ s ∈ beforeSsh, s ∈ defaults ∧ s ≠ ssh := by decide
  obtain ⟨hmem, hne⟩ := hdefault s' hs'
  have hopenings := (eq_ssh_or_openings_ne_nil h hicmp hmem hdetects').resolve_left hne
  exact eq_of_detects h hopenings hs hdetects' hdetects

theorem verdict_of_detects (h : Carries .tcp packets)
    (hicmp : ∀ p ∈ packets, announcesIcmp p = false) (hs : s ∈ structural)
    (hdetects : s.detects packets = true) :
    verdict defaults packets = report (if s = ssl ∧ ssh.detects packets then ssh else s) := by
  have hopenings := openings_ne_nil hs
  -- in the order of the signatures, all that exclude each other come before these two
  have hfind : defaults.find? (fun s => s.detects packets) =
      (beforeSsh.find? fun s => s.detects packets).or
        ([ssh, ssl].find? fun s => s.detects packets) := by
    show (beforeSsh ++ [ssh, ssl]).find? _ = _
    exact List.find?_append
  by_cases hssl : s = ssl
  · subst hssl
    have hnone : (beforeSsh.find? fun s => s.detects packets) = none := by
      refine List.find?_eq_none.mpr fun s' hs' hdetects' => ?_
      have hnot : ssl ∉ beforeSsh := by decide
      rw [eq_of_detects_of_mem h hicmp hopenings hdetects hs' hdetects'] at hs'
      exact hnot hs'
    rw [verdict_eq, hfind, hnone, Option.none_or, List.find?_cons, List.find?_cons, hdetects]
    cases ssh.detects packets <;> rfl
  · have hbefore : ∀ s ∈ structural, s ≠ ssl → s ∈ beforeSsh := by decide
    have hmem := hbefore s hs hssl
    have hsome := find?_eq_some_of_unique (p := fun s => s.detects packets) hmem hdetects
      fun s' hs' => eq_of_detects_of_mem h hicmp hopenings hdetects hs'
    rw [verdict_eq, hfind, hsome, if_neg fun hboth => hssl hboth.1]
    rfl

/-! ## What is reported -/

/-- **What a structural match is reported as.** Let a flow over TCP announce no ICMP, and let a
structural signature match it. Then the default signatures report and store the protocol of this
signature, with one exception: a flow that the signature of SSL matches is reported as SSH if its first
payload is a line that names OpenSSH. -/
theorem structural_match_is_reported (f : Flow) (htcp : Carries .tcp f.packets)
    (hicmp : ∀ p ∈ f.packets, announcesIcmp p = false) (s : Signature) (hs : s ∈ structural)
    (hdetects : s.detects f.packets = true) :
    (¬ (s = ssl ∧ NamesOpenSsh f.packets) → judge defaults f = (f.store (report s), report s)) ∧
    (s = ssl ∧ NamesOpenSsh f.packets →
      judge defaults f = (f.store (report ssh), report ssh)) := by
  have hverdict := verdict_of_detects htcp hicmp hs hdetects
  have hjudge : ∀ s ∈ defaults, verdict defaults f.packets = report s →
      judge defaults f = (f.store (report s), report s) := by
    intro s hs hverdict
    rw [judge, hverdict, isUnknown_report hs]
    rfl
  have hdefault : ∀ s ∈ structural, s ∈ defaults := by decide
  constructor
  · intro hnot
    refine hjudge s (hdefault s hs) ?_
    rw [hverdict, if_neg]
    rintro ⟨rfl, hssh⟩
    exact hnot ⟨rfl, namesOpenSsh_of_detects (openings_ne_nil hs) htcp hdetects hssh⟩
  · rintro ⟨rfl, hnames⟩
    refine hjudge ssh (by decide) ?_
    rw [hverdict, if_pos ⟨rfl, detects_ssh_of_namesOpenSsh hnames⟩]

/-- A server that names OpenSSH in its greeting. -/
def openSshGreeting : Packet :=
  .tcp ⟨.v4 0x0a010114, 21⟩ ⟨.v4 0x0a01010a, 49152⟩ .none (Bytes.ofAscii "220 OpenSSH\n")

/-- An answer to the greeting, as FTP has it. -/
def userCommand : Packet :=
  .tcp ⟨.v4 0x0a01010a, 49152⟩ ⟨.v4 0x0a010114, 21⟩ .none (Bytes.ofAscii "USER x\n")

/-- A flow that the signature of SSH matches too is reported as FTP. -/
theorem answered_greeting_is_reported_as_ftp :
    let f : Flow := { packets := [openSshGreeting, userCommand] }
    (Carries .tcp f.packets ∧ (∀ p ∈ f.packets, announcesIcmp p = false) ∧ ftp ∈ structural ∧
      ftp.detects f.packets = true ∧ ¬ (ftp = ssl ∧ NamesOpenSsh f.packets)) ∧
    ssh.detects f.packets = true ∧ judge defaults f = (f.store ⟨.ftp, source⟩, ⟨.ftp, source⟩) := by
  intro f
  have htcp : Carries .tcp f.packets := by decide
  have hicmp : ∀ p ∈ f.packets, announcesIcmp p = false := by decide
  have hdetects : ftp.detects f.packets = true := by decide
  have hnot : ¬ (ftp = ssl ∧ NamesOpenSsh f.packets) := fun h => absurd h.1 (by decide)
  have hreported := structural_match_is_reported f htcp hicmp ftp (by decide) hdetects
  exact ⟨⟨htcp, hicmp, by decide, hdetects, hnot⟩, by decide, hreported.1 hnot⟩

/-- A ClientHello whose last octets name OpenSSH and end a line. -/
def openSshHello : Packet :=
  .tcp ⟨.v4 0x0a01010a, 49152⟩ ⟨.v4 0x0a010114, 443⟩ .none
    ([22, 3, 1, 0, 12, 1, 0, 0, 8] ++ Bytes.ofAscii "OpenSSH\n")

/-- The signature of SSL matches, and SSH is reported. -/
theorem clientHello_is_reported_as_ssh :
    let f : Flow := { packets := [openSshHello] }
    Carries .tcp f.packets ∧ (∀ p ∈ f.packets, announcesIcmp p = false) ∧ ssl ∈ structural ∧
      ssl.detects f.packets = true ∧ (judge defaults f).2 = report ssh ∧
      (judge defaults f).2 ≠ report ssl := by
  intro f
  decide

/-! ## Orders that do not matter -/

theorem openings_ne_nil_of_mem (hs : s ∈ withOpenings) : s.openings ≠ [] := by
  revert s
  decide

/-- **The order of exclusive signatures is irrelevant.** Of the nine signatures that look for the
structure of a message, at most one matches a flow over TCP. So two lists of them that differ only in
their order, with whatever repetitions, report the same on such a flow, and leave the same flow. -/
theorem order_is_irrelevant (f : Flow) (htcp : Carries .tcp f.packets) :
    (∀ s ∈ withOpenings, ∀ s' ∈ withOpenings,
      s.detects f.packets = true → s'.detects f.packets = true → s = s') ∧
    ∀ signatures signatures' : List Signature, (∀ s ∈ signatures, s ∈ withOpenings) →
      signatures.Perm signatures' → judge signatures f = judge signatures' f := by
  have hunique : ∀ s ∈ withOpenings, ∀ s' ∈ withOpenings,
      s.detects f.packets = true → s'.detects f.packets = true → s = s' := by
    intro s hs s' hs'
    exact eq_of_detects htcp (openings_ne_nil_of_mem hs) (openings_ne_nil_of_mem hs')
  refine ⟨hunique, fun signatures signatures' hmem hperm => ?_⟩
  have hverdict : verdict signatures f.packets = verdict signatures' f.packets := by
    apply verdict_eq_of_perm hperm
    intro s hs s' hs'
    exact hunique s (hmem s hs) s' (hmem s' hs')
  rw [judge, judge, hverdict]

/-- The answered greeting is found behind SMTP and behind itself. -/
theorem order_is_irrelevant_of_answered_greeting :
    let f : Flow := { packets := [openSshGreeting, userCommand] }
    (Carries .tcp f.packets ∧ (∀ s ∈ [smtp, ftp, mqtt, ftp], s ∈ withOpenings) ∧
      [smtp, ftp, mqtt, ftp].Perm [ftp, ftp, mqtt, smtp]) ∧
    judge [smtp, ftp, mqtt, ftp] f = judge [ftp, ftp, mqtt, smtp] f ∧
    judge [smtp, ftp, mqtt, ftp] f = (f.store (report ftp), report ftp) := by
  intro f
  have htcp : Carries .tcp f.packets := by decide
  have hmem : ∀ s ∈ [smtp, ftp, mqtt, ftp], s ∈ withOpenings := by decide
  have hperm : [smtp, ftp, mqtt, ftp].Perm [ftp, ftp, mqtt, smtp] := by decide
  obtain ⟨-, hsame⟩ := order_is_irrelevant f htcp
  exact ⟨⟨htcp, hmem, hperm⟩, hsame _ _ hmem hperm, by decide⟩

end FlowScope.Signature
