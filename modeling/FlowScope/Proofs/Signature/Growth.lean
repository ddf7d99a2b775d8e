import FlowScope.Proofs.Signature.Order

/-!
# Verdicts of growing flows

What a signature says of a flow may change while packets are still to come, but only from no match to a
match. And each signature of a payload has seen enough at some point: one payload of its transport, or
two if the second one is an answer to the first. From then on what it says is final.

The main statement is `verdicts_are_stable`.
-/

namespace FlowScope.Signature

open Guarded Probe

variable {kind : Transport} {packets later : List Packet} {payload : Bytes} {position : Nat}
  {s : Signature}

/-! ## Final outcomes -/

/-- What a signature has to see before its outcome is final: a number of payloads of a transport. That of
NetBIOS looks at both transports, and some look at all packets. -/
def sufficient? : Signature → Option (Transport × Nat)
  | ftp | smtp => some (.tcp, 2)
  | http | rdp | rpc | smb | ssh | ssl | mqtt | jabber => some (.tcp, 1)
  | dns => some (.udp, 1)
  | icmp | netBios | port _ => none

theorem onFirstPayload_append_eq {test : Bytes → Probe Unit}
    (h : 1 ≤ (payloads kind packets).length) (later : List Packet) :
    onFirstPayload kind (packets ++ later) (fun payload _ => test payload) =
      onFirstPayload kind packets fun payload _ => test payload := by
  obtain ⟨position, payload, hfirst⟩ := exists_firstPayload h
  rw [onFirstPayload_of_some hfirst, onFirstPayload_of_some (firstPayload_append hfirst later)]

theorem answeredGreeting_append_eq {commands : List String}
    (h : 2 ≤ (payloads .tcp packets).length) (later : List Packet) :
    answeredGreeting commands (packets ++ later) = answeredGreeting commands packets := by
  obtain ⟨position, greeting, hfirst⟩ := exists_firstPayload (Nat.zero_lt_of_lt h)
  rw [payloads_of_some hfirst, List.length_cons] at h
  obtain ⟨position', command, hnext⟩ := exists_firstPayload (Nat.lt_of_succ_le (Nat.le_of_succ_le_succ h))
  exact answeredGreeting_append hfirst hnext later

theorem detects_append_of_sufficient {n : Nat} (hs : s.sufficient? = some (kind, n))
    (h : n ≤ (payloads kind packets).length) (later : List Packet) :
    s.detects (packets ++ later) = s.detects packets := by
  apply congrArg accepts
  -- a signature reads its first payloads only, as many as are said to be sufficient
  cases s with
  | ftp => cases hs; exact answeredGreeting_append_eq h later
  | smtp => cases hs; exact answeredGreeting_append_eq h later
  | http => cases hs; exact onFirstPayload_append_eq h later
  | rdp => cases hs; exact onFirstPayload_append_eq h later
  | rpc => cases hs; exact onFirstPayload_append_eq h later
  | smb => cases hs; exact onFirstPayload_append_eq h later
  | ssh => cases hs; exact onFirstPayload_append_eq h later
  | ssl => cases hs; exact onFirstPayload_append_eq h later
  | mqtt => cases hs; exact onFirstPayload_append_eq h later
  | jabber => cases hs; exact onFirstPayload_append_eq h later
  | dns => cases hs; exact onFirstPayload_append_eq h later
  | icmp => cases hs
  | netBios => cases hs
  | port protocol => cases hs

/-! ## Stable verdicts -/

/-- **Verdicts are stable as a flow grows.** A signature that matches a flow matches it with more packets
appended too. Once the flow holds as many payloads as are sufficient for a signature, nothing that is
appended changes the outcome. So the default signatures do not go back from a known verdict. -/
theorem verdicts_are_stable (f f' : Flow) (hgrown : f.packets <+: f'.packets) :
    (∀ s : Signature, s.detects f.packets = true → s.detects f'.packets = true) ∧
    (∀ (s : Signature) (kind : Transport) (n : Nat), s.sufficient? = some (kind, n) →
      n ≤ (payloads kind f.packets).length → s.detects f'.packets = s.detects f.packets) ∧
    ((judge defaults f).2.isUnknown = false → (judge defaults f').2.isUnknown = false) := by
  obtain ⟨later, hpackets⟩ := hgrown
  rw [← hpackets]
  have hmatch : ∀ s : Signature, s.detects f.packets = true →
      s.detects (f.packets ++ later) = true := fun s h => detects_append h later
  refine ⟨hmatch, ?_, ?_⟩
  · intro s kind n hs h
    exact detects_append_of_sufficient hs h later
  · intro hknown
    obtain ⟨s, hs, hdetects⟩ := isUnknown_verdict_iff.mp hknown
    show (verdict defaults f'.packets).isUnknown = false
    rw [← hpackets]
    exact isUnknown_verdict_iff.mpr ⟨s, hs, hmatch s hdetects⟩

/-- One payload is not sufficient for the greeting: the command that answers it makes it a match. With
both of them seen, another greeting changes nothing. -/
theorem verdicts_are_stable_of_answered_greeting :
    let greeted : Flow := { packets := [openSshGreeting] }
    let answered : Flow := { packets := [openSshGreeting, userCommand] }
    let grown : Flow := { packets := [openSshGreeting, userCommand, openSshGreeting] }
    (greeted.packets <+: answered.packets ∧ answered.packets <+: grown.packets ∧
      ftp.sufficient? = some (.tcp, 2) ∧ 2 ≤ (payloads .tcp answered.packets).length) ∧
    ftp.detects greeted.packets = false ∧ ftp.detects answered.packets = true ∧
    ftp.detects grown.packets = ftp.detects answered.packets ∧
    (judge defaults grown).2.isUnknown = false := by
  intro greeted answered grown
  have hanswered : greeted.packets <+: answered.packets := ⟨[userCommand], rfl⟩
  have hgrown : answered.packets <+: grown.packets := ⟨[openSshGreeting], rfl⟩
  have hpayloads : 2 ≤ (payloads .tcp answered.packets).length := by decide
  obtain ⟨-, hfinal, hknown⟩ := verdicts_are_stable answered grown hgrown
  exact ⟨⟨hanswered, hgrown, rfl, hpayloads⟩, by decide, by decide,
    hfinal ftp .tcp 2 rfl hpayloads, hknown (by decide)⟩

end FlowScope.Signature
