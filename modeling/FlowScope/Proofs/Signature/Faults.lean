import FlowScope.Proofs.Signature.Dns
import FlowScope.Signature

/-!
# No signature faults

Every read, subtraction and sum of the signatures stands behind something that keeps it in bounds: a
check of the payload's length, a number read further on in the payload, or the size of the numbers
read. For each test on a payload a lemma `…_safe` follows it from check to access, and
`onFirstPayload_safe` takes them to the packets of a flow.

* `probe_safe` — whatever the packets of a flow are, no signature faults;
* `signatures_match_or_pass` — so a signature always matches or does not, and a list of signatures
  always has a verdict: that of the first signature which matches.
-/

namespace FlowScope.Signature

open Guarded Probe

variable {payload : Bytes} {packets : List Packet}

/-! ## Tests on one payload -/

theorem clientHello_safe : (clientHello payload).Safe := by
  refine (ensures_number (by decide)).bind_safe fun recordLength _ => ?_
  refine (ensures_number (by decide)).bind_safe fun helloLength hhello => ?_
  obtain ⟨hlength, -⟩ := hhello
  refine (ensures_octet (by omega)).bind_safe fun recordType _ => ?_
  refine (ensures_octet (by omega)).bind_safe fun version _ => ?_
  refine (ensures_octet (by omega)).bind_safe fun message _ => ?_
  refine (ensures_sub (by omega)).bind_safe fun afterRecord _ => ?_
  refine (ensures_sub (by omega)).bind_safe fun afterHello _ => ?_
  exact (ensures_demand _).bind_safe fun _ _ => demand_safe _

theorem connectionRequest_safe : (connectionRequest payload).Safe := by
  refine (ensures_demand _).bind_safe fun _ hlength => ?_
  refine (ensures_octet (by omega)).bind_safe fun version _ => ?_
  refine (ensures_octet (by omega)).bind_safe fun reserved _ => ?_
  refine (ensures_number (by decide)).bind_safe fun tpktLength _ => ?_
  refine (ensures_octet (by omega)).bind_safe fun cotpLength _ => ?_
  refine (ensures_octet (by omega)).bind_safe fun cotpType _ => ?_
  refine (ensures_sub (by omega)).bind_safe fun afterCotp _ => ?_
  refine (ensures_tail (by omega)).bind_safe fun cookie _ => ?_
  refine (ensures_demand _).bind_safe fun _ _ => ?_
  exact (ensures_demand _).bind_safe fun _ _ => demand_safe _

theorem bindRequest_safe : (bindRequest payload).Safe := by
  refine (ensures_demand _).bind_safe fun _ hlength => ?_
  refine (ensures_demand _).bind_safe fun _ _ => ?_
  refine (ensures_octet (by omega)).bind_safe fun low _ => ?_
  refine (ensures_octet (by omega)).bind_safe fun high _ => ?_
  exact demand_safe _

theorem connect_safe : (connect payload).Safe := by
  refine (ensures_demand _).bind_safe fun _ hlength => ?_
  refine (ensures_octet (by omega)).bind_safe fun message _ => ?_
  refine (ensures_octet (by omega)).bind_safe fun length _ => ?_
  refine (ensures_sub (by omega)).bind_safe fun afterLength _ => ?_
  refine (ensures_tail (by omega)).bind_safe fun name _ => ?_
  exact demand_safe _

theorem sessionRequest_safe : (sessionRequest payload).Safe := by
  refine (ensures_demand _).bind_safe fun _ hlength => ?_
  refine (ensures_number (by decide)).bind_safe fun length hnumber => ?_
  refine (ensures_tail (by omega)).bind_safe fun names _ => ?_
  -- two octets leave the sum far below a word
  have hsum : length + 4 < wordLimit := by
    have hword : wordLimit = 0x10000000000000000 := rfl
    omega
  refine (ensures_add hsum).bind_safe fun total _ => ?_
  refine (ensures_octet (by omega)).bind_safe fun message _ => ?_
  refine (ensures_octet (by omega)).bind_safe fun flags _ => ?_
  refine (ensures_demand _).bind_safe fun _ _ => ?_
  split
  next => exact demand_safe _
  next => exact mismatch_safe

theorem nameQuery_safe (broadcast : Bool) : (nameQuery broadcast payload).Safe := by
  refine (ensures_demand _).bind_safe fun _ hlength => ?_
  refine (ensures_slice (by omega)).bind_safe fun counts _ => ?_
  refine (ensures_octet (by omega)).bind_safe fun high _ => ?_
  refine (ensures_octet (by omega)).bind_safe fun low _ => ?_
  refine (ensures_demand _).bind_safe fun _ _ => ?_
  cases broadcast with
  | true => exact demand_safe _
  | false => exact demand_safe _

theorem sessionMessage_safe : (sessionMessage payload).Safe := by
  unfold sessionMessage
  split
  next hlength =>
      refine (ensures_octet (by omega)).bind_safe fun first _ => ?_
      refine (ensures_number (by decide)).bind_safe fun length _ => ?_
      refine (ensures_sub (by omega)).bind_safe fun afterHeader _ => ?_
      split
      next => exact (ensures_tail (by omega)).safe
      next => exact pure_safe _
  next => exact pure_safe _

theorem negotiateRequest_safe : (negotiateRequest payload).Safe := by
  refine sessionMessage_safe.ensures.bind_safe fun message _ => ?_
  refine (ensures_demand _).bind_safe fun _ hlength => ?_
  refine (ensures_octet (by omega)).bind_safe fun command _ => ?_
  refine (ensures_number (by decide)).bind_safe fun status _ => ?_
  refine (ensures_octet (by omega)).bind_safe fun flags _ => ?_
  exact demand_safe _

/-! ## Tests on the packets of a flow -/

/-- The packets after the first payload can be taken: that payload is in one of the packets. -/
theorem lt_of_firstPayload {kind : Transport} {position : Nat}
    (h : firstPayload kind packets = some (position, payload)) : position < packets.length := by
  induction packets generalizing position with
  | nil => cases h
  | cons p rest ih =>
      unfold firstPayload at h
      split at h
      next =>
          cases h
          exact Nat.succ_pos _
      next =>
          obtain ⟨⟨before, _⟩, hbefore, heq⟩ := Option.map_eq_some_iff.mp h
          cases heq
          exact Nat.succ_lt_succ (ih hbefore)

theorem onFirstPayload_safe {kind : Transport} {test : Bytes → List Packet → Probe Unit}
    (htest : ∀ payload rest, (test payload rest).Safe) : (onFirstPayload kind packets test).Safe := by
  unfold onFirstPayload
  cases hfirst : firstPayload kind packets with
  | none => exact mismatch_safe
  | some found =>
      obtain ⟨position, payload⟩ := found
      refine (ensures_tail ?_).bind_safe fun rest _ => htest payload rest
      exact lt_of_firstPayload hfirst

theorem answeredGreeting_safe (commands : List String) :
    (answeredGreeting commands packets).Safe := by
  refine onFirstPayload_safe fun greeting rest => ?_
  refine (ensures_demand _).bind_safe fun _ _ => ?_
  exact onFirstPayload_safe fun command _ => demand_safe _

theorem dnsTest_safe : (dnsTest packets).Safe :=
  onFirstPayload_safe fun payload _ =>
    (Dns.parse_safe payload).ensures.bind_safe fun _ _ => pure_safe _

theorem netBiosTest_safe : (netBiosTest packets).Safe :=
  orElse_safe (onFirstPayload_safe fun _ _ => sessionRequest_safe)
    (onFirstPayload_safe fun _ _ => nameQuery_safe _)

theorem probe_safe (s : Signature) (packets : List Packet) : (s.probe packets).Safe := by
  cases s with
  | ftp => exact answeredGreeting_safe _
  | http => exact onFirstPayload_safe fun _ _ => demand_safe _
  | icmp => exact demand_safe _
  | netBios => exact netBiosTest_safe
  | dns => exact dnsTest_safe
  | rdp => exact onFirstPayload_safe fun _ _ => connectionRequest_safe
  | rpc => exact onFirstPayload_safe fun _ _ => bindRequest_safe
  | smb => exact onFirstPayload_safe fun _ _ => negotiateRequest_safe
  | smtp => exact answeredGreeting_safe _
  | ssh => exact onFirstPayload_safe fun _ _ => demand_safe _
  | ssl => exact onFirstPayload_safe fun _ _ => clientHello_safe
  | jabber => exact onFirstPayload_safe fun _ _ => demand_safe _
  | mqtt => exact onFirstPayload_safe fun _ _ => connect_safe
  | port protocol => exact demand_safe _

/-! ## Scanning -/

/-- The verdict of a signature that matches. -/
def report (s : Signature) : Verdict := ⟨s.protocol, source⟩

theorem scan_eq (signatures : List Signature) (packets : List Packet) :
    scan signatures packets =
      .ok (((signatures.find? fun s => s.detects packets).map report).getD .unknown) := by
  induction signatures with
  | nil => rfl
  | cons s later ih =>
      rcases eq_or_eq_of_safe (probe_safe s packets) with hmatch | hpass
      · have hdetects : s.detects packets = true := by rw [detects, hmatch]; rfl
        rw [scan, hmatch, List.find?_cons, hdetects]
        rfl
      · have hdetects : s.detects packets = false := by rw [detects, hpass]; rfl
        rw [scan, hpass, List.find?_cons, hdetects]
        exact ih

/-- **No signature faults.** Whatever the packets of a flow are, each signature accepts them or does not
recognise them, and each list of signatures has a verdict, which it delivers without a fault: that of
its first signature which detects the packets, and otherwise the unknown one. -/
theorem signatures_match_or_pass (f : Flow) :
    (∀ s : Signature, s.probe f.packets = .ok () ∨ s.probe f.packets = .error (.refused ())) ∧
    ∀ signatures : List Signature,
      scan signatures f.packets = .ok (judge signatures f).2 ∧
      (judge signatures f).2 =
        ((signatures.find? fun s => s.detects f.packets).map report).getD .unknown := by
  refine ⟨fun s => eq_or_eq_of_safe (probe_safe s f.packets), fun signatures => ?_⟩
  have hverdict : (judge signatures f).2 =
      ((signatures.find? fun s => s.detects f.packets).map report).getD .unknown := by
    show verdict signatures f.packets = _
    rw [verdict, scan_eq]
  exact ⟨hverdict ▸ scan_eq signatures f.packets, hverdict⟩

end FlowScope.Signature
