import FlowScope.Proofs.Signature.Framing
import FlowScope.Proofs.Signature.Scan

/-!
# How messages begin

The messages of most protocols over TCP can be told apart by their first octet. For each signature that
looks for one, `openings` lists the octets with which the first payload begins where it matches
(`exists_opening`). The lists of different signatures have no octet in common (`disjoint_openings`), but
for FTP and SMTP, whose servers greet alike; those two differ in the answer to the greeting.

So no two of these signatures match the same packets: `eq_of_detects`.
-/

namespace FlowScope.Signature

open Guarded Probe

variable {packets : List Packet} {s s' : Signature} {b : UInt8} {rest : Bytes}

/-- The first octets of the payloads that the signature matches, for those over TCP that can be told
apart by it. -/
def openings : Signature → List UInt8
  | ftp => [50, lineFeed]
  | http => [79, 71, 72, 80, 68, 84, 67]
  | netBios => [0x81]
  | rdp => [3]
  | rpc => [5]
  | smb => [0, 0xff]
  | smtp => [50, lineFeed]
  | ssl => [22]
  | mqtt => [0x10]
  | _ => []

/-! ## Payload by payload -/

theorem eq_of_isPrefixOf {octets : Bytes} {c : UInt8} (hhead : octets.head? = some c)
    (h : octets.isPrefixOf (b :: rest) = true) : b = c := by
  cases octets with
  | nil => cases hhead
  | cons d tail =>
      cases hhead
      simp only [List.isPrefixOf_cons_cons, Bool.and_eq_true, beq_iff_eq] at h
      exact h.1.symm

/-- A greeting begins with its number, or with an empty line. -/
theorem mem_of_isGreeting (h : isGreeting (b :: rest) = true) : b ∈ [50, lineFeed] := by
  by_cases hb : b = lineFeed
  · simp [hb]
  · have hpieces : pieces (· = lineFeed) (b :: rest) =
        pushPiece b (pieces (· = lineFeed) rest) := by
      rw [pieces_cons, if_neg (by simpa using hb)]
    obtain ⟨piece, later, hrest⟩ := List.exists_cons_of_ne_nil (pieces_ne_nil (· = lineFeed) rest)
    rw [isGreeting, hpieces, hrest, pushPiece, List.all_cons, Bool.and_eq_true] at h
    have hreply : b = 50 := eq_of_isPrefixOf rfl h.1
    simp [hreply]

theorem mem_of_isRequestHead (h : isRequestHead (b :: rest) = true) :
    b ∈ [79, 71, 72, 80, 68, 84, 67] := by
  -- the first letter of each verb
  have hletters : ∀ verb ∈ verbs, ∃ c ∈ ([79, 71, 72, 80, 68, 84, 67] : Bytes),
      (Bytes.ofAscii (verb ++ " ")).head? = some c := by decide
  unfold isRequestHead at h
  split at h
  next line hline =>
      obtain ⟨target, htarget, -⟩ := Option.bind_eq_some_iff.mp hline
      obtain ⟨verb, hverb, hafter⟩ := List.exists_of_findSome?_eq_some htarget
      obtain ⟨c, hc, hhead⟩ := hletters verb hverb
      have hprefix := (Option.ite_none_right_eq_some.mp hafter).1
      rw [eq_of_isPrefixOf hhead hprefix]
      exact hc
  next => cases h

theorem eq_of_clientHello (h : clientHello (b :: rest) = .ok ()) : b = 22 := by
  obtain ⟨form, hform⟩ := clientHello_eq_ok_iff.mp h
  exact List.head_eq_of_cons_eq hform

theorem eq_of_connectionRequest (h : connectionRequest (b :: rest) = .ok ()) : b = 3 := by
  obtain ⟨form, hform⟩ := connectionRequest_eq_ok_iff.mp h
  exact List.head_eq_of_cons_eq hform

theorem eq_of_bindRequest (h : bindRequest (b :: rest) = .ok ()) : b = 5 := by
  obtain ⟨form, hform⟩ := bindRequest_eq_ok_iff.mp h
  exact List.head_eq_of_cons_eq hform

theorem eq_of_connect (h : connect (b :: rest) = .ok ()) : b = 0x10 := by
  obtain ⟨form, hform⟩ := connect_eq_ok_iff.mp h
  exact List.head_eq_of_cons_eq hform

theorem eq_of_sessionRequest (h : sessionRequest (b :: rest) = .ok ()) : b = 0x81 := by
  obtain ⟨form, hform⟩ := sessionRequest_eq_ok_iff.mp h
  exact List.head_eq_of_cons_eq hform

/-- The header of a session begins with zero. -/
theorem mem_of_negotiateRequest (h : negotiateRequest (b :: rest) = .ok ()) : b ∈ [0, 0xff] := by
  obtain ⟨form, hform | ⟨hfits, hform⟩⟩ := negotiateRequest_eq_ok_iff.mp h
  · have hmagic : b = 0xff := List.head_eq_of_cons_eq hform
    simp [hmagic]
  · rw [NegotiateRequestForm.inSession, Bytes.ofNat_succ_of_lt hfits] at hform
    have hzero : b = 0 := List.head_eq_of_cons_eq hform
    simp [hzero]

/-! ## Flow by flow -/

theorem exists_opening_of_test {test : Bytes → List Packet → Probe Unit} {octets : Bytes}
    (htest : ∀ b rest after, test (b :: rest) after = .ok () → b ∈ octets)
    (h : onFirstPayload .tcp packets test = .ok ()) :
    ∃ position b rest, firstPayload .tcp packets = some (position, b :: rest) ∧ b ∈ octets := by
  obtain ⟨position, payload, hfirst, hmatch⟩ := onFirstPayload_eq_ok_iff.mp h
  obtain ⟨b, rest, rfl⟩ := List.exists_cons_of_ne_nil (ne_nil_of_firstPayload hfirst)
  exact ⟨position, b, rest, hfirst, htest b rest _ hmatch⟩

/-- A match over TCP has a first payload, which begins with one of the signature's octets. -/
theorem exists_opening (hs : s.openings ≠ []) (h : Carries .tcp packets)
    (hdetects : s.detects packets = true) :
    ∃ position b rest, firstPayload .tcp packets = some (position, b :: rest) ∧ b ∈ s.openings := by
  rw [detects_iff] at hdetects
  have hgreeting : ∀ {commands : List String}, answeredGreeting commands packets = .ok () →
      ∃ position b rest, firstPayload .tcp packets = some (position, b :: rest) ∧
        b ∈ [50, lineFeed] :=
    exists_opening_of_test fun b rest after hmatch =>
      mem_of_isGreeting (demand_bind_eq_ok_iff.mp hmatch).1
  -- by signature: what its test accepts begins with one of its openings
  cases s with
  | ftp => exact hgreeting hdetects
  | smtp => exact hgreeting hdetects
  | http =>
      exact exists_opening_of_test
        (fun b rest after hmatch => mem_of_isRequestHead (demand_eq_ok_iff.mp hmatch)) hdetects
  | netBios =>
      rcases netBiosTest_eq_ok_iff.mp hdetects with hsession | hquery
      · exact exists_opening_of_test
          (fun b rest after hmatch => by simp [openings, eq_of_sessionRequest hmatch]) hsession
      · rw [onFirstPayload_of_none (h.firstPayload_eq_none (by decide))] at hquery
        cases hquery
  | rdp =>
      exact exists_opening_of_test
        (fun b rest after hmatch => by simp [openings, eq_of_connectionRequest hmatch]) hdetects
  | rpc =>
      exact exists_opening_of_test
        (fun b rest after hmatch => by simp [openings, eq_of_bindRequest hmatch]) hdetects
  | smb => exact exists_opening_of_test (fun b rest after => mem_of_negotiateRequest) hdetects
  | ssl =>
      exact exists_opening_of_test
        (fun b rest after hmatch => by simp [openings, eq_of_clientHello hmatch]) hdetects
  | mqtt =>
      exact exists_opening_of_test
        (fun b rest after hmatch => by simp [openings, eq_of_connect hmatch]) hdetects
  | icmp => exact absurd rfl hs
  | dns => exact absurd rfl hs
  | ssh => exact absurd rfl hs
  | jabber => exact absurd rfl hs
  | port protocol => exact absurd rfl hs

/-! ## No two at once -/

/-- The signatures that have openings. -/
def withOpenings : List Signature := [ftp, http, netBios, rdp, rpc, smb, smtp, ssl, mqtt]

theorem mem_withOpenings (hs : s.openings ≠ []) : s ∈ withOpenings := by
  cases s <;> first | exact absurd rfl hs | decide

theorem disjoint_openings (hs : s.openings ≠ []) (hs' : s'.openings ≠ [])
    (hb : b ∈ s.openings) (hb' : b ∈ s'.openings) : s = s' ∨ (s ∈ waiting ∧ s' ∈ waiting) := by
  have hpairs : ∀ s ∈ withOpenings, ∀ s' ∈ withOpenings,
      s = s' ∨ (s ∈ waiting ∧ s' ∈ waiting) ∨ ∀ b ∈ s.openings, b ∉ s'.openings := by
    decide +kernel
  rcases hpairs s (mem_withOpenings hs) s' (mem_withOpenings hs') with heq | hgreeting | hdisjoint
  · exact .inl heq
  · exact .inr hgreeting
  · exact absurd hb' (hdisjoint b hb)

/-- A line is not a command of both protocols. -/
theorem not_isCommand_of_isCommand {command : Bytes} (h : isCommand ["USER "] command = true) :
    isCommand ["EHLO ", "HELO "] command = false := by
  cases command with
  | nil => cases h
  | cons b rest =>
      rw [isCommand, Bool.and_eq_true, List.any_cons, List.any_nil, Bool.or_false] at h
      -- the commands differ in their first letters
      have huser : b = 85 := eq_of_isPrefixOf rfl h.1
      rw [Bool.eq_false_iff]
      intro h'
      rw [isCommand, Bool.and_eq_true, List.any_cons, List.any_cons, List.any_nil, Bool.or_false,
        Bool.or_eq_true] at h'
      rcases h'.1 with hehlo | hhelo
      · have hb : b = 69 := eq_of_isPrefixOf rfl hehlo
        rw [huser] at hb
        cases hb
      · have hb : b = 72 := eq_of_isPrefixOf rfl hhelo
        rw [huser] at hb
        cases hb

theorem not_ftp_and_smtp (hftp : ftp.detects packets = true) : smtp.detects packets = false := by
  rw [Bool.eq_false_iff]
  intro hsmtp
  obtain ⟨position, greeting, hfirst, -, position', command, hnext, huser⟩ :=
    answeredGreeting_eq_ok_iff.mp (detects_iff.mp hftp)
  obtain ⟨_, _, hfirst', -, _, _, hnext', hhello⟩ :=
    answeredGreeting_eq_ok_iff.mp (detects_iff.mp hsmtp)
  -- both have answered the same greeting, with the same payload
  rw [hfirst] at hfirst'
  cases hfirst'
  rw [hnext] at hnext'
  cases hnext'
  rw [not_isCommand_of_isCommand huser] at hhello
  cases hhello

/-- No two of these signatures match the same packets. -/
theorem eq_of_detects (h : Carries .tcp packets) (hs : s.openings ≠ []) (hs' : s'.openings ≠ [])
    (hdetects : s.detects packets = true) (hdetects' : s'.detects packets = true) : s = s' := by
  obtain ⟨position, b, rest, hfirst, hb⟩ := exists_opening hs h hdetects
  obtain ⟨_, _, _, hfirst', hb'⟩ := exists_opening hs' h hdetects'
  rw [hfirst] at hfirst'
  cases hfirst'
  -- two signatures that share an opening are the ones that wait for a command
  rcases disjoint_openings hs hs' hb hb' with heq | ⟨hgreeting, hgreeting'⟩
  · exact heq
  · simp only [waiting, List.mem_cons, List.not_mem_nil, or_false] at hgreeting hgreeting'
    rcases hgreeting with rfl | rfl <;> rcases hgreeting' with rfl | rfl
    · rfl
    · rw [not_ftp_and_smtp hdetects] at hdetects'
      cases hdetects'
    · rw [not_ftp_and_smtp hdetects'] at hdetects
      cases hdetects
    · rfl

end FlowScope.Signature
