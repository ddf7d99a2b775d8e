import FlowScope.Proofs.Signature.Pattern

/-!
# Where an XML prolog stands

An XMPP stream is told by its XML prolog, which need not be at the front of a payload. What a prolog is, is
said here without reading one (`Prolog`). Reading finds one at the front exactly if there is one
(`afterProlog?_eq_some_iff`): each run in it ends where something follows that is not of its class. The search
goes on behind every octet, so it comes by all places where one can begin (`holdsProlog_iff`).

The main statement is `prologs_are_detected`.
-/

namespace FlowScope.Signature

variable {bytes rest : Bytes}

/-! ## Prologs -/

/-- The decimal digits. -/
def digits : Bytes := Bytes.ofAscii "0123456789"

/-- The quotes around the value of an attribute: the double one and the single one. -/
def quotes : Bytes := [34, 39]

/-- An XML prolog, up to its version number in quotes. The two quotes need not be the same. -/
structure Prolog where
  gap : Bytes
  opening : UInt8
  major : Bytes
  minor : Bytes
  closing : UInt8
  gap_ne_nil : gap ≠ []
  blank_of_mem : ∀ b ∈ gap, b ∈ blanks
  isQuote_opening : opening ∈ quotes
  major_ne_nil : major ≠ []
  digit_of_mem_major : ∀ b ∈ major, b ∈ digits
  minor_ne_nil : minor ≠ []
  digit_of_mem_minor : ∀ b ∈ minor, b ∈ digits
  isQuote_closing : closing ∈ quotes

def Prolog.octets (prolog : Prolog) : Bytes :=
  Bytes.ofAscii "<?xml" ++ (prolog.gap ++ (Bytes.ofAscii "version=" ++
    (prolog.opening :: (prolog.major ++ (Bytes.ofAscii "." ++
      (prolog.minor ++ [prolog.closing]))))))

/-- A prolog stands somewhere in the bytes. -/
def HoldsProlog (bytes : Bytes) : Prop := ∃ prolog : Prolog, prolog.octets <:+: bytes

theorem HoldsProlog.of_infix {part : Bytes} (h : HoldsProlog part) (hpart : part <:+: bytes) :
    HoldsProlog bytes := by
  obtain ⟨prolog, hprolog⟩ := h
  exact ⟨prolog, hprolog.trans hpart⟩

/-! ## Reading a prolog -/

theorem isDigit_iff {b : UInt8} : Bytes.isDigit b = true ↔ b ∈ digits := by
  have hdigits : digits = [48, 49, 50, 51, 52, 53, 54, 55, 56, 57] := by decide
  simp only [Bytes.isDigit, hdigits, ← UInt8.toNat_inj, UInt8.reduceToNat, UInt8.le_iff_toNat_le,
    Bool.and_eq_true, decide_eq_true_eq, List.mem_cons, List.not_mem_nil, or_false]
  omega

theorem isQuote_iff {b : UInt8} : isQuote b = true ↔ b ∈ quotes := by
  simp [isQuote, quotes]

theorem afterProlog?_eq_some_iff :
    afterProlog? bytes = some rest ↔ ∃ prolog : Prolog, bytes = prolog.octets ++ rest := by
  simp only [afterProlog?, Option.bind_eq_bind, Option.bind_eq_some_iff, after?_eq_some_iff,
    afterSome?_eq_some_iff, afterOne?_eq_some_iff, isSpace_iff, isDigit_iff, isQuote_iff]
  constructor
  · intro h
    obtain ⟨_, rfl, _, ⟨gap, hgap, hblank, -, rfl⟩, _, rfl, _, ⟨opening, hopening, rfl⟩, _,
      ⟨major, hmajor, hdigits, -, rfl⟩, _, rfl, _, ⟨minor, hminor, hdigits', -, rfl⟩,
      closing, hclosing, rfl⟩ := h
    refine ⟨⟨gap, opening, major, minor, closing, hgap, hblank, hopening, hmajor, hdigits, hminor,
      hdigits', hclosing⟩, ?_⟩
    simp [Prolog.octets]
  · intro h
    obtain ⟨⟨gap, opening, major, minor, closing, hgap, hblank, hopening, hmajor, hdigits, hminor,
      hdigits', hclosing⟩, rfl⟩ := h
    simp only [Prolog.octets, List.append_assoc, List.cons_append, List.nil_append]
    refine ⟨_, rfl, _, ⟨gap, hgap, hblank, ?_, rfl⟩, _, rfl, _, ⟨opening, hopening, rfl⟩, _,
      ⟨major, hmajor, hdigits, ?_, rfl⟩, _, rfl, _, ⟨minor, hminor, hdigits', ?_, rfl⟩,
      closing, hclosing, rfl⟩
    · -- the name of the attribute ends the blanks
      intro b hb
      obtain rfl : 118 = b := by simpa [Bytes.ofAscii] using hb
      rfl
    · -- the point ends the first number
      intro b hb
      obtain rfl : 46 = b := by simpa [Bytes.ofAscii] using hb
      rfl
    · -- the quote ends the second one
      intro b hb
      obtain rfl : closing = b := by simpa using hb
      rcases List.mem_pair.mp hclosing with rfl | rfl
      · rfl
      · rfl

theorem Prolog.octets_ne_nil (prolog : Prolog) : prolog.octets ≠ [] := by
  simp [Prolog.octets]

/-- The search finds a prolog wherever it stands. -/
theorem holdsProlog_iff : holdsProlog bytes = true ↔ HoldsProlog bytes := by
  induction bytes with
  | nil =>
      refine iff_of_false (by simp [holdsProlog]) ?_
      rintro ⟨prolog, hprolog⟩
      exact prolog.octets_ne_nil (List.infix_nil.mp hprolog)
  | cons b later ih =>
      -- one stands at the front, or somewhere in the rest
      have hfront : (afterProlog? (b :: later)).isSome = true ↔
          ∃ prolog : Prolog, prolog.octets <+: b :: later := by
        rw [Option.isSome_iff_exists]
        simp only [afterProlog?_eq_some_iff]
        constructor
        · rintro ⟨rest, prolog, heq⟩
          exact ⟨prolog, rest, heq.symm⟩
        · rintro ⟨prolog, rest, heq⟩
          exact ⟨rest, prolog, heq.symm⟩
      rw [holdsProlog, Bool.or_eq_true, hfront, ih]
      simp only [HoldsProlog, List.infix_cons_iff, exists_or]

/-! ## Flows -/

theorem detects_jabber_iff {packets : List Packet} :
    jabber.detects packets = true ↔
      ∃ payload, (payloads .tcp packets).head? = some payload ∧ HoldsProlog payload := by
  rw [detects_iff]
  apply onFirstPayload_demand_eq_ok_iff.trans
  simp only [holdsProlog_iff]

/-- **Which flows are taken for XMPP.** Those whose first payload over TCP has an XML prolog in it, with
anything before and behind it. So a flow goes on to match if anything is added to this payload on either
side. -/
theorem prologs_are_detected (packets : List Packet) :
    (jabber.detects packets = true ↔
      ∃ payload, (payloads .tcp packets).head? = some payload ∧
        ∃ (before : Bytes) (prolog : Prolog) (behind : Bytes),
          payload = before ++ prolog.octets ++ behind) ∧
    ∀ (packets' : List Packet) (payload before behind : Bytes),
      (payloads .tcp packets).head? = some payload →
      (payloads .tcp packets').head? = some (before ++ payload ++ behind) →
      jabber.detects packets = true → jabber.detects packets' = true := by
  constructor
  · rw [detects_jabber_iff]
    refine exists_congr fun payload => and_congr_right fun _ => ?_
    constructor
    · rintro ⟨prolog, before, behind, heq⟩
      exact ⟨before, prolog, behind, heq.symm⟩
    · rintro ⟨before, prolog, behind, heq⟩
      exact ⟨prolog, before, behind, heq.symm⟩
  · intro packets' payload before behind hfirst hfirst' hdetects
    obtain ⟨payload', hpayload', hprolog⟩ := detects_jabber_iff.mp hdetects
    obtain rfl : payload = payload' := Option.some.inj (hfirst.symm.trans hpayload')
    -- what is found in a payload is found in one that contains it
    exact detects_jabber_iff.mpr ⟨_, hfirst', hprolog.of_infix ⟨before, behind, rfl⟩⟩

/-- A prolog with two kinds of quotes is found behind others that are cut short, the last of which ends
where it begins. -/
theorem prologs_are_detected_behind_others :
    let alone := Bytes.ofAscii "<?xml \tversion=\"1.05'"
    let before := Bytes.ofAscii "<?xml<?xml version='1.<?xml version=\"2."
    let send (payload : Bytes) : List Packet := [.tcp ⟨.v4 1, 5000⟩ ⟨.v4 2, 5222⟩ .data payload]
    (payloads .tcp (send alone)).head? = some alone ∧
      (payloads .tcp (send (before ++ alone ++ [0]))).head? = some (before ++ alone ++ [0]) ∧
      jabber.detects (send alone) = true ∧ jabber.detects (send (before ++ alone ++ [0])) = true := by
  intro alone before send
  have hfirst : (payloads .tcp (send alone)).head? = some alone := by decide
  have hfirst' : (payloads .tcp (send (before ++ alone ++ [0]))).head? =
      some (before ++ alone ++ [0]) := by decide
  have hdetects : jabber.detects (send alone) = true := by decide
  exact ⟨hfirst, hfirst', hdetects,
    (prologs_are_detected (send alone)).2 _ alone before [0] hfirst hfirst' hdetects⟩

end FlowScope.Signature
