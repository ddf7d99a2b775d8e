import FlowScope.Proofs.Signature.Faults

/-!
# Flows that grow

Nearly every signature sees a flow through its first payload, and through the packets after that. What
the first payload of a flow is does not change when packets are appended. So

* a signature that matches goes on to match as the flow grows: `detects_append`;
* once a flow of one transport has a first payload, the outcome of every signature that looks at no more
  than that is final (`detects_append_of_firstPayload`), and with a second payload also that of the
  signatures that wait for an answer (`answeredGreeting_append`).

`payloads` are all the payloads of a transport in order; which of them comes first, and what follows it, is
what the signatures go by: `payloads_eq_cons_iff`.
-/

namespace FlowScope.Signature

open Guarded Probe

variable {kind : Transport} {packets later : List Packet} {payload : Bytes} {position : Nat}
  {s : Signature}

/-! ## First payloads -/

/-- The first payload is in the first packet that has one. -/
theorem firstPayload_eq_some_iff :
    firstPayload kind packets = some (position, payload) ↔
      ∃ before p after, packets = before ++ p :: after ∧ before.length = position ∧
        (∀ q ∈ before, payloadOf kind q = none) ∧ payloadOf kind p = some payload := by
  constructor
  · intro h
    induction packets generalizing position with
    | nil => cases h
    | cons p rest ih =>
        rw [firstPayload] at h
        split at h
        next found hfound =>
            cases h
            exact ⟨[], p, rest, rfl, rfl, by simp, hfound⟩
        next hnone =>
            -- the first packet carries nothing, so the rest is searched, one position further on
            obtain ⟨⟨position', _⟩, hrest, heq⟩ := Option.map_eq_some_iff.mp h
            cases heq
            obtain ⟨before, q, after, rfl, rfl, hbefore, hq⟩ := ih hrest
            exact ⟨p :: before, q, after, rfl, rfl, List.forall_mem_cons.mpr ⟨hnone, hbefore⟩, hq⟩
  · rintro ⟨before, p, after, rfl, rfl, hbefore, hp⟩
    induction before with
    | nil => simp [firstPayload, hp]
    | cons q before ih =>
        obtain ⟨hq, hbefore⟩ := List.forall_mem_cons.mp hbefore
        simp [firstPayload, hq, ih hbefore]

theorem firstPayload_eq_none_iff :
    firstPayload kind packets = none ↔ ∀ p ∈ packets, payloadOf kind p = none := by
  induction packets with
  | nil => simp [firstPayload]
  | cons p rest ih =>
      rw [firstPayload, List.forall_mem_cons]
      cases payloadOf kind p with
      | some payload => simp
      | none => simp [ih]

theorem ne_nil_of_firstPayload (h : firstPayload kind packets = some (position, payload)) :
    payload ≠ [] := by
  obtain ⟨before, p, after, -, -, -, hp⟩ := firstPayload_eq_some_iff.mp h
  obtain ⟨segment, hsegment, rfl⟩ := Option.map_eq_some_iff.mp hp
  simpa using (Option.filter_eq_some_iff.mp hsegment).2

theorem firstPayload_append (h : firstPayload kind packets = some (position, payload))
    (later : List Packet) : firstPayload kind (packets ++ later) = some (position, payload) := by
  obtain ⟨before, p, after, rfl, hlength, hbefore, hp⟩ := firstPayload_eq_some_iff.mp h
  exact firstPayload_eq_some_iff.mpr ⟨before, p, after ++ later, by simp, hlength, hbefore, hp⟩

/-- The packets up to the one with the first payload suffice to find it, and fewer do not. -/
theorem firstPayload_take (h : firstPayload kind packets = some (position, payload)) (n : Nat) :
    firstPayload kind (packets.take n) = if position < n then some (position, payload) else none := by
  obtain ⟨before, p, after, rfl, rfl, hbefore, hp⟩ := firstPayload_eq_some_iff.mp h
  split
  next hlt =>
      obtain ⟨m, rfl⟩ := Nat.exists_eq_add_of_lt hlt
      refine firstPayload_eq_some_iff.mpr ⟨before, p, after.take m, ?_, rfl, hbefore, hp⟩
      rw [Nat.add_assoc, List.take_length_add_append, List.take_succ_cons]
  next hle =>
      apply firstPayload_eq_none_iff.mpr
      intro q hq
      rw [List.take_append_of_le_length (by omega)] at hq
      exact hbefore q (List.mem_of_mem_take hq)

/-! ## All payloads -/

/-- The payloads of a transport that are not empty. -/
def payloads (kind : Transport) (packets : List Packet) : List Bytes :=
  packets.filterMap (payloadOf kind)

theorem payloads_of_none (h : firstPayload kind packets = none) : payloads kind packets = [] := by
  apply List.filterMap_eq_nil_iff.mpr
  exact firstPayload_eq_none_iff.mp h

theorem payloads_of_some (h : firstPayload kind packets = some (position, payload)) :
    payloads kind packets = payload :: payloads kind (packets.drop (position + 1)) := by
  obtain ⟨before, p, after, rfl, rfl, hbefore, hp⟩ := firstPayload_eq_some_iff.mp h
  have hnone : before.filterMap (payloadOf kind) = [] := List.filterMap_eq_nil_iff.mpr hbefore
  have hdrop : before.drop (before.length + 1) = [] := List.drop_eq_nil_of_le (by omega)
  simp [payloads, hnone, hp, hdrop, List.drop_append]

theorem exists_firstPayload (h : 0 < (payloads kind packets).length) :
    ∃ position payload, firstPayload kind packets = some (position, payload) := by
  cases hfirst : firstPayload kind packets with
  | none =>
      rw [payloads_of_none hfirst] at h
      cases h
  | some found => exact ⟨found.1, found.2, rfl⟩

theorem payloads_eq_cons_iff {others : List Bytes} :
    payloads kind packets = payload :: others ↔
      ∃ position, firstPayload kind packets = some (position, payload) ∧
        payloads kind (packets.drop (position + 1)) = others := by
  constructor
  · intro h
    obtain ⟨position, first, hfirst⟩ : ∃ position first,
        firstPayload kind packets = some (position, first) := exists_firstPayload (by simp [h])
    rw [payloads_of_some hfirst] at h
    cases h
    exact ⟨position, hfirst, rfl⟩
  · intro h
    obtain ⟨position, hfirst, hothers⟩ := h
    rw [payloads_of_some hfirst, hothers]

/-! ## What it takes to match -/

theorem detects_iff : s.detects packets = true ↔ s.probe packets = .ok () := by
  unfold detects
  cases s.probe packets <;> simp [accepts]

theorem onFirstPayload_of_some {test : Bytes → List Packet → Probe Unit}
    (h : firstPayload kind packets = some (position, payload)) :
    onFirstPayload kind packets test = test payload (packets.drop (position + 1)) := by
  have hle : position + 1 ≤ packets.length := lt_of_firstPayload h
  rw [onFirstPayload, h]
  show (tail packets (position + 1) >>= fun rest => test payload rest) = _
  rw [tail, if_pos hle]
  rfl

theorem onFirstPayload_of_none {test : Bytes → List Packet → Probe Unit}
    (h : firstPayload kind packets = none) : onFirstPayload kind packets test = mismatch := by
  rw [onFirstPayload, h]

theorem onFirstPayload_eq_ok_iff {test : Bytes → List Packet → Probe Unit} :
    onFirstPayload kind packets test = .ok () ↔
      ∃ position payload, firstPayload kind packets = some (position, payload) ∧
        test payload (packets.drop (position + 1)) = .ok () := by
  cases hfirst : firstPayload kind packets with
  | none =>
      rw [onFirstPayload_of_none hfirst]
      simp [mismatch, refuse]
  | some found =>
      obtain ⟨position, payload⟩ := found
      rw [onFirstPayload_of_some hfirst]
      simp

/-- A test that looks at no more than the first payload. -/
theorem onFirstPayload_demand_eq_ok_iff {test : Bytes → Bool} :
    onFirstPayload kind packets (fun payload _ => demand (test payload)) = .ok () ↔
      ∃ payload, (payloads kind packets).head? = some payload ∧ test payload = true := by
  simp only [onFirstPayload_eq_ok_iff, demand_eq_ok_iff]
  constructor
  · intro h
    obtain ⟨position, payload, hfirst, htest⟩ := h
    rw [payloads_of_some hfirst]
    exact ⟨payload, rfl, htest⟩
  · intro h
    obtain ⟨payload, hfirst, htest⟩ := h
    obtain ⟨others, hothers⟩ := List.head?_eq_some_iff.mp hfirst
    obtain ⟨position, hposition, -⟩ := payloads_eq_cons_iff.mp hothers
    exact ⟨position, payload, hposition, htest⟩

/-- A greeting is accepted together with the next payload. -/
theorem answeredGreeting_eq_ok_iff {commands : List String} :
    answeredGreeting commands packets = .ok () ↔
      ∃ position greeting, firstPayload .tcp packets = some (position, greeting) ∧
        isGreeting greeting = true ∧
        ∃ position' command,
          firstPayload .tcp (packets.drop (position + 1)) = some (position', command) ∧
            isCommand commands command = true := by
  simp only [answeredGreeting, onFirstPayload_eq_ok_iff, demand_bind_eq_ok_iff, demand_eq_ok_iff]

/-- The signatures that wait for the answer to a greeting. -/
def waiting : List Signature := [ftp, smtp]

theorem answeredGreeting_of_waiting (hs : s ∈ waiting) (hdetects : s.detects packets = true) :
    ∃ commands, answeredGreeting commands packets = .ok () := by
  have hprobe := detects_iff.mp hdetects
  obtain rfl | rfl : s = ftp ∨ s = smtp := by simpa [waiting] using hs
  · exact ⟨_, hprobe⟩
  · exact ⟨_, hprobe⟩

/-- Whether the first packet goes to a broadcast address. -/
def broadcasts (packets : List Packet) : Bool :=
  match packets with
  | p :: _ => isBroadcast p
  | [] => false

theorem netBiosTest_eq_ok_iff :
    netBiosTest packets = .ok () ↔
      onFirstPayload .tcp packets (fun payload _ => sessionRequest payload) = .ok () ∨
        onFirstPayload .udp packets (fun payload _ => nameQuery (broadcasts packets) payload) =
          .ok () :=
  orElse_eq_ok_iff (onFirstPayload_safe fun _ _ => sessionRequest_safe)

/-- Without a payload none of the default signatures matches, but for that of ICMP. -/
theorem exists_firstPayload_of_detects (hs : s ∈ defaults) (hicmp : s ≠ icmp)
    (hdetects : s.detects packets = true) :
    ∃ kind position payload, firstPayload kind packets = some (position, payload) := by
  have hprobe := detects_iff.mp hdetects
  -- all signatures but that of ICMP, and those of ports, read a first payload
  have hfirst : ∀ {kind : Transport} {test : Bytes → List Packet → Probe Unit},
      onFirstPayload kind packets test = .ok () →
        ∃ kind position payload, firstPayload kind packets = some (position, payload) := by
    intro kind test hmatch
    obtain ⟨position, payload, hfirst, -⟩ := onFirstPayload_eq_ok_iff.mp hmatch
    exact ⟨kind, position, payload, hfirst⟩
  cases s with
  | icmp => exact absurd rfl hicmp
  | netBios =>
      rcases netBiosTest_eq_ok_iff.mp hprobe with hsession | hquery
      · exact hfirst hsession
      · exact hfirst hquery
  | ftp => exact hfirst hprobe
  | http => exact hfirst hprobe
  | dns => exact hfirst hprobe
  | rdp => exact hfirst hprobe
  | rpc => exact hfirst hprobe
  | smb => exact hfirst hprobe
  | smtp => exact hfirst hprobe
  | ssh => exact hfirst hprobe
  | ssl => exact hfirst hprobe
  | jabber => exact hfirst hprobe
  | mqtt => exact hfirst hprobe
  | port protocol => simp [defaults] at hs

/-! ## Appending packets -/

theorem broadcasts_append (h : packets ≠ []) (later : List Packet) :
    broadcasts (packets ++ later) = broadcasts packets := by
  cases packets with
  | nil => exact absurd rfl h
  | cons p rest => rfl

theorem drop_append_of_firstPayload (h : firstPayload kind packets = some (position, payload))
    (later : List Packet) :
    (packets ++ later).drop (position + 1) = packets.drop (position + 1) ++ later :=
  List.drop_append_of_le_length (lt_of_firstPayload h)

/-- What matches on a flow still does when the flow has grown. -/
theorem onFirstPayload_append {test : Bytes → List Packet → Probe Unit}
    (htest : ∀ payload rest, test payload rest = .ok () → test payload (rest ++ later) = .ok ())
    (h : onFirstPayload kind packets test = .ok ()) :
    onFirstPayload kind (packets ++ later) test = .ok () := by
  obtain ⟨position, payload, hfirst, hmatch⟩ := onFirstPayload_eq_ok_iff.mp h
  rw [onFirstPayload_of_some (firstPayload_append hfirst later), drop_append_of_firstPayload hfirst]
  exact htest _ _ hmatch

theorem any_append_of_any {p : Packet → Bool} (h : packets.any p = true) :
    (packets ++ later).any p = true := by
  rw [List.any_append, h, Bool.true_or]

theorem detects_append (h : s.detects packets = true) (later : List Packet) :
    s.detects (packets ++ later) = true := by
  rw [detects_iff] at h ⊢
  -- what a first payload passes it goes on to pass, since it stays the first
  have hfirst : ∀ {kind : Transport} {test : Bytes → Probe Unit},
      onFirstPayload kind packets (fun payload _ => test payload) = .ok () →
        onFirstPayload kind (packets ++ later) (fun payload _ => test payload) = .ok () :=
    onFirstPayload_append fun _ _ hmatch => hmatch
  have hanswered : ∀ {commands : List String}, answeredGreeting commands packets = .ok () →
      answeredGreeting commands (packets ++ later) = .ok () := by
    intro commands
    refine onFirstPayload_append fun greeting rest hmatch => ?_
    obtain ⟨hgreeting, hcommand⟩ := demand_bind_eq_ok_iff.mp hmatch
    exact demand_bind_eq_ok_iff.mpr ⟨hgreeting, onFirstPayload_append (fun _ _ h => h) hcommand⟩
  have hany : ∀ {p : Packet → Bool}, demand (packets.any p = true) = .ok () →
      demand ((packets ++ later).any p = true) = .ok () := by
    intro p hp
    exact demand_eq_ok_iff.mpr (any_append_of_any (demand_eq_ok_iff.mp hp))
  cases s with
  | ftp => exact hanswered h
  | http => exact hfirst h
  | icmp => exact hany h
  | netBios =>
      rcases netBiosTest_eq_ok_iff.mp h with hsession | hquery
      · exact netBiosTest_eq_ok_iff.mpr (.inl (hfirst hsession))
      · -- a match has a packet, and so the first packet stays the first
        have hne : packets ≠ [] := by
          rintro rfl
          cases hquery
        rw [← broadcasts_append hne later] at hquery
        exact netBiosTest_eq_ok_iff.mpr (.inr (hfirst hquery))
  | dns => exact hfirst h
  | rdp => exact hfirst h
  | rpc => exact hfirst h
  | smb => exact hfirst h
  | smtp => exact hanswered h
  | ssh => exact hfirst h
  | ssl => exact hfirst h
  | jabber => exact hfirst h
  | mqtt => exact hfirst h
  | port protocol => exact hany h

/-! ## Flows of one transport -/

/-- All segments in the packets are of one transport. -/
def Carries (kind : Transport) (packets : List Packet) : Prop :=
  ∀ p ∈ packets, ∀ segment ∈ p.segment, segment.kind = kind

instance : Decidable (Carries kind packets) :=
  inferInstanceAs (Decidable (∀ p ∈ packets, ∀ segment ∈ p.segment, segment.kind = kind))

theorem Carries.of_append (h : Carries kind (packets ++ later)) : Carries kind packets :=
  fun p hp => h p (List.mem_append_left _ hp)

/-- There are no payloads of another transport. -/
theorem Carries.firstPayload_eq_none {other : Transport} (h : Carries kind packets)
    (hother : other ≠ kind) : firstPayload other packets = none := by
  apply firstPayload_eq_none_iff.mpr
  intro p hp
  have hnone : p.segmentOf other = none := by
    apply Option.filter_eq_none_iff.mpr
    intro segment hsegment
    rw [h p hp segment hsegment]
    simpa using hother.symm
  rw [payloadOf, hnone]
  rfl

theorem Carries.eq_of_firstPayload {other : Transport} (h : Carries kind packets)
    (hfirst : firstPayload other packets = some (position, payload)) : other = kind := by
  by_contra hother
  rw [h.firstPayload_eq_none hother] at hfirst
  cases hfirst

/-- Such a flow is seen by its first payload: what a test says of that is final. -/
theorem Carries.onFirstPayload_append (h : Carries kind (packets ++ later))
    (hfirst : firstPayload kind packets = some (position, payload)) (other : Transport)
    (test : Bytes → Probe Unit) :
    onFirstPayload other (packets ++ later) (fun payload _ => test payload) =
      onFirstPayload other packets fun payload _ => test payload := by
  by_cases hother : other = kind
  · subst hother
    rw [onFirstPayload_of_some hfirst, onFirstPayload_of_some (firstPayload_append hfirst later)]
  · rw [onFirstPayload_of_none (h.firstPayload_eq_none hother),
      onFirstPayload_of_none (h.of_append.firstPayload_eq_none hother)]

/-- The signatures that look at no more than the first payload and where the first packet goes. -/
def isPrompt : Signature → Bool
  | ftp => false
  | icmp => false
  | smtp => false
  | port _ => false
  | _ => true

theorem detects_append_of_firstPayload (hs : s.isPrompt = true) (h : Carries kind (packets ++ later))
    (hfirst : firstPayload kind packets = some (position, payload)) :
    s.detects (packets ++ later) = s.detects packets := by
  have hprobe := fun (other : Transport) (test : Bytes → Probe Unit) =>
    congrArg accepts (h.onFirstPayload_append hfirst other test)
  cases s with
  | ftp => cases hs
  | icmp => cases hs
  | smtp => cases hs
  | port protocol => cases hs
  | netBios =>
      -- one test for each transport; the second one also asks where the first packet was sent to
      have hne : packets ≠ [] := by
        rintro rfl
        cases hfirst
      rw [Bool.eq_iff_iff, detects_iff, detects_iff]
      refine netBiosTest_eq_ok_iff.trans (Iff.trans ?_ netBiosTest_eq_ok_iff.symm)
      rw [broadcasts_append hne, h.onFirstPayload_append hfirst, h.onFirstPayload_append hfirst]
  | http => exact hprobe _ _
  | dns => exact hprobe _ _
  | rdp => exact hprobe _ _
  | rpc => exact hprobe _ _
  | smb => exact hprobe _ _
  | ssh => exact hprobe _ _
  | ssl => exact hprobe _ _
  | jabber => exact hprobe _ _
  | mqtt => exact hprobe _ _

/-- The verdict on a greeting and the answer to it is final. -/
theorem answeredGreeting_append {commands : List String} {position' : Nat} {command : Bytes}
    (hfirst : firstPayload .tcp packets = some (position, payload))
    (hnext : firstPayload .tcp (packets.drop (position + 1)) = some (position', command))
    (later : List Packet) :
    answeredGreeting commands (packets ++ later) = answeredGreeting commands packets := by
  unfold answeredGreeting
  rw [onFirstPayload_of_some hfirst, onFirstPayload_of_some (firstPayload_append hfirst later),
    drop_append_of_firstPayload hfirst, onFirstPayload_of_some hnext,
    onFirstPayload_of_some (firstPayload_append hnext later)]

end FlowScope.Signature
