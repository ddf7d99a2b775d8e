import FlowScope.Proofs.Net.Decoding
import FlowScope.Proofs.Signature.Scan

/-!
# Where ICMP is looked for

The signature of ICMP asks what the IP header itself announces. A message of ICMP need not be right behind
that header: an authentication header may come before it, and in IPv6 a chain of any length.

* `HoldsIp` — where the IP packet in a frame begins;
* `Contains` — what an IP packet that is no fragment carries, and the headers before it. Decoding follows
  the same headers (`chain?_eq_some_iff`), and looks for a segment behind them (`Contains.decoded`).

The main statement is `icmp_is_detected_behind_the_header`: a message is detected if no header comes before
it, and makes no difference otherwise. `icmp_behind_options_is_missed` is a case of the latter.
-/

namespace FlowScope

/-- The version of an IP header. -/
def IpHeader.version : IpHeader → Nat
  | ipv4 .. => 4
  | ipv6 .. => 6

namespace Frame

/-! ## IP packets in frames -/

/-- Behind an Ethernet type, there is an IP packet, perhaps behind VLAN tags, `tags` of them at most. -/
inductive LeadsToIp : (tags etherType : Nat) → Bytes → Bytes → Prop
  | ipv4 {tags : Nat} {packet : Bytes} : LeadsToIp tags 0x0800 packet packet
  | ipv6 {tags : Nat} {packet : Bytes} : LeadsToIp tags 0x86dd packet packet
  | tag {tags etherType next : Nat} {data packet : Bytes} (htag : isVlanTag etherType = true)
      (hnext : data.number? 2 2 = some next) (hpacket : LeadsToIp tags next (data.drop 4) packet) :
      LeadsToIp (tags + 1) etherType data packet

/-- The octets of the IP packet in a frame, up to the end of the frame. -/
inductive HoldsIp : Link → Bytes → Bytes → Prop
  | ip {packet : Bytes} : HoldsIp .ip packet packet
  | ethernet {frame packet : Bytes} {etherType : Nat} (htype : frame.number? 12 2 = some etherType)
      (hpacket : LeadsToIp 2 etherType (frame.drop 14) packet) : HoldsIp .ethernet frame packet

theorem require_eq_some_iff {condition : Prop} [Decidable condition] {u : Unit} :
    require condition = some u ↔ condition := by
  unfold require
  split <;> simp [*]

theorem ip?_of_leadsToIp {tags etherType : Nat} {data packet : Bytes} {layers : Layers}
    (h : LeadsToIp tags etherType data packet) (hlayers : etherPayload? tags etherType data = some layers) :
    ip? packet = some layers := by
  induction h with
  | ipv4 =>
      rw [etherPayload?.eq_def, if_pos rfl, Option.bind_eq_some_iff] at hlayers
      obtain ⟨_, hversion, hipv4⟩ := hlayers
      rw [ip?, require_eq_some_iff.mp hversion]
      exact hipv4
  | ipv6 =>
      rw [etherPayload?.eq_def, if_neg (by decide), if_pos rfl, Option.bind_eq_some_iff] at hlayers
      obtain ⟨_, hversion, hipv6⟩ := hlayers
      rw [ip?, require_eq_some_iff.mp hversion]
      exact hipv6
  | @tag tags etherType next data packet htag hnext hpacket ih =>
      -- a tag is told by its type, which is that of neither version
      have hv4 : etherType ≠ 0x0800 := by
        rintro rfl
        exact absurd htag (by decide)
      have hv6 : etherType ≠ 0x86dd := by
        rintro rfl
        exact absurd htag (by decide)
      rw [etherPayload?.eq_def, if_neg hv4, if_neg hv6, if_pos htag] at hlayers
      simp only [hnext, Option.bind_eq_bind, Option.bind_some] at hlayers
      exact ih hlayers

theorem ip?_of_holdsIp {link : Link} {frame packet : Bytes} {layers : Layers}
    (h : HoldsIp link frame packet) (hlayers : layers? link frame = some layers) :
    ip? packet = some layers := by
  cases h with
  | ip => exact hlayers
  | ethernet htype hpacket =>
      rw [layers?, ethernet?, htype] at hlayers
      exact ip?_of_leadsToIp hpacket hlayers

/-! ## Headers in between -/

/-- What an IPv4 header announces, and the octets behind the header up to the length that it states; none
of a fragment. -/
def ipv4Content? (packet : Bytes) : Option (UInt8 × Bytes) := do
  let first ← octet? packet 0
  let total ← packet.number? 2 2
  let fragmentField ← packet.number? 6 2
  let number ← packet[9]?
  require (fragmentField % 0x4000 = 0)
  pure (number, (packet.take total).drop (first % 16 * 4))

/-- What an IPv6 header announces, and as many octets behind it as it states; all of them if it states
none. -/
def ipv6Content? (packet : Bytes) : Option (UInt8 × Bytes) := do
  let stated ← packet.number? 4 2
  let number ← packet[6]?
  pure (number, (packet.drop 40).take (if stated = 0 then packet.length - 40 else stated))

/-- The headers `between` of an IPv6 chain lead from a number, and the octets that it announces, to another
number. None of them makes the packet a fragment. -/
inductive Behind : UInt8 → Bytes → List UInt8 → UInt8 → Bytes → Prop
  | last {number : UInt8} {message : Bytes} (hlast : extension? number message = some none) :
      Behind number message [] number message
  | header {number upper : UInt8} {data message : Bytes} {between : List UInt8} {skip : Skip data}
      (hskip : extension? number data = some (some (skip, false)))
      (hlater : Behind skip.next skip.rest between upper message) :
      Behind number data (number :: between) upper message

/-- An IP packet of a version, which is no fragment, contains a message of the protocol `upper` behind the
headers `between`. In IPv4 this may be one authentication header; in IPv6 the first header may also be one
of hop-by-hop options. -/
inductive Contains : Nat → Bytes → List UInt8 → UInt8 → Bytes → Prop
  | ipv4 {packet message : Bytes} {upper : UInt8} (hversion : version? packet = some 4)
      (hcontent : ipv4Content? packet = some (upper, message)) (hupper : upper ≠ authenticationHeader) :
      Contains 4 packet [] upper message
  | authenticated {packet data : Bytes} {skip : Skip data} (hversion : version? packet = some 4)
      (hcontent : ipv4Content? packet = some (authenticationHeader, data))
      (hskip : authentication? data = some skip) :
      Contains 4 packet [authenticationHeader] skip.next skip.rest
  | ipv6 {packet data message : Bytes} {number upper : UInt8} {between : List UInt8}
      (hversion : version? packet = some 6) (hcontent : ipv6Content? packet = some (number, data))
      (hbehind : Behind number data between upper message) : Contains 6 packet between upper message
  | hopByHop {packet data message : Bytes} {skip : Skip data} {upper : UInt8} {between : List UInt8}
      (hversion : version? packet = some 6)
      (hcontent : ipv6Content? packet = some (hopByHopHeader, data)) (hskip : options? data = some skip)
      (hbehind : Behind skip.next skip.rest between upper message) :
      Contains 6 packet (hopByHopHeader :: between) upper message

/-! ### What decoding makes of them -/

theorem chain?_of_behind {number upper : UInt8} {data message : Bytes} {between : List UInt8}
    (h : Behind number data between upper message) :
    chain? number data false = some ⟨upper, message, false⟩ := by
  induction h with
  | last hlast => rw [chain?, hlast]
  | header hskip hlater ih =>
      rw [chain?, hskip]
      exact ih

theorem behind_of_chain? {number upper : UInt8} {data message : Bytes} {fragmented : Bool}
    (h : chain? number data fragmented = some ⟨upper, message, false⟩) :
    fragmented = false ∧ ∃ between, Behind number data between upper message := by
  -- a header that makes the packet a fragment would show at the end, since the mark is only ever set
  fun_induction chain? number data fragmented with
  | case1 => cases h
  | case2 number data fragmented hlast =>
      cases h
      exact ⟨rfl, [], .last hlast⟩
  | case3 number data fragmented skip piece hskip ih =>
      obtain ⟨hwhole, between, hbehind⟩ := ih h
      obtain ⟨rfl, rfl⟩ := Bool.or_eq_false_iff.mp hwhole
      exact ⟨rfl, number :: between, .header hskip hbehind⟩

/-- Decoding follows exactly these chains, unless one of the headers makes the packet a fragment. -/
theorem chain?_eq_some_iff {number upper : UInt8} {data message : Bytes} :
    chain? number data false = some ⟨upper, message, false⟩ ↔
      ∃ between, Behind number data between upper message :=
  ⟨fun h => (behind_of_chain? h).2, fun ⟨_, h⟩ => chain?_of_behind h⟩

theorem ipv4?_of_content {packet content : Bytes} {number : UInt8} {layers : Layers}
    (h : ipv4? packet = some layers) (hcontent : ipv4Content? packet = some (number, content)) :
    ∃ src dst inner, layers.ip = some (.ipv4 src dst number) ∧
      (if number = authenticationHeader
        then (authentication? content).map fun skip => (skip.next, skip.rest)
        else some (number, content)) = some inner ∧
      segment? inner.1 inner.2 = some layers.segment := by
  simp only [ipv4Content?, Option.bind_eq_bind, Option.bind_eq_some_iff, require_eq_some_iff] at hcontent
  obtain ⟨first, hfirst, total, htotal, field, hfield, number', hnumber, -, hwhole, hcontent⟩ := hcontent
  cases hcontent
  simp only [ipv4?, Option.bind_eq_bind, Option.bind_eq_some_iff, hfirst, htotal, hfield, hnumber,
    Option.some.injEq, exists_eq_left'] at h
  obtain ⟨_, -, _, -, src, -, dst, -, h⟩ := h
  -- the packet is no fragment, so what it contains is read on
  have hfragment : ¬ (field / 0x2000 % 2 = 1 ∨ field % 0x2000 ≠ 0) := by omega
  simp only [if_neg hfragment] at h
  split at h
  next hauthenticated =>
      obtain ⟨inner, hinner, hlater⟩ := Option.bind_eq_some_iff.mp h
      obtain ⟨segment, hsegment, hlayers⟩ := Option.bind_eq_some_iff.mp hlater
      cases hlayers
      exact ⟨_, _, inner, rfl, (if_pos hauthenticated).trans hinner, hsegment⟩
  next hplain =>
      obtain ⟨inner, hinner, hlater⟩ := Option.bind_eq_some_iff.mp h
      obtain ⟨segment, hsegment, hlayers⟩ := Option.bind_eq_some_iff.mp hlater
      cases hlayers
      exact ⟨_, _, inner, rfl, (if_neg hplain).trans hinner, hsegment⟩

theorem ipv6?_of_content {packet content : Bytes} {number : UInt8} {layers : Layers}
    (h : ipv6? packet = some layers) (hcontent : ipv6Content? packet = some (number, content)) :
    ∃ src dst chained, layers.ip = some (.ipv6 src dst number) ∧
      extensions? number content = some chained ∧
      (chained.fragmented = false → segment? chained.protocol chained.data = some layers.segment) := by
  simp only [ipv6Content?, Option.bind_eq_bind, Option.bind_eq_some_iff] at hcontent
  obtain ⟨stated, hstated, number', hnumber, hcontent⟩ := hcontent
  cases hcontent
  simp only [ipv6?, Option.bind_eq_bind, Option.bind_eq_some_iff, hstated, hnumber,
    Option.some.injEq, exists_eq_left'] at h
  obtain ⟨_, -, _, -, src, -, dst, -, chained, hchained, h⟩ := h
  split at h
  next hfragmented =>
      -- a fragment keeps its header only
      cases h
      refine ⟨_, _, chained, rfl, hchained, fun hwhole => ?_⟩
      rw [hwhole] at hfragmented
      cases hfragmented
  next =>
      obtain ⟨segment, hsegment, hlayers⟩ := Option.bind_eq_some_iff.mp h
      cases hlayers
      exact ⟨_, _, chained, rfl, hchained, fun _ => hsegment⟩

/-! ### The first number -/

theorem Behind.number_eq {number upper : UInt8} {data message : Bytes} {between : List UInt8}
    (h : Behind number data between upper message) : number = between.headD upper := by
  cases h <;> rfl

theorem Behind.ne_hopByHop {number upper : UInt8} {data message : Bytes} {between : List UInt8}
    (h : Behind number data between upper message) : number ≠ hopByHopHeader := by
  rintro rfl
  cases h with
  | last hlast => cases hlast
  | header hskip hlater => cases hskip

/-- Only the numbers of headers stand before the message. -/
theorem Behind.not_endsHeaders {number upper : UInt8} {data message : Bytes} {between : List UInt8}
    (h : Behind number data between upper message) (hbetween : between ≠ []) :
    ¬ EndsHeaders number := by
  intro hends
  cases h with
  | last => exact hbetween rfl
  | header hskip hlater =>
      rw [extension?_of_endsHeaders hends] at hskip
      cases hskip

theorem Contains.not_endsHeaders {version : Nat} {packet message : Bytes} {between : List UInt8}
    {upper : UInt8} (h : Contains version packet between upper message) (hbetween : between ≠ []) :
    ¬ EndsHeaders (between.headD upper) := by
  cases h with
  | ipv4 => exact absurd rfl hbetween
  | authenticated => exact not_not_intro (by simp)
  | ipv6 hversion hcontent hbehind =>
      rw [← hbehind.number_eq]
      exact hbehind.not_endsHeaders hbetween
  | hopByHop => exact not_not_intro (by simp)

/-- What is known of a decoded packet that contains a message: its header announces the first of the
headers in between, or the message, and the message is where a segment is looked for. -/
theorem Contains.decoded {version : Nat} {packet message : Bytes} {between : List UInt8} {upper : UInt8}
    {layers : Layers} (h : Contains version packet between upper message)
    (hlayers : ip? packet = some layers) :
    ∃ ip, layers.ip = some ip ∧ ip.version = version ∧ ip.announced = between.headD upper ∧
      segment? upper message = some layers.segment := by
  -- one case for each way in which a packet contains a message, all read by the same two decoders
  cases h with
  | ipv4 hversion hcontent hupper =>
      rw [ip?, hversion] at hlayers
      obtain ⟨src, dst, inner, hip, hinner, hsegment⟩ := ipv4?_of_content hlayers hcontent
      rw [if_neg hupper] at hinner
      cases hinner
      exact ⟨_, hip, rfl, rfl, hsegment⟩
  | authenticated hversion hcontent hskip =>
      rw [ip?, hversion] at hlayers
      obtain ⟨src, dst, inner, hip, hinner, hsegment⟩ := ipv4?_of_content hlayers hcontent
      rw [if_pos rfl, hskip] at hinner
      cases hinner
      exact ⟨_, hip, rfl, rfl, hsegment⟩
  | ipv6 hversion hcontent hbehind =>
      rw [ip?, hversion] at hlayers
      obtain ⟨src, dst, chained, hip, hchained, hsegment⟩ := ipv6?_of_content hlayers hcontent
      rw [extensions?, if_neg hbehind.ne_hopByHop, chain?_of_behind hbehind] at hchained
      cases hchained
      exact ⟨_, hip, rfl, hbehind.number_eq, hsegment rfl⟩
  | hopByHop hversion hcontent hskip hbehind =>
      rw [ip?, hversion] at hlayers
      obtain ⟨src, dst, chained, hip, hchained, hsegment⟩ := ipv6?_of_content hlayers hcontent
      rw [extensions?, if_pos rfl, hskip, Option.bind_some, chain?_of_behind hbehind] at hchained
      cases hchained
      exact ⟨_, hip, rfl, rfl, hsegment rfl⟩

end Frame

namespace Signature

/-- The number of the ICMP that belongs to a version of IP. -/
def icmpOf (version : Nat) : UInt8 := if version = 4 then IpNumber.icmpV4 else IpNumber.icmpV6

theorem announcesIcmp_iff {p : Packet} {ip : IpHeader} (hip : p.ip = some ip) :
    announcesIcmp p = true ↔ ip.announced = icmpOf ip.version := by
  rw [announcesIcmp, hip]
  cases ip <;> exact decide_eq_true_iff

theorem icmp_detects (packets : List Packet) : icmp.detects packets = packets.any announcesIcmp := by
  rw [Bool.eq_iff_iff, detects_iff]
  exact Probe.demand_eq_ok_iff

theorem endsHeaders_icmpOf (version : Nat) : Frame.EndsHeaders (icmpOf version) := by
  unfold icmpOf Frame.EndsHeaders
  split <;> decide

theorem segment_eq_none_of_icmpOf {version : Nat} {message : Bytes} {segment : Option Segment}
    (h : Frame.segment? (icmpOf version) message = some segment) : segment = none := by
  unfold icmpOf at h
  split at h <;> exact (Option.map_eq_some_iff.mp h).elim fun _ hsegment => hsegment.2.symm

open FlowScope.Frame in
/-- **ICMP is looked for behind the IP header.** Let a frame hold an IP packet that is no fragment and
contains ICMP of its own version, and be decoded. If the ICMP message is right behind the IP header, then
every flow that holds the packet is detected; if there are other headers in between, then the packet makes
no difference to any flow. It has no ports in either case. -/
theorem icmp_is_detected_behind_the_header {link : Link} {frame : Bytes} {capture : Capture} {p : Packet}
    (hp : Packet.ofFrame? link frame capture = some p) {packet : Bytes} (hpacket : HoldsIp link frame packet)
    {version : Nat} {between : List UInt8} {message : Bytes}
    (hcontains : Contains version packet between (icmpOf version) message) :
    p.segment = none ∧
    (between = [] → ∀ packets, p ∈ packets → icmp.detects packets = true) ∧
    (between ≠ [] → ∀ earlier later,
      icmp.detects (earlier ++ p :: later) = icmp.detects (earlier ++ later)) := by
  obtain ⟨layers, hlayers, rfl⟩ := Option.map_eq_some_iff.mp hp
  obtain ⟨ip, hip, hversion, hannounced, hsegment⟩ :=
    hcontains.decoded (ip?_of_holdsIp hpacket hlayers)
  have hannounces := announcesIcmp_iff (p := ⟨capture, frame, layers.ip, layers.segment⟩) hip
  rw [hannounced, hversion] at hannounces
  refine ⟨segment_eq_none_of_icmpOf hsegment, ?_, ?_⟩
  · rintro rfl packets hmem
    rw [icmp_detects, List.any_eq_true]
    exact ⟨_, hmem, hannounces.mpr rfl⟩
  · intro hbetween earlier later
    -- what the header announces is a header, and so not ICMP
    have hmissed : announcesIcmp ⟨capture, frame, layers.ip, layers.segment⟩ = false := by
      rw [Bool.eq_false_iff]
      intro h
      apply hcontains.not_endsHeaders hbetween
      rw [hannounces.mp h]
      exact endsHeaders_icmpOf version
    simp only [icmp_detects, List.any_append, List.any_cons, hmissed, Bool.false_or]

/-- An echo request over IPv4, behind an Ethernet header with a tag. -/
def taggedEcho : Bytes :=
  [0x00, 0x11, 0x22, 0x33, 0x44, 0x55, 0x66, 0x77, 0x88, 0x99, 0xaa, 0xbb, 0x81, 0x00, 0x00, 0x01, 0x08, 0x00,
    0x45, 0x00, 0x00, 0x1c, 0x00, 0x01, 0x40, 0x00, 0x40, 0x01, 0, 0, 10, 0, 0, 1, 10, 0, 0, 2,
    0x08, 0x00, 0xf7, 0xff, 0, 0, 0, 0]

/-- A flow of a segment and the echo request. -/
theorem icmp_is_detected_behind_the_header_of_taggedEcho :
    ∃ p, Packet.ofFrame? .ethernet taggedEcho {} = some p ∧
      Frame.HoldsIp .ethernet taggedEcho (taggedEcho.drop 18) ∧
      Frame.Contains 4 (taggedEcho.drop 18) [] (icmpOf 4) [0x08, 0x00, 0xf7, 0xff, 0, 0, 0, 0] ∧
      icmp.detects [.tcp ⟨.v4 1#32, 1⟩ ⟨.v4 2#32, 2⟩ .data [], p] = true := by
  have hdecoded : Packet.ofFrame? .ethernet taggedEcho {} =
      some ⟨{}, taggedEcho, some (.ipv4 0x0a000001#32 0x0a000002#32 1), none⟩ := by decide
  have htag : Frame.LeadsToIp 2 0x8100 (taggedEcho.drop 14) (taggedEcho.drop 18) := .tag rfl rfl .ipv4
  have hpacket : Frame.HoldsIp .ethernet taggedEcho (taggedEcho.drop 18) := .ethernet rfl htag
  have hcontains : Frame.Contains 4 (taggedEcho.drop 18) [] (icmpOf 4)
      [0x08, 0x00, 0xf7, 0xff, 0, 0, 0, 0] := .ipv4 rfl rfl (by decide)
  obtain ⟨-, hdetects, -⟩ := icmp_is_detected_behind_the_header hdecoded hpacket hcontains
  exact ⟨_, hdecoded, hpacket, hcontains, hdetects rfl _ (by simp)⟩

/-- A listener report over IPv6, whose options ask routers to look at it. -/
def listenerReport : Bytes :=
  [0x60, 0, 0, 0, 0, 16, 0, 1, 0xfe, 0x80, 0, 0, 0, 0, 0, 0, 0, 0, 0, 0, 0, 0, 0, 1,
    0xff, 2, 0, 0, 0, 0, 0, 0, 0, 0, 0, 0, 0, 0, 0, 0x16,
    58, 0, 5, 2, 0, 0, 1, 0, 0x8f, 0, 0, 0, 0, 0, 0, 0]

/-- It is an ICMP message in a packet that is no fragment, and is not detected. -/
theorem icmp_behind_options_is_missed :
    ∃ p, Packet.ofFrame? .ip listenerReport {} = some p ∧
      Frame.HoldsIp .ip listenerReport listenerReport ∧
      Frame.Contains 6 listenerReport [Frame.hopByHopHeader] (icmpOf 6) [0x8f, 0, 0, 0, 0, 0, 0, 0] ∧
      icmp.detects [p] = false := by
  have hdecoded : Packet.ofFrame? .ip listenerReport {} =
      some ⟨{}, listenerReport, some (.ipv6 0xfe800000000000000000000000000001#128
        0xff020000000000000000000000000016#128 Frame.hopByHopHeader), none⟩ := by cbv
  have hcontent : Frame.ipv6Content? listenerReport =
      some (Frame.hopByHopHeader, listenerReport.drop 40) := rfl
  exact ⟨_, hdecoded, .ip, .hopByHop rfl hcontent rfl (.last rfl), rfl⟩

end Signature
end FlowScope
