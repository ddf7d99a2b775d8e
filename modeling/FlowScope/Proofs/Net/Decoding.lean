import FlowScope.Flow.Conversation
import FlowScope.Net.Frame
import FlowScope.Proofs.Net.Layout

/-!
# Decoding what was laid out

Decoding a packet that is laid out as `FlowScope.Proofs.Net.Layout` says finds what was laid out, layer
by layer: each lemma below is about one header, whatever comes behind it. What follows the length that
an IP header states is padding, and does not count.

The main statement is `layouts_are_decoded`: the frame of a segment between two endpoints is decoded to
the packet that is made of the endpoints and the payload without any frame.
-/

namespace FlowScope

namespace Frame

open Bytes

theorem require_of {condition : Prop} [Decidable condition] (h : condition) :
    require condition = some () := if_pos h

/-! ## Numbers that fit their fields -/

theorem mod_of_lt {n : Nat} (h : n < 0x10000) : n % 256 ^ 2 = n :=
  Nat.mod_eq_of_lt (show n < 256 ^ 2 from h)

theorem uInt16_ofNat_mod (n : UInt16) : UInt16.ofNat (n.toNat % 256 ^ 2) = n := by simp

theorem bitVec_ofNat_mod {width count : Nat} (n : BitVec width) (h : 2 ^ width = 256 ^ count) :
    BitVec.ofNat width (n.toNat % 256 ^ count) = n := by
  rw [← h, Nat.mod_eq_of_lt n.isLt, BitVec.ofNat_toNat, BitVec.setWidth_eq]

/-! ## Segments -/

/-- Looking at the bits one by one finds them all. -/
theorem ofOctet_bits (flags : ControlBits) : ControlBits.ofOctet flags.bits = flags := by
  obtain ⟨⟨bits⟩⟩ := flags
  revert bits
  decide

theorem tcp?_header (form : TcpForm) (src dst : UInt16) (flags : ControlBits) (payload : Bytes) :
    tcp? (form.header src dst flags ++ payload) = some ⟨.tcp, src, dst, flags, payload⟩ := by
  have hwords := form.options.words_le
  have hreserved : form.reserved.toNat < 16 := form.reserved.isLt
  have hlength : (form.header src dst flags ++ payload).length =
      20 + 4 * form.options.words + payload.length := by
    rw [List.length_append, TcpForm.length_header]
  obtain ⟨hsrc, hdst, hoffset, hflags⟩ := form.fields src dst flags payload
  -- the offset and the reserved bits fit the octet they share
  have hoctet : (UInt8.ofNat (16 * (5 + form.options.words) + form.reserved.toNat)).toNat =
      16 * (5 + form.options.words) + form.reserved.toNat :=
    UInt8.toNat_ofNat_of_lt' (show _ < 256 by omega)
  have hsize : (16 * (5 + form.options.words) + form.reserved.toNat) / 16 * 4 =
      20 + 4 * form.options.words := by omega
  have hrest : (form.header src dst flags ++ payload).drop (20 + 4 * form.options.words) = payload :=
    List.drop_left' (TcpForm.length_header ..)
  rw [tcp?, require_of (by omega), hsrc, hdst, octet?, hoffset, hflags]
  simp only [Option.bind_eq_bind, Option.bind_some, Option.map_some]
  rw [hoctet, hsize, require_of (by omega), hrest, uInt16_ofNat_mod,
    uInt16_ofNat_mod, ofOctet_bits]
  rfl

theorem udp?_header (checksum src dst : UInt16) (payload : Bytes) (h : 8 + payload.length < 0x10000) :
    udp? (udpHeader checksum src dst payload ++ payload) =
      some ⟨.udp, src, dst, .none, payload⟩ := by
  have hlength : (udpHeader checksum src dst payload ++ payload).length = 8 + payload.length := by
    rw [List.length_append, length_udpHeader]
  obtain ⟨hsrc, hdst, hstated⟩ := udpHeader_fields checksum src dst payload
  have hrest : (udpHeader checksum src dst payload ++ payload).drop 8 = payload :=
    List.drop_left' (length_udpHeader ..)
  rw [udp?, require_of (by omega), hsrc, hdst, hstated, mod_of_lt h]
  simp only [Option.bind_eq_bind, Option.bind_some]
  rw [if_neg (by omega), require_of (by omega), hrest, uInt16_ofNat_mod, uInt16_ofNat_mod,
    Nat.add_sub_cancel_left, List.take_length]
  rfl

theorem segment?_octets (form : SegmentForm) (src dst : UInt16) (payload : Bytes)
    (h : (form.octets src dst payload).length < 0x10000) :
    segment? form.protocol (form.octets src dst payload) =
      some (some (form.segment src dst payload)) := by
  cases form with
  | tcp form flags =>
      show (tcp? (form.header src dst flags ++ payload)).map some = _
      rw [tcp?_header]
      rfl
  | udp checksum =>
      have hfits : 8 + payload.length < 0x10000 := by
        rwa [SegmentForm.octets, List.length_append, length_udpHeader] at h
      show (udp? (udpHeader checksum src dst payload ++ payload)).map some = _
      rw [udp?_header checksum src dst payload hfits]
      rfl

/-! ## IP packets -/

/-- Whether the number announces no header that stands between an IP header and a segment. -/
def EndsHeaders (protocol : UInt8) : Prop :=
  protocol ∉ [hopByHopHeader, routingHeader, fragmentHeader, authenticationHeader, destinationHeader]

theorem endsHeaders_protocol (form : SegmentForm) : EndsHeaders form.protocol := by
  cases form with
  | tcp => show IpNumber.tcp ∉ _; decide
  | udp => show IpNumber.udp ∉ _; decide

theorem fragmentField_whole (form : Ipv4Form) :
    ¬(form.fragmentField % 256 ^ 2 / 0x2000 % 2 = 1 ∨ form.fragmentField % 256 ^ 2 % 0x2000 ≠ 0) := by
  rw [Ipv4Form.fragmentField]
  cases form.reserved <;> cases form.dontFragment <;> decide

theorem ipv4?_header (form : Ipv4Form) (src dst : BitVec 32) {protocol : UInt8} {content : Bytes}
    (hprotocol : EndsHeaders protocol) (hfits : form.total content < 0x10000) (padding : Bytes) :
    ipv4? (form.header src dst protocol content ++ (content ++ padding)) =
      (segment? protocol content).map fun segment => ⟨some (.ipv4 src dst protocol), segment⟩ := by
  have hwords := form.options.words_le
  obtain ⟨hversion, hprotocolAt, htotal, hfragment, hsrc, hdst⟩ :=
    form.fields src dst protocol content (content ++ padding)
  have hlength : (form.header src dst protocol content ++ (content ++ padding)).length =
      form.total content + padding.length := by
    simp only [List.length_append, Ipv4Form.length_header, Ipv4Form.total]
    omega
  have hoctet : (UInt8.ofNat (0x40 + (5 + form.options.words))).toNat =
      0x40 + (5 + form.options.words) := UInt8.toNat_ofNat_of_lt' (show _ < 256 by omega)
  have htotalSize : form.total content = 20 + 4 * form.options.words + content.length := rfl
  have hsize : (0x40 + (5 + form.options.words)) % 16 * 4 = 20 + 4 * form.options.words := by omega
  -- the total length cuts the padding off
  have hcontent : ((form.header src dst protocol content ++ (content ++ padding)).take
      (form.total content)).drop (20 + 4 * form.options.words) = content := by
    rw [← List.append_assoc, List.take_left', List.drop_left']
    · exact Ipv4Form.length_header ..
    · rw [List.length_append, Ipv4Form.length_header, htotalSize]
  have hplain : protocol ≠ authenticationHeader := fun h => hprotocol (by simp [h])
  rw [ipv4?, require_of (by omega), octet?, hversion, hprotocolAt, htotal, hfragment, hsrc, hdst,
    mod_of_lt hfits]
  simp only [Option.bind_eq_bind, Option.bind_some, Option.map_some]
  rw [hoctet, hsize, require_of (by omega), hcontent, if_neg hplain,
    bitVec_ofNat_mod src rfl, bitVec_ofNat_mod dst rfl]
  simp only [Option.bind_some]
  rw [if_neg (fragmentField_whole form)]
  cases segment? protocol content <;> rfl

theorem extension?_of_endsHeaders {protocol : UInt8} (h : EndsHeaders protocol) (data : Bytes) :
    extension? protocol data = some none := by
  simp only [EndsHeaders, List.mem_cons, List.not_mem_nil, or_false, not_or] at h
  obtain ⟨hhop, hrouting, hfragment, hauthentication, hdestination⟩ := h
  rw [extension?, if_neg hhop, if_neg (not_or.mpr ⟨hrouting, hdestination⟩), if_neg hfragment,
    if_neg hauthentication]

theorem extensions?_of_endsHeaders {protocol : UInt8} (h : EndsHeaders protocol) (data : Bytes) :
    extensions? protocol data = some ⟨protocol, data, false⟩ := by
  have hhop : protocol ≠ hopByHopHeader := fun heq => h (by simp [heq])
  rw [extensions?, if_neg hhop, chain?, extension?_of_endsHeaders h]

theorem ipv6?_header (form : Ipv6Form) (src dst : BitVec 128) {protocol : UInt8} {content : Bytes}
    (hprotocol : EndsHeaders protocol) (hpos : 0 < content.length) (hfits : content.length < 0x10000)
    (padding : Bytes) :
    ipv6? (form.header src dst protocol content ++ (content ++ padding)) =
      (segment? protocol content).map fun segment => ⟨some (.ipv6 src dst protocol), segment⟩ := by
  obtain ⟨-, hstated, hnext, hsrc, hdst⟩ :=
    form.fields src dst protocol content (content ++ padding)
  have hlength : (form.header src dst protocol content ++ (content ++ padding)).length =
      40 + content.length + padding.length := by
    simp only [List.length_append, Ipv6Form.length_header]
    omega
  have hinner : ((form.header src dst protocol content ++ (content ++ padding)).drop 40).take
      content.length = content := by
    rw [List.drop_left' (Ipv6Form.length_header ..), List.take_left]
  -- a length of zero would stand for all the octets there are, the padding included
  have hstatedPos : content.length ≠ 0 := Nat.ne_of_gt hpos
  rw [ipv6?, require_of (by omega), hstated, hnext, hsrc, hdst, mod_of_lt hfits]
  simp only [Option.bind_eq_bind, Option.bind_some]
  rw [if_neg hstatedPos, require_of (by omega), hinner, extensions?_of_endsHeaders hprotocol,
    bitVec_ofNat_mod src rfl, bitVec_ofNat_mod dst rfl]
  simp only [Option.bind_some, Bool.false_eq_true, if_false]
  cases segment? protocol content <;> rfl

/-- The first octet of an IP packet states its version. -/
theorem version?_octets {src dst : Address} (ip : IpForm src dst) (protocol : UInt8)
    (content padding : Bytes) :
    version? (ip.octets protocol content ++ padding) = some ip.version := by
  cases ip with
  | @ipv4 src dst form =>
      have hwords := form.options.words_le
      obtain ⟨hversion, -⟩ := form.fields src dst protocol content (content ++ padding)
      have hvalue : (0x40 + (5 + form.options.words)) / 16 = 4 := by omega
      rw [IpForm.octets, List.append_assoc, version?, octet?, hversion, Option.map_some,
        Option.map_some, UInt8.toNat_ofNat_of_lt' (show _ < 256 by omega), hvalue]
      rfl
  | @ipv6 src dst form =>
      have hclass : form.trafficClass.toNat < 256 := form.trafficClass.toNat_lt
      have hlabel : form.flowLabel.toNat < 0x100000 := form.flowLabel.isLt
      obtain ⟨hversion, -⟩ := form.fields src dst protocol content (content ++ padding)
      -- the version is the highest four bits of the first word
      have hvalue : form.firstWord / 256 / 256 / 256 % 256 / 16 = 6 := by
        rw [Ipv6Form.firstWord]
        omega
      rw [IpForm.octets, List.append_assoc, version?, octet?, hversion, Option.map_some,
        Option.map_some, UInt8.toNat_ofNat_of_lt' (Nat.mod_lt _ (by decide)), hvalue]
      rfl

theorem ip?_octets {src dst : Address} (ip : IpForm src dst) {protocol : UInt8} {content : Bytes}
    (hprotocol : EndsHeaders protocol) (hpos : 0 < content.length) (hfits : ip.stated content < 0x10000)
    (padding : Bytes) :
    ip? (ip.octets protocol content ++ padding) =
      (segment? protocol content).map fun segment =>
        ⟨some (.between src dst protocol), segment⟩ := by
  rw [ip?, version?_octets]
  cases ip with
  | ipv4 form =>
      rw [IpForm.octets, List.append_assoc]
      exact ipv4?_header form _ _ hprotocol hfits padding
  | ipv6 form =>
      rw [IpForm.octets, List.append_assoc]
      exact ipv6?_header form _ _ hprotocol hpos hfits padding

/-! ## Ethernet frames -/

theorem etherPayload?_etherType {src dst : Address} (ip : IpForm src dst) (protocol : UInt8)
    (content padding : Bytes) (tags : Nat) :
    etherPayload? tags ip.etherType (ip.octets protocol content ++ padding) =
      ip? (ip.octets protocol content ++ padding) := by
  have hversion := version?_octets ip protocol content padding
  generalize ip.octets protocol content ++ padding = data at hversion
  cases ip with
  | @ipv4 src dst form =>
      have hv4 : version? data = some 4 := hversion
      have htype : (IpForm.ipv4 form : IpForm (.v4 src) (.v4 dst)).etherType = 0x0800 := rfl
      rw [etherPayload?.eq_def, htype, if_pos rfl, require_of hv4, ip?, hv4]
      rfl
  | @ipv6 src dst form =>
      have hv6 : version? data = some 6 := hversion
      have htype : (IpForm.ipv6 form : IpForm (.v6 src) (.v6 dst)).etherType = 0x86dd := rfl
      rw [etherPayload?.eq_def, htype, if_neg (by decide), if_pos rfl, require_of hv6, ip?, hv6]
      rfl

/-- A tag is not taken for an IP packet. -/
theorem tag_types (tag : VlanTag) :
    tag.type.toNat ≠ 0x0800 ∧ tag.type.toNat ≠ 0x86dd ∧ isVlanTag tag.type.toNat = true := by
  rcases tag.type_eq with htype | htype | htype <;> rw [htype] <;> decide

/-- Behind as many tags as are allowed stands what would be found without them. -/
theorem etherPayload?_stack {etherType : Nat} {content : Bytes} {layers : Option Layers}
    (hfits : etherType < 0x10000) (hlayers : ∀ n, etherPayload? n etherType content = layers)
    (tags : List VlanTag) {n : Nat} (hle : tags.length ≤ n) :
    ∃ first, (VlanTag.stack etherType content tags).number? 0 2 = some first ∧
      etherPayload? n first ((VlanTag.stack etherType content tags).drop 2) = layers := by
  induction tags generalizing n with
  | nil =>
      refine ⟨etherType, ?_, ?_⟩
      · rw [VlanTag.stack, number?_append, mod_of_lt hfits]
      · rw [VlanTag.stack, List.drop_left' (length_ofNat ..), hlayers]
  | cons tag inner ih =>
      obtain ⟨n, rfl⟩ := Nat.exists_eq_add_one_of_ne_zero (Nat.ne_of_gt (Nat.zero_lt_of_lt hle))
      obtain ⟨first, hfirst, hinner⟩ := ih (Nat.le_of_succ_le_succ hle)
      refine ⟨tag.type.toNat, ?_, ?_⟩
      · rw [VlanTag.stack, number?_append, mod_of_lt tag.type.toNat_lt]
      · obtain ⟨hv4, hv6, htag⟩ := tag_types tag
        rw [VlanTag.stack, List.drop_left' (length_ofNat ..), etherPayload?.eq_def, if_neg hv4,
          if_neg hv6, if_pos htag]
        have hcontrol : (ofNat 2 tag.control.toNat).length = 2 := length_ofNat ..
        have hnext : Bytes.number? (ofNat 2 tag.control.toNat ++
            VlanTag.stack etherType content inner) 2 2 = some first := by
          rw [number?_of_le (Nat.le_of_eq hcontrol), hcontrol, Nat.sub_self, hfirst]
        have hrest : (ofNat 2 tag.control.toNat ++ VlanTag.stack etherType content inner).drop 4 =
            (VlanTag.stack etherType content inner).drop 2 := by
          rw [List.drop_append, List.drop_eq_nil_of_le (by omega), List.nil_append, hcontrol]
        simp only [hnext, hrest, Option.bind_eq_bind, Option.bind_some]
        exact hinner

/-- An Ethernet header with tags, before an IP packet. -/
theorem ethernet?_octets (ethernet : EthernetForm) {src dst : Address} (ip : IpForm src dst)
    (protocol : UInt8) (content padding : Bytes) :
    ethernet? (ethernet.octets ip.etherType (ip.octets protocol content ++ padding)) =
      ip? (ip.octets protocol content ++ padding) := by
  have hetherType : ip.etherType < 0x10000 := by
    cases ip with
    | ipv4 form => show 0x0800 < _; decide
    | ipv6 form => show 0x86dd < _; decide
  obtain ⟨first, hfirst, hlayers⟩ :=
    etherPayload?_stack hetherType (etherPayload?_etherType ip protocol content padding)
      ethernet.tags ethernet.tags_le
  -- the two addresses of stations come before the tags
  have hstations :
      (ofNat 6 ethernet.destination.toNat ++ ofNat 6 ethernet.source.toNat).length = 12 := by
    rw [List.length_append, length_ofNat, length_ofNat]
  rw [ethernet?, EthernetForm.octets, number?_of_le (Nat.le_of_eq hstations), hstations, Nat.sub_self,
    hfirst, List.drop_append, List.drop_eq_nil_of_le (by omega), List.nil_append, hstations]
  exact hlayers

/-! ## Whole frames -/

variable {a b : Endpoint}

theorem ip?_datagram (form : SegmentForm) (ip : IpForm a.address b.address) (payload : Bytes)
    (hfits : ip.stated (form.octets a.port b.port payload) < 0x10000) (padding : Bytes) :
    ip? (form.datagram ip payload ++ padding) =
      some ⟨(form.packet a b payload).ip, (form.packet a b payload).segment⟩ := by
  have hlength := Nat.lt_of_le_of_lt (ip.length_le_stated _) hfits
  rw [SegmentForm.datagram, ip?_octets ip (endsHeaders_protocol form) (form.length_octets_pos ..) hfits,
    segment?_octets form _ _ _ hlength, SegmentForm.packet_eq]
  rfl

end Frame

/-- The packets agree in all that they say of their contents. -/
structure Packet.SameContents (p q : Packet) : Prop where
  ip : p.ip = q.ip
  segment : p.segment = q.segment
  endpoints : p.endpoints = q.endpoints
  conversation : Conversation.ofPacket? p = Conversation.ofPacket? q

theorem Packet.sameContents_of_eq {p q : Packet} (hip : p.ip = q.ip)
    (hsegment : p.segment = q.segment) : p.SameContents q := by
  have hendpoints : p.endpoints = q.endpoints := by rw [endpoints, endpoints, hip, hsegment]
  refine ⟨hip, hsegment, hendpoints, ?_⟩
  rw [Conversation.ofPacket?, Conversation.ofPacket?, hsegment, hendpoints]

theorem Packet.ofFrame?_of_layers {link : Link} {frame : Bytes} {model : Packet} (capture : Capture)
    (h : Frame.layers? link frame = some ⟨model.ip, model.segment⟩) :
    ∃ p, ofFrame? link frame capture = some p ∧ p.SameContents model ∧ p.frame = frame := by
  refine ⟨{ model with capture, frame }, ?_, sameContents_of_eq rfl rfl, rfl⟩
  rw [ofFrame?, h]
  rfl

/-- **What is laid out is decoded.** Lay out a segment with any payload between two endpoints of one
family, with any options and any values of the fields that do not count, as an IP packet whose length
fits its header. That packet with more octets behind it, and an Ethernet frame with up to two tags that
holds these, are decoded to packets which keep their whole frame, and which have the contents of the
packet made of the endpoints, the flags and the payload. -/
theorem layouts_are_decoded (a b : Endpoint) (form : SegmentForm) (ip : IpForm a.address b.address)
    (payload : Bytes) (hfits : ip.stated (form.octets a.port b.port payload) < 0x10000)
    (ethernet : EthernetForm) (padding : Bytes) (capture : Capture) :
    (∃ p, Packet.ofFrame? .ip (form.datagram ip payload ++ padding) capture = some p ∧
      p.SameContents (form.packet a b payload) ∧ p.frame = form.datagram ip payload ++ padding) ∧
    ∃ p, Packet.ofFrame? .ethernet
        (ethernet.octets ip.etherType (form.datagram ip payload ++ padding)) capture = some p ∧
      p.SameContents (form.packet a b payload) ∧
      p.frame = ethernet.octets ip.etherType (form.datagram ip payload ++ padding) := by
  have hip := Frame.ip?_datagram form ip payload hfits padding
  have hethernet := Frame.ethernet?_octets ethernet ip form.protocol
    (form.octets a.port b.port payload) padding
  exact ⟨Packet.ofFrame?_of_layers capture hip,
    Packet.ofFrame?_of_layers capture (hethernet.trans hip)⟩

/-- A request behind two tags, with options in both headers and two octets of padding; and a query over IPv6
behind no tag, with a traffic class, a flow label and one octet of padding. -/
theorem tagged_request_is_decoded :
    let a : Endpoint := ⟨.v4 0x0a000001#32, 54321⟩
    let b : Endpoint := ⟨.v4 0x0a000002#32, 80⟩
    let form : SegmentForm := .tcp ⟨1, 0, 0, 0xffff, 0, 0, ⟨[2, 4, 5, 180], rfl, by decide⟩⟩ .data
    let ip : IpForm a.address b.address :=
      .ipv4 ⟨0, 1, false, true, 64, 0xbeef, ⟨[1, 1, 1, 0], rfl, by decide⟩⟩
    let ethernet : EthernetForm := ⟨0x001122334455#48, 0x66778899aabb#48,
      [⟨0x88a8, by decide, 1⟩, ⟨0x8100, by decide, 0x6002⟩], by decide⟩
    let payload := Bytes.ofAscii "GET"
    let frame : Bytes := [0x00, 0x11, 0x22, 0x33, 0x44, 0x55, 0x66, 0x77, 0x88, 0x99, 0xaa, 0xbb,
      0x88, 0xa8, 0x00, 0x01, 0x81, 0x00, 0x60, 0x02, 0x08, 0x00,
      0x46, 0x00, 0x00, 0x33, 0x00, 0x01, 0x40, 0x00, 0x40, 0x06, 0xbe, 0xef, 10, 0, 0, 1, 10, 0, 0, 2,
      1, 1, 1, 0,
      0xd4, 0x31, 0x00, 0x50, 0, 0, 0, 1, 0, 0, 0, 0, 0x60, 0x18, 0xff, 0xff, 0, 0, 0, 0,
      2, 4, 5, 180,
      71, 69, 84, 0, 0]
    let c : Endpoint := ⟨.v6 0x20010db8000000000000000000000001#128, 5353⟩
    let d : Endpoint := ⟨.v6 0xfe800000000000000000000000000002#128, 53⟩
    let query : SegmentForm := .udp 0xabcd
    let ip₆ : IpForm c.address d.address := .ipv6 ⟨0xb8, 0x12345#20, 64⟩
    let untagged : EthernetForm := ⟨0x001122334455#48, 0x66778899aabb#48, [], by decide⟩
    let frame₆ : Bytes := [0x00, 0x11, 0x22, 0x33, 0x44, 0x55, 0x66, 0x77, 0x88, 0x99, 0xaa, 0xbb,
      0x86, 0xdd,
      0x6b, 0x81, 0x23, 0x45, 0, 10, 17, 64,
      0x20, 0x01, 0x0d, 0xb8, 0, 0, 0, 0, 0, 0, 0, 0, 0, 0, 0, 1,
      0xfe, 0x80, 0, 0, 0, 0, 0, 0, 0, 0, 0, 0, 0, 0, 0, 2,
      0x14, 0xe9, 0, 53, 0, 10, 0xab, 0xcd,
      7, 9, 0]
    (ip.stated (form.octets a.port b.port payload) < 0x10000 ∧
      ethernet.octets ip.etherType (form.datagram ip payload ++ [0, 0]) = frame ∧
      ∃ p, Packet.ofFrame? .ethernet frame {} = some p ∧
        p.SameContents (.tcp a b .data payload) ∧ p.frame = frame) ∧
    ip₆.stated (query.octets c.port d.port [7, 9]) < 0x10000 ∧
    untagged.octets ip₆.etherType (query.datagram ip₆ [7, 9] ++ [0]) = frame₆ ∧
    ∃ p, Packet.ofFrame? .ethernet frame₆ {} = some p ∧
      p.SameContents (.udp c d [7, 9]) ∧ p.frame = frame₆ := by
  intro a b form ip ethernet payload frame c d query ip₆ untagged frame₆
  have hfits : ip.stated (form.octets a.port b.port payload) < 0x10000 := by decide
  have hframe : ethernet.octets ip.etherType (form.datagram ip payload ++ [0, 0]) = frame := by decide
  have hfits₆ : ip₆.stated (query.octets c.port d.port [7, 9]) < 0x10000 := by decide
  have hframe₆ : untagged.octets ip₆.etherType (query.datagram ip₆ [7, 9] ++ [0]) = frame₆ := by decide
  refine ⟨⟨hfits, hframe, ?_⟩, hfits₆, hframe₆, ?_⟩
  · rw [← hframe]
    exact (layouts_are_decoded a b form ip payload hfits ethernet [0, 0] {}).2
  · rw [← hframe₆]
    exact (layouts_are_decoded c d query ip₆ [7, 9] hfits₆ untagged [0] {}).2

end FlowScope
