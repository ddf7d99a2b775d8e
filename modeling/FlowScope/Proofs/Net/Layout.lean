import FlowScope.Proofs.Bytes
import FlowScope.Net.Packet

/-!
# The layout of packets

How TCP segments and UDP datagrams are laid out in IP packets, and these in Ethernet frames. A form
holds what a header states besides the endpoints, the lengths and the numbers that announce what comes
next; every value of a form gives a header that is correctly laid out.

* `SegmentForm` — a TCP header with options, or a UDP header;
* `IpForm src dst` — an IPv4 header with options, of a packet that is no fragment, or an IPv6 header
  without extension headers; there is one only between addresses of one family;
* `EthernetForm` — an Ethernet header with at most two VLAN tags.
-/

namespace FlowScope

open Bytes

/-- The options of a header: whole words of four octets, ten words at most. -/
structure Options where
  octets : Bytes
  whole : octets.length % 4 = 0
  short : octets.length ≤ 40

namespace Options

def words (options : Options) : Nat := options.octets.length / 4

theorem length_octets (options : Options) : options.octets.length = 4 * options.words := by
  have hwhole := options.whole
  rw [words]
  omega

theorem words_le (options : Options) : options.words ≤ 10 := by
  have hshort := options.short
  rw [words]
  omega

end Options

/-! ## Segments -/

/-- A TCP header besides its ports, its flags and its length. -/
structure TcpForm where
  sequence : UInt32
  acknowledgement : UInt32
  reserved : BitVec 4
  window : UInt16
  checksum : UInt16
  urgent : UInt16
  options : Options

namespace TcpForm

/-- The header, with the number of its words in the upper half of octet 12. -/
def header (form : TcpForm) (src dst : UInt16) (flags : ControlBits) : Bytes :=
  ofNat 2 src.toNat ++ ofNat 2 dst.toNat ++
    ofNat 4 form.sequence.toNat ++ ofNat 4 form.acknowledgement.toNat ++
    [.ofNat (16 * (5 + form.options.words) + form.reserved.toNat), flags.bits] ++
    ofNat 2 form.window.toNat ++ ofNat 2 form.checksum.toNat ++
    ofNat 2 form.urgent.toNat ++ form.options.octets

@[simp] theorem length_header (form : TcpForm) (src dst : UInt16) (flags : ControlBits) :
    (form.header src dst flags).length = 20 + 4 * form.options.words := by
  simp only [header, List.length_append, length_ofNat, List.length_cons, List.length_nil,
    form.options.length_octets]

/-- What decoding reads is where it was written; the same is said below of the other headers. -/
theorem fields (form : TcpForm) (src dst : UInt16) (flags : ControlBits) (payload : Bytes) :
    let data := form.header src dst flags ++ payload
    data.number? 0 2 = some (src.toNat % 256 ^ 2) ∧
    data.number? 2 2 = some (dst.toNat % 256 ^ 2) ∧
    data[12]? = some (.ofNat (16 * (5 + form.options.words) + form.reserved.toNat)) ∧
    data[13]? = some flags.bits := by
  intro data
  simp (disch := simp) only [data, header, List.append_assoc, number?_of_le, number?_append,
    List.getElem?_append_right, length_ofNat, Nat.sub_self, Nat.reduceSub, List.cons_append,
    List.getElem?_cons_zero, List.getElem?_cons_succ, and_self]

end TcpForm

/-- A UDP header, which states its own length together with that of the payload. -/
def udpHeader (checksum src dst : UInt16) (payload : Bytes) : Bytes :=
  ofNat 2 src.toNat ++ ofNat 2 dst.toNat ++ ofNat 2 (8 + payload.length) ++
    ofNat 2 checksum.toNat

@[simp] theorem length_udpHeader (checksum src dst : UInt16) (payload : Bytes) :
    (udpHeader checksum src dst payload).length = 8 := by
  simp [udpHeader]

theorem udpHeader_fields (checksum src dst : UInt16) (payload : Bytes) :
    let data := udpHeader checksum src dst payload ++ payload
    data.number? 0 2 = some (src.toNat % 256 ^ 2) ∧
    data.number? 2 2 = some (dst.toNat % 256 ^ 2) ∧
    data.number? 4 2 = some ((8 + payload.length) % 256 ^ 2) := by
  intro data
  simp (disch := simp) only [data, udpHeader, List.append_assoc, number?_of_le, number?_append,
    length_ofNat, Nat.sub_self, Nat.reduceSub, and_self]

inductive SegmentForm
  | tcp (form : TcpForm) (flags : ControlBits)
  | udp (checksum : UInt16)

namespace SegmentForm

/-- The number by which an IP header announces the segment. -/
def protocol : SegmentForm → UInt8
  | tcp _ _ => IpNumber.tcp
  | udp _ => IpNumber.udp

def octets (src dst : UInt16) (payload : Bytes) : SegmentForm → Bytes
  | tcp form flags => form.header src dst flags ++ payload
  | udp checksum => udpHeader checksum src dst payload ++ payload

/-- What is to be found in the octets. -/
def segment (src dst : UInt16) (payload : Bytes) : SegmentForm → Segment
  | tcp _ flags => ⟨.tcp, src, dst, flags, payload⟩
  | udp _ => ⟨.udp, src, dst, .none, payload⟩

/-- The packet without a frame that has the same contents. -/
def packet (a b : Endpoint) (payload : Bytes) : SegmentForm → Packet
  | tcp _ flags => .tcp a b flags payload
  | udp _ => .udp a b payload

theorem length_octets_pos (form : SegmentForm) (src dst : UInt16) (payload : Bytes) :
    0 < (form.octets src dst payload).length := by
  cases form with
  | tcp form flags =>
      rw [octets, List.length_append, TcpForm.length_header]
      omega
  | udp checksum =>
      rw [octets, List.length_append, length_udpHeader]
      omega

theorem packet_eq (form : SegmentForm) (a b : Endpoint) (payload : Bytes) :
    form.packet a b payload =
      .ofParts (some (.between a.address b.address form.protocol))
        (some (form.segment a.port b.port payload)) := by
  cases form <;> rfl

end SegmentForm

/-! ## IP packets -/

/-- An IPv4 header besides its addresses, the protocol and the lengths. -/
structure Ipv4Form where
  service : UInt8
  identification : UInt16
  reserved : Bool
  dontFragment : Bool
  hops : UInt8
  checksum : UInt16
  options : Options

namespace Ipv4Form

/-- Nothing but the two flags: no more fragments follow, and none came before. -/
def fragmentField (form : Ipv4Form) : Nat :=
  0x8000 * form.reserved.toNat + 0x4000 * form.dontFragment.toNat

/-- The length of the packet, which its header states. -/
def total (form : Ipv4Form) (content : Bytes) : Nat := 20 + 4 * form.options.words + content.length

def header (form : Ipv4Form) (src dst : BitVec 32) (protocol : UInt8) (content : Bytes) : Bytes :=
  [.ofNat (0x40 + (5 + form.options.words)), form.service] ++ ofNat 2 (form.total content) ++
    ofNat 2 form.identification.toNat ++ ofNat 2 form.fragmentField ++
    [form.hops, protocol] ++ ofNat 2 form.checksum.toNat ++
    ofNat 4 src.toNat ++ ofNat 4 dst.toNat ++ form.options.octets

@[simp] theorem length_header (form : Ipv4Form) (src dst : BitVec 32) (protocol : UInt8)
    (content : Bytes) :
    (form.header src dst protocol content).length = 20 + 4 * form.options.words := by
  simp only [header, List.length_append, length_ofNat, List.length_cons, List.length_nil,
    form.options.length_octets]

theorem fields (form : Ipv4Form) (src dst : BitVec 32) (protocol : UInt8)
    (content rest : Bytes) :
    let data := form.header src dst protocol content ++ rest
    data[0]? = some (.ofNat (0x40 + (5 + form.options.words))) ∧
    data[9]? = some protocol ∧
    data.number? 2 2 = some (form.total content % 256 ^ 2) ∧
    data.number? 6 2 = some (form.fragmentField % 256 ^ 2) ∧
    data.number? 12 4 = some (src.toNat % 256 ^ 4) ∧
    data.number? 16 4 = some (dst.toNat % 256 ^ 4) := by
  intro data
  simp (disch := simp) only [data, header, List.append_assoc, List.cons_append,
    List.nil_append, List.getElem?_cons_zero, List.getElem?_cons_succ, List.getElem?_append_right,
    number?_cons, number?_of_le, number?_append, length_ofNat, Nat.sub_self, Nat.reduceSub, and_self]

end Ipv4Form

/-- An IPv6 header besides its addresses, the next header and the length. -/
structure Ipv6Form where
  trafficClass : UInt8
  flowLabel : BitVec 20
  hops : UInt8

namespace Ipv6Form

/-- The first word: the version, the traffic class and the flow label. -/
def firstWord (form : Ipv6Form) : Nat :=
  0x60000000 + 0x100000 * form.trafficClass.toNat + form.flowLabel.toNat

def header (form : Ipv6Form) (src dst : BitVec 128) (nextHeader : UInt8) (content : Bytes) : Bytes :=
  ofNat 4 form.firstWord ++ ofNat 2 content.length ++ [nextHeader, form.hops] ++
    ofNat 16 src.toNat ++ ofNat 16 dst.toNat

@[simp] theorem length_header (form : Ipv6Form) (src dst : BitVec 128) (nextHeader : UInt8)
    (content : Bytes) : (form.header src dst nextHeader content).length = 40 := by
  simp [header]

theorem fields (form : Ipv6Form) (src dst : BitVec 128) (nextHeader : UInt8)
    (content rest : Bytes) :
    let data := form.header src dst nextHeader content ++ rest
    data[0]? = some (.ofNat (form.firstWord / 256 / 256 / 256 % 256)) ∧
    data.number? 4 2 = some (content.length % 256 ^ 2) ∧
    data[6]? = some nextHeader ∧
    data.number? 8 16 = some (src.toNat % 256 ^ 16) ∧
    data.number? 24 16 = some (dst.toNat % 256 ^ 16) := by
  intro data
  refine ⟨rfl, ?_⟩
  simp (disch := simp) only [data, header, List.append_assoc, List.cons_append,
    List.nil_append, List.getElem?_cons_zero, List.getElem?_append_right,
    number?_cons, number?_of_le, number?_append, length_ofNat, Nat.sub_self, Nat.reduceSub, and_self]

end Ipv6Form

/-- An IP header between two addresses of one family. -/
inductive IpForm : Address → Address → Type
  | ipv4 {src dst : BitVec 32} (form : Ipv4Form) : IpForm (.v4 src) (.v4 dst)
  | ipv6 {src dst : BitVec 128} (form : Ipv6Form) : IpForm (.v6 src) (.v6 dst)

namespace IpForm

/-- The IP packet with the given contents. -/
def octets (protocol : UInt8) (content : Bytes) : {src dst : Address} → IpForm src dst → Bytes
  | .v4 src, .v4 dst, ipv4 form => form.header src dst protocol content ++ content
  | .v6 src, .v6 dst, ipv6 form => form.header src dst protocol content ++ content

/-- What the header states as a length, in 16 bits. -/
def stated (content : Bytes) : {src dst : Address} → IpForm src dst → Nat
  | _, _, ipv4 form => form.total content
  | _, _, ipv6 _ => content.length

theorem length_le_stated {src dst : Address} (ip : IpForm src dst) (content : Bytes) :
    content.length ≤ ip.stated content := by
  cases ip with
  | ipv4 form => exact Nat.le_add_left ..
  | ipv6 form => exact Nat.le_refl _

def version : {src dst : Address} → IpForm src dst → Nat
  | _, _, ipv4 _ => 4
  | _, _, ipv6 _ => 6

/-- The number by which a link header announces the packet. -/
def etherType : {src dst : Address} → IpForm src dst → Nat
  | _, _, ipv4 _ => 0x0800
  | _, _, ipv6 _ => 0x86dd

end IpForm

/-- The IP packet of a segment between two endpoints. -/
def SegmentForm.datagram {a b : Endpoint} (form : SegmentForm) (ip : IpForm a.address b.address)
    (payload : Bytes) : Bytes :=
  ip.octets form.protocol (form.octets a.port b.port payload)

/-! ## Ethernet frames -/

/-- A VLAN tag: its own type, and the control information. -/
structure VlanTag where
  type : UInt16
  type_eq : type = 0x8100 ∨ type = 0x88a8 ∨ type = 0x9100
  control : UInt16

/-- The octets from the first type on: each tag stands before the type of what it tags. -/
def VlanTag.stack (etherType : Nat) (content : Bytes) : List VlanTag → Bytes
  | [] => ofNat 2 etherType ++ content
  | tag :: inner =>
    ofNat 2 tag.type.toNat ++ (ofNat 2 tag.control.toNat ++ stack etherType content inner)

/-- An Ethernet header besides the type of what comes behind it. -/
structure EthernetForm where
  destination : BitVec 48
  source : BitVec 48
  tags : List VlanTag
  tags_le : tags.length ≤ 2

/-- The frame with the given contents. -/
def EthernetForm.octets (form : EthernetForm) (etherType : Nat) (content : Bytes) : Bytes :=
  ofNat 6 form.destination.toNat ++ ofNat 6 form.source.toNat ++
    VlanTag.stack etherType content form.tags

end FlowScope
