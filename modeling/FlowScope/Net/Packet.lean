import FlowScope.Net.Address
import FlowScope.Net.ControlBits

/-!
# Packets

A packet is what is known of one captured frame: when and how it was captured, its octets, and the IP
header and the transport segment found in it, either of which may be missing. Packets can also be made
without a frame, from endpoints and a payload.
-/

namespace FlowScope

/-- When a frame was captured, how much of it, and how long it was on the wire. -/
structure Capture where
  timestamp : Nat := 0
  captured : Nat := 0
  length : Nat := 0
  deriving Repr, DecidableEq

/-- The transports that have ports. -/
inductive Transport
  | tcp
  | udp
  deriving Repr, DecidableEq

def Transport.name : Transport → String
  | tcp => "tcp"
  | udp => "udp"

namespace IpNumber

/-! ### The numbers by which an IP header announces what it carries -/

def icmpV4 : UInt8 := 1
def tcp : UInt8 := 6
def udp : UInt8 := 17
def icmpV6 : UInt8 := 58

end IpNumber

/-- An IP header: both addresses, and the number of the protocol that the header itself announces. -/
inductive IpHeader
  | ipv4 (src dst : BitVec 32) (protocol : UInt8)
  | ipv6 (src dst : BitVec 128) (nextHeader : UInt8)
  deriving Repr, DecidableEq

namespace IpHeader

def src : IpHeader → Address
  | ipv4 s _ _ => .v4 s
  | ipv6 s _ _ => .v6 s

def dst : IpHeader → Address
  | ipv4 _ d _ => .v4 d
  | ipv6 _ d _ => .v6 d

/-- The number of the announced protocol. -/
def announced : IpHeader → UInt8
  | ipv4 _ _ p => p
  | ipv6 _ _ n => n

/-- The header between two addresses; if one of them is IPv6, both are written as IPv6. -/
def between (s d : Address) (protocol : UInt8) : IpHeader :=
  match s, d with
  | .v4 s, .v4 d => ipv4 s d protocol
  | s, d => ipv6 s.toV6 d.toV6 protocol

end IpHeader

/-- A TCP segment or a UDP datagram. The flags mean something for TCP only. -/
structure Segment where
  kind : Transport
  srcPort : UInt16
  dstPort : UInt16
  flags : ControlBits
  payload : Bytes
  deriving Repr, DecidableEq

structure Packet where
  capture : Capture
  /-- The octets of the frame; none for a packet made without one. -/
  frame : Bytes
  ip : Option IpHeader
  segment : Option Segment
  deriving Repr, DecidableEq

namespace Packet

/-! ### Packets without a frame -/

/-- A packet of the given parts, as long as its payload. -/
def ofParts (ip : Option IpHeader) (segment : Option Segment) : Packet :=
  let length := match segment with
    | some s => s.payload.length
    | none => 0
  { capture := { captured := length, length }, frame := [], ip, segment }

def tcp (src dst : Endpoint) (flags : ControlBits) (payload : Bytes) : Packet :=
  ofParts (some (.between src.address dst.address IpNumber.tcp))
    (some ⟨.tcp, src.port, dst.port, flags, payload⟩)

def udp (src dst : Endpoint) (payload : Bytes) : Packet :=
  ofParts (some (.between src.address dst.address IpNumber.udp))
    (some ⟨.udp, src.port, dst.port, .none, payload⟩)

/-- An ICMP packet between addresses of one family, whose version of ICMP it announces. -/
def icmp (src dst : Address) : Packet :=
  match src, dst with
  | .v4 s, .v4 d => ofParts (some (.ipv4 s d IpNumber.icmpV4)) none
  | s, d => ofParts (some (.ipv6 s.toV6 d.toV6 IpNumber.icmpV6)) none

/-! ### Parts -/

/-- The segment, if it is of the given transport. -/
def segmentOf (p : Packet) (kind : Transport) : Option Segment := p.segment.filter (·.kind = kind)

/-- Source and destination, for a packet with both parts. -/
def endpoints (p : Packet) : Option (Endpoint × Endpoint) := do
  let ip ← p.ip
  let segment ← p.segment
  pure (⟨ip.src, segment.srcPort⟩, ⟨ip.dst, segment.dstPort⟩)

end Packet
end FlowScope
