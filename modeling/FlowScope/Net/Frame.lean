import FlowScope.Net.Packet

/-!
# Frames

Decoding of captured frames, as far as the classification of flows needs it:

* Ethernet II headers with up to two VLAN tags, or bare IP;
* IPv4 with options and one authentication header; IPv6 with its chain of extension headers;
* TCP and UDP headers, and the lengths of ICMP messages.

A frame whose headers do not fit its octets is malformed, and gives no packet at all. A frame of
another kind is a packet without IP header and segment. A fragment has an IP header but no segment.
-/

namespace FlowScope

/-- What the first octet of a frame belongs to. -/
inductive Link
  | ethernet
  | ip
  deriving Repr, DecidableEq

namespace Link

def name : Link → String
  | ethernet => "ethernet"
  | ip => "ip"

end Link

/-- The parts of a packet found in a frame. -/
structure Layers where
  ip : Option IpHeader
  segment : Option Segment
  deriving Repr, DecidableEq

namespace Frame

/-- The octet at an offset, as a number. -/
def octet? (data : Bytes) (i : Nat) : Option Nat := data[i]?.map UInt8.toNat

/-- Goes on only if the condition holds; the frame is malformed otherwise. -/
def require (condition : Prop) [Decidable condition] : Option Unit :=
  if condition then some () else none

/-! ### Segments -/

/-- A TCP segment: the header is as long as its data offset says. -/
def tcp? (data : Bytes) : Option Segment := do
  require (20 ≤ data.length)
  let src ← data.number? 0 2
  let dst ← data.number? 2 2
  let header := (← octet? data 12) / 16 * 4
  let flags ← data[13]?
  require (20 ≤ header ∧ header ≤ data.length)
  pure ⟨.tcp, .ofNat src, .ofNat dst, .ofOctet flags, data.drop header⟩

/-- A UDP datagram: a length of zero stands for all the octets there are. -/
def udp? (data : Bytes) : Option Segment := do
  require (8 ≤ data.length)
  let src ← data.number? 0 2
  let dst ← data.number? 2 2
  let stated ← data.number? 4 2
  let length := if stated = 0 then data.length else stated
  require (8 ≤ length ∧ length ≤ data.length)
  pure ⟨.udp, .ofNat src, .ofNat dst, .none, (data.drop 8).take (length - 8)⟩

/-- An ICMPv4 message has eight octets at least, a timestamp message exactly twenty. -/
def icmpV4Fits (data : Bytes) : Bool :=
  8 ≤ data.length &&
    (!((data[0]? == some 13 || data[0]? == some 14) && data[1]? == some 0) || data.length == 20)

/-- The segment that a protocol number announces; none for protocols without ports. -/
def segment? (protocol : UInt8) (data : Bytes) : Option (Option Segment) :=
  if protocol = IpNumber.tcp then (tcp? data).map some
  else if protocol = IpNumber.udp then (udp? data).map some
  else if protocol = IpNumber.icmpV4 then (require (icmpV4Fits data)).map fun _ => none
  else if protocol = IpNumber.icmpV6 then (require (8 ≤ data.length)).map fun _ => none
  else some none

/-! ### Headers between the IP header and the segment -/

/-- What is behind a header at the start of `data`: the protocol number that the header announces,
and the octets after it. -/
structure Skip (data : Bytes) where
  next : UInt8
  rest : Bytes
  shorter : rest.length < data.length

/-- Skips a header of `size` octets. -/
def skip? (data : Bytes) (next : UInt8) (size : Nat) : Option (Skip data) :=
  if h : 0 < size ∧ size ≤ data.length then
    some ⟨next, data.drop size, by simp only [List.length_drop]; omega⟩
  else none

def authenticationHeader : UInt8 := 51
def hopByHopHeader : UInt8 := 0
def routingHeader : UInt8 := 43
def fragmentHeader : UInt8 := 44
def destinationHeader : UInt8 := 60

/-- An authentication header, whose length field is in words and counts two words less. -/
def authentication? (data : Bytes) : Option (Skip data) := do
  require (12 ≤ data.length)
  let next ← data[0]?
  let words ← octet? data 1
  require (words ≠ 0)
  skip? data next ((words + 2) * 4)

/-- A hop-by-hop, routing or destination header, whose length field counts units of eight octets
after the first. -/
def options? (data : Bytes) : Option (Skip data) := do
  require (8 ≤ data.length)
  let next ← data[0]?
  let units ← octet? data 1
  skip? data next ((units + 1) * 8)

/-- A fragment header, and whether it makes the packet a fragment. -/
def fragment? (data : Bytes) : Option (Skip data × Bool) := do
  let next ← data[0]?
  let high ← data[2]?
  let low ← data[3]?
  let skip ← skip? data next 8
  pure (skip, high ≠ 0 || low &&& 0x9f ≠ 0)

/-- One header of an IPv6 chain, or none at the end of the chain. A hop-by-hop header does not belong
inside the chain. -/
def extension? (protocol : UInt8) (data : Bytes) : Option (Option (Skip data × Bool)) :=
  if protocol = hopByHopHeader then none
  else if protocol = routingHeader ∨ protocol = destinationHeader then
    (options? data).map fun skip => some (skip, false)
  else if protocol = fragmentHeader then (fragment? data).map some
  else if protocol = authenticationHeader then
    (authentication? data).map fun skip => some (skip, false)
  else some none

/-- What is behind a chain of headers. -/
structure Chained where
  protocol : UInt8
  data : Bytes
  fragmented : Bool
  deriving Repr, DecidableEq

/-- Follows an IPv6 chain of headers. Every header takes some octets, so the chain ends. -/
def chain? (protocol : UInt8) (data : Bytes) (fragmented : Bool) : Option Chained :=
  match extension? protocol data with
  | none => none
  | some none => some ⟨protocol, data, fragmented⟩
  | some (some (skip, piece)) => chain? skip.next skip.rest (fragmented || piece)
termination_by data.length
decreasing_by exact skip.shorter

/-- The chain behind the fixed IPv6 header, where a hop-by-hop header may come first. -/
def extensions? (protocol : UInt8) (data : Bytes) : Option Chained :=
  if protocol = hopByHopHeader then
    (options? data).bind fun skip => chain? skip.next skip.rest false
  else chain? protocol data false

/-! ### IP headers -/

/-- An IPv4 packet; what follows its total length is padding. -/
def ipv4? (data : Bytes) : Option Layers := do
  require (20 ≤ data.length)
  let header := (← octet? data 0) % 16 * 4
  let total ← data.number? 2 2
  require (20 ≤ header ∧ header ≤ data.length ∧ header ≤ total ∧ total ≤ data.length)
  let fragmentField ← data.number? 6 2
  let protocol ← data[9]?
  let src ← data.number? 12 4
  let dst ← data.number? 16 4
  let payload := (data.take total).drop header
  let inner ← if protocol = authenticationHeader
    then (authentication? payload).map fun skip => (skip.next, skip.rest)
    else some (protocol, payload)
  -- more fragments follow, or some came before
  let fragmented := fragmentField / 0x2000 % 2 = 1 ∨ fragmentField % 0x2000 ≠ 0
  let segment ← if fragmented then some none else segment? inner.1 inner.2
  pure ⟨some (.ipv4 (.ofNat 32 src) (.ofNat 32 dst) protocol), segment⟩

/-- An IPv6 packet; a payload length of zero stands for all the octets there are. -/
def ipv6? (data : Bytes) : Option Layers := do
  require (40 ≤ data.length)
  let stated ← data.number? 4 2
  let length := if stated = 0 then data.length - 40 else stated
  require (40 + length ≤ data.length)
  let nextHeader ← data[6]?
  let src ← data.number? 8 16
  let dst ← data.number? 24 16
  let chained ← extensions? nextHeader ((data.drop 40).take length)
  let segment ←
    if chained.fragmented then some none else segment? chained.protocol chained.data
  pure ⟨some (.ipv6 (.ofNat 128 src) (.ofNat 128 dst) nextHeader), segment⟩

/-- The IP version in the first octet. -/
def version? (data : Bytes) : Option Nat := (octet? data 0).map (· / 16)

/-- A frame that starts with an IP header. -/
def ip? (data : Bytes) : Option Layers :=
  match version? data with
  | some 4 => ipv4? data
  | some 6 => ipv6? data
  | _ => none

/-! ### Link layers -/

/-- The types of the tags that may precede the type of the payload. -/
def isVlanTag (etherType : Nat) : Bool :=
  etherType == 0x8100 || etherType == 0x88a8 || etherType == 0x9100

/-- What follows an Ethernet type: IP of the version that it announces, up to `tags` VLAN tags, or
something that is no IP packet. -/
def etherPayload? (tags : Nat) (etherType : Nat) (data : Bytes) : Option Layers :=
  if etherType = 0x0800 then (require (version? data = some 4)).bind fun _ => ipv4? data
  else if etherType = 0x86dd then (require (version? data = some 6)).bind fun _ => ipv6? data
  else if isVlanTag etherType then
    match tags with
    | 0 => some ⟨none, none⟩
    | tags + 1 => do
      let inner ← data.number? 2 2
      etherPayload? tags inner (data.drop 4)
  else some ⟨none, none⟩

/-- A frame that starts with an Ethernet header. -/
def ethernet? (data : Bytes) : Option Layers := do
  let etherType ← data.number? 12 2
  etherPayload? 2 etherType (data.drop 14)

/-- The layers of a frame, or none if it is malformed. -/
def layers? : Link → Bytes → Option Layers
  | .ethernet => ethernet?
  | .ip => ip?

end Frame

/-- The packet in a frame, which it keeps whole. -/
def Packet.ofFrame? (link : Link) (frame : Bytes) (capture : Capture) : Option Packet :=
  (Frame.layers? link frame).map fun layers =>
    { capture, frame, ip := layers.ip, segment := layers.segment }

end FlowScope
