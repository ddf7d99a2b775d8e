import FlowScope.Guarded
import FlowScope.Net.Packet
import FlowScope.Protocol

/-!
# Well-known ports

The protocol that a port is conventionally used for. A port says nothing certain of the payload, so
this signature is not among the default ones.
-/

namespace FlowScope

/-- The protocol conventionally served on a port, if there is one. -/
def Protocol.ofPort? (kind : Transport) (port : UInt16) : Option Protocol :=
  match kind, port.toNat with
  | .tcp, 80 | .tcp, 8080 => some .http
  | .tcp, 443 | .tcp, 8443 | .tcp, 465 | .tcp, 993 | .tcp, 995 => some .ssl
  | _, 53 => some .dns
  | .tcp, 22 => some .ssh
  | .tcp, 135 => some .rpc
  | .tcp, 25 | .tcp, 587 => some .smtp
  | .tcp, 3389 => some .rdp
  | .tcp, 445 => some .smb
  | .tcp, 21 => some .ftp
  | .tcp, 139 | .udp, 137 | .udp, 138 => some .netBios
  | .tcp, 5222 | .tcp, 5269 => some .jabber
  | .tcp, 1883 => some .mqtt
  | _, n => if 6881 ≤ n && n ≤ 6889 then some .bitTorrent else none

namespace Signature

/-- Whether one of a packet's ports is conventionally used for the protocol. -/
def usesPort (protocol : Protocol) (p : Packet) : Bool :=
  match p.segment with
  | none => false
  | some segment =>
    Protocol.ofPort? segment.kind segment.srcPort == some protocol ||
      Protocol.ofPort? segment.kind segment.dstPort == some protocol

def portTest (protocol : Protocol) (packets : List Packet) : Probe Unit :=
  Probe.demand (packets.any (usesPort protocol))

end Signature
end FlowScope
