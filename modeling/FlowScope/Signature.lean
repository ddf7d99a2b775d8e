import FlowScope.Flow.Basic
import FlowScope.Signature.Dns
import FlowScope.Signature.Framed
import FlowScope.Signature.Greeting
import FlowScope.Signature.Pattern
import FlowScope.Signature.Port

/-!
# Signatures

A signature is a test for one protocol on the packets of a flow. Signatures keep no state: what they
say depends on the packets only.

* `Signature.probe` is the test itself, `Signature.detects` its outcome;
* `Signature.scan` applies a list of signatures in order, up to the first that matches.
-/

namespace FlowScope

inductive Signature
  | ftp | http | icmp | netBios | dns | rdp | rpc | smb | smtp | ssh | ssl | jabber | mqtt
  /-- A port that is conventionally used for the protocol. -/
  | port (protocol : Protocol)
  deriving Repr, DecidableEq

namespace Signature

/-- The name under which signatures report. -/
def source : String := "flowdpi"

/-- The signatures applied unless others are chosen, in order. -/
def defaults : List Signature := [ftp, http, icmp, netBios, dns, rdp, rpc, smb, smtp, ssh, ssl]

/-- The protocol that the signature is for. -/
def protocol : Signature → Protocol
  | ftp => .ftp
  | http => .http
  | icmp => .icmp
  | netBios => .netBios
  | dns => .dns
  | rdp => .rdp
  | rpc => .rpc
  | smb => .smb
  | smtp => .smtp
  | ssh => .ssh
  | ssl => .ssl
  | jabber => .jabber
  | mqtt => .mqtt
  | port p => p

/-- Whether the packet's IP header announces the ICMP of its own version. -/
def announcesIcmp (p : Packet) : Bool :=
  match p.ip with
  | some (.ipv4 _ _ protocol) => protocol = IpNumber.icmpV4
  | some (.ipv6 _ _ nextHeader) => nextHeader = IpNumber.icmpV6
  | none => false

/-- The test on the packets of a flow. -/
def probe : Signature → List Packet → Probe Unit
  | ftp => ftpTest
  | http => httpTest
  | icmp => fun packets => Probe.demand (packets.any announcesIcmp)
  | netBios => netBiosTest
  | dns => dnsTest
  | rdp => rdpTest
  | rpc => rpcTest
  | smb => smbTest
  | smtp => smtpTest
  | ssh => sshTest
  | ssl => sslTest
  | jabber => jabberTest
  | mqtt => mqttTest
  | port p => portTest p

/-- Whether the packets look like the signature's protocol. -/
def detects (s : Signature) (packets : List Packet) : Bool := (s.probe packets).accepts

/-- The verdict of the first signature that matches, in order; the ones after it are not tried. -/
def scan : List Signature → List Packet → Guarded Empty Verdict
  | [], _ => pure .unknown
  | s :: later, packets =>
    match s.probe packets with
    | .ok () => pure ⟨s.protocol, source⟩
    | .error (.refused ()) => scan later packets
    | .error (.fault cause) => Guarded.halt cause

/-- The verdict of a list of signatures on some packets; a fault would count as no match. -/
def verdict (signatures : List Signature) (packets : List Packet) : Verdict :=
  match scan signatures packets with
  | .ok verdict => verdict
  | .error _ => .unknown

/-- The verdict of a list of signatures on a flow; it is stored with the flow if it is known. -/
def judge (signatures : List Signature) (f : Flow) : Flow × Verdict :=
  let verdict := verdict signatures f.packets
  (if verdict.isUnknown then f else f.store verdict, verdict)

end Signature
end FlowScope
