import FlowScope.Guarded
import FlowScope.Net.Packet

/-!
# Scanning a flow's packets

Nearly every signature looks at one payload only: the first that is not empty on its transport.
`firstPayload` finds it and where it is, so that a signature can look for the answer to it in the
packets after it. Packets of the other transport, or of none, are passed over.
-/

namespace FlowScope.Signature

/-- The payload of a packet, if it is of the given transport and not empty. -/
def payloadOf (kind : Transport) (p : Packet) : Option Bytes :=
  ((p.segmentOf kind).filter fun segment => !segment.payload.isEmpty).map (·.payload)

/-- The first payload of a transport that is not empty, after the position of the packet it is in. -/
def firstPayload (kind : Transport) : List Packet → Option (Nat × Bytes)
  | [] => none
  | p :: rest =>
    match payloadOf kind p with
    | some payload => some (0, payload)
    | none => (firstPayload kind rest).map fun (position, payload) => (position + 1, payload)

/-- Tests the first payload of a transport, together with the packets after the one it is in; without
one there is no match. -/
def onFirstPayload (kind : Transport) (packets : List Packet)
    (test : Bytes → List Packet → Probe Unit) : Probe Unit :=
  match firstPayload kind packets with
  | some (position, payload) => do
    let rest ← Guarded.tail packets (position + 1)
    test payload rest
  | none => Probe.mismatch

end FlowScope.Signature
