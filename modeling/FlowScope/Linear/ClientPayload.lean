import FlowScope.Net.Packet

/-!
# The payload that models are applied to

Models are trained on what the client sends first. Of a TCP conversation that is seen from its start,
it is the first payload after the handshake that comes from the client's port; of UDP it is the first
payload there is.
-/

namespace FlowScope

structure ClientPayload where
  transport : Transport
  payload : Bytes
  deriving Repr, DecidableEq

namespace ClientPayload

/-- The number of packets in a TCP handshake. -/
def handshake : Nat := 3

/-- The first payload among the packets that is not empty and passes the test. -/
def first? (kind : Transport) (test : Segment → Bool) (packets : List Packet) :
    Option ClientPayload :=
  packets.findSome? fun p =>
    ((p.segmentOf kind).filter fun s => test s && !s.payload.isEmpty).map
      fun s => ⟨kind, s.payload⟩

/-- The payload to apply a model to. A TCP conversation must start with a connection request and go on
after the handshake. -/
def ofPackets? (packets : List Packet) : Option ClientPayload := do
  let opening ← packets.head?
  let request ← opening.segment
  match request.kind with
  | .tcp =>
    if request.flags.opensConnection && handshake < packets.length then
      first? .tcp (·.srcPort = request.srcPort) (packets.drop handshake)
    else none
  | .udp => first? .udp (fun _ => true) packets

end ClientPayload
end FlowScope
