import FlowScope.Net.Packet

/-!
# Conversations

The identity of a conversation: its transport and its two endpoints, whichever of them is the source.
The endpoints are kept in the order of `Endpoint.rank`, so both directions give the same conversation.
-/

namespace FlowScope

structure Conversation where
  transport : Transport
  lower : Endpoint
  upper : Endpoint
  deriving Repr, DecidableEq

namespace Conversation

/-- The conversation between two endpoints. -/
def between (transport : Transport) (src dst : Endpoint) : Conversation :=
  if dst.rank < src.rank then ⟨transport, dst, src⟩ else ⟨transport, src, dst⟩

/-- The conversation of a packet that has both an IP header and ports. -/
def ofPacket? (p : Packet) : Option Conversation := do
  let segment ← p.segment
  let (src, dst) ← p.endpoints
  pure (between segment.kind src dst)

def text (c : Conversation) : String :=
  c.transport.name ++ "/" ++ c.lower.text ++ "," ++ c.upper.text

end Conversation
end FlowScope
