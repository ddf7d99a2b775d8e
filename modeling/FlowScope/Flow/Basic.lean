import FlowScope.Net.Packet
import FlowScope.Verdict

/-!
# Flows

A flow is one conversation: its packets in the order of their arrival, and the latest verdict stored
for it.
-/

namespace FlowScope

structure Flow where
  packets : List Packet := []
  verdict : Verdict := .unknown
  deriving Repr, DecidableEq, Inhabited

namespace Flow

/-- A flow that holds only one packet. -/
def single (p : Packet) : Flow := { packets := [p] }

/-- Appends a packet. -/
def push (f : Flow) (p : Packet) : Flow := { f with packets := f.packets ++ [p] }

/-- Stores a verdict in place of the one before. -/
def store (f : Flow) (v : Verdict) : Flow := { f with verdict := v }

end Flow
end FlowScope
