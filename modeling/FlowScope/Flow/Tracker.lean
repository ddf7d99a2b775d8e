import FlowScope.Flow.Basic
import FlowScope.Flow.Conversation

/-!
# Flow tracking

A tracker assigns each packet to its flow. It holds

* a **table** from conversations to flows, which exists between `start` and `stop` and drops a flow
  once it has been idle for the table's expiration time;
* every flow it ever handed out, numbered in that order: a flow that has left the table is still there
  for those who know its number;
* the number of flows dropped for being idle.

An idle flow is noticed in two ways: when a packet of its conversation arrives (`assign`), and when the
table is swept (`sweep`). Times are readings of a clock in milliseconds; the clock may be set back, and
then no time has passed.
-/

namespace FlowScope

/-- What the table knows of a flow: its number, and when its last packet came. -/
structure TableEntry where
  flow : Nat
  lastSeen : Int
  deriving Repr, DecidableEq

/-- The flows that new packets can join; without an expiration time they never leave. -/
structure FlowTable where
  expiration : Option Nat
  entries : List (Conversation × TableEntry) := []
  deriving Repr, DecidableEq

/-- The milliseconds from one clock reading to a later one; none if the clock was set back. -/
def elapsed (since now : Int) : Nat := (now - since).toNat

namespace FlowTable

def find? (table : FlowTable) (c : Conversation) : Option TableEntry := table.entries.lookup c

def erase (table : FlowTable) (c : Conversation) : FlowTable :=
  { table with entries := table.entries.filter (·.1 ≠ c) }

/-- Sets the entry of a conversation, which has one entry at most. -/
def insert (table : FlowTable) (c : Conversation) (entry : TableEntry) : FlowTable :=
  { table with entries := (c, entry) :: (table.erase c).entries }

/-- Whether the flow has been idle for the expiration time or longer. -/
def isExpired (table : FlowTable) (now : Int) (entry : TableEntry) : Bool :=
  match table.expiration with
  | some ttl => ttl ≤ elapsed entry.lastSeen now
  | none => false

end FlowTable

structure Tracker where
  table : Option FlowTable := none
  evicted : Nat := 0
  flows : Array Flow := #[]
  deriving Repr

/-- A packet of a conversation cannot be assigned while there is no table. -/
inductive NoTable
  | noTable
  deriving Repr, DecidableEq

def NoTable.message (_ : NoTable) : String := "flow cache used before FlowTracker::init_cache"

/-- The answer to a packet: the number of its flow, and whether the packet opened that flow. -/
structure Assigned where
  flow : Nat
  isNew : Bool
  deriving Repr, DecidableEq

namespace Tracker

/-! ### The life of the table -/

/-- Starts an empty table in place of the one there may be. An expiration time of zero means none. -/
def start (t : Tracker) (expiration : Option Nat) : Tracker :=
  { t with table := some { expiration := expiration.filter (· ≠ 0) } }

def stop (t : Tracker) : Tracker := { t with table := none }

/-- Forgets every flow in the table. -/
def clear (t : Tracker) : Tracker :=
  { t with table := t.table.map fun table => { table with entries := [] } }

def isStarted (t : Tracker) : Bool := t.table.isSome

/-- The number of flows in the table. -/
def tracked (t : Tracker) : Nat :=
  match t.table with
  | some table => table.entries.length
  | none => 0

/-! ### Assigning packets -/

/-- The flow with a number; an empty one for a number never handed out. -/
def flow (t : Tracker) (number : Nat) : Flow := t.flows.getD number {}

/-- Replaces a flow that was handed out. -/
def setFlow (t : Tracker) (number : Nat) (f : Flow) : Tracker :=
  { t with flows := t.flows.setIfInBounds number f }

/-- Hands out a new flow with one packet. -/
def openFlow (t : Tracker) (p : Packet) : Tracker × Assigned :=
  ({ t with flows := t.flows.push (.single p) }, ⟨t.flows.size, true⟩)

/-- Hands out a new flow with one packet, and puts it into the table in place of the flow that its
conversation may have there. -/
def openTracked (t : Tracker) (table : FlowTable) (now : Int) (c : Conversation) (p : Packet) :
    Tracker × Assigned :=
  { t with table := some (table.insert c ⟨t.flows.size, now⟩) }.openFlow p

/-- Appends a packet to a flow of the table. -/
def join (t : Tracker) (table : FlowTable) (now : Int) (c : Conversation) (entry : TableEntry)
    (p : Packet) : Tracker × Assigned :=
  let t := { t with table := some (table.insert c { entry with lastSeen := now }) }
  (t.setFlow entry.flow ((t.flow entry.flow).push p), ⟨entry.flow, false⟩)

/-- Assigns a packet to the flow that the table has for its conversation, unless that flow has expired,
and else to a new flow. A packet of no conversation gets a flow of its own, which never enters the
table. -/
def assign (t : Tracker) (now : Int) (p : Packet) : Except NoTable (Tracker × Assigned) :=
  match Conversation.ofPacket? p with
  | none => .ok (t.openFlow p)
  | some c =>
    match t.table with
    | none => .error .noTable
    | some table =>
      match table.find? c with
      | none => .ok (t.openTracked table now c p)
      | some entry =>
        if table.isExpired now entry then
          .ok ({ t with evicted := t.evicted + 1 }.openTracked table now c p)
        else .ok (t.join table now c entry p)

/-! ### Sweeping -/

/-- Drops every expired flow from the table, and says how many there were. -/
def sweep (t : Tracker) (now : Int) : Tracker × Nat :=
  match t.table with
  | none => (t, 0)
  | some table =>
    match table.expiration with
    | none => (t, 0)
    | some ttl =>
      let kept := table.entries.filter fun entry => elapsed entry.2.lastSeen now < ttl
      let removed := table.entries.length - kept.length
      ({ t with table := some { table with entries := kept }, evicted := t.evicted + removed }, removed)

end Tracker
end FlowScope
