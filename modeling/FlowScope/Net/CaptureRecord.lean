import FlowScope.Json.Decode
import FlowScope.Net.Frame
import FlowScope.Text.Blank

/-!
# Capture records

A captured frame as a JSON record: when it was captured, where its headers start, and its octets in
hexadecimal digits. Only the octets must be given.
-/

namespace FlowScope

structure CaptureRecord where
  timestamp : Nat
  link : Link
  frame : String
  deriving Repr, DecidableEq

/-- Why an input line gives no packet: it is no record, its frame is not hexadecimal, or the frame is
malformed. -/
inductive LineError
  | json
  | hex
  | frame
  deriving Repr, DecidableEq

def LineError.name : LineError → String
  | json => "json"
  | hex => "hex"
  | frame => "frame"

/-- The kind of link with a name. -/
def Link.ofName? (text : String) : Option Link :=
  if text = Link.ethernet.name then some .ethernet
  else if text = Link.ip.name then some .ip
  else none

namespace CaptureRecord

def fieldNames : List String := ["timestamp_ns", "link", "frame"]

def mostTimestamp : Nat := 0xffffffffffffffff

/-- The record in a JSON value. -/
def ofJson? (v : Json.Value) : Option CaptureRecord := do
  match ← v.record? fieldNames with
  | [timestamp, link, some frame] =>
    let timestamp ← Json.Value.fieldOr 0 (Json.Value.natural? mostTimestamp) timestamp
    let link ← Json.Value.fieldOr .ethernet (fun v => v.name?.bind Link.ofName?) link
    let frame ← frame.string?
    pure { timestamp, link, frame }
  | _ => none

/-- The record on an input line. -/
def ofLine? (line : Bytes) : Option CaptureRecord := (Json.Value.read? line).bind ofJson?

/-- The packet of a record; blanks around the digits of its frame do not count. -/
def packet (r : CaptureRecord) : Except LineError Packet :=
  match Hex.decode? (Text.trim r.frame.toList) with
  | none => .error .hex
  | some octets =>
    match Packet.ofFrame? r.link octets ⟨r.timestamp, octets.length, octets.length⟩ with
    | none => .error .frame
    | some p => .ok p

end CaptureRecord
end FlowScope
