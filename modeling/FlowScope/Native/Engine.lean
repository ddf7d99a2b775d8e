import FlowScope.Native.Error
import FlowScope.Net.Packet
import FlowScope.Protocol

/-!
# Native inspection engines

The two kinds of native library that can be asked for the protocol of a flow, seen from outside:

* nDPI gets the packets one at a time and answers each with a code;
* libprotoident gets the raw frames and is then asked once for its guess.

Either may refuse to open a flow. An engine is given by what it answers; `ask` also records the calls
that were made to it, in order.
-/

namespace FlowScope

/-- A call to a native library. -/
inductive NativeCall
  /-- A native flow is asked for, with the first packet where the library wants to see it. -/
  | openFlow (first : Option Packet)
  | inspect (p : Packet)
  | addFrame (frame : Bytes)
  | guess
  deriving Repr, DecidableEq

/-- The calls made to answer one question, and the answer. -/
structure Inquiry where
  calls : List NativeCall
  answer : Except InspectorError Protocol

/-! ### nDPI -/

namespace Ndpi

def name : String := "nDPI"

/-- The protocol that a code stands for, if it is one of those reported. -/
def protocol? (code : Int) : Option Protocol :=
  match code with
  | 7 => some .http
  | 5 => some .dns
  | 92 => some .ssh
  | 127 => some .rpc
  | 3 => some .smtp
  | 88 => some .rdp
  | 16 => some .smb
  | 81 => some .icmp
  | 1 => some .ftp
  | 91 => some .ssl
  | 64 => some .ssl
  | 10 => some .netBios
  | _ => none

/-- What a negative code says. -/
def error (code : Int) : InspectorError :=
  if code = -10 then .ipv6 name
  else if code = -11 then .fragment name
  else if code = -12 then .noFlow name
  else .native name code

/-- Gives packets to a native flow until a code is a protocol or an error. `codeAfter` is the code
that the flow answers to the last of the packets given to it; `given` are those before these. -/
def inspect (codeAfter : List Packet → Int) (given : List Packet) : List Packet → Inquiry
  | [] => ⟨[], .ok .unknown⟩
  | p :: later =>
    let given := given ++ [p]
    let code := codeAfter given
    match protocol? code with
    | some protocol => ⟨[.inspect p], .ok protocol⟩
    | none =>
      if code < 0 then ⟨[.inspect p], .error (error code)⟩
      else
        let rest := inspect codeAfter given later
        { rest with calls := .inspect p :: rest.calls }

/-- Asks for the protocol of a flow; a flow without packets is not shown to the library. -/
def ask (openFlow : Packet → Option (List Packet → Int)) (packets : List Packet) : Inquiry :=
  match packets with
  | [] => ⟨[], .ok .unknown⟩
  | first :: _ =>
    match openFlow first with
    | none => ⟨[.openFlow first], .error (error (-12))⟩
    | some codeAfter =>
      let rest := inspect codeAfter [] packets
      { rest with calls := .openFlow first :: rest.calls }

end Ndpi

/-! ### libprotoident -/

namespace Protoident

def name : String := "libprotoident"

/-- The protocol that a code stands for, if it is one of those reported. -/
def protocol? (code : Nat) : Option Protocol :=
  match code with
  | 0 => some .http
  | 14 => some .dns
  | 201 => some .dns
  | 8 => some .ssh
  | 23 => some .rpc
  | 1 => some .smtp
  | 92 => some .smtp
  | 21 => some .rdp
  | 24 => some .smb
  | 380 => some .icmp
  | 27 => some .ftp
  | 12 => some .ssl
  | 37 => some .netBios
  | _ => none

/-- Asks for the protocol of a flow. The library sees the frames only, so a packet made without one
is not shown to it. -/
def ask (openFlow : Option (List Bytes → Nat)) (packets : List Packet) : Inquiry :=
  match openFlow with
  | none => ⟨[.openFlow none], .error (.noFlow name)⟩
  | some guessFor =>
    let frames := (packets.map (·.frame)).filter (!·.isEmpty)
    ⟨.openFlow none :: frames.map .addFrame ++ [.guess],
      .ok ((protocol? (guessFor frames)).getD .unknown)⟩

end Protoident

/-! ### Engines -/

/-- A native library, given by its answers. -/
inductive Engine
  /-- Answers for the flow as a whole. -/
  | direct (answer : List Packet → Except InspectorError Protocol)
  /-- Opens native flows, each of which answers the packets given to it so far with a code. -/
  | ndpi (openFlow : Packet → Option (List Packet → Int))
  /-- Opens native flows, each of which guesses from the frames given to it. -/
  | protoident (openFlow : Option (List Bytes → Nat))

/-- Asks an engine for the protocol of a flow. -/
def Engine.ask : Engine → List Packet → Inquiry
  | direct answer, packets => ⟨[], answer packets⟩
  | ndpi openFlow, packets => Ndpi.ask openFlow packets
  | protoident openFlow, packets => Protoident.ask openFlow packets

end FlowScope
