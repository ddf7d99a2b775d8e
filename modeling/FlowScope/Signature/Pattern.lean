import FlowScope.Pieces
import FlowScope.Signature.Scan

/-!
# Text patterns

Signatures given by a pattern of octets: the head of an HTTP request, and the XML prolog that opens
an XMPP stream. The patterns are read left to right; each repetition is followed by an octet that it
cannot take itself, so it always takes all it can.

An HTTP request head need not be all of the payload: nothing depends on what follows its blank line.
An XML prolog may stand anywhere.
-/

namespace FlowScope.Signature

/-- The blanks of a pattern: tab, line feed, vertical tab, form feed, carriage return and space. -/
def isSpace (b : UInt8) : Bool := b = 32 || (9 ≤ b && b ≤ 13)

/-- What follows a literal at the start of the bytes. -/
def after? (literal : String) (bytes : Bytes) : Option Bytes :=
  let octets := Bytes.ofAscii literal
  if octets.isPrefixOf bytes then some (bytes.drop octets.length) else none

/-- What follows a run of one or more octets of a class. -/
def afterSome? (p : UInt8 → Bool) (bytes : Bytes) : Option Bytes :=
  match bytes with
  | [] => none
  | b :: rest => if p b then some (rest.dropWhile p) else none

/-- What follows one octet of a class. -/
def afterOne? (p : UInt8 → Bool) (bytes : Bytes) : Option Bytes :=
  match bytes with
  | [] => none
  | b :: rest => if p b then some rest else none

/-! ### HTTP -/

def verbs : List String := ["OPTIONS", "GET", "HEAD", "POST", "PUT", "DELETE", "TRACE", "CONNECT"]

/-- What follows a verb and the space after it. -/
def afterVerb? (bytes : Bytes) : Option Bytes := verbs.findSome? fun verb => after? (verb ++ " ") bytes

/-- What follows a version number: `1` or `2`, and then maybe `.0` or `.1`. -/
def afterVersion? (bytes : Bytes) : Option Bytes :=
  (afterOne? (fun b => b = 49 || b = 50) bytes).map fun rest =>
    ((after? "." rest).bind (afterOne? fun b => b = 48 || b = 49)).getD rest

/-- What follows a request line. -/
def afterRequestLine? (bytes : Bytes) : Option Bytes := do
  let target ← afterVerb? bytes
  let version ← afterSome? (!isSpace ·) target
  let number ← after? " HTTP/" version
  let lineEnd ← afterVersion? number
  after? "\r\n" lineEnd

def carriageReturn : UInt8 := 13

/-- Whether one of the lines is a carriage return alone, and all before it end in one. -/
def endsHead : List Bytes → Bool
  | [] => false
  | line :: later =>
    line == [carriageReturn] || (line.getLast? == some carriageReturn && endsHead later)

/-- The lines that are ended by a line feed. -/
def endedLines (bytes : Bytes) : List Bytes := (pieces (· = 10) bytes).dropLast

/-- Whether the payload starts with a complete request head. -/
def isRequestHead (payload : Bytes) : Bool :=
  match afterRequestLine? payload with
  | some rest => endsHead (endedLines rest)
  | none => false

def httpTest (packets : List Packet) : Probe Unit :=
  onFirstPayload .tcp packets fun payload _ => Probe.demand (isRequestHead payload)

/-! ### XMPP -/

def isQuote (b : UInt8) : Bool := b = 34 || b = 39

/-- What follows an XML prolog, up to its version number in quotes. -/
def afterProlog? (bytes : Bytes) : Option Bytes := do
  let blanks ← after? "<?xml" bytes
  let declaration ← afterSome? isSpace blanks
  let quote ← after? "version=" declaration
  let major ← afterOne? isQuote quote
  let point ← afterSome? Bytes.isDigit major
  let minor ← after? "." point
  let close ← afterSome? Bytes.isDigit minor
  afterOne? isQuote close

/-- Whether an XML prolog stands somewhere in the bytes. -/
def holdsProlog : Bytes → Bool
  | [] => false
  | b :: rest => (afterProlog? (b :: rest)).isSome || holdsProlog rest

def jabberTest (packets : List Packet) : Probe Unit :=
  onFirstPayload .tcp packets fun payload _ => Probe.demand (holdsProlog payload)

end FlowScope.Signature
