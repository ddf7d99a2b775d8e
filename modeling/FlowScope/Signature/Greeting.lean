import FlowScope.Pieces
import FlowScope.Signature.Scan

/-!
# Greetings

Protocols in which one side introduces itself in lines of text:

* FTP and SMTP servers greet with reply 220, and the client's next payload is a command;
* SSH peers send an identification line.
-/

namespace FlowScope.Signature

def lineFeed : UInt8 := 10

/-- Whether every line of the payload that is not empty is a `220` reply. -/
def isGreeting (payload : Bytes) : Bool :=
  (pieces (· = lineFeed) payload).all fun line => line.isEmpty || (Bytes.ofAscii "220").isPrefixOf line

def endsLine (payload : Bytes) : Bool := payload.getLast? == some lineFeed

/-- Whether the payload is one of the commands, up to the end of a line. -/
def isCommand (commands : List String) (payload : Bytes) : Bool :=
  commands.any (fun command => (Bytes.ofAscii command).isPrefixOf payload) && endsLine payload

/-- A service's greeting, and one of the commands as the next payload. -/
def answeredGreeting (commands : List String) (packets : List Packet) : Probe Unit :=
  onFirstPayload .tcp packets fun greeting rest => do
    Probe.demand (isGreeting greeting)
    onFirstPayload .tcp rest fun command _ => Probe.demand (isCommand commands command)

def ftpTest (packets : List Packet) : Probe Unit := answeredGreeting ["USER "] packets

def smtpTest (packets : List Packet) : Probe Unit := answeredGreeting ["EHLO ", "HELO "] packets

/-- Whether the payload is a line that starts with `SSH` or names OpenSSH. -/
def isIdentification (payload : Bytes) : Bool :=
  endsLine payload &&
    ((Bytes.ofAscii "SSH").isPrefixOf payload || (Bytes.ofAscii "OpenSSH").holds payload)

def sshTest (packets : List Packet) : Probe Unit :=
  onFirstPayload .tcp packets fun payload _ => Probe.demand (isIdentification payload)

end FlowScope.Signature
