/-!
# TCP control bits

The eight control bits of a TCP header, as one octet.
-/

namespace FlowScope

structure ControlBits where
  bits : UInt8
  deriving Repr, DecidableEq, Inhabited

namespace ControlBits

def fin : UInt8 := 0x01
def syn : UInt8 := 0x02
def rst : UInt8 := 0x04
def psh : UInt8 := 0x08
def ack : UInt8 := 0x10
def urg : UInt8 := 0x20
def ece : UInt8 := 0x40
def cwr : UInt8 := 0x80

/-- No bit set. -/
def none : ControlBits := ⟨0⟩

/-- The flags of a segment that carries data on an open connection. -/
def data : ControlBits := ⟨psh ||| ack⟩

/-- The names of the bits, lowest bit first. -/
def names : List (UInt8 × String) :=
  [(fin, "FIN"), (syn, "SYN"), (rst, "RST"), (psh, "PSH"), (ack, "ACK"), (urg, "URG"), (ece, "ECE"),
   (cwr, "CWR")]

/-- The bits that are set in an octet of a header, each looked at on its own. -/
def ofOctet (octet : UInt8) : ControlBits :=
  ⟨names.foldl (fun bits entry => if octet &&& entry.1 ≠ 0 then bits ||| entry.1 else bits) 0⟩

/-- Whether every bit of `mask` is set. -/
def contains (flags : ControlBits) (mask : UInt8) : Bool := flags.bits &&& mask = mask

/-- A segment that opens a connection has SYN set and ACK clear. -/
def opensConnection (flags : ControlBits) : Bool := flags.contains syn && !flags.contains ack

/-- The names of the bits that are set, or `NONE`. -/
def text (flags : ControlBits) : String :=
  if flags.bits = 0 then "NONE"
  else ",".intercalate ((names.filter fun entry => flags.contains entry.1).map (·.2))

end ControlBits
end FlowScope
