import FlowScope.Signature.Scan

/-!
# DNS messages

A DNS message is recognised by reading all of it: the header's counts, that many questions, and that
many records. Names are walked through their compression pointers while two counts stay within their
limits — the pointers followed, and the octets of the name — so a walk ends whatever the pointers say.

Offsets count from the start of the message; a message is held as an array, since a name may send the
walk anywhere in it.
-/

namespace FlowScope.Signature.Dns

open Guarded Probe

abbrev Message := Array UInt8

def headerSize : Nat := 12

/-- The number of pointers that a name may follow. -/
def maxPointers : Nat := 255

/-- The number of octets allowed to the labels of a name, each counted with its length octet. -/
def maxNameSize : Nat := 255

/-- The records of the three sections are counted in 32 bits. -/
def countLimit : Nat := 0x100000000

/-! ### Reading at an offset -/

/-- The number in the two octets at an offset; a mismatch if they are not both there. -/
def word (msg : Message) (offset : Nat) : Probe Nat := do
  let next ← add offset 1
  let _ ← add offset 2
  match msg[offset]?, msg[next]? with
  | some high, some low => pure (256 * high.toNat + low.toNat)
  | _, _ => mismatch

/-- The offset `length` octets on, if these are all there. -/
def advance (msg : Message) (offset length : Nat) : Probe Nat :=
  if offset + length ≤ msg.size then pure (offset + length) else mismatch

/-! ### Names -/

/-- Walks a name from `offset` on and gives the offset after it: behind the first pointer if there is
one, and behind the zero octet otherwise. `resume` is the offset behind the first pointer followed so
far; `pointers` is the number of pointers followed, and `used` that of the octets of the labels. -/
def walk (msg : Message) (offset : Nat) (resume : Option Nat) (pointers used : Nat) : Probe Nat :=
  match msg[offset]? with
  | none => mismatch
  | some size =>
    if size &&& 0xc0 = 0xc0 then do
      let target := (← word msg offset) % 0x4000
      let _ ← add pointers 1
      if _fits : pointers + 1 ≤ maxPointers ∧ target < msg.size then
        let after ← add offset 2
        walk msg target (some (resume.getD after)) (pointers + 1) used
      else mismatch
    else if size &&& 0xc0 = 0 then
      if size = 0 then do
        let after ← add offset 1
        pure (resume.getD after)
      else do
        let label ← add offset 1
        let labelEnd ← advance msg label size.toNat
        let _ ← add used (size.toNat + 1)
        if _fits : used + (size.toNat + 1) ≤ maxNameSize then
          walk msg labelEnd resume pointers (used + (size.toNat + 1))
        else mismatch
    else mismatch
termination_by (maxPointers - pointers) + (maxNameSize - used)

/-- The offset after the name at `start`. -/
def nameEnd (msg : Message) (start : Nat) : Probe Nat := walk msg start none 0 0

/-! ### Questions and records -/

/-- The offset after a question: a name, its type and its class. -/
def questionEnd (msg : Message) (start : Nat) : Probe Nat := do
  advance msg (← nameEnd msg start) 4

/-- The types of records whose data are checked. -/
inductive RecordData
  | address (size : Nat)
  | name
  | preferredName
  | service
  | authority
  | uncheckedData
  deriving Repr, DecidableEq

def RecordData.ofType (recordType : Nat) : RecordData :=
  match recordType with
  | 1 => .address 4
  | 28 => .address 16
  | 2 | 5 | 12 => .name
  | 15 => .preferredName
  | 33 => .service
  | 6 => .authority
  | _ => .uncheckedData

/-- Checks the data of a record, which lie between two offsets: a name in them must end in them. -/
def checkData (msg : Message) (start finish : Nat) : RecordData → Probe Unit
  | .address size => demand (finish - start = size)
  | .name => do
    let nameEnd ← nameEnd msg start
    demand (nameEnd ≤ finish)
  | .preferredName => do
    let nameEnd ← nameEnd msg (← add start 2)
    demand (nameEnd ≤ finish)
  | .service => do
    let nameEnd ← nameEnd msg (← add start 6)
    demand (nameEnd ≤ finish)
  | .authority => do
    let nameEnd ← nameEnd msg (← nameEnd msg start)
    let last ← add nameEnd 20
    demand (last ≤ finish)
  | .uncheckedData => pure ()

/-- The offset after a record: a name, ten octets that end in the length of the data, and the data. -/
def recordEnd (msg : Message) (start : Nat) : Probe Nat := do
  let fixed ← nameEnd msg start
  let recordType ← word msg fixed
  let length ← word msg (← add fixed 8)
  let data ← advance msg fixed 10
  let finish ← advance msg data length
  checkData msg data finish (.ofType recordType)
  pure finish

/-! ### Messages -/

/-- The counts of a message: its questions, and the records of its three sections. -/
structure Shape where
  questions : Nat
  records : Nat
  deriving Repr, DecidableEq

/-- Applies a step `count` times, from one offset to the next. -/
def advanceBy (step : Nat → Probe Nat) : (count : Nat) → (offset : Nat) → Probe Nat
  | 0, offset => pure offset
  | count + 1, offset => do advanceBy step count (← step offset)

/-- Reads a whole message and gives its shape. -/
def shape (msg : Message) : Probe Shape := do
  demand (headerSize ≤ msg.size)
  let questions ← word msg 4
  let answers ← word msg 6
  let authorities ← word msg 8
  let additional ← word msg 10
  let records ← addBelow countLimit (← addBelow countLimit answers authorities) additional
  let afterQuestions ← advanceBy (questionEnd msg) questions headerSize
  let _ ← advanceBy (recordEnd msg) records afterQuestions
  pure ⟨questions, records⟩

/-- The shape of a payload that is a DNS message; octets after the last record do no harm. -/
def parse (payload : Bytes) : Probe Shape := shape payload.toArray

end Dns

def dnsTest (packets : List Packet) : Probe Unit :=
  onFirstPayload .udp packets fun payload _ => do
    let _ ← Dns.parse payload
    pure ()

end FlowScope.Signature
