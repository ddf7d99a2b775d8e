import FlowScope.Pieces
import FlowScope.Signature.Scan

/-!
# Framed messages

Signatures of messages whose first octets are fixed or state the length of the message. Each test
reads what it needs by offset and compares lengths by subtraction, behind a check that the payload is
long enough.
-/

namespace FlowScope.Signature

open Guarded Probe

/-- A TLS record that holds one whole ClientHello. -/
def clientHello (payload : Bytes) : Probe Unit := do
  let recordLength ← number payload 3 2
  let helloLength ← number payload 6 3
  let recordType ← octet payload 0
  let version ← octet payload 1
  let message ← octet payload 5
  let afterRecord ← sub payload.length 5
  let afterHello ← sub payload.length 9
  demand (recordType = 22 ∧ version ≤ 3 ∧ recordLength = afterRecord)
  demand (message = 1 ∧ helloLength = afterHello)

/-- An RDP connection request: a TPKT header, a COTP header and a cookie. -/
def connectionRequest (payload : Bytes) : Probe Unit := do
  demand (20 ≤ payload.length)
  let version ← octet payload 0
  let reserved ← octet payload 1
  let tpktLength ← number payload 2 2
  let cotpLength ← octet payload 4
  let cotpType ← octet payload 5
  let afterCotp ← sub payload.length 5
  let cookie ← tail payload 11
  demand (version = 3 ∧ reserved = 0 ∧ tpktLength = payload.length)
  demand (cotpLength.toNat = afterCotp ∧ cotpType = 0xe0)
  demand ((Bytes.ofAscii "mstshash=").holds cookie ∨ (Bytes.ofAscii "msts=").holds cookie)

/-- The fixed start of a DCE/RPC bind request, version 5.0, little-endian. -/
def bindHeader : Bytes := [5, 0, 11, 3, 16, 0, 0, 0]

/-- A DCE/RPC bind request in one fragment. -/
def bindRequest (payload : Bytes) : Probe Unit := do
  demand (24 ≤ payload.length)
  demand (bindHeader.isPrefixOf payload)
  let low ← octet payload 8
  let high ← octet payload 9
  demand (256 * high.toNat + low.toNat = payload.length)

/-- An MQTT CONNECT message whose length takes one octet. -/
def connect (payload : Bytes) : Probe Unit := do
  demand (6 ≤ payload.length)
  let message ← octet payload 0
  let length ← octet payload 1
  let afterLength ← sub payload.length 2
  let name ← tail payload 4
  demand (message = 0x10 ∧ length.toNat = afterLength ∧ (Bytes.ofAscii "MQ").isPrefixOf name)

/-! ### NetBIOS -/

/-- A NetBIOS session request: two names, both padded in front, each ended by a zero. -/
def sessionRequest (payload : Bytes) : Probe Unit := do
  demand (8 ≤ payload.length)
  let length ← number payload 2 2
  let names ← tail payload 4
  let total ← add length 4
  let message ← octet payload 0
  let flags ← octet payload 1
  demand (total = payload.length ∧ message = 0x81 ∧ flags = 0)
  match pieces (· = 0) names with
  | [called, calling, _] => demand (called.head? = some 32 ∧ calling.head? = some 32)
  | _ => mismatch

/-- The counts of a query with one question and no records. -/
def oneQuestion : Bytes := [0, 1, 0, 0, 0, 0, 0, 0]

/-- A NetBIOS name query, marked as a broadcast or as one to a single node. -/
def nameQuery (broadcast : Bool) (payload : Bytes) : Probe Unit := do
  demand (payload.length = 50)
  let counts ← slice payload 4 8
  let high ← octet payload 2
  let low ← octet payload 3
  demand (counts = oneQuestion)
  if broadcast then demand (high = 1 ∧ low = 0x10) else demand (high = 0 ∧ low = 0)

/-- Whether the packet goes to an IPv4 address that ends in 255. -/
def isBroadcast (p : Packet) : Bool :=
  match p.ip with
  | some (.ipv4 _ dst _) => dst.toNat % 256 = 255
  | _ => false

/-- A session request over TCP, or a name query over UDP. Which form of query is expected depends on
the destination of the flow's first packet. -/
def netBiosTest (packets : List Packet) : Probe Unit :=
  let broadcast := match packets with
    | p :: _ => isBroadcast p
    | [] => false
  orElse (onFirstPayload .tcp packets fun payload _ => sessionRequest payload)
    (onFirstPayload .udp packets fun payload _ => nameQuery broadcast payload)

/-! ### SMB -/

def smbMagic : Bytes := [0xff, 0x53, 0x4d, 0x42]

/-- The message behind a NetBIOS session header, if there is one that covers the rest. -/
def sessionMessage (payload : Bytes) : Probe Bytes := do
  if 4 < payload.length then
    let first ← octet payload 0
    let length ← number payload 0 4
    let afterHeader ← sub payload.length 4
    if first = 0 ∧ length = afterHeader then tail payload 4 else pure payload
  else pure payload

/-- A request to negotiate SMB1. -/
def negotiateRequest (payload : Bytes) : Probe Unit := do
  let message ← sessionMessage payload
  demand (10 ≤ message.length)
  let command ← octet message 4
  let status ← number message 5 4
  let flags ← octet message 9
  demand (smbMagic.isPrefixOf message ∧ command = 0x72 ∧ status = 0 ∧ flags &&& 0x80 = 0)

/-! ### The tests on flows -/

def sslTest (packets : List Packet) : Probe Unit :=
  onFirstPayload .tcp packets fun payload _ => clientHello payload

def rdpTest (packets : List Packet) : Probe Unit :=
  onFirstPayload .tcp packets fun payload _ => connectionRequest payload

def rpcTest (packets : List Packet) : Probe Unit :=
  onFirstPayload .tcp packets fun payload _ => bindRequest payload

def mqttTest (packets : List Packet) : Probe Unit :=
  onFirstPayload .tcp packets fun payload _ => connect payload

def smbTest (packets : List Packet) : Probe Unit :=
  onFirstPayload .tcp packets fun payload _ => negotiateRequest payload

end FlowScope.Signature
