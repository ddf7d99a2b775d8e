import FlowScope.Bytes
import FlowScope.Text.Quoted

/-!
# Addresses and endpoints

An address is the number that its octets make in network order, of 32 bits for IPv4 and of 128 bits
for IPv6. An endpoint is an address with a port.

* `Address.text` writes IPv4 as four decimal octets and IPv6 as hexadecimal groups, the first of the
  longest runs of two or more zero groups being left out; an IPv6 address that carries an IPv4 address
  shows it in decimal.
* `Endpoint.rank` orders endpoints by port, then IPv4 before IPv6, then by number.
-/

namespace FlowScope

inductive Address
  | v4 (value : BitVec 32)
  | v6 (value : BitVec 128)
  deriving Repr, DecidableEq

namespace Address

/-! ### Octets and groups -/

/-- The address that four or sixteen octets make. -/
def ofOctets? (octets : Bytes) : Option Address :=
  if octets.length = 4 then some (.v4 (.ofNat 32 octets.toNat))
  else if octets.length = 16 then some (.v6 (.ofNat 128 octets.toNat))
  else none

/-- The octets in network order. -/
def octets : Address → Bytes
  | v4 value => Bytes.ofNat 4 value.toNat
  | v6 value => Bytes.ofNat 16 value.toNat

/-- The IPv6 address that carries an IPv4 address in its low bits. -/
def mapped (value : BitVec 32) : BitVec 128 := .ofNat 128 (0xffff00000000 + value.toNat)

/-- The address as an IPv6 address. -/
def toV6 : Address → BitVec 128
  | v4 value => mapped value
  | v6 value => value

/-- The IPv4 address that an IPv6 address carries, if it carries one. -/
def carried? (value : BitVec 128) : Option (BitVec 32) :=
  if value.toNat / 0x100000000 = 0xffff then some (.ofNat 32 value.toNat) else none

/-- The `count` low groups of 16 bits, most significant first. -/
def groups : (count : Nat) → Nat → List Nat
  | 0, _ => []
  | count + 1, n => groups count (n / 65536) ++ [n % 65536]

/-! ### Text -/

/-- A run of zero groups: where it starts and how long it is. -/
structure ZeroRun where
  start : Nat
  length : Nat
  deriving Repr, DecidableEq

/-- The longest run of zeros, the first one of several; `position` is that of the list's head. -/
def longestZeros (position : Nat) : List Nat → ZeroRun
  | [] => ⟨position, 0⟩
  | g :: rest =>
    let here : ZeroRun := ⟨position, ((g :: rest).takeWhile (· = 0)).length⟩
    let later := longestZeros (position + 1) rest
    if later.length ≤ here.length then here else later

def joinGroups (gs : List Nat) : String := ":".intercalate (gs.map Text.hexadecimal)

/-- The text of eight groups, leaving out the longest run of two or more zeros. -/
def groupsText (gs : List Nat) : String :=
  let run := longestZeros 0 gs
  if run.length < 2 then joinGroups gs
  else joinGroups (gs.take run.start) ++ "::" ++ joinGroups (gs.drop (run.start + run.length))

def v4Text (value : BitVec 32) : String :=
  ".".intercalate ((Bytes.ofNat 4 value.toNat).map fun octet => toString octet.toNat)

def text : Address → String
  | v4 value => v4Text value
  | v6 value => match carried? value with
    | some inner => "::ffff:" ++ v4Text inner
    | none => groupsText (groups 8 value.toNat)

/-! ### Order -/

/-- The place of an address in the order: IPv4 before IPv6, then by number. -/
def rank : Address → Nat
  | v4 value => value.toNat
  | v6 value => 0x100000000 + value.toNat

end Address

/-- An address and a port. -/
structure Endpoint where
  address : Address
  port : UInt16
  deriving Repr, DecidableEq

namespace Endpoint

/-- The endpoint as text; the address of an IPv6 endpoint stands in brackets. -/
def text (e : Endpoint) : String :=
  match e.address with
  | .v4 _ => e.address.text ++ ":" ++ toString e.port.toNat
  | .v6 _ => "[" ++ e.address.text ++ "]:" ++ toString e.port.toNat

/-- The place of an endpoint in the order: by port, then by address. -/
def rank (e : Endpoint) : Nat := e.port.toNat <<< 129 + e.address.rank

end Endpoint
end FlowScope
