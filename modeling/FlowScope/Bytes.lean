/-!
# Byte strings

Payloads, frames and files are lists of octets. This module reads numbers out of them and
searches them:

* `Bytes.toNat` and `Bytes.ofNat` — the network-order value of a byte string and back;
* `Bytes.field?` — the octets of a fixed-width field, if they are all there;
* `Bytes.holds` — whether one byte string occurs inside another.

A field that lies partly outside the string is absent: no field is ever cut short.
-/

namespace FlowScope

/-- A byte string, first octet first. -/
abbrev Bytes := List UInt8

namespace Bytes

/-- The octets of an ASCII text. -/
def ofAscii (text : String) : Bytes := text.toList.map fun c => UInt8.ofNat c.toNat

/-- Whether the octet is a decimal digit in ASCII. -/
def isDigit (b : UInt8) : Bool := 48 ≤ b && b ≤ 57

/-! ### Numbers in network order -/

/-- The value of a byte string with its most significant octet first. -/
def toNat (bytes : Bytes) : Nat := bytes.foldl (fun n b => 256 * n + b.toNat) 0

/-- The `count` low octets of `n`, most significant first. -/
def ofNat : (count : Nat) → Nat → Bytes
  | 0, _ => []
  | count + 1, n => ofNat count (n / 256) ++ [UInt8.ofNat (n % 256)]

/-! ### Fields at an offset -/

/-- The `width` octets at offset `start`, if the string is long enough. -/
def field? (bytes : Bytes) (start width : Nat) : Option Bytes :=
  if start + width ≤ bytes.length then some ((bytes.drop start).take width) else none

/-- The number in the `width` octets at offset `start`, most significant first. -/
def number? (bytes : Bytes) (start width : Nat) : Option Nat :=
  (bytes.field? start width).map toNat

/-! ### Searching -/

/-- Whether `needle` occurs somewhere in `bytes`. -/
def holds (needle : Bytes) : Bytes → Bool
  | [] => needle.isEmpty
  | b :: rest => needle.isPrefixOf (b :: rest) || holds needle rest

end Bytes
end FlowScope
