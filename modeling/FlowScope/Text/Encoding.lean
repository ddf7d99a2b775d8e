import FlowScope.Bytes

/-!
# Text as bytes

* `Text.ofUtf8?` reads a byte string as UTF-8 text; a string with one ill-formed sequence is no text.
* `Hex.decode?` reads pairs of hexadecimal digits of either case as octets.
-/

namespace FlowScope

namespace Text

/-- The text whose UTF-8 form the bytes are, if they are well-formed. -/
def ofUtf8? (bytes : Bytes) : Option String := String.fromUTF8? ⟨bytes.toArray⟩

/-- The UTF-8 form of a text. -/
def toUtf8 (text : String) : Bytes := text.toUTF8.toList

end Text

namespace Hex

/-- The value of a hexadecimal digit. -/
def digit? (c : Char) : Option Nat :=
  if '0' ≤ c && c ≤ '9' then some (c.toNat - '0'.toNat)
  else if 'a' ≤ c && c ≤ 'f' then some (c.toNat - 'a'.toNat + 10)
  else if 'A' ≤ c && c ≤ 'F' then some (c.toNat - 'A'.toNat + 10)
  else none

/-- Reads one more digit to the left of those read so far: the octets to the right of it, and the low
digit of the next octet if that digit has been read. -/
def decodeStep (c : Char) (read : Option (Option Nat × Bytes)) : Option (Option Nat × Bytes) := do
  let (low, bytes) ← read
  let d ← digit? c
  match low with
  | none => pure (some d, bytes)
  | some l => pure (none, UInt8.ofNat (16 * d + l) :: bytes)

/-- The octets written as pairs of digits, high digit first; nothing else may occur. -/
def decode? (cs : List Char) : Option Bytes :=
  match cs.foldr decodeStep (some (none, [])) with
  | some (none, bytes) => some bytes
  | _ => none

end Hex
end FlowScope
