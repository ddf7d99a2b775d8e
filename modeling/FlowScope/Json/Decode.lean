import FlowScope.Json.Number
import FlowScope.Json.Value
import FlowScope.Text.Encoding

/-!
# Records in JSON

A record is written as an object, or as an array of its fields in their order. Other members of an
object are ignored, whatever they hold, but their keys must be text. A field may not be given twice.
What is looked at must be of the right kind: there is no conversion, and null is not a missing field.
-/

namespace FlowScope.Json

/-! ### Text -/

def hexValue (digits : Bytes) : Nat :=
  digits.foldl (fun n d => 16 * n + ((Hex.digit? (Char.ofNat d.toNat)).getD 0)) 0

/-- The UTF-8 form of a code point. -/
def utf8Of (code : Nat) : Bytes := Text.toUtf8 (Char.ofNat code).toString

def isHighSurrogate (code : Nat) : Bool := 0xd800 ≤ code && code < 0xdc00
def isLowSurrogate (code : Nat) : Bool := 0xdc00 ≤ code && code < 0xe000

/-- What an escape of one letter stands for. -/
def unescaped (letter : UInt8) : UInt8 :=
  if letter = 98 then 8
  else if letter = 102 then 12
  else if letter = 110 then 10
  else if letter = 114 then 13
  else if letter = 116 then 9
  else letter

/-- Resolves the escapes of a string; `done` is what was resolved before, in reverse. A code point
beyond 16 bits is written as two surrogates, and a surrogate alone stands for nothing. -/
def resolve? (done : Bytes) : Bytes → Option Bytes
  | [] => some done.reverse
  | 92 :: 117 :: a :: b :: c :: d :: 92 :: 117 :: e :: f :: g :: h :: rest =>
    let first := hexValue [a, b, c, d]
    let second := hexValue [e, f, g, h]
    if isHighSurrogate first then
      if isLowSurrogate second then
        let code := 0x10000 + (first - 0xd800) * 0x400 + (second - 0xdc00)
        resolve? ((utf8Of code).reverse ++ done) rest
      else none
    else if isLowSurrogate first then none
    else resolve? ((utf8Of first).reverse ++ done) (92 :: 117 :: e :: f :: g :: h :: rest)
  | 92 :: 117 :: a :: b :: c :: d :: rest =>
    let code := hexValue [a, b, c, d]
    if isHighSurrogate code || isLowSurrogate code then none
    else resolve? ((utf8Of code).reverse ++ done) rest
  | 92 :: letter :: rest => resolve? (unescaped letter :: done) rest
  | b :: rest => resolve? (b :: done) rest

/-- The text of a string. -/
def text? (raw : Bytes) : Option String := (resolve? [] raw).bind Text.ofUtf8?

/-! ### Values of one kind -/

namespace Value

def string? : Value → Option String
  | .string raw => text? raw
  | _ => none

/-- An integer within bounds. -/
def integer? (least most : Int) : Value → Option Int
  | .number n => n.integer?.filter fun i => least ≤ i && i ≤ most
  | _ => none

/-- A natural number of at most `most`. -/
def natural? (most : Nat) (v : Value) : Option Nat := (v.integer? 0 most).map Int.toNat

def float32? : Value → Option Float32
  | .number n => n.toFloat32?
  | _ => none

/-- One of several names, as a string or as an object that has the name for its only key, with
null. -/
def name? : Value → Option String
  | .string raw => text? raw
  | .object [(key, .null)] => text? key
  | _ => none

/-! ### Records -/

/-- The value of a field that occurs at most once: `none` if it occurs twice. -/
def single? (members : List (String × Value)) (field : String) : Option (Option Value) :=
  match members.filter (·.1 = field) with
  | [] => some none
  | [(_, v)] => some (some v)
  | _ => none

/-- The fields of a record, in their order, each with its value if it is given. -/
def record? (fields : List String) : Value → Option (List (Option Value))
  | .object members => do
    let members ← members.mapM fun (key, v) => (text? key).map fun key => (key, v)
    fields.mapM (single? members)
  | .array items =>
    if items.length ≤ fields.length then
      some (items.map some ++ List.replicate (fields.length - items.length) none)
    else none
  | _ => none

/-- A field's value as read by `read?`, and its default if it is not given. -/
def fieldOr {α : Type} (default : α) (read? : Value → Option α) : Option Value → Option α
  | none => some default
  | some v => read? v

end Value
end FlowScope.Json
