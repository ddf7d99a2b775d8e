import FlowScope.Json.Token
import FlowScope.Text.Numeral

/-!
# The values of JSON numbers

A number without point and exponent is an integer if it fits 64 bits, as an unsigned or a signed word.
Minus zero is not an integer.

Any other number has a double-precision value, which is made in two steps and may differ from the
nearest one in its last digit: the leading digits that fit an unsigned word make the significand, and
it is multiplied or divided by a power of ten. A number beyond the range of double precision has no
value.
-/

namespace FlowScope.Json

/-- The value of a digit. -/
def digit (b : UInt8) : Nat := b.toNat - 48

/-- The largest unsigned word of 64 bits. -/
def maxWord : Nat := 0xffffffffffffffff

/-- The leading digits of a number that fit a word, and the power of ten that goes with them. -/
structure Scaled where
  significand : Nat
  exponent : Int
  deriving Repr, DecidableEq

namespace Scaled

/-- Takes digits before the point while they fit, and counts the others. -/
def addWhole (s : Scaled) : Bytes → Scaled
  | [] => s
  | d :: later =>
    let n := appendDigit s.significand (digit d)
    if n ≤ maxWord then addWhole { s with significand := n } later
    else { s with exponent := s.exponent + later.length + 1 }

/-- Takes digits after the point while they fit, and drops the others. -/
def addFraction (s : Scaled) : Bytes → Scaled
  | [] => s
  | d :: later =>
    let n := appendDigit s.significand (digit d)
    if n ≤ maxWord then addFraction ⟨n, s.exponent - 1⟩ later else s

/-- The largest exponent of a power of ten in double precision. -/
def maxPower : Nat := 308

def powerOfTen (n : Nat) : Float := Float.ofScientific 1 false n

/-- Multiplies by a power of ten; a result beyond the range has no value. -/
def scaleUp? (f : Float) (exponent : Nat) : Option Float :=
  if exponent ≤ maxPower then
    let g := f * powerOfTen exponent
    if g.isInf then none else some g
  else if f == 0.0 then some f
  else none

/-- Divides by a power of ten, by the largest ones first. -/
def scaleDown (f : Float) (exponent : Nat) : Float :=
  if exponent ≤ maxPower then f / powerOfTen exponent
  else if f == 0.0 then f
  else scaleDown (f / powerOfTen maxPower) (exponent - maxPower)
termination_by exponent
decreasing_by
  unfold maxPower at *
  omega

/-- The double-precision value. -/
def toFloat? (s : Scaled) : Option Float :=
  let f := Float.ofNat s.significand
  if 0 ≤ s.exponent then scaleUp? f s.exponent.toNat else some (scaleDown f s.exponent.natAbs)

end Scaled

namespace Number

/-- Whether the number has neither point nor exponent. -/
def isPlain (n : Number) : Bool := n.fraction.isEmpty && n.exponent.isNone

/-- The number as an integer that fits 64 bits. -/
def integer? (n : Number) : Option Int :=
  let value := valueUpTo maxWord (n.whole.map digit)
  if !n.isPlain then none
  else if n.negative then if 0 < value ∧ value ≤ 0x8000000000000000 then some (-(value : Int)) else none
  else if value ≤ maxWord then some value
  else none

/-- The largest exponent that is read; a larger one makes the number zero or infinite. -/
def maxExponent : Nat := 0x7fffffff

/-- An exponent as it counts: beyond a signed word of 32 bits it stays at the limit. -/
def clampExponent (e : Int) : Int := max (-0x80000000) (min 0x7fffffff e)

/-- The double-precision value without the sign. -/
def magnitude? (n : Number) : Option Float :=
  let scaled := ((⟨0, 0⟩ : Scaled).addWhole n.whole).addFraction n.fraction
  match n.exponent with
  | none => scaled.toFloat?
  | some (negative, digits) =>
    let e := valueUpTo maxExponent (digits.map digit)
    if maxExponent < e then
      if scaled.significand ≠ 0 ∧ !negative then none else some 0.0
    else
      let shift : Int := if negative then -(e : Int) else e
      ({ scaled with exponent := clampExponent (scaled.exponent + shift) } : Scaled).toFloat?

/-- The double-precision value. -/
def toFloat? (n : Number) : Option Float :=
  n.magnitude?.map fun f => if n.negative then -f else f

/-- The single-precision value: of an integer the nearest one, else that of the double-precision
value. -/
def toFloat32? (n : Number) : Option Float32 :=
  match n.integer? with
  | some i => some (Float32.ofInt i)
  | none => n.toFloat?.map Float.toFloat32

end Number
end FlowScope.Json
