import FlowScope.Text.Numeral

/-!
# Real numbers as text

A real number is an optional sign followed by digits with at most one point among or around them and
an optional exponent, or by one of the words `inf`, `infinity` and `nan` in any case. Reading gives
an exact `Decimal`; rounding to a floating-point format is a separate step and goes to the nearest
number of that format.

Two limits keep the work within the length of the text: an exponent that has grown beyond `2 ^ 16`
takes no more digits, and of a long number only the leading digits decide the rounding
(`decisiveDigits`).
-/

namespace FlowScope.Text

/-- The exact value of a real number written in decimal. -/
inductive Decimal
  /-- The number whose last digit counts `10 ^ exponent`, or its negative. -/
  | finite (negative : Bool) (digits : List Nat) (exponent : Int)
  | infinite (negative : Bool)
  | undefined
  deriving Repr, DecidableEq

namespace Decimal

/-! ### Reading -/

/-- The sign in front of a number, true for minus, and what follows it. -/
def sign : List Char → Bool × List Char
  | '-' :: rest => (true, rest)
  | '+' :: rest => (false, rest)
  | cs => (false, cs)

def lower (c : Char) : Char := if 'A' ≤ c && c ≤ 'Z' then Char.ofNat (c.toNat + 32) else c

/-- An exponent up to here takes one more digit, a larger one none. -/
def growingExponent : Nat := 0xffff

/-- The exponent part: nothing, or `e`, an optional sign and digits up to the end. -/
def exponent? : List Char → Option Int
  | [] => some 0
  | c :: rest =>
    if lower c = 'e' then
      let (negative, written) := sign rest
      (digits? written).map fun ds =>
        let n := valueUpTo growingExponent ds
        if negative then -(n : Int) else n
    else none

/-- A number written with digits, after its sign. -/
def unsigned? (negative : Bool) (cs : List Char) : Option Decimal :=
  let whole := cs.takeWhile isDigit
  let (fraction, rest) := match cs.dropWhile isDigit with
    | '.' :: later => (later.takeWhile isDigit, later.dropWhile isDigit)
    | later => ([], later)
  if whole.isEmpty && fraction.isEmpty then none
  else (exponent? rest).map fun e =>
    .finite negative ((whole ++ fraction).map digit) (e - fraction.length)

def read? (cs : List Char) : Option Decimal :=
  let (negative, body) := sign cs
  let word := String.ofList (body.map lower)
  if word = "inf" || word = "infinity" then some (.infinite negative)
  else if word = "nan" then some .undefined
  else unsigned? negative body

/-! ### Rounding -/

/-- More digits than any number halfway between two neighbours has, in double precision or less: such
a number has 768 at most. -/
def decisiveCount : Nat := 800

/-- The digits that decide a rounding: the leading ones, and a one after them if any of the others is
not zero, which tells on which side of a halfway point the number lies. -/
def decisiveDigits (digits : List Nat) : List Nat :=
  if (digits.drop decisiveCount).all (· = 0) then digits.take decisiveCount
  else digits.take decisiveCount ++ [1]

/-- A number below `10 ^ least` is nearest to zero, in double precision or less. -/
def leastPower : Int := -330

/-- A number of `10 ^ most` at least is beyond all others, in double precision or less. -/
def mostPower : Int := 310

/-- The nearest number to digits whose last one counts `10 ^ exponent`, in a format that rounds the
number `n · 10 ^ e` by `round n e`. -/
def nearest {R : Type} (round : Nat → Int → R) (zero infinite : R) (digits : List Nat)
    (exponent : Int) : R :=
  let digits := digits.dropWhile (· = 0)
  let power := exponent + digits.length
  if digits.isEmpty ∨ power < leastPower then zero
  else if mostPower < power then infinite
  else
    let decisive := decisiveDigits digits
    round (digitsValue decisive) (power - decisive.length)

/-- The nearest double-precision number; infinite beyond the largest one. -/
def toFloat : Decimal → Float
  | .finite negative digits exponent =>
    let size := nearest (fun n e => Float.ofScientific n (e < 0) e.natAbs) 0.0 (1.0 / 0.0) digits
      exponent
    if negative then -size else size
  | .infinite negative => if negative then -(1.0 / 0.0) else 1.0 / 0.0
  | .undefined => 0.0 / 0.0

/-- The nearest single-precision number; infinite beyond the largest one. -/
def toFloat32 : Decimal → Float32
  | .finite negative digits exponent =>
    let size := nearest (fun n e => Float32.ofScientific n (e < 0) e.natAbs) 0.0 (1.0 / 0.0) digits
      exponent
    if negative then -size else size
  | .infinite negative => if negative then -(1.0 / 0.0) else 1.0 / 0.0
  | .undefined => 0.0 / 0.0

end Decimal
end FlowScope.Text
