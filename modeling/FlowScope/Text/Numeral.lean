/-!
# Integers as text

An integer is an optional sign and decimal digits, nothing else: no blanks, no separators, no other
digits than `0` to `9`. Unsigned integers take a plus sign but no minus sign, not even before zero.

A number whose size is bounded is read by `valueUpTo`, which stops growing once the bound is passed:
it decides whether the bound is kept, and is the value then (`valueUpTo_le_iff`,
`valueUpTo_eq_of_le`).
-/

namespace FlowScope

/-! ### The value of digits -/

/-- The number with one more digit at its end. -/
def appendDigit (n d : Nat) : Nat := 10 * n + d

/-- The value of a list of digits, the first one being the most significant. -/
def digitsValue (digits : List Nat) : Nat := digits.foldl appendDigit 0

/-- The value of digits as far as it is needed to compare it with a bound: a number beyond the bound
takes no more digits. -/
def valueUpTo (most : Nat) (digits : List Nat) : Nat :=
  digits.foldl (fun n d => if most < n then n else appendDigit n d) 0

theorem le_foldl_appendDigit (digits : List Nat) (n : Nat) : n ≤ digits.foldl appendDigit n := by
  induction digits generalizing n with
  | nil => exact Nat.le_refl n
  | cons d ds ih =>
    refine Nat.le_trans ?_ (ih (appendDigit n d))
    unfold appendDigit
    omega

theorem foldl_bounded (most : Nat) (digits : List Nat) (n : Nat) :
    let bounded := digits.foldl (fun n d => if most < n then n else appendDigit n d) n
    (bounded ≤ most ↔ digits.foldl appendDigit n ≤ most) ∧
      (bounded ≤ most → bounded = digits.foldl appendDigit n) := by
  induction digits generalizing n with
  | nil => simp
  | cons d ds ih =>
    simp only [List.foldl_cons]
    by_cases h : most < n
    · have stays : ds.foldl (fun n d => if most < n then n else appendDigit n d) n = n := by
        clear ih
        induction ds with
        | nil => rfl
        | cons e es ih => simp [h, ih]
      have grows := le_foldl_appendDigit (d :: ds) n
      simp only [List.foldl_cons] at grows
      simp only [h, ↓reduceIte, stays]
      omega
    · simp only [h, ↓reduceIte]
      exact ih (appendDigit n d)

theorem valueUpTo_le_iff {most : Nat} {digits : List Nat} :
    valueUpTo most digits ≤ most ↔ digitsValue digits ≤ most :=
  (foldl_bounded most digits 0).1

theorem valueUpTo_eq_of_le {most : Nat} {digits : List Nat} (h : digitsValue digits ≤ most) :
    valueUpTo most digits = digitsValue digits :=
  (foldl_bounded most digits 0).2 ((foldl_bounded most digits 0).1.2 h)

namespace Text

/-! ### Integers -/

def isDigit (c : Char) : Bool := '0' ≤ c && c ≤ '9'

/-- The value of a digit. -/
def digit (c : Char) : Nat := c.toNat - '0'.toNat

/-- The digits of a text that has nothing else, and at least one. -/
def digits? (cs : List Char) : Option (List Nat) :=
  if !cs.isEmpty && cs.all isDigit then some (cs.map digit) else none

/-- The value of a text of one or more digits, if it is `most` at most. -/
def natural? (most : Nat) (cs : List Char) : Option Nat :=
  ((digits? cs).map (valueUpTo most)).filter (· ≤ most)

/-- An unsigned integer of at most `most`. -/
def unsigned? (most : Nat) (cs : List Char) : Option Nat :=
  match cs with
  | '+' :: rest => natural? most rest
  | _ => natural? most cs

/-- A signed integer between `least` and `most`. -/
def signed? (least most : Int) (cs : List Char) : Option Int :=
  let size := max least.natAbs most.natAbs
  let value : Option Int := match cs with
    | '-' :: rest => (natural? size rest).map fun n : Nat => -(n : Int)
    | '+' :: rest => (natural? size rest).map Int.ofNat
    | _ => (natural? size cs).map Int.ofNat
  value.filter fun n => least ≤ n && n ≤ most

end Text
end FlowScope
