import FlowScope.Text.Numeral

/-!
# What integers are as text

Texts and integers are related apart from the readers: `IsNatural` for digits alone, `IsUnsigned` with a plus
sign if there is one, and `IsSigned` with a minus sign too. An integer has many texts, since leading zeros do
not count, and a text stands for one integer at most.

A reader accepts exactly the texts of the integers within its bounds (`unsigned?_eq_some_iff`,
`signed?_eq_some_iff`). It stops computing once a bound is passed, which makes no difference to that
(`valueUpTo_le_iff`).
-/

namespace FlowScope.Text

/-- One or more digits, with this value. -/
structure IsNatural (cs : List Char) (n : Nat) : Prop where
  nonempty : cs ≠ []
  digits : ∀ c ∈ cs, '0' ≤ c ∧ c ≤ '9'
  value : digitsValue (cs.map digit) = n

/-- Digits, behind a plus sign or none. -/
inductive IsUnsigned : List Char → Nat → Prop
  | bare {cs : List Char} {n : Nat} (h : IsNatural cs n) : IsUnsigned cs n
  | plus {cs : List Char} {n : Nat} (h : IsNatural cs n) : IsUnsigned ('+' :: cs) n

/-- Digits, behind a sign or none. Minus zero is zero. -/
inductive IsSigned : List Char → Int → Prop
  | unsigned {cs : List Char} {n : Nat} (h : IsUnsigned cs n) : IsSigned cs n
  | minus {cs : List Char} {n : Nat} (h : IsNatural cs n) : IsSigned ('-' :: cs) (-n)

variable {cs : List Char} {n most : Nat} {least greatest i : Int}

/-! ## Digits -/

theorem digits?_eq_some_iff {digits : List Nat} :
    digits? cs = some digits ↔ cs ≠ [] ∧ (∀ c ∈ cs, '0' ≤ c ∧ c ≤ '9') ∧ cs.map digit = digits := by
  simp [digits?, isDigit, and_assoc]

/-- Where the value is within the bound, it is read in full. -/
theorem natural?_eq_some_iff : natural? most cs = some n ↔ IsNatural cs n ∧ n ≤ most := by
  unfold natural?
  rw [Option.filter_eq_some_iff, Option.map_eq_some_iff]
  constructor
  · rintro ⟨⟨digits, hdigits, rfl⟩, hle⟩
    obtain ⟨hne, hall, rfl⟩ := digits?_eq_some_iff.mp hdigits
    have hle := of_decide_eq_true hle
    have hvalue := valueUpTo_eq_of_le (valueUpTo_le_iff.mp hle)
    exact ⟨⟨hne, hall, hvalue.symm⟩, hle⟩
  · rintro ⟨⟨hne, hall, rfl⟩, hle⟩
    refine ⟨⟨_, digits?_eq_some_iff.mpr ⟨hne, hall, rfl⟩, valueUpTo_eq_of_le hle⟩, ?_⟩
    exact decide_eq_true hle

/-! ## Signs -/

theorem IsNatural.head_ne {c : Char} (h : IsNatural (c :: cs) n) : c ≠ '+' ∧ c ≠ '-' := by
  obtain ⟨hleast, -⟩ := h.digits c List.mem_cons_self
  constructor
  · rintro rfl
    exact absurd hleast (by decide)
  · rintro rfl
    exact absurd hleast (by decide)

theorem isUnsigned_plus_iff : IsUnsigned ('+' :: cs) n ↔ IsNatural cs n := by
  constructor
  · intro h
    cases h with
    | bare h => exact absurd rfl h.head_ne.1
    | plus h => exact h
  · exact .plus

theorem isUnsigned_iff_isNatural (h : ∀ rest, cs ≠ '+' :: rest) : IsUnsigned cs n ↔ IsNatural cs n := by
  constructor
  · intro hunsigned
    cases hunsigned with
    | bare hnatural => exact hnatural
    | plus => exact absurd rfl (h _)
  · exact .bare

/-- An unsigned integer is read exactly from its texts. -/
theorem unsigned?_eq_some_iff : unsigned? most cs = some n ↔ IsUnsigned cs n ∧ n ≤ most := by
  unfold unsigned?
  split
  next => rw [natural?_eq_some_iff, isUnsigned_plus_iff]
  next hplus => rw [natural?_eq_some_iff, isUnsigned_iff_isNatural hplus]

theorem isSigned_minus_iff : IsSigned ('-' :: cs) i ↔ ∃ n : Nat, IsNatural cs n ∧ -(n : Int) = i := by
  constructor
  · intro h
    cases h with
    | unsigned h =>
        cases h with
        | bare h => exact absurd rfl h.head_ne.2
    | minus h => exact ⟨_, h, rfl⟩
  · rintro ⟨n, h, rfl⟩
    exact .minus h

theorem isSigned_iff_isUnsigned (h : ∀ rest, cs ≠ '-' :: rest) :
    IsSigned cs i ↔ ∃ n : Nat, IsUnsigned cs n ∧ (n : Int) = i := by
  constructor
  · intro hsigned
    cases hsigned with
    | unsigned hunsigned => exact ⟨_, hunsigned, rfl⟩
    | minus => exact absurd rfl (h _)
  · rintro ⟨n, hunsigned, rfl⟩
    exact .unsigned hunsigned

/-- What is made of a natural number, if the bound leaves out no number that it can be made of. -/
theorem map_natural?_eq_some_iff {f : Nat → Int} (hf : ∀ n, f n = i → n ≤ most) :
    (natural? most cs).map f = some i ↔ ∃ n, IsNatural cs n ∧ f n = i := by
  rw [Option.map_eq_some_iff]
  refine exists_congr fun n => and_congr_left fun hn => ?_
  rw [natural?_eq_some_iff, and_iff_left (hf n hn)]

/-- A signed integer is read exactly from its texts. -/
theorem signed?_eq_some_iff :
    signed? least greatest cs = some i ↔ IsSigned cs i ∧ least ≤ i ∧ i ≤ greatest := by
  unfold signed?
  rw [Option.filter_eq_some_iff, Bool.and_eq_true, decide_eq_true_eq, decide_eq_true_eq]
  refine and_congr_left fun hbounds => ?_
  -- the reader bounds the size before it looks at the sign, which leaves out nothing within the bounds
  split
  next =>
    rw [isSigned_minus_iff]
    apply map_natural?_eq_some_iff
    omega
  next =>
    rw [isSigned_iff_isUnsigned (by simp)]
    simp only [isUnsigned_plus_iff]
    apply map_natural?_eq_some_iff
    intro n hn
    have hn : (n : Int) = i := hn
    omega
  next hminus hplus =>
    rw [isSigned_iff_isUnsigned hminus]
    simp only [isUnsigned_iff_isNatural hplus]
    apply map_natural?_eq_some_iff
    intro n hn
    have hn : (n : Int) = i := hn
    omega

end FlowScope.Text
