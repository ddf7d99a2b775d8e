import FlowScope.Bytes

/-!
# JSON tokens

A JSON text is first cut into tokens. A string token keeps the octets between its quotes as they are
written, with its escapes checked for form but not yet resolved: a string that nobody looks at need
not stand for any text. A number token keeps its digits.

Every token takes some octets, so cutting ends.
-/

namespace FlowScope.Json

/-- A number as it is written: sign, digits before and after the point, and exponent. -/
structure Number where
  negative : Bool
  whole : Bytes
  fraction : Bytes
  /-- The sign of the exponent, true for minus, and its digits. -/
  exponent : Option (Bool × Bytes)
  deriving Repr, DecidableEq

inductive Token
  | openArray
  | closeArray
  | openObject
  | closeObject
  | colon
  | comma
  | null
  | bool (value : Bool)
  | number (n : Number)
  | string (raw : Bytes)
  deriving Repr, DecidableEq

/-- What was read, as something else, and what follows it. -/
def reading {α β : Type} (f : α → β) (read : Option (α × Bytes)) : Option (β × Bytes) :=
  read.map fun p => (f p.1, p.2)

/-! ### Strings -/

def isHexDigit (b : UInt8) : Bool := Bytes.isDigit b || (65 ≤ b && b ≤ 70) || (97 ≤ b && b ≤ 102)

/-- The octets that can follow a backslash, other than `u`: quote, backslash, slash, b, f, n, r, t. -/
def escapes : List UInt8 := [34, 92, 47, 98, 102, 110, 114, 116]

/-- The octets up to the closing quote, after those in `done`, which are in reverse; and what follows
the quote. Controls cannot stand in a string. -/
def string? (done : Bytes) : Bytes → Option (Bytes × Bytes)
  | [] => none
  | 34 :: rest => some (done.reverse, rest)
  | 92 :: 117 :: a :: b :: c :: d :: rest =>
    if [a, b, c, d].all isHexDigit then string? (d :: c :: b :: a :: 117 :: 92 :: done) rest else none
  | 92 :: e :: rest => if escapes.contains e then string? (e :: 92 :: done) rest else none
  | b :: rest => if 32 ≤ b ∧ b ≠ 92 then string? (b :: done) rest else none

/-! ### Numbers -/

/-- One or more digits, and what follows them. -/
def digits? (bytes : Bytes) : Option (Bytes × Bytes) :=
  let digits := bytes.takeWhile Bytes.isDigit
  if digits.isEmpty then none else some (digits, bytes.dropWhile Bytes.isDigit)

/-- The digits before the point: a zero stands alone. -/
def whole? (bytes : Bytes) : Option (Bytes × Bytes) :=
  (digits? bytes).filter fun (digits, _) => digits = [48] || digits.head? ≠ some 48

/-- The digits after the point, if there is a point. -/
def fraction? : Bytes → Option (Bytes × Bytes)
  | 46 :: rest => digits? rest
  | rest => some ([], rest)

/-- The sign and the digits of the exponent, if there is one. -/
def exponent? : Bytes → Option (Option (Bool × Bytes) × Bytes)
  | 101 :: 43 :: rest | 69 :: 43 :: rest => reading (fun ds => some (false, ds)) (digits? rest)
  | 101 :: 45 :: rest | 69 :: 45 :: rest => reading (fun ds => some (true, ds)) (digits? rest)
  | 101 :: rest | 69 :: rest => reading (fun ds => some (false, ds)) (digits? rest)
  | rest => some (none, rest)

/-- A number after its sign, and what follows it. -/
def number? (negative : Bool) (bytes : Bytes) : Option (Number × Bytes) := do
  let (whole, rest) ← whole? bytes
  let (fraction, rest) ← fraction? rest
  let (exponent, rest) ← exponent? rest
  pure (⟨negative, whole, fraction, exponent⟩, rest)

/-! ### Tokens -/

/-- The first token, and what follows it. -/
def token? : Bytes → Option (Token × Bytes)
  | 91 :: rest => some (.openArray, rest)
  | 93 :: rest => some (.closeArray, rest)
  | 123 :: rest => some (.openObject, rest)
  | 125 :: rest => some (.closeObject, rest)
  | 58 :: rest => some (.colon, rest)
  | 44 :: rest => some (.comma, rest)
  | 34 :: rest => reading .string (string? [] rest)
  | 45 :: rest => reading .number (number? true rest)
  | 110 :: 117 :: 108 :: 108 :: rest => some (.null, rest)
  | 116 :: 114 :: 117 :: 101 :: rest => some (.bool true, rest)
  | 102 :: 97 :: 108 :: 115 :: 101 :: rest => some (.bool false, rest)
  | bytes => reading .number (number? false bytes)

/-- The blanks between tokens. -/
def isBlank (b : UInt8) : Bool := b = 32 || b = 9 || b = 10 || b = 13

/-! ### Every token takes some octets -/

theorem string?_length {done bytes raw rest : Bytes} (h : string? done bytes = some (raw, rest)) :
    rest.length < bytes.length := by
  fun_induction string? done bytes <;> simp_all <;> omega

theorem digits?_length {bytes ds rest : Bytes} (h : digits? bytes = some (ds, rest)) :
    rest.length < bytes.length := by
  cases bytes with
  | nil => simp [digits?] at h
  | cons b bs =>
    by_cases hb : Bytes.isDigit b = true
    · simp only [digits?, List.takeWhile_cons, hb, List.dropWhile_cons] at h
      simp at h
      obtain ⟨-, rfl⟩ := h
      exact Nat.lt_succ_of_le (List.dropWhile_suffix Bytes.isDigit).length_le
    · simp [digits?, hb] at h

theorem fraction?_length {bytes ds rest : Bytes} (h : fraction? bytes = some (ds, rest)) :
    rest.length ≤ bytes.length := by
  unfold fraction? at h
  split at h
  · have := digits?_length h
    simp only [List.length_cons]
    omega
  · simp_all

theorem length_of_reading {α β : Type} {f : α → β} {x : Option (α × Bytes)} {n : Nat} {b : β}
    {rest : Bytes} (hx : ∀ a r, x = some (a, r) → r.length < n)
    (h : reading f x = some (b, rest)) : rest.length < n := by
  obtain ⟨p, hp, he⟩ := Option.map_eq_some_iff.1 h
  simp only [Prod.mk.injEq] at he
  exact he.2 ▸ hx p.1 p.2 hp

theorem exponent?_length {bytes rest : Bytes} {e : Option (Bool × Bytes)}
    (h : exponent? bytes = some (e, rest)) : rest.length ≤ bytes.length := by
  unfold exponent? at h
  split at h
  case h_7 =>
    simp only [Option.some.injEq, Prod.mk.injEq] at h
    exact h.2 ▸ Nat.le_refl _
  all_goals
    have := length_of_reading (fun _ _ => digits?_length) h
    simp only [List.length_cons]
    omega

theorem number?_length {negative : Bool} {bytes rest : Bytes} {n : Number}
    (h : number? negative bytes = some (n, rest)) : rest.length < bytes.length := by
  simp only [number?, whole?, Option.bind_eq_bind, Option.bind_eq_some_iff, Option.filter_eq_some_iff,
    Option.pure_def, Option.some.injEq, Prod.mk.injEq, Prod.exists] at h
  obtain ⟨ds, r1, ⟨h1, -⟩, fs, r2, h2, e, r3, h3, -, rfl⟩ := h
  have := digits?_length h1
  have := fraction?_length h2
  have := exponent?_length h3
  omega

theorem token?_length {bytes rest : Bytes} {t : Token} (h : token? bytes = some (t, rest)) :
    rest.length < bytes.length := by
  unfold token? at h
  split at h
  case h_7 => exact Nat.lt_succ_of_lt (length_of_reading (fun _ _ => string?_length) h)
  case h_8 => exact Nat.lt_succ_of_lt (length_of_reading (fun _ _ => number?_length) h)
  case h_12 => exact length_of_reading (fun _ _ => number?_length) h
  all_goals
    simp only [Option.some.injEq, Prod.mk.injEq] at h
    obtain ⟨-, rfl⟩ := h
    simp only [List.length_cons]
    omega

/-- Cuts a text into tokens, after those in `done`, which are in reverse. -/
def tokensFrom (done : List Token) (bytes : Bytes) : Option (List Token) :=
  match bytes with
  | [] => some done.reverse
  | b :: rest =>
    if isBlank b then tokensFrom done rest
    else match _taken : token? (b :: rest) with
      | none => none
      | some (token, later) => tokensFrom (token :: done) later
termination_by bytes.length
decreasing_by
  · exact Nat.lt_succ_self rest.length
  · exact token?_length (by assumption)

/-- The tokens of a text. -/
def tokens? (bytes : Bytes) : Option (List Token) := tokensFrom [] bytes

end FlowScope.Json
