import FlowScope.Bytes
import Mathlib.Algebra.Group.Nat.Defs
import Mathlib.Data.List.Induction

/-!
# Numbers in byte strings

`Bytes.toNat` and `Bytes.ofNat` are a pair: a number written into enough octets reads as itself
(`toNat_ofNat`), and octets are what their value is written as (`ofNat_toNat`). A field is read where it
was written (`field?_append`); of a number, `number?_of_le` and `number?_cons` pass over what stands
before it, and `number?_append` reads it. Conversely, what is read from a field is written there:
`number?_eq_some_iff_exists`.
-/

namespace FlowScope.Bytes

variable {bytes before rest : Bytes} {start width n : Nat}

/-! ### Values -/

theorem toNat_append_singleton (bytes : Bytes) (b : UInt8) :
    toNat (bytes ++ [b]) = 256 * toNat bytes + b.toNat := by
  simp [toNat]

theorem toNat_lt (bytes : Bytes) : toNat bytes < 256 ^ bytes.length := by
  induction bytes using List.reverseRecOn with
  | nil => simp [toNat]
  | append_singleton bytes b ih =>
      have hb : b.toNat < 256 := b.toNat_lt
      rw [toNat_append_singleton, List.length_append, List.length_singleton, Nat.pow_succ]
      omega

@[simp] theorem length_ofNat (count n : Nat) : (ofNat count n).length = count := by
  induction count generalizing n with
  | zero => rfl
  | succ count ih => simp [ofNat, ih]

theorem toNat_ofNat (count n : Nat) : toNat (ofNat count n) = n % 256 ^ count := by
  induction count generalizing n with
  | zero => simp [ofNat, toNat, Nat.mod_one]
  | succ count ih =>
      have hlast : (UInt8.ofNat (n % 256)).toNat = n % 256 := by simp
      rw [ofNat, toNat_append_singleton, ih, hlast, Nat.pow_succ', Nat.mod_mul]
      omega

/-- Octets are what their value is written as. -/
theorem ofNat_toNat (bytes : Bytes) : ofNat bytes.length (toNat bytes) = bytes := by
  induction bytes using List.reverseRecOn with
  | nil => rfl
  | append_singleton bytes b ih =>
      have hb : b.toNat < 256 := b.toNat_lt
      have hfront : (256 * toNat bytes + b.toNat) / 256 = toNat bytes := by omega
      have hlast : (256 * toNat bytes + b.toNat) % 256 = b.toNat := by omega
      rw [List.length_append, List.length_singleton, toNat_append_singleton, ofNat, hfront, hlast, ih,
        UInt8.ofNat_toNat]

/-- A number that fits into fewer octets is written with a zero in front. -/
theorem ofNat_succ_of_lt {count n : Nat} (h : n < 256 ^ count) :
    ofNat (count + 1) n = 0 :: ofNat count n := by
  induction count generalizing n with
  | zero =>
      obtain rfl : n = 0 := Nat.lt_one_iff.mp h
      rfl
  | succ count ih =>
      have hfront : n / 256 < 256 ^ count := Nat.div_lt_of_lt_mul (by rwa [← Nat.pow_succ'])
      rw [ofNat, ih hfront]
      rfl

theorem toNat_cons_zero (bytes : Bytes) : toNat (0 :: bytes) = toNat bytes := rfl

/-- A number that is written with a zero in front fits into fewer octets. -/
theorem lt_of_head?_ofNat {count n : Nat} (h : n < 256 ^ (count + 1))
    (hzero : (ofNat (count + 1) n).head? = some 0) : n < 256 ^ count := by
  obtain ⟨rest, hrest⟩ := List.head?_eq_some_iff.mp hzero
  have hlength : rest.length = count := by
    have hwritten := length_ofNat (count + 1) n
    rw [hrest, List.length_cons] at hwritten
    omega
  have hvalue : toNat rest = n := by
    rw [← toNat_cons_zero, ← hrest, toNat_ofNat, Nat.mod_eq_of_lt h]
  rw [← hvalue, ← hlength]
  exact toNat_lt rest

/-! ### Fields -/

theorem length_take_drop (h : start + width ≤ bytes.length) :
    ((bytes.drop start).take width).length = width := by
  rw [List.length_take, List.length_drop]
  omega

theorem length_of_field? {field : Bytes} (h : bytes.field? start width = some field) :
    field.length = width := by
  unfold field? at h
  split at h
  next hfits =>
    cases h
    exact length_take_drop hfits
  next => cases h

theorem field?_append (before field rest : Bytes) :
    (before ++ (field ++ rest)).field? before.length field.length = some field := by
  simp [field?]

theorem number?_eq_some_iff :
    bytes.number? start width = some n ↔
      start + width ≤ bytes.length ∧ toNat ((bytes.drop start).take width) = n := by
  unfold number? field?
  by_cases h : start + width ≤ bytes.length
  · simp [h]
  · simp [h]

theorem number?_lt (h : bytes.number? start width = some n) : n < 256 ^ width := by
  obtain ⟨field, hfield, rfl⟩ := Option.map_eq_some_iff.mp h
  rw [← length_of_field? hfield]
  exact toNat_lt field

theorem number?_append (width n : Nat) (rest : Bytes) :
    (ofNat width n ++ rest).number? 0 width = some (n % 256 ^ width) := by
  refine number?_eq_some_iff.mpr ⟨?_, ?_⟩
  · simp
  · rw [List.drop_zero, List.take_left' (length_ofNat width n), toNat_ofNat]

theorem number?_append_of_lt (h : n < 256 ^ width) (rest : Bytes) :
    (ofNat width n ++ rest).number? 0 width = some n := by
  rw [number?_append, Nat.mod_eq_of_lt h]

theorem number?_of_le (h : before.length ≤ start) :
    (before ++ rest).number? start width = rest.number? (start - before.length) width := by
  have hfits : start + width ≤ (before ++ rest).length ↔
      start - before.length + width ≤ rest.length := by
    rw [List.length_append]
    omega
  simp only [number?, field?, hfits, List.drop_append, List.drop_eq_nil_of_le h, List.nil_append]

theorem number?_cons (b : UInt8) (rest : Bytes) (start width : Nat) :
    number? (b :: rest) (start + 1) width = rest.number? start width := by
  have hone : [b].length ≤ start + 1 := Nat.le_add_left 1 start
  exact number?_of_le hone

/-- What is read from a field is written there. -/
theorem number?_eq_some_iff_exists :
    bytes.number? start width = some n ↔
      n < 256 ^ width ∧
        ∃ before rest, bytes = before ++ (ofNat width n ++ rest) ∧ before.length = start := by
  constructor
  · intro h
    obtain ⟨hfits, hvalue⟩ := number?_eq_some_iff.mp h
    have hwidth := length_take_drop hfits
    -- a number is written in one way with a given width
    have hfield : ofNat width n = (bytes.drop start).take width := by
      rw [← hvalue]
      nth_rewrite 1 [← hwidth]
      exact ofNat_toNat _
    refine ⟨number?_lt h, bytes.take start, (bytes.drop start).drop width, ?_, ?_⟩
    · rw [hfield, List.take_append_drop, List.take_append_drop]
    · rw [List.length_take]
      omega
  · rintro ⟨hn, before, rest, rfl, rfl⟩
    rw [number?_of_le (Nat.le_refl _), Nat.sub_self, number?_append_of_lt hn]

/-- A field is not changed by what follows the octets it is in. -/
theorem number?_append_right (h : bytes.number? start width = some n) (more : Bytes) :
    (bytes ++ more).number? start width = some n := by
  obtain ⟨hn, before, rest, rfl, hbefore⟩ := number?_eq_some_iff_exists.mp h
  apply number?_eq_some_iff_exists.mpr
  exact ⟨hn, before, rest ++ more, by simp, hbefore⟩

/-! ### Searching -/

theorem holds_iff_isInfix {needle : Bytes} : needle.holds bytes = true ↔ needle <:+: bytes := by
  induction bytes with
  | nil => rw [holds, List.isEmpty_iff, List.infix_nil]
  | cons b rest ih =>
      rw [holds, Bool.or_eq_true, List.isPrefixOf_iff_prefix, ih, List.infix_cons_iff]

/-! ### Taking fields off the front -/

theorem exists_cons_of_getElem? {b : UInt8} (h : bytes[0]? = some b) : ∃ rest, bytes = b :: rest :=
  List.head?_eq_some_iff.mp (List.head?_eq_getElem?.trans h)

theorem exists_append_of_number? (h : bytes.number? 0 width = some n) :
    ∃ rest, bytes = ofNat width n ++ rest := by
  obtain ⟨-, before, rest, rfl, hbefore⟩ := number?_eq_some_iff_exists.mp h
  obtain rfl := List.length_eq_zero_iff.mp hbefore
  exact ⟨rest, rfl⟩

theorem exists_append_of_le (h : n ≤ bytes.length) :
    ∃ front rest, bytes = front ++ rest ∧ front.length = n :=
  ⟨bytes.take n, bytes.drop n, (List.take_append_drop n bytes).symm, by rw [List.length_take]; omega⟩

end FlowScope.Bytes
