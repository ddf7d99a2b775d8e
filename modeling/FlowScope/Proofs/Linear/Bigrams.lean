import FlowScope.Proofs.Linear.Features
import FlowScope.Proofs.Linear.SinglePrecision

/-!
# Features are exact counts

The features of a payload are found by sorting the indices of its bigrams and counting equal neighbours
(`counts`). Looking up an index there gives how often it occurs (`lookup_counts`), and so does counting
position by position in single precision, one by one (`features_eq_foldl`). A payload of up to
`2 ^ 24 + 1` octets has so few bigrams that every such count stands for itself.

The main statement is `features_are_exact_counts`. What it counts are positions (`occurrences`): those at
which one octet is followed by another.
-/

namespace FlowScope

namespace Bigram

open Features

variable {x y : UInt8} {i : Nat} {is : List Nat} {payload : Bytes}

/-! ## Indices -/

theorem index_inj {x' y' : UInt8} : index x y = index x' y' ↔ x = x' ∧ y = y' := by
  have hy := y.toNat_lt
  have hy' := y'.toNat_lt
  rw [index, index, ← UInt8.toNat_inj, ← UInt8.toNat_inj]
  omega

theorem index_mem_range (x y : UInt8) : 1 ≤ index x y ∧ index x y ≤ 65536 := by
  have hx := x.toNat_lt
  have hy := y.toNat_lt
  rw [index]
  omega

@[simp] theorem indices_nil : indices [] = [] := rfl

@[simp] theorem indices_singleton (x : UInt8) : indices [x] = [] := rfl

@[simp] theorem indices_cons_cons (x y : UInt8) (rest : Bytes) :
    indices (x :: y :: rest) = index x y :: indices (y :: rest) := rfl

theorem length_indices (payload : Bytes) : (indices payload).length = payload.length - 1 := by
  rw [indices, List.length_zipWith, List.length_tail]
  omega

/-- The index of the pair across the seam of two payloads, if neither is empty. -/
def seam? (a b : Bytes) : Option Nat :=
  match a.getLast?, b.head? with
  | some x, some y => some (index x y)
  | _, _ => none

theorem indices_append (a b : Bytes) :
    indices (a ++ b) = indices a ++ ((seam? a b).toList ++ indices b) := by
  induction a with
  | nil => rfl
  | cons x a ih =>
      cases a with
      | nil =>
          -- the last octet in front and the first one behind make the pair at the seam
          cases b with
          | nil => rfl
          | cons y b => rfl
      | cons x' a =>
          have hseam : seam? (x :: x' :: a) b = seam? (x' :: a) b := by
            rw [seam?, seam?, List.getLast?_cons_cons]
          rw [hseam, indices_cons_cons]
          exact congrArg (index x x' :: ·) ih

/-- The number of positions at which one octet is followed by another. -/
def occurrences (x y : UInt8) (payload : Bytes) : Nat :=
  (List.range payload.length).countP fun k => payload[k]? = some x ∧ payload[k + 1]? = some y

theorem occurrences_cons (z : UInt8) (rest : Bytes) :
    occurrences x y (z :: rest) =
      occurrences x y rest + if z = x ∧ rest.head? = some y then 1 else 0 := by
  rw [occurrences, List.length_cons, List.range_succ_eq_map, List.countP_cons, List.countP_map]
  simp [occurrences, Function.comp_def, List.head?_eq_getElem?]

theorem count_indices (x y : UInt8) (payload : Bytes) :
    (indices payload).count (index x y) = occurrences x y payload := by
  induction payload with
  | nil => rfl
  | cons z rest ih =>
      rw [occurrences_cons, ← ih]
      cases rest with
      | nil => simp
      | cons z' rest =>
          rw [indices_cons_cons, List.count_cons]
          simp [index_inj]

theorem mem_indices_iff : i ∈ indices payload ↔ ∃ x y, [x, y] <:+: payload ∧ index x y = i := by
  induction payload with
  | nil => simp
  | cons z rest ih =>
      cases rest with
      | nil => simp [List.infix_cons_iff]
      | cons z' rest =>
          rw [indices_cons_cons, List.mem_cons, ih]
          constructor
          · rintro (rfl | ⟨x, y, hpair, rfl⟩)
            · exact ⟨z, z', ⟨[], rest, rfl⟩, rfl⟩
            · exact ⟨x, y, List.infix_cons hpair, rfl⟩
          · rintro ⟨x, y, hpair, rfl⟩
            -- a pair of neighbours stands at the front, or among the rest
            rcases List.infix_cons_iff.mp hpair with ⟨rest', ⟨⟩⟩ | hpair
            · exact .inl rfl
            · exact .inr ⟨x, y, hpair, rfl⟩

/-! ## Counts of indices -/

/-- How often an index occurs, if it does. -/
def occurs? (is : List Nat) (i : Nat) : Option Nat :=
  if is.count i = 0 then none else some (is.count i)

theorem occurs?_eq_some_iff {n : Nat} : occurs? is i = some n ↔ is.count i = n ∧ 0 < n := by
  unfold occurs?
  grind

theorem occurs?_eq_none_iff : occurs? is i = none ↔ i ∉ is := by
  unfold occurs?
  rw [← List.count_eq_zero]
  grind

theorem getD_occurs? : (occurs? is i).getD 0 = is.count i := by
  unfold occurs?
  split <;> simp [*]

theorem occurs?_perm {is' : List Nat} (h : is.Perm is') : occurs? is i = occurs? is' i := by
  rw [occurs?, occurs?, h.count_eq]

theorem occurs?_cons (i j : Nat) (is : List Nat) :
    occurs? (i :: is) j = if j = i then some ((occurs? is i).getD 0 + 1) else occurs? is j := by
  rw [getD_occurs?, occurs?, occurs?, List.count_cons]
  grind

/-! ### Counting equal neighbours -/

section Tally

variable {t : List (Nat × Nat)}

theorem lookup_eq_none_of_lt (h : ∀ entry ∈ t, i < entry.1) : t.lookup i = none := by
  rw [List.lookup_eq_none_iff]
  intro entry hentry
  exact bne_iff_ne.mpr (h entry hentry).ne

/-- An index that is no larger than any and not the first is less than all. -/
theorem lt_of_ne_first {first n : Nat} (ht : IsAscending ((first, n) :: t)) (hle : i ≤ first)
    (hne : i ≠ first) : ∀ entry ∈ (first, n) :: t, i < entry.1 := by
  have hfirst : i < first := lt_of_le_of_ne hle hne
  intro entry hentry
  rcases List.mem_cons.mp hentry with rfl | hentry
  · exact hfirst
  · exact hfirst.trans ((List.pairwise_cons.mp ht).1 entry hentry)

/-- Counting an index that is no larger than those counted so far. -/
theorem lookup_tallyStep (ht : IsAscending t) (hle : ∀ entry ∈ t, i ≤ entry.1) (j : Nat) :
    (tallyStep i t).lookup j = if j = i then some ((t.lookup i).getD 0 + 1) else t.lookup j := by
  cases t with
  | nil => grind [tallyStep]
  | cons entry later =>
      obtain ⟨first, n⟩ := entry
      rw [tallyStep]
      split
      next heq => grind
      next hne =>
          have hlt := lt_of_ne_first ht (hle _ List.mem_cons_self) hne
          rw [lookup_eq_none_of_lt hlt]
          grind

theorem isAscending_tallyStep (ht : IsAscending t) (hle : ∀ entry ∈ t, i ≤ entry.1) :
    IsAscending (tallyStep i t) := by
  cases t with
  | nil => exact List.pairwise_singleton ..
  | cons entry later =>
      obtain ⟨first, n⟩ := entry
      rw [tallyStep]
      split
      next heq => exact List.pairwise_cons.mpr (List.pairwise_cons.mp ht)
      next hne =>
          exact List.pairwise_cons.mpr ⟨lt_of_ne_first ht (hle _ List.mem_cons_self) hne, ht⟩

theorem sum_tallyStep (i : Nat) (t : List (Nat × Nat)) :
    ((tallyStep i t).map (·.2)).sum = (t.map (·.2)).sum + 1 := by
  cases t with
  | nil => rfl
  | cons entry later =>
      rw [tallyStep]
      split
      · simp only [List.map_cons, List.sum_cons]
        omega
      · simp only [List.map_cons, List.sum_cons]
        omega

theorem sum_tally (is : List Nat) : ((tally is).map (·.2)).sum = is.length := by
  induction is with
  | nil => rfl
  | cons i is ih =>
      rw [List.length_cons, ← ih]
      exact sum_tallyStep i (tally is)

/-- The tally of an ascending list is a map from its elements to how often they occur. -/
theorem tally_of_ascending (h : is.Pairwise (· ≤ ·)) :
    IsAscending (tally is) ∧ ∀ j, (tally is).lookup j = occurs? is j := by
  induction is with
  | nil => exact ⟨List.Pairwise.nil, fun _ => rfl⟩
  | cons i is ih =>
      obtain ⟨hle, his⟩ := List.pairwise_cons.mp h
      obtain ⟨hascending, hlookup⟩ := ih his
      -- what is tallied so far occurs in the list, so it is no smaller
      have hsmallest : ∀ entry ∈ tally is, i ≤ entry.1 := by
        rintro ⟨j, n⟩ hentry
        rw [← hascending.lookup_eq_some_iff, hlookup, occurs?_eq_some_iff] at hentry
        obtain ⟨rfl, hpos⟩ := hentry
        exact hle j (List.count_pos_iff.mp hpos)
      refine ⟨isAscending_tallyStep hascending hsmallest, fun j => ?_⟩
      rw [occurs?_cons, ← hlookup, ← hlookup]
      exact lookup_tallyStep hascending hsmallest j

end Tally

theorem pairwise_mergeSort (is : List Nat) : is.mergeSort.Pairwise (· ≤ ·) :=
  List.pairwise_mergeSort' (· ≤ ·) is

theorem isAscending_counts (payload : Bytes) : IsAscending (counts payload) :=
  (tally_of_ascending (pairwise_mergeSort _)).1

theorem lookup_counts (payload : Bytes) (i : Nat) :
    (counts payload).lookup i = occurs? (indices payload) i := by
  rw [counts, (tally_of_ascending (pairwise_mergeSort _)).2]
  exact occurs?_perm (List.mergeSort_perm ..)

theorem sum_counts (payload : Bytes) : ((counts payload).map (·.2)).sum = payload.length - 1 := by
  rw [counts, sum_tally, List.length_mergeSort, length_indices]

theorem isAscending_features (payload : Bytes) : IsAscending (features payload) :=
  List.pairwise_map.mpr (isAscending_counts payload)

theorem lookup_features (payload : Bytes) (i : Nat) :
    (features payload).lookup i = (occurs? (indices payload) i).map countValue := by
  rw [features, lookup_map, lookup_counts]

/-! ### Counting in single precision -/

/-- Adds one to the value of an index, which is zero at first. -/
def countOne (f : Features) (i : Nat) : Features := f.set i ((f.lookup i).getD 0 + 1)

theorem isAscending_countOne {f : Features} (hf : IsAscending f) (i : Nat) : IsAscending (countOne f i) :=
  hf.set i _

theorem foldl_countOne (is : List Nat) :
    IsAscending (is.foldl countOne []) ∧
      ∀ j, (is.foldl countOne []).lookup j = (occurs? is j).map countValue := by
  -- on the list from its end, since the last index is counted last
  induction is using List.reverseRecOn with
  | nil => exact ⟨List.Pairwise.nil, fun _ => rfl⟩
  | append_singleton is i ih =>
      obtain ⟨hascending, hlookup⟩ := ih
      rw [List.foldl_append]
      refine ⟨isAscending_countOne hascending i, fun j => ?_⟩
      have hvalue : ((occurs? is i).map countValue).getD 0 = countValue ((occurs? is i).getD 0) := by
        cases occurs? is i <;> rfl
      show (countOne (is.foldl countOne []) i).lookup j = _
      rw [countOne, lookup_set, hlookup, hlookup, hvalue, countValue_add_one]
      rw [occurs?_perm (List.perm_append_singleton i is), occurs?_cons]
      split <;> rfl

/-- Counting the bigrams one by one in single precision gives the same vector. -/
theorem features_eq_foldl (payload : Bytes) : features payload = (indices payload).foldl countOne [] := by
  obtain ⟨hascending, hlookup⟩ := foldl_countOne (indices payload)
  apply (isAscending_features payload).eq_of_lookup_eq hascending
  intro i
  rw [lookup_features, hlookup]

/-! ## Values -/

/-- The number that a vector has for an index; it is zero if there is no entry. -/
def valueAt (f : Features) (i : Nat) : ℚ := ((f.lookup i).map singleValue).getD 0

theorem count_le_countLimit (hlength : payload.length ≤ 2 ^ 24 + 1) (i : Nat) :
    (indices payload).count i ≤ countLimit := by
  calc (indices payload).count i
    _ ≤ (indices payload).length := List.count_le_length
    _ = payload.length - 1 := length_indices payload
    _ ≤ countLimit := Nat.sub_le_of_le_add hlength

theorem valueAt_features (hlength : payload.length ≤ 2 ^ 24 + 1) (i : Nat) :
    valueAt (features payload) i = (indices payload).count i := by
  rw [valueAt, lookup_features, occurs?]
  split
  next hzero =>
      rw [hzero]
      rfl
  next => exact singleValue_countValue (count_le_countLimit hlength i)

theorem sum_features (hlength : payload.length ≤ 2 ^ 24 + 1) :
    ((features payload).map fun entry => singleValue entry.2).sum = (payload.length - 1 : ℕ) := by
  have hexact : ∀ entry ∈ counts payload, singleValue (countValue entry.2) = entry.2 := by
    rintro ⟨i, n⟩ hentry
    rw [← (isAscending_counts payload).lookup_eq_some_iff, lookup_counts, occurs?_eq_some_iff] at hentry
    obtain ⟨rfl, -⟩ := hentry
    exact singleValue_countValue (count_le_countLimit hlength i)
  rw [features, List.map_map, ← sum_counts, Nat.cast_list_sum, List.map_map]
  exact congrArg List.sum (List.map_congr_left hexact)

theorem exists_lookup_features_iff :
    (∃ value, (features payload).lookup i = some value) ↔ i ∈ indices payload := by
  rw [lookup_features, ← Option.isSome_iff_exists, Option.isSome_map, Option.isSome_iff_ne_none, Ne,
    occurs?_eq_none_iff, not_not]

/-- **Features are exact counts.** The features of a payload of up to `2 ^ 24 + 1` octets ascend by index.
They have an entry for just the indices of pairs of octets that occur next to each other, all of which are
`1` to `65536`. The value of a pair is the number of positions at which it occurs; together the values are
one less than the length. If the payload is made of two parts, its values are the sums of theirs, with one
more for the pair across the seam.

Counting the pairs one by one, in single precision, gives the same vector. -/
theorem features_are_exact_counts {payload : Bytes} (hlength : payload.length ≤ 2 ^ 24 + 1) :
    IsAscending (features payload) ∧
    (∀ i, (∃ value, (features payload).lookup i = some value) ↔
      ∃ x y : UInt8, [x, y] <:+: payload ∧ x.toNat * 256 + y.toNat + 1 = i) ∧
    (∀ entry ∈ features payload, 1 ≤ entry.1 ∧ entry.1 ≤ 65536) ∧
    (∀ x y : UInt8, valueAt (features payload) (x.toNat * 256 + y.toNat + 1) = occurrences x y payload) ∧
    ((features payload).map fun entry => singleValue entry.2).sum = (payload.length - 1 : ℕ) ∧
    (∀ a b, a ++ b = payload → ∀ i, valueAt (features payload) i =
      valueAt (features a) i + valueAt (features b) i + if seam? a b = some i then 1 else 0) ∧
    features payload = (indices payload).foldl countOne [] := by
  refine ⟨isAscending_features payload, ?_, ?_, ?_, sum_features hlength, ?_, features_eq_foldl payload⟩
  · intro i
    exact exists_lookup_features_iff.trans mem_indices_iff
  · rintro ⟨i, value⟩ hentry
    have hlookup := (isAscending_features payload).lookup_eq_some_iff.mpr hentry
    obtain ⟨x, y, -, rfl⟩ := mem_indices_iff.mp (exists_lookup_features_iff.mp ⟨value, hlookup⟩)
    exact index_mem_range x y
  · intro x y
    rw [← count_indices]
    exact valueAt_features hlength _
  · rintro a b rfl i
    -- a cut separates one pair of neighbours, if it has an octet on either side
    have hseam : (seam? a b).toList.count i = if seam? a b = some i then 1 else 0 := by
      cases seam? a b with
      | none => rfl
      | some j => simp [List.count_singleton]
    rw [List.length_append] at hlength
    have ha : a.length ≤ 2 ^ 24 + 1 := (Nat.le_add_right ..).trans hlength
    have hb : b.length ≤ 2 ^ 24 + 1 := (Nat.le_add_left ..).trans hlength
    rw [valueAt_features (by rwa [List.length_append]), valueAt_features ha, valueAt_features hb]
    rw [indices_append, List.count_append, List.count_append, hseam]
    push_cast
    ring

/-- Three equal octets have two pairs, which overlap; one is across the seam if they are parted. -/
theorem features_of_overlapping_pairs :
    let payload : Bytes := [0x61, 0x61, 0x61, 0x62]
    payload.length ≤ 2 ^ 24 + 1 ∧ valueAt (features payload) 24930 = 2 ∧
      ((features payload).map fun entry => singleValue entry.2).sum = 3 ∧
      valueAt (features payload) 24930 =
        valueAt (features [0x61, 0x61]) 24930 + valueAt (features [0x61, 0x62]) 24930 + 1 := by
  intro payload
  have hlength : payload.length ≤ 2 ^ 24 + 1 := by decide +kernel
  have htwice : occurrences 0x61 0x61 payload = 2 := by decide
  have hthree : payload.length - 1 = 3 := rfl
  have hseam : seam? [0x61, 0x61] [0x61, 0x62] = some 24930 := rfl
  obtain ⟨-, -, -, hvalue, hsum, hparts, -⟩ := features_are_exact_counts hlength
  refine ⟨hlength, ?_, ?_, ?_⟩
  · exact (hvalue 0x61 0x61).trans (by rw [htwice]; rfl)
  · exact hsum.trans (by rw [hthree]; rfl)
  · exact (hparts [0x61, 0x61] [0x61, 0x62] rfl 24930).trans (by rw [if_pos hseam])

end Bigram
end FlowScope
