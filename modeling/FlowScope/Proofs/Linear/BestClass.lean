import FlowScope.Proofs.Linear.DecisionValues
import Mathlib.Algebra.Order.Field.Power
import Mathlib.Algebra.Order.Ring.Rat
import Mathlib.Order.Bounds.Basic

/-!
# The best class

What the best class is to be is `IsFirstGreatest`: the first class with the greatest decision value. The
scan over the decision values finds it (`greatest_of_pos`), over any linear order.

Two classes are not decided by this scan, but by the sign of the first decision value. That is right for
models with one column; a model with a column for each of two classes may give the other one, since its
second decision value is not looked at (`worse_class_is_predicted`). The main statement,
`best_class_of_read`, says for all models with a column for each class when the label is that of the best
class. Its decision values are taken in exact arithmetic: `exactValue` is the rational number that a float
stands for.
-/

namespace FlowScope

/-! ## Floats as numbers -/

/-- The number that a float stands for. Infinities, and what is no number, stand for none; they are read
as a number on their side of zero. -/
def exactValue (x : Float) : ℚ :=
  match x.toModel.unpack with
  | .finite sign mantissa exponent _ => sign.apply mantissa * 2 ^ exponent
  | .zero _ => 0
  | .infinity sign => sign.apply 1
  | .notANumber => -1

/-- Whether a number is at least zero shows in its parts. -/
theorem zero_le_iff_unpack (x : Float) :
    0 ≤ x ↔ (Float.Model.UnpackedFloat.zero .positive).le x.toModel.unpack = true := by
  have hzero : (0 : Float).toModel.unpack = .zero .positive := rfl
  rw [← hzero]
  change decide _ = true ↔ _
  rw [decide_eq_true_iff]
  rfl

theorem zero_le_exactValue_iff (x : Float) : 0 ≤ exactValue x ↔ 0 ≤ x := by
  rw [zero_le_iff_unpack, exactValue]
  cases x.toModel.unpack with
  | notANumber => decide
  | infinity sign => cases sign <;> decide
  | zero sign => cases sign <;> decide
  | finite sign mantissa exponent hpos =>
      -- a finite value has the sign that it is written with
      have hmantissa : (0 : ℚ) < mantissa := Nat.cast_pos.mpr hpos
      have hvalue : (0 : ℚ) < mantissa * 2 ^ exponent := mul_pos hmantissa (zpow_pos two_pos exponent)
      cases sign with
      | positive =>
          refine iff_of_true ?_ rfl
          simpa [Float.Model.UnpackedFloat.Sign.apply] using hvalue.le
      | negative =>
          refine iff_of_false ?_ Bool.false_ne_true
          simpa [Float.Model.UnpackedFloat.Sign.apply] using hvalue

namespace LinearClassifier

open Guarded

/-! ## The scan -/

theorem element_map_range {α : Type} {value : Nat → α} {count i : Nat} (h : i < count) :
    element ((List.range count).map value) i = .ok (value i) := by
  rw [element, List.getElem?_map, List.getElem?_range h]
  rfl

section Scan

variable {R : Type} [LinearOrder R]

/-- The first of the positions below `count` at which the value is greatest. -/
def IsFirstGreatest (value : Nat → R) (count best : Nat) : Prop :=
  IsLeast {k | k < count ∧ ∀ j < count, value j ≤ value k} best

variable {value : Nat → R} {count best : Nat}

theorem isFirstGreatest_iff : IsFirstGreatest value count best ↔
    best < count ∧ (∀ j < count, value j ≤ value best) ∧ ∀ j < best, value j < value best := by
  constructor
  · rintro ⟨⟨hbest, hgreatest⟩, hleast⟩
    refine ⟨hbest, hgreatest, ?_⟩
    intro j hj
    apply lt_of_le_of_ne (hgreatest j (hj.trans hbest))
    intro heq
    apply absurd hj
    apply not_lt_of_ge
    apply hleast
    refine ⟨hj.trans hbest, ?_⟩
    rw [heq]
    exact hgreatest
  · rintro ⟨hbest, hgreatest, hbefore⟩
    refine ⟨⟨hbest, hgreatest⟩, ?_⟩
    rintro k ⟨-, hk⟩
    by_contra hlt
    exact absurd (hk best hbest) (not_le_of_gt (hbefore k (not_le.mp hlt)))

theorem isFirstGreatest_one : IsFirstGreatest value 1 0 := by
  rw [isFirstGreatest_iff]
  simp

/-- One more value is the first greatest if it is greater than the greatest so far. -/
theorem IsFirstGreatest.step (h : IsFirstGreatest value count best) :
    IsFirstGreatest value (count + 1) (if value best < value count then count else best) := by
  rw [isFirstGreatest_iff] at h ⊢
  obtain ⟨hbest, hgreatest, hbefore⟩ := h
  split
  next hlt =>
      -- a greater value takes over, and comes after all that it exceeds
      have hall : ∀ j < count, value j < value count :=
        fun j hj => (hgreatest j hj).trans_lt hlt
      refine ⟨Nat.lt_succ_self count, ?_, hall⟩
      intro j hj
      rcases Nat.lt_succ_iff_lt_or_eq.mp hj with hj | rfl
      · exact (hall j hj).le
      · exact le_rfl
  next hle =>
      -- an equal one does not, since the place is that of the first
      refine ⟨hbest.trans (Nat.lt_succ_self count), ?_, hbefore⟩
      intro j hj
      rcases Nat.lt_succ_iff_lt_or_eq.mp hj with hj | rfl
      · exact hgreatest j hj
      · exact not_lt.mp hle

/-- The scan ends at the first greatest of all values if it is at that of those it has passed. -/
theorem greatest_eq (later : Nat) (h : IsFirstGreatest value count best) :
    ∃ best', greatest ((List.range (count + later)).map value) best count
        ((List.range' count later).map value) = .ok best' ∧
      IsFirstGreatest value (count + later) best' := by
  -- on the number of values to come, with the best of those passed as the invariant
  induction later generalizing count best with
  | zero => exact ⟨best, rfl, h⟩
  | succ later ih =>
      have hbest : best < count + (later + 1) :=
        (isFirstGreatest_iff.mp h).1.trans_le (Nat.le_add_right ..)
      obtain ⟨best', hbest', h'⟩ := ih h.step
      rw [Nat.add_right_comm, Nat.add_assoc] at hbest' h'
      refine ⟨best', ?_, h'⟩
      rw [List.range'_succ, List.map_cons, greatest, element_map_range hbest]
      exact hbest'

/-- The scan of all values, from the start. -/
theorem greatest_of_pos (hcount : 0 < count) :
    ∃ best, greatest ((List.range count).map value) 0 0 ((List.range count).map value) = .ok best ∧
      IsFirstGreatest value count best := by
  obtain ⟨later, rfl⟩ := Nat.exists_eq_add_of_le hcount
  have hfirst : IsFirstGreatest value 1 0 := isFirstGreatest_one
  obtain ⟨best, hbest, h⟩ := greatest_eq later hfirst
  have hvalues : (List.range (1 + later)).map value = value 0 :: (List.range' 1 later).map value := by
    rw [List.range_eq_range', Nat.add_comm, List.range'_succ, List.map_cons]
  refine ⟨best, ?_, h⟩
  -- the first value is compared with itself, so the scan is still at it when it comes to the second
  apply Eq.trans (congrArg (greatest _ 0 0) hvalues)
  rw [greatest, element_map_range hcount]
  simpa only [bind, Except.bind, ite_self] using hbest

theorem isFirstGreatest_two_zero : IsFirstGreatest value 2 0 ↔ value 1 ≤ value 0 := by
  rw [isFirstGreatest_iff]
  constructor
  · rintro ⟨-, hgreatest, -⟩
    exact hgreatest 1 Nat.one_lt_two
  · intro h
    have hle : ∀ j < 2, value j ≤ value 0 := by grind
    exact ⟨Nat.two_pos, hle, by simp⟩

theorem isFirstGreatest_two_one : IsFirstGreatest value 2 1 ↔ value 0 < value 1 := by
  rw [isFirstGreatest_iff]
  constructor
  · rintro ⟨-, -, hbefore⟩
    exact hbefore 0 Nat.one_pos
  · intro h
    have hle : ∀ j < 2, value j ≤ value 1 := by grind
    have hlt : ∀ j < 1, value j < value 1 := by grind
    exact ⟨Nat.one_lt_two, hle, hlt⟩

end Scan

/-! ## Labels -/

/-- The model with its numbers read in another way. -/
def map {R S : Type} (value : R → S) (m : LinearClassifier R) : LinearClassifier S :=
  ⟨m.solver, m.labels, m.features, value m.bias, m.weights.map value⟩

section Labels

variable {R : Type} [LinearOrder R] [Zero R] {m : LinearClassifier R}

/-- A model keeps its shape if the reading keeps which numbers are at least zero. -/
theorem IsComplete.map {S : Type} [OfNat S 0] [LE S] [DecidableLE S] {n : LinearClassifier S}
    (h : n.IsComplete) {value : S → R} (hbias : 0 ≤ value n.bias ↔ 0 ≤ n.bias) :
    (n.map value).IsComplete := by
  have hrows : (n.map value).rows = n.rows := if_congr hbias rfl rfl
  refine ⟨h.hasClass, ?_, ?_⟩
  · rw [hrows]
    exact (Array.size_map ..).trans h.size_eq
  · rw [hrows]
    exact h.fits

/-- Of two classes, the sign of the first decision value decides. -/
theorem IsComplete.bestClass_of_two (h : m.IsComplete) (htwo : m.labels.length = 2)
    (value : Nat → R) :
    m.bestClass ((List.range m.columns).map value) = .ok (if 0 < value 0 then 0 else 1) := by
  obtain ⟨columns, hcolumns⟩ := Nat.exists_eq_add_of_le h.columns_pos
  rw [bestClass, if_pos htwo, hcolumns, Nat.add_comm, List.range_succ_eq_map]
  rfl

/-- Of any other number of classes, the best one is that of the first greatest decision value. -/
theorem IsComplete.bestClass_of_not_two (h : m.IsComplete) (htwo : m.labels.length ≠ 2)
    (value : Nat → R) :
    ∃ best, m.bestClass ((List.range m.columns).map value) = .ok best ∧
      IsFirstGreatest value m.labels.length best := by
  rw [bestClass, if_neg htwo, columns_eq htwo]
  exact greatest_of_pos h.hasClass

variable [Add R] [Mul R]

/-- The label is that of the best class. -/
theorem IsComplete.label_eq (h : m.IsComplete) {entries : List (Nat × R)} {best : Nat}
    (hbest : m.bestClass ((List.range m.columns).map (m.decision entries)) = .ok best)
    (hlt : best < m.labels.length) : m.label entries = .ok m.labels[best] := by
  rw [label, h.decisionValues_eq]
  simp only [bind, Except.bind, hbest, element, List.getElem?_eq_getElem hlt]
  rfl

theorem IsComplete.exists_label (h : m.IsComplete) (entries : List (Nat × R)) :
    ∃ best label, m.labels[best]? = some label ∧ m.label entries = .ok label ∧
      (m.labels.length ≠ 2 → IsFirstGreatest (m.decision entries) m.labels.length best) ∧
      (m.labels.length = 2 → best = if 0 < m.decision entries 0 then 0 else 1) := by
  by_cases htwo : m.labels.length = 2
  · have hbest := h.bestClass_of_two htwo (m.decision entries)
    have hlt : (if 0 < m.decision entries 0 then 0 else 1) < m.labels.length := by
      split <;> omega
    exact ⟨_, _, List.getElem?_eq_getElem hlt, h.label_eq hbest hlt, absurd htwo, fun _ => rfl⟩
  · obtain ⟨best, hbest, hgreatest⟩ := h.bestClass_of_not_two htwo (m.decision entries)
    have hlt : best < m.labels.length := (isFirstGreatest_iff.mp hgreatest).1
    exact ⟨best, _, List.getElem?_eq_getElem hlt, h.label_eq hbest hlt, fun _ => hgreatest,
      fun h => absurd h htwo⟩

end Labels

/-- **Which class is predicted.** Scoring a model that was read and has a column for each class gives, over
any feature vector and in exact arithmetic, a decision value for each class and the label of one class;
a prediction is made in the same way from floats. If there are not two classes, the class is the first one
with the greatest decision value. Of two classes, it is so exactly if the first decision value is
positive or less than the second one, but not both. -/
theorem best_class_of_read {text : List Char} {m : LinearClassifier Float} (hread : read text = .ok m)
    (hcolumns : m.columns = m.labels.length) :
    (∀ f : Features, m.label f.widened = .ok (m.predict f).label) ∧
    ∀ entries : List (Nat × ℚ), ∃ (values : Nat → ℚ) (best : Nat) (label : Int),
      (m.map exactValue).decisionValues entries = .ok ((List.range m.labels.length).map values) ∧
      m.labels[best]? = some label ∧ (m.map exactValue).label entries = .ok label ∧
      (m.labels.length ≠ 2 → IsFirstGreatest values m.labels.length best) ∧
      (m.labels.length = 2 →
        (IsFirstGreatest values m.labels.length best ↔ (0 < values 0 ↔ values 1 ≤ values 0))) := by
  have hcomplete := isComplete_of_read hread
  -- reading the weights as rationals keeps the shape of the model, its bias included
  have hreading : (m.map exactValue).IsComplete := hcomplete.map (zero_le_exactValue_iff m.bias)
  refine ⟨hcomplete.label_eq_predict, fun entries => ?_⟩
  obtain ⟨best, label, hbest, hlabel, hmore, htwo⟩ := hreading.exists_label entries
  have hvalues := hreading.decisionValues_eq entries
  rw [show (m.map exactValue).columns = m.labels.length from hcolumns] at hvalues
  refine ⟨(m.map exactValue).decision entries, best, label, hvalues, hbest, hlabel, hmore, ?_⟩
  intro hlength
  rw [hlength, htwo hlength]
  split
  next hpositive => rw [isFirstGreatest_two_zero, iff_true_left hpositive]
  next hpositive => rw [isFirstGreatest_two_one, iff_false_left hpositive, not_le]

/-- A model of three classes, two of which have the same weights. -/
def tiedModel : List Char :=
  "solver_type L1R_LR
nr_class 3
label 4 7 9
nr_feature 1
bias -1
w
1 3 3
".toList

/-- The first of these two classes is predicted. -/
theorem best_class_of_tiedModel :
    ∃ m values, read tiedModel = .ok m ∧ IsFirstGreatest values 3 1 ∧
      (m.map exactValue).decisionValues [(1, 1)] = .ok ((List.range 3).map values) ∧
      (m.map exactValue).label [(1, 1)] = .ok 7 := by
  have hscored : (read tiedModel).map (fun m =>
      (m.labels, m.columns, (m.map exactValue).label [(1, 1)])) = .ok ([4, 7, 9], 3, .ok 7) := by
    decide +kernel
  obtain ⟨m, hread, hm⟩ := map_eq_ok_iff.mp hscored
  simp only [Prod.mk.injEq] at hm
  obtain ⟨hlabels, hcolumns, hlabel⟩ := hm
  have hlength : m.labels.length = 3 := by rw [hlabels]; rfl
  obtain ⟨-, hbest⟩ := best_class_of_read hread (hcolumns.trans hlength.symm)
  obtain ⟨values, best, label, hvalues, hposition, hlabel', hmore, -⟩ := hbest [(1, 1)]
  rw [hlength] at hvalues hmore
  have hgreatest := hmore (by decide)
  obtain rfl : label = 7 := Except.ok.inj (hlabel'.symm.trans hlabel)
  rw [hlabels] at hposition
  have hone : ∀ k < 3, ([4, 7, 9] : List Int)[k]? = some 7 → k = 1 := by decide
  obtain rfl := hone best (isFirstGreatest_iff.mp hgreatest).1 hposition
  exact ⟨m, values, hread, hgreatest, hvalues, hlabel⟩

/-- A model of two classes with a column for each. -/
def twoColumnModel : List Char :=
  "solver_type MCSVM_CS
nr_class 2
label 0 1
nr_feature 1
bias -1
w
1 2
".toList

/-- The class with the smaller of two positive decision values is predicted. -/
theorem worse_class_is_predicted :
    ∃ m, read twoColumnModel = .ok m ∧ m.labels = [0, 1] ∧ m.columns = 2 ∧
      (m.map exactValue).label [(1, 1)] = .ok 0 ∧
      (m.map exactValue).decisionValues [(1, 1)] = .ok [1, 2] := by
  have hshape : (read twoColumnModel).map (fun m => (m.labels, m.columns)) = .ok ([0, 1], 2) := by
    decide +kernel
  have hscored : (read twoColumnModel).map (fun m =>
      ((m.map exactValue).label [(1, 1)], (m.map exactValue).decisionValues [(1, 1)])) =
      .ok (.ok 0, .ok [1, 2]) := by
    decide +kernel
  obtain ⟨m, hread, hm⟩ := map_eq_ok_iff.mp hshape
  rw [hread] at hscored
  simp only [Except.map, Except.ok.injEq, Prod.mk.injEq] at hm hscored
  exact ⟨m, hread, hm.1, hm.2, hscored⟩

end LinearClassifier
end FlowScope
