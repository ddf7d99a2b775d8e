import FlowScope.Proofs.Linear.Scoring

/-!
# Features outside the model

Which entries of a feature vector count: those of the features of the model, from `1` on, with their
weights (`featureSum`). If there is a bias, it counts with the weights in the last row. This row is open
to an entry of the vector as well, the one with the index behind the last feature; it lies outside the
model and counts all the same (`label_of_stray`). No other entry outside does.

The main statement is `decisionValues_of_read`.
-/

namespace FlowScope

namespace LinearClassifier

open Features

/-! ## The decision values of a map -/

section Sums

variable {R : Type} [OfNat R 0] [Add R] [Mul R]

/-- The sum of a column over the features of the model, from left to right. -/
def featureSum (m : LinearClassifier R) (entries : List (Nat × R)) (column : Nat) : R :=
  m.addWeighted column 0 (upTo m.features entries)

/-- Adds an entry that has the index of the bias, if there is one. -/
def addStray (m : LinearClassifier R) (entries : List (Nat × R)) (column : Nat) (sum : R) : R :=
  match entries.lookup (m.features + 1) with
  | some value => sum + m.weight (m.features + 1) column * value
  | none => sum

variable [LE R] [DecidableLE R] {m : LinearClassifier R} {entries : List (Nat × R)}

/-- With a bias, one entry beyond the features of the model counts. -/
theorem decision_of_bias (hentries : IsAscending entries) (hbias : 0 ≤ m.bias) (column : Nat) :
    m.decision entries column = m.addStray entries column (m.featureSum entries column) +
      m.weight (m.features + 1) column * m.bias := by
  rw [decision, if_pos hbias, rows_of_bias hbias, hentries.upTo_succ, addStray, addWeighted,
    List.foldl_append]
  cases entries.lookup (m.features + 1) <;> rfl

theorem decision_of_no_bias (hbias : ¬ 0 ≤ m.bias) (column : Nat) :
    m.decision entries column = m.featureSum entries column := by
  rw [decision, if_neg hbias, rows_of_no_bias hbias, featureSum]

/-- A decision value depends on the entries that have a row. -/
theorem decision_congr {entries' : List (Nat × R)}
    (h : upTo m.rows entries = upTo m.rows entries') :
    m.decision entries = m.decision entries' := by
  funext column
  rw [decision, decision, h]

end Sums

/-! ## Predictions -/

variable {m : LinearClassifier Float}

/-- The label of the best class, over any type of numbers. -/
def label {R : Type} [Add R] [Mul R] [OfNat R 0] [LE R] [DecidableLE R] [LT R] [DecidableLT R]
    (m : LinearClassifier R) (entries : List (Nat × R)) : Guarded Empty Int := do
  let values ← m.decisionValues entries
  let best ← m.bestClass values
  element m.labels best

/-- A prediction gives the label of the best class. -/
theorem IsComplete.label_eq_predict (h : m.IsComplete) (f : Features) :
    m.label f.widened = .ok (m.predict f).label := by
  obtain ⟨values, best, confidences, label, confidence, hvalues, -, hbest, -, -, -, hlabel, -, -,
    hpredict⟩ := h.exists_score f
  have hvalues : m.decisionValues f.widened = .ok values := hvalues
  simp only [LinearClassifier.label, hvalues, hbest, element, hlabel, hpredict, bind, Except.bind]
  rfl

/-- A prediction depends on the decision values. -/
theorem predict_congr {f g : Features}
    (h : m.decisionValues f.widened = m.decisionValues g.widened) : m.predict f = m.predict g := by
  have hscore : m.score f = m.score g := congrArg (· >>= _) h
  rw [predict, predict, hscore]

theorem isComplete_of_read {text : List Char} (hread : read text = .ok m) : m.IsComplete := by
  have hguarded : readGuarded text = .ok m := Guarded.settle_eq_ok_iff.mp hread
  rcases readGuarded_cases text with ⟨e, hrefused, -⟩ | ⟨m', hread', hcomplete⟩
  · rw [hguarded] at hrefused
    cases hrefused
  · rw [hguarded] at hread'
    cases hread'
    exact hcomplete

/-- **What counts in a decision value.** Scoring a model that was read sums up, column by column, the
weighted values of the features of the model; if there is a bias, then an entry with the index of the bias
and the bias itself, with one weight; and nothing else. So decision values and prediction are the same
for two feature vectors that give these indices the same values, whatever other entries they have. -/
theorem decisionValues_of_read {text : List Char} (hread : read text = .ok m) {f : Features}
    (hf : IsAscending f) :
    m.decisionValues f.widened = .ok ((List.range m.columns).map fun column =>
      if 0 ≤ m.bias then
        m.addStray f.widened column (m.featureSum f.widened column) +
          m.weight (m.features + 1) column * m.bias
      else m.featureSum f.widened column) ∧
    ∀ g : Features, IsAscending g →
      (∀ index, 1 ≤ index → index ≤ m.features → f.lookup index = g.lookup index) →
      (0 ≤ m.bias → f.lookup (m.features + 1) = g.lookup (m.features + 1)) →
      m.decisionValues f.widened = m.decisionValues g.widened ∧ m.predict f = m.predict g := by
  have hcomplete := isComplete_of_read hread
  constructor
  · rw [hcomplete.decisionValues_eq]
    refine congrArg Except.ok (List.map_congr_left fun column _ => ?_)
    split
    next hbias => exact decision_of_bias hf.widened hbias column
    next hbias => exact decision_of_no_bias hbias column
  · intro g hg hfeatures hstray
    -- only entries that have a row count, and the last row may be that of the bias
    have hlookup : ∀ index, 1 ≤ index → index ≤ m.rows →
        f.widened.lookup index = g.widened.lookup index := by
      intro index hindex hrow
      rw [lookup_widened, lookup_widened]
      apply congrArg (Option.map Float32.toFloat)
      by_cases hbias : 0 ≤ m.bias
      · rw [rows_of_bias hbias] at hrow
        rcases Nat.le_succ_iff.mp hrow with hle | rfl
        · exact hfeatures index hindex hle
        · exact hstray hbias
      · rw [rows_of_no_bias hbias] at hrow
        exact hfeatures index hindex hrow
    have hvalues : m.decisionValues f.widened = m.decisionValues g.widened := by
      rw [hcomplete.decisionValues_eq, hcomplete.decisionValues_eq,
        decision_congr (hf.widened.upTo_eq hg.widened hlookup)]
    exact ⟨hvalues, predict_congr hvalues⟩

/-- A model of two features and a bias. -/
def biasedModel : List Char :=
  "solver_type L2R_LR
nr_class 2
label 2 8
nr_feature 2
bias 1
rho 0
w
1.5
-3
0.5
".toList

/-- It takes no notice of entries before its first feature and far behind its last one. -/
theorem decisionValues_of_biasedModel :
    ∃ m, read biasedModel = .ok m ∧
      m.predict (ofList [(0, 7), (1, 1), (40, 100)]) = m.predict (ofList [(1, 1)]) := by
  have haccepted : (read biasedModel).map (·.features) = .ok 2 := by decide +kernel
  obtain ⟨m, hread, htwo⟩ := map_eq_ok_iff.mp haccepted
  obtain ⟨-, hsame⟩ := decisionValues_of_read hread (isAscending_ofList [(0, 7), (1, 1), (40, 100)])
  refine ⟨m, hread, (hsame (ofList [(1, 1)]) (isAscending_ofList _) ?_ ?_).2⟩
  · intro index hindex hle
    rw [htwo] at hle
    obtain rfl | rfl : index = 1 ∨ index = 2 := by omega
    · rfl
    · rfl
  · intro _
    rw [htwo]
    rfl

/-- A model of one feature and a bias. -/
def strayModel : List Char :=
  "solver_type L2R_LR
nr_class 2
label 0 1
nr_feature 1
bias 1
w
2
-1
".toList

/-- An entry behind the only feature, with the index of the bias, changes the label. -/
theorem label_of_stray :
    ∃ m, read strayModel = .ok m ∧ m.features = 1 ∧
      m.label [(1, 1)] = .ok 0 ∧ m.label [(1, 1), (2, 1)] = .ok 1 := by
  have hscored : (read strayModel).map (fun m =>
      (m.features, m.label [(1, 1)], m.label [(1, 1), (2, 1)])) = .ok (1, .ok 0, .ok 1) := by
    decide +kernel
  obtain ⟨m, hread, hm⟩ := map_eq_ok_iff.mp hscored
  simp only [Prod.mk.injEq] at hm
  exact ⟨m, hread, hm⟩

end LinearClassifier
end FlowScope
