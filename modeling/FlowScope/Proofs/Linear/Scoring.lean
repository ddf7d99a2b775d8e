import FlowScope.Proofs.Linear.Features
import FlowScope.Proofs.Linear.Header

/-!
# Scoring stays in bounds

What a model file must be like for the model in it to score every feature vector, and that the reader
accepts no other. The link between the two is `LinearClassifier.IsComplete`: there is a class, the
weights are those of all rows and columns, and their number fits a word. It mentions neither the bias
nor the weights themselves, so they may be infinite or no numbers.

* `readGuarded_cases` — a model that is read is complete, and reading it overflows nowhere;
* `row_eq`, `decisionValues_eq` — of a complete model, the weights of a row and the decision values,
  each of which is one sum (`decision`);
* `bestClass_ensures`, `confidences_ensures` — what the other steps of scoring deliver;
* `scoring_of_read` — so every text is refused for a reason or gives a model that scores anything.
-/

namespace FlowScope

namespace LinearClassifier

open Guarded Features

/-! ## Complete models -/

section Complete

variable {R : Type} {m : LinearClassifier R}

theorem columns_eq (h : m.labels.length ≠ 2) : m.columns = m.labels.length := by
  rw [columns, columnsFor, if_neg]
  exact fun hboth => h hboth.1

theorem accumulate_map [Add R] [Mul R] (columns : List Nat) (sums weights : Nat → R) (value : R) :
    accumulate (columns.map sums) (columns.map weights) value =
      columns.map fun column => sums column + weights column * value := by
  rw [accumulate, List.zipWith_map, List.zipWith_self]

variable [OfNat R 0]

/-- The weight of a row in a column; rows count from one, columns from zero. -/
def weight (m : LinearClassifier R) (index column : Nat) : R :=
  m.weights.getD ((index - 1) * m.columns + column) 0

/-- A slice, item by item. -/
theorem toList_extract {xs : Array R} {start count : Nat} (h : start + count ≤ xs.size) :
    (xs.extract start (start + count)).toList =
      (List.range count).map fun i => xs.getD (start + i) 0 := by
  have hlength : (xs.extract start (start + count)).size = count := by
    rw [Array.size_extract]
    omega
  apply List.ext_getElem
  · rw [Array.length_toList, hlength, List.length_map, List.length_range]
  · intro i hi _
    rw [Array.length_toList, hlength] at hi
    have hinside : start + i < xs.size := by omega
    simp [hinside]

variable [LE R] [DecidableLE R]

theorem rows_of_bias (hbias : 0 ≤ m.bias) : m.rows = m.features + 1 := if_pos hbias

theorem rows_of_no_bias (hbias : ¬ 0 ≤ m.bias) : m.rows = m.features := if_neg hbias

structure IsComplete (m : LinearClassifier R) : Prop where
  hasClass : 0 < m.labels.length
  size_eq : m.weights.size = m.rows * m.columns
  fits : m.rows * m.columns < wordLimit

theorem IsComplete.columns_pos (h : m.IsComplete) : 0 < m.columns := by
  have hclass := h.hasClass
  unfold columns columnsFor
  split <;> omega

/-- A row lies within the weights. -/
theorem IsComplete.row_le (h : m.IsComplete) {index : Nat} (hrow : index ≤ m.rows) :
    index * m.columns ≤ m.weights.size := by
  rw [h.size_eq]
  exact Nat.mul_le_mul_right _ hrow

theorem IsComplete.row_eq (h : m.IsComplete) {index : Nat} (hindex : 1 ≤ index)
    (hrow : index ≤ m.rows) : m.row index = .ok ((List.range m.columns).map (m.weight index)) := by
  have hle := h.row_le hrow
  -- the row ends within the weights, and their number fits a word
  have hfits : index * m.columns < wordLimit := by
    have hsize := h.fits
    rw [← h.size_eq] at hsize
    omega
  have hbefore : (index - 1) * m.columns + m.columns = index * m.columns := by
    rw [← Nat.succ_mul]
    congr 1
    omega
  have hweights : (m.row index).Ensures (· = (List.range m.columns).map (m.weight index)) := by
    unfold row
    refine (ensures_sub hindex).bind fun before hsub => ?_
    subst hsub
    refine (ensures_mul (by omega)).bind fun start hstart => ?_
    refine (ensures_mul hfits).bind fun finish hfinish => ?_
    subst hstart hfinish
    rw [if_pos hle, ← hbefore]
    exact ensures_pure (toList_extract (by omega))
  obtain ⟨weights, hrow, rfl⟩ := hweights.exists_ok
  exact hrow

theorem IsComplete.row_ensures (h : m.IsComplete) {index : Nat} (hindex : 1 ≤ index)
    (hrow : index ≤ m.rows) : (m.row index).Ensures (·.length = m.columns) := by
  rw [h.row_eq hindex hrow]
  exact ensures_pure (by simp)

/-! ## Decision values -/

variable [Add R] [Mul R]

/-- Adds the values of entries to a sum, each times its weight in the column, from left to right. -/
def addWeighted (m : LinearClassifier R) (column : Nat) (sum : R) (entries : List (Nat × R)) : R :=
  entries.foldl (fun sum entry => sum + m.weight entry.1 column * entry.2) sum

/-- The decision value of a column: the sum over the entries that have a row, and then over the bias, if
there is one. -/
def decision (m : LinearClassifier R) (entries : List (Nat × R)) (column : Nat) : R :=
  let sum := m.addWeighted column 0 (upTo m.rows entries)
  if 0 ≤ m.bias then sum + m.weight m.rows column * m.bias else sum

theorem IsComplete.addFeatures_eq (h : m.IsComplete) (entries : List (Nat × R)) (sums : Nat → R) :
    m.addFeatures ((List.range m.columns).map sums) entries =
      .ok ((List.range m.columns).map fun column =>
        m.addWeighted column (sums column) (upTo m.rows entries)) := by
  induction entries generalizing sums with
  | nil => rfl
  | cons entry later ih =>
      obtain ⟨index, value⟩ := entry
      rw [addFeatures, upTo, List.filter_cons]
      split
      next hindex =>
          -- an index with a row adds that row, and any other is passed over
          rw [h.row_eq hindex.1 hindex.2, if_pos (decide_eq_true hindex)]
          simp only [bind, Except.bind, accumulate_map, ih]
          rfl
      next hindex =>
          rw [ih, if_neg (by simpa using hindex)]
          rfl

theorem IsComplete.decisionValues_eq (h : m.IsComplete) (entries : List (Nat × R)) :
    m.decisionValues entries = .ok ((List.range m.columns).map (m.decision entries)) := by
  have hzero : List.replicate m.columns (0 : R) = (List.range m.columns).map fun _ => 0 := by simp
  unfold decisionValues
  rw [hzero, h.addFeatures_eq]
  simp only [bind, Except.bind]
  split
  next hbias =>
      -- a bias has the last row to itself
      have hrow : 1 ≤ m.rows := by
        rw [rows_of_bias hbias]
        exact Nat.le_add_left ..
      rw [h.row_eq hrow (Nat.le_refl _)]
      simp only [accumulate_map]
      refine congrArg Except.ok (List.map_congr_left fun column _ => ?_)
      rw [decision, if_pos hbias]
  next hbias =>
      refine congrArg Except.ok (List.map_congr_left fun column _ => ?_)
      rw [decision, if_neg hbias]

theorem IsComplete.decisionValues_ensures (h : m.IsComplete) (features : List (Nat × R)) :
    (m.decisionValues features).Ensures (·.length = m.columns) := by
  rw [h.decisionValues_eq]
  exact ensures_pure (by simp)

end Complete

/-! ## The best class -/

theorem element_ensures {α : Type} {xs : List α} {i : Nat} (h : i < xs.length) :
    (element xs i).Ensures (xs[i]? = some ·) := by
  rw [element, List.getElem?_eq_getElem h]
  exact ensures_pure rfl

/-- The best position so far is always that of a value. -/
theorem greatest_ensures {R : Type} [LT R] [DecidableLT R] {values : List R} (later : List R)
    {best position : Nat} (hbest : best < values.length)
    (hposition : position + later.length = values.length) :
    (greatest values best position later).Ensures (· < values.length) := by
  induction later generalizing best position with
  | nil => exact ensures_pure hbest
  | cons v later ih =>
      rw [List.length_cons] at hposition
      refine (element_ensures hbest).bind fun top _ => ih ?_ (by omega)
      split <;> omega

theorem IsComplete.bestClass_ensures {R : Type} [OfNat R 0] [LE R] [DecidableLE R] [LT R]
    [DecidableLT R] {m : LinearClassifier R} (h : m.IsComplete) {values : List R}
    (hvalues : values.length = m.columns) :
    (m.bestClass values).Ensures (· < m.labels.length) := by
  have hpos := h.columns_pos
  unfold bestClass
  split
  next htwo =>
      refine (element_ensures (by omega)).bind fun first _ => ensures_pure ?_
      split <;> omega
  next htwo =>
      have hcolumns := columns_eq htwo
      refine (greatest_ensures values (by omega) (by omega)).mono fun best hbest => ?_
      omega

/-! ## Predictions -/

variable {m : LinearClassifier Float}

theorem IsComplete.confidences_ensures (h : m.IsComplete) {values : List Float}
    (hvalues : values.length = m.columns) :
    (m.confidences values).Ensures (·.length = m.labels.length) := by
  have hpos := h.columns_pos
  unfold confidences
  split
  next htwo =>
      refine (element_ensures (by omega)).bind fun first _ => ensures_pure ?_
      simp [htwo]
  next htwo =>
      refine ensures_pure ?_
      simp [hvalues, columns_eq htwo]

/-- What scoring a complete model computes on its way to the prediction. -/
theorem IsComplete.exists_score (h : m.IsComplete) (features : Features) :
    ∃ values best confidences label confidence,
      m.decisionValues (features.map fun entry => (entry.1, entry.2.toFloat)) = .ok values ∧
      values.length = m.columns ∧
      m.bestClass values = .ok best ∧ best < m.labels.length ∧
      m.confidences values = .ok confidences ∧ best < confidences.length ∧
      m.labels[best]? = some label ∧ confidences[best]? = some confidence ∧
      m.score features = .ok ⟨label, confidence⟩ ∧ m.predict features = ⟨label, confidence⟩ := by
  obtain ⟨values, hvalues, hlength⟩ :=
    (h.decisionValues_ensures (features.map fun entry => (entry.1, entry.2.toFloat))).exists_ok
  obtain ⟨best, hbest, hlabel⟩ := (h.bestClass_ensures hlength).exists_ok
  obtain ⟨confidences, hconfidences, hcount⟩ := (h.confidences_ensures hlength).exists_ok
  have hconfidence : best < confidences.length := by omega
  obtain ⟨label, helement, hlabel'⟩ := (element_ensures hlabel).exists_ok
  obtain ⟨confidence, helement', hconfidence'⟩ := (element_ensures hconfidence).exists_ok
  have hscore : m.score features = .ok ⟨label, confidence⟩ := by
    simp only [score, hvalues, hbest, hconfidences, helement, helement', bind, Except.bind]
    rfl
  refine ⟨values, best, confidences, label, confidence, hvalues, hlength, hbest, hlabel,
    hconfidences, hconfidence, hlabel', hconfidence', hscore, ?_⟩
  rw [predict, hscore]

/-! ## Reading -/

theorem weight_of_readWeights_error {tokens : Words} {e : LoadError}
    (h : readWeights tokens = .error e) : ∃ token, e = .weight token := by
  induction tokens with
  | nil => cases h
  | cons token tokens ih =>
      rw [readWeights, List.mapM_cons] at h
      -- the first token that is no number is the one that is named
      cases hread : Text.Decimal.read? token with
      | none =>
          rw [hread] at h
          cases h
          exact ⟨_, rfl⟩
      | some value =>
          rw [hread] at h
          change (readWeights tokens >>= fun values => pure (value.toFloat :: values)) = _ at h
          cases hlater : readWeights tokens with
          | error e' =>
              rw [hlater] at h
              cases h
              exact ih hlater
          | ok values =>
              rw [hlater] at h
              cases h

variable {text : List Char} {last : HeaderEnd} {header : ModelHeader}

/-- What is done after the header has passed. -/
theorem readGuarded_of_check (hheader : readHeader {} 1 (Text.lines text) = .ok last)
    (hcheck : last.fields.check last.line = .ok header) :
    readGuarded text =
      (Except.mapError .refused (readWeights (last.later.flatMap Text.words)) >>= fun weights =>
        header.weightCount last.line >>= fun expected =>
          if weights.length = expected then pure (header.model weights)
          else refuse (.weightCount expected weights.length)) := by
  simp only [readGuarded, hheader, hcheck, Except.mapError, bind, Except.bind]
  rfl

/-- Reading refuses the text, or gives a complete model. A refusal blames a line that is there. -/
theorem readGuarded_cases (text : List Char) :
    (∃ e, readGuarded text = .error (.refused e) ∧
      ∀ n fault, e = .header n fault → n ≤ (Text.lines text).length) ∨
    ∃ m, readGuarded text = .ok m ∧ m.IsComplete := by
  -- the stages of the reader, each of which may refuse the text with its own error
  rcases hheader : readHeader {} 1 (Text.lines text) with e | last
  · obtain ⟨n, fault, rfl, hn⟩ := line_of_readHeader_error (by decide) hheader
    refine .inl ⟨.header n fault, by simp only [readGuarded, hheader]; rfl, ?_⟩
    rintro n' fault' heq
    cases heq
    omega
  have hline := line_of_readHeader hheader
  rcases hcheck : last.fields.check last.line with e | header
  · obtain ⟨fault, rfl⟩ := Blames.check last.fields e hcheck
    refine .inl ⟨.header last.line fault, ?_, ?_⟩
    · simp only [readGuarded, hheader, hcheck, Except.mapError, bind, Except.bind]
    · rintro n' fault' heq
      cases heq
      omega
  have hread := readGuarded_of_check hheader hcheck
  obtain ⟨-, -, -, -, -, hclass, hclasses, hfeatures⟩ := HeaderFields.check_eq_ok_iff.mp hcheck
  rcases hweights : readWeights (last.later.flatMap Text.words) with e | weights
  · obtain ⟨token, rfl⟩ := weight_of_readWeights_error hweights
    exact .inl ⟨.weight token, by rw [hread, hweights]; rfl, by simp⟩
  obtain ⟨hfits, hcount⟩ := ModelHeader.weightCount_eq hclasses hfeatures last.line weights
  simp only [hweights, hcount, Except.mapError, bind, Except.bind] at hread
  by_cases hsize : weights.length = (header.model weights).rows * (header.model weights).columns
  · exact .inr ⟨header.model weights, hread.trans (if_pos hsize), hclass, hsize, hfits⟩
  · exact .inl ⟨.weightCount _ _, hread.trans (if_neg hsize), by simp⟩

/-- **An accepted model scores anything.** Reading a text overflows nowhere: it ends with a reason to
refuse the text, in which no line number exceeds the length of the text, or with a model. Whatever the
bias and the weights of the model are,

* every row that scoring can ask for lies within the weights, and has a weight for each column;
* for every feature vector, the decision values can be had, one for each column, and the best class
  among them; it is the position of a label and of a confidence, and these are the prediction. -/
theorem scoring_of_read (text : List Char) :
    (∃ e, readGuarded text = .error (.refused e) ∧ read text = .error e ∧
      ∀ n fault, e = .header n fault → n ≤ text.length) ∨
    ∃ m, readGuarded text = .ok m ∧ read text = .ok m ∧
      (∀ index, 1 ≤ index → index ≤ m.rows → index * m.columns ≤ m.weights.size ∧
        ∃ weights, m.row index = .ok weights ∧ weights.length = m.columns) ∧
      ∀ features : Features, ∃ values best confidences label confidence,
        m.decisionValues (features.map fun entry => (entry.1, entry.2.toFloat)) = .ok values ∧
        values.length = m.columns ∧
        m.bestClass values = .ok best ∧ best < m.labels.length ∧
        m.confidences values = .ok confidences ∧ best < confidences.length ∧
        m.labels[best]? = some label ∧ confidences[best]? = some confidence ∧
        m.score features = .ok ⟨label, confidence⟩ ∧ m.predict features = ⟨label, confidence⟩ := by
  rcases readGuarded_cases text with ⟨e, hrefused, hline⟩ | ⟨m, hread, hcomplete⟩
  · refine .inl ⟨e, hrefused, by rw [read, hrefused]; rfl, ?_⟩
    intro n fault he
    exact Nat.le_trans (hline n fault he) (length_endedPieces_le _ text)
  · refine .inr ⟨m, hread, by rw [read, hread]; rfl, ?_, hcomplete.exists_score⟩
    intro index hindex hrow
    exact ⟨hcomplete.row_le hrow, (hcomplete.row_ensures hindex hrow).exists_ok⟩

/-- A model of one class, whose bias is no number and whose weights are infinite. -/
def unsoundModel : List Char :=
  "solver_type MCSVM_CS\nnr_class 1\nlabel -7\nnr_feature 2\nbias nan\nw\ninf -inf\n".toList

/-- It is accepted, without a row for the bias, and gives its only class to every feature vector. -/
theorem scoring_of_unsoundModel :
    ∃ m, read unsoundModel = .ok m ∧ m.rows = 2 ∧ m.columns = 1 ∧
      ∀ features, (m.predict features).label = -7 := by
  have haccepted : ((read unsoundModel).toOption.map fun m => (m.labels, m.rows, m.columns)) =
      some ([-7], 2, 1) := by decide +kernel
  rcases scoring_of_read unsoundModel with ⟨e, -, hrefused, -⟩ | ⟨m, -, hread, -, hscores⟩
  · rw [hrefused] at haccepted
    cases haccepted
  · rw [hread] at haccepted
    obtain ⟨hlabels, hrows, hcolumns⟩ : m.labels = [-7] ∧ m.rows = 2 ∧ m.columns = 1 := by
      simpa [Except.toOption] using haccepted
    refine ⟨m, hread, hrows, hcolumns, fun features => ?_⟩
    obtain ⟨values, best, confidences, label, confidence, -, -, -, hbest, -, -, hlabel, -, -, hpredict⟩ :=
      hscores features
    rw [hlabels] at hbest hlabel
    obtain rfl : best = 0 := Nat.lt_one_iff.mp hbest
    rw [hpredict]
    exact (Option.some.inj hlabel).symm

end LinearClassifier
end FlowScope
