import FlowScope.Linear.Reader
import FlowScope.Proofs.Guarded
import FlowScope.Proofs.Pieces

/-!
# Headers of model files

The reader of a header refuses it for one reason, with the number of a line. Here is what a refusal can
say, and what a header that passes is good for.

* `Blames line x` — an error of `x` is about the header, and names this line. Every check of one line
  blames that line, and so do the checks of the whole header with its last line;
* `readHeader_line` — the numbers of lines do not outgrow the lines there are;
* `HeaderFields.check_eq_ok_iff`, `ModelHeader.weightCount_eq` — a header that passes has classes and
  keeps to the limits, so the number of weights that it asks for is far below a word.
-/

namespace FlowScope

/-! ## Whom an error blames -/

/-- An error, if there is one, is about the header, and names this line. -/
def Blames (line : Nat) {α : Type} (x : Except LoadError α) : Prop :=
  ∀ e, x = .error e → ∃ fault, e = .header line fault

namespace Blames

variable {line : Nat} {α β : Type} {x : Except LoadError α}

theorem ok (a : α) : Blames line (.ok a) := by
  intro e h
  cases h

theorem error (fault : HeaderFault) : Blames line (.error (.header line fault) : Except _ α) := by
  intro e h
  cases h
  exact ⟨fault, rfl⟩

theorem map (h : Blames line x) (f : α → β) : Blames line (x.map f) := by
  cases x with
  | ok a => exact ok _
  | error e =>
      obtain ⟨fault, rfl⟩ := h e rfl
      exact error fault

theorem bind (h : Blames line x) {f : α → Except LoadError β} (hf : ∀ a, Blames line (f a)) :
    Blames line (x >>= f) := by
  cases x with
  | ok a => exact hf a
  | error e =>
      obtain ⟨fault, rfl⟩ := h e rfl
      exact error fault

theorem headerValue (key : String) (read? : List Char → Option α) (values : Words) :
    Blames line (headerValue line key read? values) := by
  unfold FlowScope.headerValue
  split
  · exact ok _
  · exact error _

theorem headerLabels (values : Words) : Blames line (headerLabels line values) := by
  unfold FlowScope.headerLabels
  split
  · exact ok _
  · exact error _

theorem headerSolver (values : Words) : Blames line (headerSolver line values) := by
  simp only [FlowScope.headerSolver]
  split
  · exact ok _
  · exact error _

theorem read (h : HeaderFields) (key : String) (values : Words) :
    Blames line (h.read line key values) := by
  unfold HeaderFields.read
  split
  · exact (headerSolver values).map _
  · exact (headerValue _ _ values).map _
  · exact (headerLabels values).map _
  · exact (headerValue _ _ values).map _
  · exact (headerValue _ _ values).map _
  · exact ok _
  · exact error _

theorem required (key : String) (value : Option α) : Blames line (required line key value) := by
  cases value with
  | some value => exact ok value
  | none => exact error _

theorem refuseIf (condition : Prop) [Decidable condition] (fault : HeaderFault) :
    Blames line (refuseIf condition line fault) := by
  unfold FlowScope.refuseIf
  split
  · exact error fault
  · exact ok _

theorem check (h : HeaderFields) : Blames line (h.check line) := by
  refine (required _ h.solver).bind fun solver => ?_
  refine (required _ h.classes).bind fun classes => ?_
  refine (required _ h.labels).bind fun labels => ?_
  refine (required _ h.features).bind fun features => ?_
  refine (required _ h.bias).bind fun bias => ?_
  refine (refuseIf _ _).bind fun _ => ?_
  refine (refuseIf _ _).bind fun _ => ?_
  exact (refuseIf _ _).bind fun _ => ok _

end Blames

/-! ## What a header says -/

/-- A header ends on one of its lines. -/
theorem line_of_readHeader {fields : HeaderFields} {line : Nat} {lines : List (List Char)}
    {last : HeaderEnd} (h : readHeader fields line lines = .ok last) :
    last.line < line + lines.length := by
  fun_induction readHeader fields line lines with
  | case1 => cases h
  | case2 fields line text later hblank ih =>
      have hlast := ih h
      rw [List.length_cons]
      omega
  | case3 fields line text later values hwords =>
      cases h
      simp
  | case4 fields line text later key values hwords hkey next hread ih =>
      have hlast := ih h
      rw [List.length_cons]
      omega
  | case5 => cases h

/-- A refusal of a header blames one of its lines, or the file as a whole. -/
theorem line_of_readHeader_error {fields : HeaderFields} {line : Nat} {lines : List (List Char)}
    {e : LoadError} (hline : 0 < line) (h : readHeader fields line lines = .error e) :
    ∃ n fault, e = .header n fault ∧ n < line + lines.length := by
  fun_induction readHeader fields line lines with
  | case1 fields line =>
      cases h
      exact ⟨0, _, rfl, hline⟩
  | case2 fields line text later hblank ih =>
      obtain ⟨n, fault, rfl, hn⟩ := ih (by omega) h
      rw [List.length_cons]
      exact ⟨n, fault, rfl, by omega⟩
  | case3 => cases h
  | case4 fields line text later key values hwords hkey next hread ih =>
      obtain ⟨n, fault, rfl, hn⟩ := ih (by omega) h
      rw [List.length_cons]
      exact ⟨n, fault, rfl, by omega⟩
  | case5 fields line text later key values hwords hkey error hread =>
      cases h
      obtain ⟨fault, rfl⟩ := Blames.read fields (String.ofList key) values e hread
      exact ⟨line, fault, rfl, by simp⟩

theorem required_eq_ok_iff {α : Type} {line : Nat} {key : String} {value : Option α} {a : α} :
    required line key value = .ok a ↔ value = some a := by
  cases value <;> simp [required]

theorem refuseIf_eq_ok_iff {condition : Prop} [Decidable condition] {line : Nat} {fault : HeaderFault}
    {u : Unit} : refuseIf condition line fault = .ok u ↔ ¬ condition := by
  unfold refuseIf
  split <;> simp [*]

/-- A header passes if it is complete, has the labels of its classes, and keeps to the limits. -/
theorem HeaderFields.check_eq_ok_iff {fields : HeaderFields} {line : Nat} {header : ModelHeader} :
    fields.check line = .ok header ↔
      fields.solver = some header.solver ∧ fields.classes = some header.labels.length ∧
      fields.labels = some header.labels ∧ fields.features = some header.features ∧
      fields.bias = some header.bias ∧ 1 ≤ header.labels.length ∧
      header.labels.length ≤ maxClasses ∧ header.features ≤ maxFeatures := by
  simp only [check, bind_eq_ok_iff, required_eq_ok_iff, refuseIf_eq_ok_iff]
  constructor
  · rintro ⟨solver, hsolver, classes, hclasses, labels, hlabels, features, hfeatures, bias, hbias,
      _, hcount, _, hmost, _, hmany, ⟨⟩⟩
    obtain rfl : labels.length = classes := by omega
    refine ⟨hsolver, hclasses, hlabels, hfeatures, hbias, ?_⟩
    show 1 ≤ labels.length ∧ labels.length ≤ maxClasses ∧ features ≤ maxFeatures
    omega
  · rintro ⟨hsolver, hclasses, hlabels, hfeatures, hbias, hclass, hmost, hmany⟩
    exact ⟨_, hsolver, _, hclasses, _, hlabels, _, hfeatures, _, hbias, (), by omega, (), by omega,
      (), by omega, rfl⟩

theorem LinearClassifier.columnsFor_le (solver : Solver) (classes : Nat) :
    columnsFor solver classes ≤ classes := by
  unfold columnsFor
  split <;> omega

namespace ModelHeader

/-- The model of a header, with some weights. -/
def model (h : ModelHeader) (weights : List Float) : LinearClassifier Float :=
  ⟨h.solver, h.labels, h.features, h.bias, weights.toArray⟩

/-- Within the limits, the number of weights is far below a word. -/
theorem weightCount_eq {h : ModelHeader} (hclasses : h.labels.length ≤ maxClasses)
    (hfeatures : h.features ≤ maxFeatures) (line : Nat) (weights : List Float) :
    (h.model weights).rows * (h.model weights).columns < Guarded.wordLimit ∧
      h.weightCount line = .ok ((h.model weights).rows * (h.model weights).columns) := by
  have hword : Guarded.wordLimit = 0x10000000000000000 := rfl
  have hrows : (h.model weights).rows ≤ maxFeatures + 1 := by
    unfold LinearClassifier.rows
    split <;> simp only [model] <;> omega
  have hcolumns : (h.model weights).columns ≤ maxClasses :=
    Nat.le_trans (LinearClassifier.columnsFor_le h.solver h.labels.length) hclasses
  -- the product of the two limits is far below a word
  have hcount : (h.model weights).rows * (h.model weights).columns < Guarded.wordLimit :=
    Nat.lt_of_le_of_lt (Nat.mul_le_mul hrows hcolumns) (by decide)
  have hsum : h.rows = .ok (h.model weights).rows := by
    have hzero : (0.0 : Float) = 0 := rfl
    show h.rows = .ok (if (0 : Float) ≤ h.bias then h.features + 1 else h.features)
    rw [rows, hzero]
    split
    · exact if_pos (by simp only [maxFeatures] at hfeatures; omega)
    · rfl
  refine ⟨hcount, ?_⟩
  unfold weightCount
  rw [hsum]
  exact if_pos hcount

end ModelHeader

end FlowScope
