import FlowScope.Proofs.Linear.Scoring
import FlowScope.Proofs.Text.Numeral
import Mathlib.Data.List.Forall2

/-!
# The format of model files

What a model file is, said apart from the reader. The header lines of a text say entries, in any order
(`SaysEntries`), and of two entries with one key the later counts (`LastOf`). Behind the line of weights
there are words, however they are spread over lines (`Spells`). A model is described by the entries that
count and by the words, which are its weights (`Describes`).

Each step of the reader has one lemma that says when it accepts: `HeaderFields.read_eq_ok_iff` for a
line, `readHeader_eq_ok_iff` for the lines, `HeaderFields.check_eq_ok_iff` for the header as a whole, and
`readWeights_eq_ok_iff`. `Spells.readGuarded_eq_ok_iff` puts them together.

The main statement is `format_is_exact`: a text is accepted exactly if it is in the format, with the
model that it describes.
-/

namespace FlowScope

/-! ## Lists of results -/

/-- A list is read if each item of it is, in a monad in which a result needs the results of all steps. -/
theorem mapM_eq_pure_iff {M : Type → Type} [Monad M] [LawfulMonad M] {α β : Type}
    (hpure : ∀ {γ : Type} {c c' : γ}, (pure c : M γ) = pure c' ↔ c = c')
    (hbind : ∀ {γ δ : Type} {x : M γ} {f : γ → M δ} {d : δ},
      x >>= f = pure d ↔ ∃ c, x = pure c ∧ f c = pure d)
    {f : α → M β} {xs : List α} {ys : List β} :
    xs.mapM f = pure ys ↔ List.Forall₂ (fun x y => f x = pure y) xs ys := by
  induction xs generalizing ys with
  | nil => rw [List.mapM_nil, hpure, List.forall₂_nil_left_iff, eq_comm]
  | cons x xs ih =>
      simp only [List.mapM_cons, hbind, hpure, ih, List.forall₂_cons_left_iff]
      constructor
      · rintro ⟨y, hy, ys', hys, rfl⟩
        exact ⟨y, ys', hy, hys, rfl⟩
      · rintro ⟨y, ys', hy, hys, rfl⟩
        exact ⟨y, hy, ys', hys, rfl⟩

/-! ## Entries -/

/-- What a header line may say. -/
inductive HeaderEntry
  | solver (s : Solver)
  | classes (n : Nat)
  | labels (ls : List Int)
  | features (n : Nat)
  | bias (b : Float)

/-- A word is an unsigned integer of 64 bits. -/
def IsCount (word : List Char) (n : Nat) : Prop := Text.IsUnsigned word n ∧ n ≤ 0xffffffffffffffff

/-- A word is a signed integer of 32 bits. -/
def IsLabel (word : List Char) (l : Int) : Prop :=
  Text.IsSigned word l ∧ -0x80000000 ≤ l ∧ l ≤ 0x7fffffff

/-- A word is a number in double precision. -/
def IsReal (word : List Char) (x : Float) : Prop :=
  (Text.Decimal.read? word).map Text.Decimal.toFloat = some x

namespace HeaderEntry

/-- The first word of a line that says the entry. -/
def key : HeaderEntry → String
  | solver _ => "solver_type"
  | classes _ => "nr_class"
  | labels _ => "label"
  | features _ => "nr_feature"
  | bias _ => "bias"

/-- The words behind the key give the value of the entry. Only labels take all of them, the others leave
whatever stands behind the first. -/
inductive IsOn : HeaderEntry → Words → Prop
  | solver {s : Solver} {others : Words} : IsOn (.solver s) (s.name.toList :: others)
  | classes {n : Nat} {word : List Char} {others : Words}
      (hword : IsCount word n) : IsOn (.classes n) (word :: others)
  | labels {ls : List Int} {words : Words} (hwords : List.Forall₂ IsLabel words ls) :
      IsOn (.labels ls) words
  | features {n : Nat} {word : List Char} {others : Words}
      (hword : IsCount word n) : IsOn (.features n) (word :: others)
  | bias {b : Float} {word : List Char} {others : Words} (hword : IsReal word b) :
      IsOn (.bias b) (word :: others)

end HeaderEntry

/-- The entries that the words of header lines say. A blank line says nothing, and an offset counts for
nothing either. -/
inductive SaysEntries : List Words → List HeaderEntry → Prop
  | nil : SaysEntries [] []
  | blank {lines : List Words} {entries : List HeaderEntry} (hlater : SaysEntries lines entries) :
      SaysEntries ([] :: lines) entries
  | offset {values : Words} {lines : List Words} {entries : List HeaderEntry}
      (hlater : SaysEntries lines entries) : SaysEntries (("rho".toList :: values) :: lines) entries
  | entry {e : HeaderEntry} {values : Words} {lines : List Words} {entries : List HeaderEntry}
      (hline : e.IsOn values) (hlater : SaysEntries lines entries) :
      SaysEntries ((e.key.toList :: values) :: lines) (e :: entries)

/-! ### Words -/

theorem isCount_iff {word : List Char} {n : Nat} :
    Text.unsigned? 0xffffffffffffffff word = some n ↔ IsCount word n := by
  rw [Text.unsigned?_eq_some_iff, IsCount]

theorem isLabel_iff {word : List Char} {l : Int} :
    Text.signed? (-0x80000000) 0x7fffffff word = some l ↔ IsLabel word l := by
  rw [Text.signed?_eq_some_iff, IsLabel]

/-! ### Lines -/

theorem Solver.ofName?_eq_some_iff {text : String} {s : Solver} :
    Solver.ofName? text = some s ↔ text = s.name := by
  constructor
  · intro h
    have hname := List.find?_some h
    simpa [eq_comm] using hname
  · rintro rfl
    cases s <;> rfl

theorem headerSolver_eq_ok_iff {line : Nat} {values : Words} {s : Solver} :
    headerSolver line values = .ok s ↔ (HeaderEntry.solver s).IsOn values := by
  constructor
  · intro h
    simp only [headerSolver] at h
    split at h
    next s' hname =>
      cases h
      have hname := Solver.ofName?_eq_some_iff.mp hname
      cases values with
      -- an entry without a value reads as the empty name, which no solver has
      | nil => exact absurd hname (by cases s <;> decide)
      | cons word others =>
          obtain rfl : word = s.name.toList := by simpa using congrArg String.toList hname
          exact .solver
    next => cases h
  · rintro ⟨⟩
    simp [headerSolver, Solver.ofName?_eq_some_iff.mpr rfl]

theorem headerValue_eq_ok_iff {α : Type} {line : Nat} {key : String} {read? : List Char → Option α}
    {values : Words} {a : α} :
    headerValue line key read? values = .ok a ↔
      ∃ word others, values = word :: others ∧ read? word = some a := by
  cases values with
  | nil => simp [headerValue]
  | cons word others => cases h : read? word <;> simp [headerValue, h]

theorem headerLabels_eq_ok_iff {line : Nat} {values : Words} {ls : List Int} :
    headerLabels line values = .ok ls ↔ (HeaderEntry.labels ls).IsOn values := by
  have hiff : values.mapM (Text.signed? (-0x80000000) 0x7fffffff) = some ls ↔
      List.Forall₂ IsLabel values ls := by
    refine (mapM_eq_pure_iff Option.some_inj Option.bind_eq_some_iff).trans ?_
    simp only [Option.pure_def, isLabel_iff]
  constructor
  · intro h
    unfold headerLabels at h
    split at h
    next hvalues =>
      cases h
      exact .labels (hiff.mp hvalues)
    next => cases h
  · rintro ⟨⟩
    next hwords => rw [headerLabels, hiff.mpr hwords]

/-- The header with one more entry. -/
def HeaderFields.set (h : HeaderFields) : HeaderEntry → HeaderFields
  | .solver s => { h with solver := some s }
  | .classes n => { h with classes := some n }
  | .labels ls => { h with labels := some ls }
  | .features n => { h with features := some n }
  | .bias b => { h with bias := some b }

theorem HeaderFields.read_eq_ok_iff {h h' : HeaderFields} {line : Nat} {key : String} {values : Words} :
    h.read line key values = .ok h' ↔
      key = "rho" ∧ h = h' ∨ ∃ e : HeaderEntry, e.key = key ∧ e.IsOn values ∧ h.set e = h' := by
  constructor
  · intro hread
    unfold read at hread
    split at hread
    · obtain ⟨s, hs, rfl⟩ := map_eq_ok_iff.mp hread
      exact .inr ⟨.solver s, rfl, headerSolver_eq_ok_iff.mp hs, rfl⟩
    · obtain ⟨n, hn, rfl⟩ := map_eq_ok_iff.mp hread
      obtain ⟨word, others, rfl, hword⟩ := headerValue_eq_ok_iff.mp hn
      exact .inr ⟨.classes n, rfl, .classes (isCount_iff.mp hword), rfl⟩
    · obtain ⟨ls, hls, rfl⟩ := map_eq_ok_iff.mp hread
      exact .inr ⟨.labels ls, rfl, headerLabels_eq_ok_iff.mp hls, rfl⟩
    · obtain ⟨n, hn, rfl⟩ := map_eq_ok_iff.mp hread
      obtain ⟨word, others, rfl, hword⟩ := headerValue_eq_ok_iff.mp hn
      exact .inr ⟨.features n, rfl, .features (isCount_iff.mp hword), rfl⟩
    · obtain ⟨d, hd, rfl⟩ := map_eq_ok_iff.mp hread
      obtain ⟨word, others, rfl, hword⟩ := headerValue_eq_ok_iff.mp hd
      exact .inr ⟨.bias d.toFloat, rfl, .bias (by rw [IsReal, hword]; rfl), rfl⟩
    · -- the offset sets no field
      cases hread
      exact .inl ⟨rfl, rfl⟩
    · cases hread
  · rintro (⟨rfl, rfl⟩ | ⟨e, rfl, hvalues, rfl⟩)
    · rfl
    cases e with
    | solver s => exact map_eq_ok_iff.mpr ⟨s, headerSolver_eq_ok_iff.mpr hvalues, rfl⟩
    | labels ls => exact map_eq_ok_iff.mpr ⟨ls, headerLabels_eq_ok_iff.mpr hvalues, rfl⟩
    | classes n =>
        cases hvalues with
        | classes hword =>
            have hread := isCount_iff.mpr hword
            exact map_eq_ok_iff.mpr ⟨n, headerValue_eq_ok_iff.mpr ⟨_, _, rfl, hread⟩, rfl⟩
    | features n =>
        cases hvalues with
        | features hword =>
            have hread := isCount_iff.mpr hword
            exact map_eq_ok_iff.mpr ⟨n, headerValue_eq_ok_iff.mpr ⟨_, _, rfl, hread⟩, rfl⟩
    | bias b =>
        cases hvalues with
        | bias hword =>
            obtain ⟨d, hd, rfl⟩ := Option.map_eq_some_iff.mp hword
            exact map_eq_ok_iff.mpr ⟨d, headerValue_eq_ok_iff.mpr ⟨_, _, rfl, hd⟩, rfl⟩

/-! ### The header lines -/

/-- The first word is `w`. -/
def StartsWeights (line : List Char) : Prop := (Text.words line).head? = some ['w']

theorem readHeader_append {header : List (List Char)} {ending : List Char} {entries : List HeaderEntry}
    (hentries : SaysEntries (header.map Text.words) entries) (hending : StartsWeights ending)
    (fields : HeaderFields) (line : Nat) (later : List (List Char)) :
    readHeader fields line (header ++ ending :: later) =
      .ok ⟨line + header.length, entries.foldl HeaderFields.set fields, later⟩ := by
  -- the induction is on the lines of the header, with what they say set line by line
  induction header generalizing fields line entries with
  | nil =>
      cases hentries
      obtain ⟨values, hwords⟩ := List.head?_eq_some_iff.mp hending
      rw [List.nil_append, readHeader, hwords]
      rfl
  | cons text header ih =>
      rw [List.map_cons] at hentries
      have hline : line + (text :: header).length = line + 1 + header.length := by
        rw [List.length_cons]
        omega
      rw [List.cons_append, readHeader, hline]
      generalize Text.words text = words at hentries ⊢
      cases hentries with
      | blank hlater => exact ih hlater fields (line + 1)
      | @offset values _ _ hlater => exact ih hlater fields (line + 1)
      | @entry e values _ _ hvalues hlater =>
          have hread : fields.read line e.key values = .ok (fields.set e) :=
            HeaderFields.read_eq_ok_iff.mpr (.inr ⟨e, rfl, hvalues, rfl⟩)
          have hkey : e.key.toList ≠ ['w'] := by cases e <;> simp [HeaderEntry.key]
          simp only [hkey, if_false, String.ofList_toList, hread]
          exact ih hlater (fields.set e) (line + 1)

/-- A header is read up to a line of weights, and the lines before that one say something. -/
theorem readHeader_eq_ok_iff {fields : HeaderFields} {line : Nat} {lines : List (List Char)}
    {last : HeaderEnd} :
    readHeader fields line lines = .ok last ↔
      ∃ header ending entries, lines = header ++ ending :: last.later ∧ StartsWeights ending ∧
        last.line = line + header.length ∧ SaysEntries (header.map Text.words) entries ∧
        last.fields = entries.foldl HeaderFields.set fields := by
  constructor
  · -- as the reader goes: no line left, a blank one, the weights, an entry read, an entry refused
    intro h
    fun_induction readHeader fields line lines with
    | case1 => cases h
    | case2 fields line text later hblank ih =>
        obtain ⟨header, ending, entries, rfl, hending, hline, hentries, hfields⟩ := ih h
        refine ⟨text :: header, ending, entries, rfl, hending, ?_, ?_, hfields⟩
        · rw [hline, List.length_cons]
          omega
        · rw [List.map_cons, hblank]
          exact .blank hentries
    | case3 fields line text later values hwords =>
        cases h
        exact ⟨[], text, [], rfl, by rw [StartsWeights, hwords]; rfl, rfl, .nil, rfl⟩
    | case4 fields line text later key values hwords hkey next hread ih =>
        obtain ⟨header, ending, entries, rfl, hending, hline, hentries, hfields⟩ := ih h
        have hline : last.line = line + (text :: header).length := by
          rw [hline, List.length_cons]
          omega
        rcases HeaderFields.read_eq_ok_iff.mp hread with ⟨hrho, rfl⟩ | ⟨e, hkey, hvalues, rfl⟩
        · refine ⟨text :: header, ending, entries, rfl, hending, hline, ?_, hfields⟩
          obtain rfl : key = "rho".toList := by simpa using congrArg String.toList hrho
          rw [List.map_cons, hwords]
          exact .offset hentries
        · refine ⟨text :: header, ending, e :: entries, rfl, hending, hline, ?_, hfields⟩
          obtain rfl : e.key.toList = key := by simpa using congrArg String.toList hkey
          rw [List.map_cons, hwords]
          exact .entry hvalues hentries
    | case5 => cases h
  · rintro ⟨header, ending, entries, rfl, hending, hline, hentries, hfields⟩
    rw [readHeader_append hentries hending, ← hline, ← hfields]

/-! ### The entries that count -/

namespace HeaderEntry

/-- The fields have the value of the entry. -/
def IsIn (e : HeaderEntry) (h : HeaderFields) : Prop :=
  match e with
  | solver s => h.solver = some s
  | classes n => h.classes = some n
  | labels ls => h.labels = some ls
  | features n => h.features = some n
  | bias b => h.bias = some b

/-- The entry is there, and no entry with its key comes after it. -/
def LastOf (e : HeaderEntry) (entries : List HeaderEntry) : Prop :=
  ∃ before after, entries = before ++ e :: after ∧ ∀ e' ∈ after, e'.key ≠ e.key

theorem not_isIn_default (e : HeaderEntry) : ¬ e.IsIn {} := by
  cases e <;> simp [IsIn]

theorem isIn_set_iff {e e' : HeaderEntry} {h : HeaderFields} :
    e.IsIn (h.set e') ↔ e = e' ∨ e'.key ≠ e.key ∧ e.IsIn h := by
  cases e <;> cases e' <;> simp [IsIn, HeaderFields.set, key, eq_comm]

theorem not_lastOf_nil (e : HeaderEntry) : ¬ e.LastOf [] := by
  simp [LastOf]

theorem lastOf_append_singleton_iff {e e' : HeaderEntry} {entries : List HeaderEntry} :
    e.LastOf (entries ++ [e']) ↔ e = e' ∨ e'.key ≠ e.key ∧ e.LastOf entries := by
  constructor
  · rintro ⟨before, after, heq, hafter⟩
    -- the last entry is this one, or the new one comes after it and has another key
    rcases List.eq_nil_or_concat after with rfl | ⟨after, e'', rfl⟩
    · cases List.append_inj_right' heq rfl
      exact .inl rfl
    · rw [List.concat_eq_append, ← List.cons_append, ← List.append_assoc] at heq
      obtain ⟨rfl, hlast⟩ := List.append_inj' heq rfl
      cases hlast
      exact .inr ⟨hafter e' (by simp), before, after, rfl, fun x hx => hafter x (by simp [hx])⟩
  · rintro (rfl | ⟨hne, before, after, rfl, hafter⟩)
    · exact ⟨entries, [], rfl, by simp⟩
    · refine ⟨before, after ++ [e'], by simp, ?_⟩
      intro x hx
      rcases List.mem_append.mp hx with hx | hx
      · exact hafter x hx
      · rwa [List.mem_singleton.mp hx]

/-- Of the entries with one key, the last one is in the fields. -/
theorem isIn_foldl_set_iff {e : HeaderEntry} {entries : List HeaderEntry} :
    e.IsIn (entries.foldl HeaderFields.set {}) ↔ e.LastOf entries := by
  induction entries using List.reverseRecOn with
  | nil => exact iff_of_false (not_isIn_default e) (not_lastOf_nil e)
  | append_singleton entries e' ih =>
      rw [List.foldl_append, List.foldl_cons, List.foldl_nil, isIn_set_iff, ih,
        lastOf_append_singleton_iff]

end HeaderEntry

/-! ## The weights -/

theorem readWeights_eq_ok_iff {tokens : Words} {weights : List Float} :
    readWeights tokens = .ok weights ↔ List.Forall₂ IsReal tokens weights := by
  refine (mapM_eq_pure_iff (Except.ok.injEq _ _).to_iff bind_eq_ok_iff).trans ?_
  apply iff_of_eq
  congr 1
  funext token weight
  cases h : Text.Decimal.read? token <;> simp [IsReal, h, pure, Except.pure]

namespace LinearClassifier

/-! ## Texts and models -/

/-- The lines of the text up to a line of weights say the entries, and the words on the lines after it
are the tokens. No line that says something starts with `w`, so that line is the first that does. -/
def Spells (text : List Char) (entries : List HeaderEntry) (tokens : Words) : Prop :=
  ∃ header ending later, Text.lines text = header ++ ending :: later ∧
    SaysEntries (header.map Text.words) entries ∧ StartsWeights ending ∧
    tokens = later.flatMap Text.words

/-- The model has what counts of the entries, within the limits, and the tokens are its weights: for each
feature, and for the bias if there is one, a weight for each column. Each class has a column of its own, but
two classes share one with all solvers but `mcsvmCs`. -/
structure Describes (entries : List HeaderEntry) (tokens : Words) (m : LinearClassifier Float) :
    Prop where
  solver : (HeaderEntry.solver m.solver).LastOf entries
  classes : (HeaderEntry.classes m.labels.length).LastOf entries
  labels : (HeaderEntry.labels m.labels).LastOf entries
  features : (HeaderEntry.features m.features).LastOf entries
  bias : (HeaderEntry.bias m.bias).LastOf entries
  hasClass : 1 ≤ m.labels.length
  classes_le : m.labels.length ≤ 1024
  features_le : m.features ≤ 2 ^ 24
  weights : List.Forall₂ IsReal tokens m.weights.toList
  count : tokens.length = (if 0 ≤ m.bias then m.features + 1 else m.features) *
    (if m.labels.length = 2 ∧ m.solver ≠ .mcsvmCs then 1 else m.labels.length)

open HeaderEntry (isIn_foldl_set_iff)
open Guarded (settle_eq_ok_iff)

variable {text : List Char} {entries entries' : List HeaderEntry} {tokens : Words}
  {m : LinearClassifier Float}

theorem Spells.readGuarded_eq_ok_iff (h : Spells text entries tokens) :
    readGuarded text = .ok m ↔ Describes entries tokens m := by
  obtain ⟨header, ending, later, hlines, hentries, hending, rfl⟩ := h
  have hheader := readHeader_append hentries hending {} 1 later
  rw [← hlines] at hheader
  simp only [readGuarded, bind_eq_ok_iff, mapError_eq_ok_iff, hheader]
  constructor
  · rintro ⟨_, ⟨⟩, checked, hcheck, weights, hweights, expected, hexpected, hm⟩
    obtain ⟨hsolver, hclasses, hlabels, hfeatures, hbias, hclass, hmost, hmany⟩ :=
      HeaderFields.check_eq_ok_iff.mp hcheck
    -- within its limits the header asks for a number of weights that fits a word
    obtain ⟨-, hcount⟩ := ModelHeader.weightCount_eq hmost hmany (1 + header.length) weights
    rw [hcount] at hexpected
    cases hexpected
    split at hm
    next hsize =>
      cases hm
      have hweights := readWeights_eq_ok_iff.mp hweights
      exact ⟨isIn_foldl_set_iff.mp hsolver, isIn_foldl_set_iff.mp hclasses,
        isIn_foldl_set_iff.mp hlabels, isIn_foldl_set_iff.mp hfeatures, isIn_foldl_set_iff.mp hbias,
        hclass, hmost, hmany, hweights, hweights.length_eq.trans hsize⟩
    next => cases hm
  · intro h
    let checked : ModelHeader := ⟨m.solver, m.labels, m.features, m.bias⟩
    have hcheck : (entries.foldl HeaderFields.set {}).check (1 + header.length) = .ok checked :=
      HeaderFields.check_eq_ok_iff.mpr ⟨isIn_foldl_set_iff.mpr h.solver,
        isIn_foldl_set_iff.mpr h.classes, isIn_foldl_set_iff.mpr h.labels,
        isIn_foldl_set_iff.mpr h.features, isIn_foldl_set_iff.mpr h.bias, h.hasClass, h.classes_le,
        h.features_le⟩
    obtain ⟨-, hcount⟩ :=
      ModelHeader.weightCount_eq (h := checked) h.classes_le h.features_le (1 + header.length)
        m.weights.toList
    have hsize : m.weights.toList.length = m.rows * m.columns := h.weights.length_eq.symm.trans h.count
    exact ⟨_, rfl, checked, hcheck, _, readWeights_eq_ok_iff.mpr h.weights, _, hcount, if_pos hsize⟩

theorem readGuarded_eq_ok_iff :
    readGuarded text = .ok m ↔
      ∃ entries tokens, Spells text entries tokens ∧ Describes entries tokens m := by
  constructor
  · intro h
    have hread := h
    simp only [readGuarded, bind_eq_ok_iff, mapError_eq_ok_iff] at hread
    obtain ⟨last, hheader, -⟩ := hread
    obtain ⟨header, ending, entries, hlines, hending, -, hentries, -⟩ := readHeader_eq_ok_iff.mp hheader
    have hspells : Spells text entries (last.later.flatMap Text.words) :=
      ⟨header, ending, last.later, hlines, hentries, hending, rfl⟩
    exact ⟨entries, _, hspells, hspells.readGuarded_eq_ok_iff.mp h⟩
  · rintro ⟨entries, tokens, hspells, hdescribes⟩
    exact hspells.readGuarded_eq_ok_iff.mpr hdescribes

theorem Describes.of_lastOf (h : Describes entries tokens m)
    (hlast : ∀ e : HeaderEntry, e.LastOf entries → e.LastOf entries') : Describes entries' tokens m :=
  { h with
    solver := hlast _ h.solver
    classes := hlast _ h.classes
    labels := hlast _ h.labels
    features := hlast _ h.features
    bias := hlast _ h.bias }

/-- **The reader accepts exactly its format, whatever the layout.** Reading a text overflows nowhere, and
delivers a model if and only if the text spells entries and tokens that describe it. Texts with the same
tokens are read alike if the same of their entries count: neither the order of the keys nor entries that
count for nothing, blank lines, further words on the lines of the header and on the line of weights, or
the lines that the weights are spread over make a difference. -/
theorem format_is_exact (text : List Char) :
    (readGuarded text).Safe ∧
    (∀ m, read text = .ok m ↔
      ∃ entries tokens, Spells text entries tokens ∧ Describes entries tokens m) ∧
    ∀ text' entries entries' tokens, Spells text entries tokens → Spells text' entries' tokens →
      (∀ e : HeaderEntry, e.LastOf entries ↔ e.LastOf entries') →
      ∀ m, read text = .ok m ↔ read text' = .ok m := by
  refine ⟨?_, fun m => settle_eq_ok_iff.trans readGuarded_eq_ok_iff, ?_⟩
  · intro cause hfault
    rcases readGuarded_cases text with ⟨e, hrefused, -⟩ | ⟨m, hread, -⟩
    · cases hfault.symm.trans hrefused
    · cases hfault.symm.trans hread
  · intro text' entries entries' tokens hspells hspells' hlast m
    -- a field is that of the last entry with its key, so the order of the others does not matter
    have hdescribes : Describes entries tokens m ↔ Describes entries' tokens m :=
      ⟨fun h => h.of_lastOf fun e => (hlast e).mp, fun h => h.of_lastOf fun e => (hlast e).mpr⟩
    calc read text = .ok m
      _ ↔ readGuarded text = .ok m := settle_eq_ok_iff
      _ ↔ Describes entries tokens m := hspells.readGuarded_eq_ok_iff
      _ ↔ Describes entries' tokens m := hdescribes
      _ ↔ readGuarded text' = .ok m := hspells'.readGuarded_eq_ok_iff.symm
      _ ↔ read text' = .ok m := settle_eq_ok_iff.symm

/-- A model of one class and one feature, without a bias. -/
def compactModel : List Char :=
  "solver_type L2R_LR\nnr_class 1\nlabel 7\nnr_feature 1\nbias -1\nw\n0.5".toList

/-- The same model in another layout, with a number of classes that is overridden. -/
def spreadModel : List Char :=
  ("bias -1 0\n\nlabel 7\nnr_class 2\nnr_feature 1\nrho 3\nnr_class 1\r\n" ++
    "solver_type L2R_LR x\nw w\n\n0.5\n").toList

/-- Both texts are accepted, with the same model. -/
theorem format_is_exact_of_layouts :
    let minusOne : Float := (Text.Decimal.finite true [1] 0).toFloat
    let entries := [HeaderEntry.solver .l2rLr, .classes 1, .labels [7], .features 1, .bias minusOne]
    let entries' := [HeaderEntry.bias minusOne, .labels [7], .classes 2, .features 1, .classes 1,
      .solver .l2rLr]
    (Spells compactModel entries ["0.5".toList] ∧ Spells spreadModel entries' ["0.5".toList] ∧
      ∀ e : HeaderEntry, e.LastOf entries ↔ e.LastOf entries') ∧
    ∃ m, read compactModel = .ok m ∧ read spreadModel = .ok m ∧ m.labels = [7] := by
  intro minusOne entries entries'
  have hsolver (others : Words) : (HeaderEntry.solver .l2rLr).IsOn ("L2R_LR".toList :: others) := .solver
  have hclass : (HeaderEntry.classes 1).IsOn ["1".toList] := .classes (isCount_iff.mp rfl)
  have hclasses : (HeaderEntry.classes 2).IsOn ["2".toList] := .classes (isCount_iff.mp rfl)
  have hlabels : (HeaderEntry.labels [7]).IsOn ["7".toList] :=
    .labels (.cons (isLabel_iff.mp rfl) .nil)
  have hfeatures : (HeaderEntry.features 1).IsOn ["1".toList] :=
    .features (isCount_iff.mp rfl)
  have hbias (others : Words) : (HeaderEntry.bias minusOne).IsOn ("-1".toList :: others) := .bias rfl
  have hspells : Spells compactModel entries ["0.5".toList] := by
    have hlines : ((Text.lines compactModel).take 5).map Text.words =
        [["solver_type".toList, "L2R_LR".toList], ["nr_class".toList, "1".toList],
          ["label".toList, "7".toList], ["nr_feature".toList, "1".toList],
          ["bias".toList, "-1".toList]] := by decide
    refine ⟨(Text.lines compactModel).take 5, "w".toList, ["0.5".toList], by decide, ?_, rfl, by decide⟩
    rw [hlines]
    exact .entry (hsolver []) (.entry hclass (.entry hlabels (.entry hfeatures (.entry (hbias []) .nil))))
  have hspells' : Spells spreadModel entries' ["0.5".toList] := by
    have hlines : ((Text.lines spreadModel).take 8).map Text.words =
        [["bias".toList, "-1".toList, "0".toList], [], ["label".toList, "7".toList],
          ["nr_class".toList, "2".toList], ["nr_feature".toList, "1".toList],
          ["rho".toList, "3".toList], ["nr_class".toList, "1".toList],
          ["solver_type".toList, "L2R_LR".toList, "x".toList]] := by decide
    refine ⟨(Text.lines spreadModel).take 8, "w w".toList, [[], "0.5".toList], by decide, ?_, rfl,
      by decide⟩
    rw [hlines]
    exact .entry (hbias ["0".toList]) (.blank (.entry hlabels (.entry hclasses (.entry hfeatures
      (.offset (.entry hclass (.entry (hsolver ["x".toList]) .nil)))))))
  have hlast : ∀ e : HeaderEntry, e.LastOf entries ↔ e.LastOf entries' := by
    intro e
    rw [← isIn_foldl_set_iff, ← isIn_foldl_set_iff]
    rfl
  refine ⟨⟨hspells, hspells', hlast⟩, ?_⟩
  have haccepted : (read compactModel).toOption.map (·.labels) = some [7] := by decide +kernel
  cases hread : read compactModel with
  | error e =>
      rw [hread] at haccepted
      cases haccepted
  | ok m =>
      rw [hread] at haccepted
      obtain ⟨-, -, halike⟩ := format_is_exact compactModel
      have hread' := (halike spreadModel entries entries' _ hspells hspells' hlast m).mp hread
      exact ⟨m, rfl, hread', Option.some.inj haccepted⟩

end LinearClassifier
end FlowScope
