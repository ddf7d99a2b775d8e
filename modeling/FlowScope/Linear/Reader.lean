import FlowScope.Linear.Classifier
import FlowScope.Linear.Error
import FlowScope.Text.Blank
import FlowScope.Text.Decimal

/-!
# Model files

A model file is text. Its header has a key and values on each line, in any order; of two lines with
one key the later counts. A line that starts with `w` ends the header, and the words on all later
lines are the weights, row by row, however they are spread over lines.

Reading goes in three steps, each of which may refuse the text: the header lines (`readHeader`), the
header as a whole (`HeaderFields.check`), and the weights.
-/

namespace FlowScope

/-- The largest numbers of features and classes; anything beyond is a damaged header. -/
def maxFeatures : Nat := 0x1000000
def maxClasses : Nat := 1024

/-- What the header lines read so far say. -/
structure HeaderFields where
  solver : Option Solver := none
  classes : Option Nat := none
  labels : Option (List Int) := none
  features : Option Nat := none
  bias : Option Float := none

/-- A complete header. -/
structure ModelHeader where
  solver : Solver
  labels : List Int
  features : Nat
  bias : Float

abbrev Words := List (List Char)

/-! ### Header lines -/

/-- The first value on a line, read by `read?`; other values on it are ignored. -/
def headerValue {α : Type} (line : Nat) (key : String) (read? : List Char → Option α)
    (values : Words) : Except LoadError α :=
  match values.head?.bind read? with
  | some value => .ok value
  | none => .error (.header line (.invalid key))

/-- All the values of a label line. -/
def headerLabels (line : Nat) (values : Words) : Except LoadError (List Int) :=
  match values.mapM (Text.signed? (-0x80000000) 0x7fffffff) with
  | some labels => .ok labels
  | none => .error (.header line (.invalid "label"))

def headerSolver (line : Nat) (values : Words) : Except LoadError Solver :=
  let name := String.ofList (values.headD [])
  match Solver.ofName? name with
  | some solver => .ok solver
  | none => .error (.header line (.unsupportedSolver name))

/-- One header line: its key and its values. -/
def HeaderFields.read (h : HeaderFields) (line : Nat) (key : String) (values : Words) :
    Except LoadError HeaderFields :=
  match key with
  | "solver_type" => (headerSolver line values).map fun v => { h with solver := some v }
  | "nr_class" =>
    (headerValue line key (Text.unsigned? 0xffffffffffffffff) values).map
      fun v => { h with classes := some v }
  | "label" => (headerLabels line values).map fun v => { h with labels := some v }
  | "nr_feature" =>
    (headerValue line key (Text.unsigned? 0xffffffffffffffff) values).map
      fun v => { h with features := some v }
  | "bias" =>
    (headerValue line key Text.Decimal.read? values).map
      fun v => { h with bias := some v.toFloat }
  | "rho" => .ok h
  | _ => .error (.header line (.unknownKey key))

/-- The end of a header: the number of its last line, what it says, and the lines after it. -/
structure HeaderEnd where
  line : Nat
  fields : HeaderFields
  later : List (List Char)

/-- Reads header lines, the first of which has the number `line`, up to the line of weights. -/
def readHeader (h : HeaderFields) (line : Nat) : List (List Char) → Except LoadError HeaderEnd
  | [] => .error (.header 0 (.missing "weights"))
  | text :: later =>
    match Text.words text with
    | [] => readHeader h (line + 1) later
    | key :: values =>
      if key = ['w'] then .ok ⟨line, h, later⟩
      else match h.read line (String.ofList key) values with
        | .ok h => readHeader h (line + 1) later
        | .error e => .error e

/-! ### The header as a whole -/

/-- A value that the header must have. -/
def required {α : Type} (line : Nat) (key : String) : Option α → Except LoadError α
  | some value => .ok value
  | none => .error (.header line (.missing key))

/-- Refuses a header with a fault. -/
def refuseIf (condition : Prop) [Decidable condition] (line : Nat) (fault : HeaderFault) :
    Except LoadError Unit :=
  if condition then .error (.header line fault) else .ok ()

/-- The header as a whole; `line` is the number of its last line. -/
def HeaderFields.check (h : HeaderFields) (line : Nat) : Except LoadError ModelHeader := do
  let solver ← required line "solver_type" h.solver
  let classes ← required line "nr_class" h.classes
  let labels ← required line "label" h.labels
  let features ← required line "nr_feature" h.features
  let bias ← required line "bias" h.bias
  refuseIf (classes = 0 ∨ labels.length ≠ classes) line .labelCount
  refuseIf (maxClasses < classes) line (.tooManyClasses maxClasses)
  refuseIf (maxFeatures < features) line (.tooManyFeatures maxFeatures)
  pure ⟨solver, labels, features, bias⟩

/-! ### Weights -/

/-- The weights as numbers, or the first of them that is none. -/
def readWeights (tokens : Words) : Except LoadError (List Float) :=
  tokens.mapM fun token =>
    match Text.Decimal.read? token with
    | some value => .ok value.toFloat
    | none => .error (.weight (String.ofList token))

/-- The number of rows of a header's model, the bias included; it must fit a word. -/
def ModelHeader.rows (h : ModelHeader) : Guarded LoadError Nat :=
  if 0.0 ≤ h.bias then Guarded.add h.features 1 else pure h.features

/-- The number of weights of a header's model; a number beyond a word is refused. -/
def ModelHeader.weightCount (h : ModelHeader) (line : Nat) : Guarded LoadError Nat := do
  let rows ← h.rows
  let count := rows * LinearClassifier.columnsFor h.solver h.labels.length
  if count < Guarded.wordLimit then pure count
  else Guarded.refuse (.header line .tooLarge)

namespace LinearClassifier

/-- Reads a model; arithmetic on what the header says is guarded. -/
def readGuarded (text : List Char) : Guarded LoadError (LinearClassifier Float) := do
  let lift {α : Type} : Except LoadError α → Guarded LoadError α := Except.mapError .refused
  let header ← lift (readHeader {} 1 (Text.lines text))
  let checked ← lift (header.fields.check header.line)
  let weights ← lift (readWeights (header.later.flatMap Text.words))
  let expected ← checked.weightCount header.line
  if weights.length = expected then
    pure ⟨checked.solver, checked.labels, checked.features, checked.bias, weights.toArray⟩
  else Guarded.refuse (.weightCount expected weights.length)

/-- Reads a model. A size that is beyond a word is refused, wherever it shows. -/
def read (text : List Char) : Except LoadError (LinearClassifier Float) :=
  (readGuarded text).settle (.header 0 .tooLarge)

end LinearClassifier
end FlowScope
