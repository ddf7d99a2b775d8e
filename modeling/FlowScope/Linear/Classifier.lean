import FlowScope.Guarded
import FlowScope.Linear.Bigram

/-!
# Linear models

A linear model has a row of weights for each feature, and one more row if it has a bias. A row has a
column for each class, except that one column decides between two classes (unless the solver keeps a
column for each).

* `decisionValues` — the weights summed up over a feature vector, column by column;
* `bestClass` — the class that the decision values point to;
* `predict` — its label, with a confidence made from logistic values.

The sums are written for any type of numbers; models that are read from files use double precision.
Reading weights and labels by index is guarded.
-/

namespace FlowScope

/-- The solvers whose models classify. -/
inductive Solver
  | l2rLr | l2rL2LossSvcDual | l2rL2LossSvc | l2rL1LossSvcDual | mcsvmCs | l1rL2LossSvc | l1rLr
  | l2rLrDual
  deriving Repr, DecidableEq

namespace Solver

def all : List Solver :=
  [l2rLr, l2rL2LossSvcDual, l2rL2LossSvc, l2rL1LossSvcDual, mcsvmCs, l1rL2LossSvc, l1rLr, l2rLrDual]

def name : Solver → String
  | l2rLr => "L2R_LR"
  | l2rL2LossSvcDual => "L2R_L2LOSS_SVC_DUAL"
  | l2rL2LossSvc => "L2R_L2LOSS_SVC"
  | l2rL1LossSvcDual => "L2R_L1LOSS_SVC_DUAL"
  | mcsvmCs => "MCSVM_CS"
  | l1rL2LossSvc => "L1R_L2LOSS_SVC"
  | l1rLr => "L1R_LR"
  | l2rLrDual => "L2R_LR_DUAL"

def ofName? (text : String) : Option Solver := all.find? (·.name = text)

end Solver

/-- A linear model over numbers of type `R`. The weights are in one array, row by row. -/
structure LinearClassifier (R : Type) where
  solver : Solver
  labels : List Int
  /-- The number of payload features. -/
  features : Nat
  bias : R
  weights : Array R

/-- A label, and how sure the model is of it. -/
structure Prediction where
  label : Int
  confidence : Float
  deriving Repr

namespace LinearClassifier

variable {R : Type}

/-! ### The shape of the weights -/

/-- The number of columns for a solver and a number of classes. -/
def columnsFor (solver : Solver) (classes : Nat) : Nat :=
  if classes = 2 ∧ solver ≠ .mcsvmCs then 1 else classes

def columns (m : LinearClassifier R) : Nat := columnsFor m.solver m.labels.length

/-- The number of rows, the bias included. -/
def rows [OfNat R 0] [LE R] [DecidableLE R] (m : LinearClassifier R) : Nat :=
  if (0 : R) ≤ m.bias then m.features + 1 else m.features

/-- The weights of a row; rows count from one. -/
def row (m : LinearClassifier R) (index : Nat) : Guarded Empty (List R) := do
  let start ← Guarded.mul (← Guarded.sub index 1) m.columns
  let finish ← Guarded.mul index m.columns
  if finish ≤ m.weights.size then pure (m.weights.extract start finish).toList
  else Guarded.halt .outOfRange

/-! ### Decision values -/

/-- Adds a multiple of a row to the sums of the columns. -/
def accumulate [Add R] [Mul R] (sums : List R) (weights : List R) (value : R) : List R :=
  sums.zipWith (fun sum weight => sum + weight * value) weights

/-- Adds the row of each feature, times its value. Features without a row do not count. -/
def addFeatures [Add R] [Mul R] [OfNat R 0] [LE R] [DecidableLE R] (m : LinearClassifier R)
    (sums : List R) : List (Nat × R) → Guarded Empty (List R)
  | [] => pure sums
  | (index, value) :: later =>
    if 1 ≤ index ∧ index ≤ m.rows then do
      addFeatures m (accumulate sums (← m.row index) value) later
    else addFeatures m sums later

/-- The sums of the columns over the features and, if there is one, the bias. -/
def decisionValues [Add R] [Mul R] [OfNat R 0] [LE R] [DecidableLE R] (m : LinearClassifier R)
    (features : List (Nat × R)) : Guarded Empty (List R) := do
  let sums ← m.addFeatures (List.replicate m.columns 0) features
  if (0 : R) ≤ m.bias then pure (accumulate sums (← m.row m.rows) m.bias) else pure sums

/-! ### The best class -/

/-- An element of a list; asking for one that is not there is a fault. -/
def element {α : Type} (xs : List α) (i : Nat) : Guarded Empty α :=
  match xs[i]? with
  | some x => pure x
  | none => Guarded.halt .outOfRange

/-- The position of the first greatest of some values, each of which is compared with the value at the
best position so far; `position` is that of the first of those still to come. -/
def greatest [LT R] [DecidableLT R] (values : List R) (best position : Nat) :
    List R → Guarded Empty Nat
  | [] => pure best
  | v :: later => do
    let top ← element values best
    greatest values (if top < v then position else best) (position + 1) later

/-- The class that the decision values point to. Of two classes, it is the first one if the first
value is positive; of another number, the one with the greatest value. -/
def bestClass [OfNat R 0] [LT R] [DecidableLT R] (m : LinearClassifier R) (values : List R) :
    Guarded Empty Nat := do
  if m.labels.length = 2 then
    let first ← element values 0
    pure (if (0 : R) < first then 0 else 1)
  else greatest values 0 0 values

/-! ### Predictions -/

def logistic (v : Float) : Float := 1.0 / (1.0 + Float.exp (-v))

/-- The confidence in each class: logistic values, made to sum up to one. -/
def confidences (m : LinearClassifier Float) (values : List Float) : Guarded Empty (List Float) := do
  if m.labels.length = 2 then
    let p := logistic (← element values 0)
    pure [p, 1.0 - p]
  else
    let raw := values.map logistic
    let total := raw.foldl (· + ·) 0.0
    pure (raw.map (· / total))

/-- The label of the best class, and the confidence in it. -/
def score (m : LinearClassifier Float) (features : Features) : Guarded Empty Prediction := do
  let values ← m.decisionValues (features.map fun entry => (entry.1, entry.2.toFloat))
  let best ← m.bestClass values
  let confidences ← m.confidences values
  let label ← element m.labels best
  let confidence ← element confidences best
  pure ⟨label, confidence⟩

/-- The prediction for a feature vector. The label of a model that cannot be scored is no class. -/
def predict (m : LinearClassifier Float) (features : Features) : Prediction :=
  match m.score features with
  | .ok prediction => prediction
  | .error _ => ⟨-1, 0.0⟩

end LinearClassifier
end FlowScope
