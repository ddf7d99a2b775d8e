import FlowScope.Text.Quoted

/-!
# Errors of model files

Why a linear model cannot be had: its source cannot be read, or the text there is no model file. An
error of the header gives the number of a line, counted from one; zero stands for the file as a whole.
-/

namespace FlowScope

/-- What is wrong with the header of a model file. -/
inductive HeaderFault
  | unsupportedSolver (name : String)
  | unknownKey (key : String)
  | invalid (key : String)
  | missing (key : String)
  | labelCount
  | tooManyClasses (most : Nat)
  | tooManyFeatures (most : Nat)
  | tooLarge
  deriving Repr, DecidableEq

def HeaderFault.reason : HeaderFault → String
  | unsupportedSolver name => "unsupported solver " ++ Text.quoted name
  | unknownKey key => "unknown key " ++ Text.quoted key
  | invalid key => "invalid " ++ key
  | missing key => "missing " ++ key
  | labelCount => "label count does not match nr_class"
  | tooManyClasses most => "nr_class above " ++ toString most
  | tooManyFeatures most => "nr_feature above " ++ toString most
  | tooLarge => "weight matrix too large"

inductive LoadError
  /-- The file cannot be read, or is not text. -/
  | io
  /-- The address cannot be fetched. -/
  | fetch
  | missingSource
  | header (line : Nat) (fault : HeaderFault)
  | weightCount (expected found : Nat)
  | weight (token : String)
  deriving Repr, DecidableEq

def LoadError.message : LoadError → String
  | io => "I/O error"
  | fetch => "could not fetch model"
  | missingSource => "no model source configured"
  | header line fault =>
    "malformed model header at line " ++ toString line ++ ": " ++ fault.reason
  | weightCount expected found =>
    "expected " ++ toString expected ++ " weights, found " ++ toString found
  | weight token => "invalid weight value " ++ Text.quoted token

end FlowScope
