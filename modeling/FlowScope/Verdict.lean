import FlowScope.Protocol

/-!
# Verdicts

A verdict is a protocol together with the name of the detector that found it. The protocol `unknown`
from the detector with the empty name says that nothing was found.
-/

namespace FlowScope

structure Verdict where
  protocol : Protocol
  source : String
  deriving Repr, DecidableEq

namespace Verdict

/-- Nothing was found. -/
def unknown : Verdict := ⟨.unknown, ""⟩

instance : Inhabited Verdict := ⟨unknown⟩

def isUnknown (v : Verdict) : Bool := v.protocol.isUnknown

/-- The verdict as a sentence. -/
def sentence (v : Verdict) : String :=
  "Detected protocol " ++ v.protocol.name ++ " from source " ++ v.source

end Verdict
end FlowScope
