import FlowScope.Linear.Error
import FlowScope.Native.Error

/-!
# Errors of detectors

What can go wrong when a detector starts or stops. Judging a flow does not fail: an error on the way
counts as no answer.
-/

namespace FlowScope

inductive DetectorError
  /-- What the detector needs is not part of the build; this is not reported as a failure. -/
  | disabled (detector : String)
  | start (detector reason : String)
  | stop (detector reason : String)
  | model (source : String) (cause : LoadError)
  | inspectors (errors : List InspectorError)
  deriving Repr, DecidableEq

namespace DetectorError

def message : DetectorError → String
  | disabled detector => detector ++ " is disabled in this build"
  | start detector reason => detector ++ " failed to initialize: " ++ reason
  | stop detector reason => detector ++ " failed to destroy: " ++ reason
  | model source cause => "failed to load model from " ++ source ++ ": " ++ cause.message
  | inspectors errors => toString errors.length ++ " wrapper(s) did not initialize correctly"

def isDisabled : DetectorError → Bool
  | disabled _ => true
  | _ => false

end DetectorError
end FlowScope
