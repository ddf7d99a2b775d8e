/-!
# Errors of native libraries

What can go wrong with a native library: it does not start, is not released, or has no answer. Each
error says which library it is about.
-/

namespace FlowScope

/-- The status by which a native library says that it is not part of the build. -/
def disabledStatus : Int := -0x1000

inductive InspectorError
  | disabled (library : String)
  /-- The library started with a status that is not zero. -/
  | status (library : String) (code : Int)
  | release (library : String)
  | ipv6 (library : String)
  | fragment (library : String)
  /-- The library would not open a flow. -/
  | noFlow (library : String)
  /-- The library answered with an error code that has no other meaning. -/
  | native (library : String) (code : Int)
  deriving Repr, DecidableEq

namespace InspectorError

def message : InspectorError → String
  | disabled library => library ++ " is disabled in this build"
  | status library code => library ++ " initialization returned code " ++ toString code
  | release library => library ++ " failed to release its resources"
  | ipv6 library => library ++ " does not support IPv6"
  | fragment library => library ++ " received a fragmented packet"
  | noFlow library => library ++ " could not create a native flow"
  | native library code => library ++ " returned unknown native error " ++ toString code

/-- What the status of a start means: zero is success. -/
def ofStatus (library : String) (code : Int) : Except InspectorError Unit :=
  if code = 0 then .ok ()
  else if code = disabledStatus then .error (disabled library)
  else .error (status library code)

end InspectorError
end FlowScope
