import FlowScope.Native.Engine

/-!
# Inspectors

An inspector adapts one native library. It can be started, which gives a status, released, which may
fail, and asked. Its statuses may differ from call to call, so they are functions of the number of
calls made before. What happened to an inspector is its history, a list of `InspectorEvent`s.
-/

namespace FlowScope

structure Inspector where
  name : String
  /-- The status of a start, given how often the inspector was started before. -/
  status : Nat → Int
  /-- Whether a release succeeds, given how often the inspector was released before. -/
  releases : Nat → Bool
  engine : Engine

namespace Inspector

/-- The inspector of an nDPI library; it is always released. -/
def ndpi (status : Int) (openFlow : Packet → Option (List Packet → Int)) : Inspector :=
  ⟨Ndpi.name, fun _ => status, fun _ => true, .ndpi openFlow⟩

/-- The inspector of a libprotoident library; it is always released. -/
def protoident (status : Int) (openFlow : Option (List Bytes → Nat)) : Inspector :=
  ⟨Protoident.name, fun _ => status, fun _ => true, .protoident openFlow⟩

/-- The inspector of nDPI in a build without it. -/
def ndpiDisabled : Inspector := ndpi disabledStatus fun _ => none

/-- The inspector of libprotoident in a build without it. -/
def protoidentDisabled : Inspector := protoident disabledStatus none

/-- The inspectors of a build without native libraries. -/
def defaults : List Inspector := [protoidentDisabled, ndpiDisabled]

end Inspector

/-- One thing that happened to an inspector. -/
inductive InspectorEvent
  | started (code : Int)
  | released (success : Bool)
  | asked (calls : List NativeCall)
  deriving Repr, DecidableEq

namespace InspectorEvent

def isStart : InspectorEvent → Bool
  | started _ => true
  | _ => false

def isRelease : InspectorEvent → Bool
  | released _ => true
  | _ => false

/-- The native calls made in the event. -/
def calls : InspectorEvent → List NativeCall
  | asked calls => calls
  | _ => []

end InspectorEvent
end FlowScope
