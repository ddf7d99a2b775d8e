import FlowScope.Json.Decode
import FlowScope.Settings

/-!
# Settings files

A settings file is a JSON record. Settings that it does not give have their defaults, also those of
the models, which are a record within it.
-/

namespace FlowScope

namespace LinearSettings

def fieldNames : List String := ["tcp_model_path", "udp_model_path", "threshold"]

/-- The model settings of a record. -/
def ofJson? (defaults : LinearSettings) (v : Json.Value) : Option LinearSettings := do
  match ← v.record? fieldNames with
  | [tcp, udp, threshold] =>
    let tcpSource ← Json.Value.fieldOr defaults.tcpSource Json.Value.string? tcp
    let udpSource ← Json.Value.fieldOr defaults.udpSource Json.Value.string? udp
    let threshold ← Json.Value.fieldOr defaults.threshold Json.Value.float32? threshold
    pure { tcpSource, udpSource, threshold }
  | _ => none

end LinearSettings

namespace Settings

def fieldNames : List String := ["cache_expiration_secs", "cleanup_interval_secs", "metrics_port", "ml"]

/-- The settings of a record. -/
def ofJson? (v : Json.Value) : Option Settings := do
  let defaults : Settings := {}
  match ← v.record? fieldNames with
  | [expiration, interval, port, models] =>
    let flowExpiration ← Json.Value.fieldOr defaults.flowExpiration
      (Json.Value.integer? leastExpiration mostExpiration) expiration
    let sweepInterval ← Json.Value.fieldOr defaults.sweepInterval
      (Json.Value.natural? mostInterval) interval
    let metricsPort ← Json.Value.fieldOr defaults.metricsPort (Json.Value.natural? mostPort) port
    let linear ← Json.Value.fieldOr defaults.linear (LinearSettings.ofJson? defaults.linear) models
    pure { flowExpiration, sweepInterval, metricsPort, linear }
  | _ => none

/-- Why a settings file is refused: it cannot be read as text, or it holds no settings. -/
inductive FileError
  | reading
  | parsing
  deriving Repr, DecidableEq

/-- The settings in a file with the given content, if there is such a file. -/
def ofFile (content : Option Bytes) : Except FileError Settings :=
  match content.bind Text.ofUtf8? with
  | none => .error .reading
  | some text =>
    match (Json.Value.read? (Text.toUtf8 text)).bind ofJson? with
    | some settings => .ok settings
    | none => .error .parsing

end Settings
end FlowScope
