import FlowScope.Linear.Detector
import FlowScope.Text.Blank
import FlowScope.Text.Decimal

/-!
# Settings

The settings of a whole installation. Each has a default; they can be taken from environment
variables, where a number that cannot be read counts as not set. (Settings in a file are read in
`FlowScope.Settings.File`.)
-/

namespace FlowScope

structure Settings where
  /-- How long a flow may be idle, in seconds; with zero or less it may be idle forever. -/
  flowExpiration : Int := 300
  /-- The time between sweeps of the flow table, in seconds. -/
  sweepInterval : Nat := 30
  metricsPort : Nat := 9090
  linear : LinearSettings :=
    ⟨"./models/2grams_tcp.model", "./models/2grams_udp.model",
      Text.Decimal.toFloat32 (.finite false [8] (-1))⟩

namespace Settings

/-! ### The ranges of the settings that are integers -/

def leastExpiration : Int := -0x8000000000000000
def mostExpiration : Int := 0x7fffffffffffffff
def mostInterval : Nat := 0xffffffffffffffff
def mostPort : Nat := 0xffff

/-! ### Times -/

/-- The expiration time of flows in seconds, if there is one. -/
def expiration (s : Settings) : Option Nat :=
  if 0 < s.flowExpiration then some s.flowExpiration.toNat else none

/-- The expiration time of flows in milliseconds, if there is one. -/
def expirationMs (s : Settings) : Option Nat := s.expiration.map (1000 * ·)

/-- The time between sweeps in seconds, one at least. -/
def interval (s : Settings) : Nat := max s.sweepInterval 1

/-! ### The environment -/

/-- A setting from a variable, read without the blanks around it; the default if it is not set or
cannot be read. -/
def settingOr {α : Type} (environment : String → Option String) (key : String)
    (read? : List Char → Option α) (default : α) : α :=
  (((environment key).map fun raw => Text.trim raw.toList).bind read?).getD default

/-- The settings in environment variables. -/
def ofEnvironment (environment : String → Option String) : Settings :=
  let defaults : Settings := {}
  { flowExpiration := settingOr environment "FLOWDPI_CACHE_EXPIRATION_SECS"
      (Text.signed? leastExpiration mostExpiration) defaults.flowExpiration
    sweepInterval := settingOr environment "FLOWDPI_CLEANUP_INTERVAL_SECS"
      (Text.unsigned? mostInterval) defaults.sweepInterval
    metricsPort := settingOr environment "FLOWDPI_METRICS_PORT"
      (Text.unsigned? mostPort) defaults.metricsPort
    linear :=
      { tcpSource := (environment "FLOWDPI_TCP_MODEL").getD defaults.linear.tcpSource
        udpSource := (environment "FLOWDPI_UDP_MODEL").getD defaults.linear.udpSource
        threshold := settingOr environment "FLOWDPI_ML_THRESHOLD"
          (fun text => (Text.Decimal.read? text).map (·.toFloat32)) defaults.linear.threshold } }

end Settings
end FlowScope
