import FlowScope.Detector.Error
import FlowScope.Flow.Basic
import FlowScope.Linear.ClientPayload
import FlowScope.Linear.Reader
import FlowScope.Text.Encoding

/-!
# Detection by linear models

The detector that applies linear models: one to TCP flows, one to UDP flows. Both are read when the
detector starts, and it has either both or none. Its settings can change at any time; the threshold
counts at once, the sources when the detector starts the next time.

What the sources hold is given as a function from their names (`Sources`).
-/

namespace FlowScope

/-- Where the models are, and how confident a prediction must be to count. -/
structure LinearSettings where
  tcpSource : String
  udpSource : String
  threshold : Float32
  deriving Repr

/-- The octets that a file path or an address leads to, if they can be had. For an address, these are the octets
of the text as it was fetched and decoded: octets that are not well-formed have been replaced before, so they
make a file unreadable, but not what comes from an address. -/
abbrev Sources := String → Option Bytes

namespace LinearClassifier

/-- Whether a source is an address to be fetched, and not a file. -/
def isAddress (source : String) : Bool :=
  "http://".isPrefixOf source || "https://".isPrefixOf source

/-- Reads the model at a source. -/
def load (sources : Sources) (source : String) : Except LoadError (LinearClassifier Float) :=
  if source.isEmpty then .error .missingSource
  else match (sources source).bind Text.ofUtf8? with
    | some text => read text.toList
    | none => .error (if isAddress source then .fetch else .io)

end LinearClassifier

/-- The models of a detector that has started. -/
structure ModelPair where
  tcp : LinearClassifier Float
  udp : LinearClassifier Float

/-- The model for a transport. -/
def ModelPair.choose (models : ModelPair) : Transport → LinearClassifier Float
  | .tcp => models.tcp
  | .udp => models.udp

structure LinearDetector where
  settings : LinearSettings
  models : Option ModelPair := none

namespace LinearDetector

def name : String := "flowdpi-ml"

/-- The protocol of each label, from zero on. -/
def protocols : List Protocol :=
  [.http, .dns, .ssh, .rpc, .smtp, .rdp, .smb, .ftp, .ssl, .netBios]

/-- The protocol of a label, if it has one. -/
def protocol? (label : Int) : Option Protocol :=
  if 0 ≤ label then protocols[label.toNat]? else none

def configure (d : LinearDetector) (settings : LinearSettings) : LinearDetector := { d with settings }

def isLoaded (d : LinearDetector) : Bool := d.models.isSome

/-! ### Starting and stopping -/

/-- Reads the model at a source, and says which source failed. -/
def loadFrom (sources : Sources) (source : String) : Except DetectorError (LinearClassifier Float) :=
  (LinearClassifier.load sources source).mapError (.model source)

/-- Reads both models, the one for TCP first. If one of them cannot be read, those there were stay. -/
def start (d : LinearDetector) (sources : Sources) : LinearDetector × Except DetectorError Unit :=
  match loadFrom sources d.settings.tcpSource with
  | .error e => (d, .error e)
  | .ok tcp =>
    match loadFrom sources d.settings.udpSource with
    | .error e => (d, .error e)
    | .ok udp => ({ d with models := some ⟨tcp, udp⟩ }, .ok ())

def stop (d : LinearDetector) : LinearDetector := { d with models := none }

/-! ### Judging -/

/-- The protocol of a prediction that is confident enough. -/
def accepted? (threshold : Float32) (p : Prediction) : Option Protocol :=
  (protocol? p.label).filter fun _ => threshold.toFloat ≤ p.confidence

/-- The verdict on the packets of a flow. -/
def verdict (d : LinearDetector) (packets : List Packet) : Verdict :=
  let protocol := do
    let client ← ClientPayload.ofPackets? packets
    let models ← d.models
    let model := models.choose client.transport
    accepted? d.settings.threshold (model.predict (Bigram.features client.payload))
  match protocol with
  | some protocol => ⟨protocol, name⟩
  | none => .unknown

/-- The verdict on a flow, which is stored with it if it is known. -/
def judge (d : LinearDetector) (f : Flow) : Flow × Verdict :=
  let verdict := d.verdict f.packets
  (if verdict.isUnknown then f else f.store verdict, verdict)

end LinearDetector
end FlowScope
