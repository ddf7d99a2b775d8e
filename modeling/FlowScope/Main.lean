import FlowScope.Exporter
import FlowScope.Settings.File

/-!
# The exporter as a program

Takes its settings from the file that `FLOWDPI_CONFIG` names, or else from environment variables,
reads capture records from standard input to its end, and writes the metrics to standard output.
-/

namespace FlowScope.Program

/-- The names of the variables that hold settings. -/
def settingNames : List String :=
  ["FLOWDPI_CACHE_EXPIRATION_SECS", "FLOWDPI_CLEANUP_INTERVAL_SECS", "FLOWDPI_METRICS_PORT",
   "FLOWDPI_TCP_MODEL", "FLOWDPI_UDP_MODEL", "FLOWDPI_ML_THRESHOLD"]

/-- The content of a file, if it can be read. -/
def readFile (path : String) : IO (Option Bytes) := do
  try return some (← IO.FS.readBinFile path).toList
  catch _ => return none

def settings : IO (Except Settings.FileError Settings) := do
  match ← IO.getEnv "FLOWDPI_CONFIG" with
  | some path => return Settings.ofFile (← readFile path)
  | none =>
    let values ← settingNames.mapM fun key => return (key, ← IO.getEnv key)
    return .ok (Settings.ofEnvironment fun key => (values.lookup key).join)

/-- The models that the settings name, where they are files. -/
def sources (s : Settings) : IO Sources := do
  let tcp ← readFile s.linear.tcpSource
  let udp ← readFile s.linear.udpSource
  return fun name =>
    if LinearClassifier.isAddress name then none
    else if name = s.linear.tcpSource then tcp
    else if name = s.linear.udpSource then udp
    else none

/-- Cuts a block of input behind its last line feed. -/
def splitBlock (block : Bytes) : Bytes × Bytes :=
  let unended := (block.reverse.takeWhile (· ≠ 10)).length
  (block.take (block.length - unended), block.drop (block.length - unended))

/-- The number of octets that are read at a time. -/
def blockSize : USize := 65536

/-- Reads the input to its end; `pending` is the start of a line that has not ended yet. The tracker is
swept when the interval between sweeps has passed since the last time, which was at `swept`. -/
partial def readBlocks (input : IO.FS.Stream) (interval swept : Nat) (pending : Bytes)
    (e : Exporter) : IO Exporter := do
  let block ← input.read blockSize
  let now ← IO.monoMsNow
  if block.isEmpty then return (e.feed (fun _ => now) pending).exporter
  let due := swept + 1000 * interval ≤ now
  let e := if due then (e.sweep now).1.observe else e
  let (ended, pending) := splitBlock (pending ++ block.toList)
  readBlocks input interval (if due then now else swept) pending
    (e.feed (fun _ => now) ended).exporter

def run (s : Settings) : IO Unit := do
  let (chain, errors) := (Chain.ofSettings s).start (← sources s)
  for e in errors do
    IO.eprintln ("Module unavailable: " ++ e.message)
  let started ← IO.monoMsNow
  let e ← readBlocks (← IO.getStdin) s.interval started [] { chain }
  IO.print e.observe.metrics.text
  for e in (e.chain.stop).2 do
    IO.eprintln ("Module failed to shut down: " ++ e.message)

end FlowScope.Program

def main : IO UInt32 := do
  match ← FlowScope.Program.settings with
  | .ok s =>
    FlowScope.Program.run s
    return 0
  | .error .reading =>
    IO.eprintln "Error: reading config"
    return 1
  | .error .parsing =>
    IO.eprintln "Error: parsing config"
    return 1
