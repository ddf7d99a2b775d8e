import FlowScope.Chain.Session
import FlowScope.Exporter
import FlowScope.Exporter.Session
import FlowScope.Flow.Session
import FlowScope.Main
import FlowScope.Native.Session
import FlowScope.Proofs.Chain.Agreement
import FlowScope.Proofs.Chain.Calls
import FlowScope.Proofs.Chain.Lifecycle
import FlowScope.Proofs.Chain.Order
import FlowScope.Proofs.Chain.Table
import FlowScope.Proofs.Exporter.Accounting
import FlowScope.Proofs.Exporter.Evictions
import FlowScope.Proofs.Exporter.Independence
import FlowScope.Proofs.Exporter.Timing
import FlowScope.Proofs.Linear.BestClass
import FlowScope.Proofs.Linear.Bigrams
import FlowScope.Proofs.Linear.ClientPayload
import FlowScope.Proofs.Linear.Format
import FlowScope.Proofs.Linear.Loading
import FlowScope.Proofs.Native.Dispatch
import FlowScope.Proofs.Native.Inspectors
import FlowScope.Proofs.Native.Leaks
import FlowScope.Proofs.Native.Lifecycle
import FlowScope.Proofs.Net.Decoding
import FlowScope.Proofs.Signature.Extension
import FlowScope.Proofs.Signature.Faults
import FlowScope.Proofs.Signature.Grammar
import FlowScope.Proofs.Signature.Greeting
import FlowScope.Proofs.Signature.Growth
import FlowScope.Proofs.Signature.Icmp
import FlowScope.Proofs.Signature.NameLength
import FlowScope.Proofs.Signature.Pattern
import FlowScope.Proofs.Signature.Progress
import FlowScope.Proofs.Signature.Prolog
import FlowScope.Proofs.Signature.Scan
import FlowScope.Proofs.Tracking.Conservation
import FlowScope.Proofs.Tracking.Conversation
import FlowScope.Proofs.Tracking.Packets
import FlowScope.Proofs.Tracking.Recall
import FlowScope.Proofs.Tracking.Sweeps
import FlowScope.Settings.File
import FlowScope.Verdict.Record
