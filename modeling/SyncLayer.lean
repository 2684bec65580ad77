import SyncLayer.Main
import SyncLayer.Session.Run
import SyncLayer.Workload
import SyncLayer.Proofs.System
import SyncLayer.Lock.Contender
import SyncLayer.Proofs.Lock.Protocol
import SyncLayer.Proofs.Lock.Exclusion
import SyncLayer.Proofs.Lock.Wakeup
import SyncLayer.Proofs.Lock.SystemCalls
import SyncLayer.Lock.Claimant
import SyncLayer.Proofs.Lock.Reentry
import SyncLayer.Proofs.Lock.Ownership
import SyncLayer.Lock.Holder
import SyncLayer.Proofs.Lock.Instrumentation
import SyncLayer.Proofs.Lock.Coherence
import SyncLayer.Proofs.Lock.Guarding
import SyncLayer.Lock.Delays
import SyncLayer.Lock.Dump
import SyncLayer.Proofs.Lock.Dumping
import SyncLayer.Proofs.RefCount.Sharing
import SyncLayer.Proofs.RefCount.Deallocation
import SyncLayer.Tally.Recorder
import SyncLayer.Proofs.Tally.Protocol
import SyncLayer.Proofs.Tally.Conservation
import SyncLayer.Proofs.Tally.Interval
import SyncLayer.RefCount.Metered
import SyncLayer.Proofs.Output.Sink
import SyncLayer.Proofs.Registry
import SyncLayer.Tally.Summary
import SyncLayer.Proofs.Tally.Printing
import SyncLayer.Proofs.Config.Overrides
import SyncLayer.Proofs.Config.Installation
import SyncLayer.Proofs.Decimal.Numeral
import SyncLayer.Proofs.Config.Reinstallation
import SyncLayer.Proofs.Config.Precedence
import SyncLayer.Proofs.Toml.Lexeme
import SyncLayer.Proofs.Toml.Entry
import SyncLayer.Proofs.Toml.Members
import SyncLayer.Proofs.Toml.Bounds
import SyncLayer.Proofs.Config.RoundTrip
import SyncLayer.Proofs.Config.Overlay
import SyncLayer.Proofs.Config.Agreement
import SyncLayer.Proofs.Lock.Calls
import SyncLayer.Fib.Worker
import SyncLayer.Proofs.Fib.Workers
import SyncLayer.Proofs.Fib.Work
import SyncLayer.Proofs.Fib.Completion
import SyncLayer.Proofs.Fib.Arguments
import SyncLayer.Proofs.RefCount.Metering
import SyncLayer.Session.Request
import SyncLayer.Proofs.Lock.Refinement
import SyncLayer.Proofs.Lock.Serving
import SyncLayer.Proofs.RefCount.Handles
import SyncLayer.Proofs.RefCount.Bookkeeping
import SyncLayer.Proofs.Lock.Delays
import SyncLayer.Json.Reader
import SyncLayer.Proofs.Binary64.Rounding
import SyncLayer.Proofs.Binary64.Shortest
import SyncLayer.Proofs.Json.Numeral
import SyncLayer.Proofs.Json.RoundTrip
import SyncLayer.Reading
import SyncLayer.Proofs.Reading
import SyncLayer.Proofs.Config.Acceptance
import SyncLayer.Proofs.Config.Reporting
