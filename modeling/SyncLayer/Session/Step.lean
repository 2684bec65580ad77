import SyncLayer.Config.Source
import SyncLayer.Output.Sink
import SyncLayer.Session.Item

/-!
# Steps of a session

A step is done by one of the session's threads: on the process as a whole, on the statistics of
the thread, on the registry, or on an item.
-/

namespace SyncLayer.Session

/-- What a lock is made with. -/
structure LockSpec where
  isRecursive : Bool
  description : Option String
  stats : LockStats
  delays : DelaySource

/-- What is done on an item. -/
inductive ItemStep where
  | acquire (site : Site)
  | acquireRelease (site : Site)
  | acquireTimes (site : Site) (n : Nat)
  | guard (site : Site)
  | tryAcquire (site : Site)
  | release
  | dropGuard
  | register
  | resetStats
  | writeStats (sink : Sink)
  | printStats (stdout : Sink)
  | describe (block : Bool)
  | record (n : UInt64) (times : Nat)
  | reset
  | total
  | average
  | report (description : String)
  | json (description : String)
  | write (description : String) (sink : Sink)
  | zero
  | merge (target : String)
  | add (t : Tally) (n : UInt64)
  | take
  | seconds
  | increment (timed : Bool) (times : Nat)
  | decrement (timed : Bool) (hook : Hook) (times : Nat)
  | get (shown : Bool)
  | clone (target : String)
  | drop
  | name
  | retain
  | giveUp
  | intoRaw (target : String)
  | fromRaw (target : String)
  | other

/-- What a thread does. -/
inductive Step where
  | apply (c : Config)
  | setThreshold (n : UInt64)
  | setRate (n : UInt64)
  | setFlush (n : UInt64)
  | settings
  | seconds (n : UInt64)
  | setUp (env : Environment) (files : String → FileContents) (quietly : Bool)
  | shutDown
  | identity (n : UInt64)
  | recordLocal (n : UInt64) (times : Nat)
  | flush
  | addTotals (t : Tally)
  | takeTotals
  | printSummary (stdout : Sink)
  | recordAtExit (n : UInt64)
  | exit
  | registered
  | snapshots
  | writeReports (sink : Sink)
  | printReports (stdout : Sink)
  | printAll (stdout : Sink)
  | makeLock (id : String) (spec : LockSpec)
  | makeNative (id : String)
  | makeMutex (id : String) (value : UInt64)
  | makeStats (id : String) (s : LockStats)
  | makeShadow (id : String) (t : Tally)
  | makeTotals (id : String) (t : Tally)
  | makeCount (id : String) (n : Int64)
  | makeObject (id : String) (n : Int64) (child : Option String)
  | countNothing
  | onItem (id : String) (step : ItemStep)

/-- What the answer to a step shows the state of. -/
inductive Subject where
  | item (id : Option String)
  | objects

/-- A step with the thread that does it and the way it is answered. A blocking step is left
waiting on its thread; a step may name the threads whose blocked steps it lets go on. -/
structure Frame where
  thread : ThreadId
  step : Step
  subject : Subject
  quiet : Bool
  timed : Bool
  blocking : Bool
  wakes : List ThreadId

end SyncLayer.Session
