import SyncLayer.Lock.Any
import SyncLayer.RefCount.Heap
import SyncLayer.Tally.Report

/-!
# Workloads

Threads that all do the same on something they share. What is answered here is the same under
every interleaving, so that the threads may be run one after another.
-/

namespace SyncLayer.Workload

/-- Do a thing for each of `n` threads in turn, and in each as many times. -/
def inTurn {σ : Type} (threads iterations : Nat) (f : ThreadId → σ → σ) (s : σ) : σ :=
  (List.range threads).foldl (fun s t => Nat.repeat (f t) iterations s) s

/-! ### Locks -/

/-- A bare lock and a value that only its holder changes. -/
structure GuardedValue where
  word : LockWord := .free
  value : UInt64 := 0

/-- Take the lock, add one to the value, and give the lock back. -/
def GuardedValue.increment (g : GuardedValue) : GuardedValue :=
  { word := g.word.tryTake.2.giveBack.2, value := g.value + 1 }

/-- The value behind every thread's increments, from a first one. -/
def incrementValue (threads iterations : Nat) (first : UInt64) : GuardedValue :=
  inTurn threads iterations (fun _ => GuardedValue.increment) { value := first }

/-- A lock, a value that only its holder changes, and the number of acquisitions that were not
waited for. -/
structure LockedValue where
  lock : AnyLock
  value : Nat := 0
  wins : Nat := 0

/-- A site for the acquisitions of a workload. -/
def site : Site :=
  { name := "workload", file := "workload", line := 0, column := 0 }

/-- Acquire the lock `depth` times, add one to the value, and release the lock as often. -/
def LockedValue.increment (depth : Nat) (t : ThreadId) (v : LockedValue) : LockedValue :=
  let acquired := Nat.repeat (AnyLock.acquireBy (Lock.acquire {} 0 site) t) depth v.lock
  let released := Nat.repeat (fun l => (AnyLock.release.on l).2) depth acquired
  { v with lock := released, value := v.value + 1 }

/-- Try to acquire the lock, and if that succeeds add one to the value and release the lock. -/
def LockedValue.tryIncrement (t : ThreadId) (v : LockedValue) : LockedValue :=
  match v.lock.tryAcquire {} site t with
  | (true, lock) =>
    { lock := (AnyLock.release.on lock).2, value := v.value + 1, wins := v.wins + 1 }
  | (false, lock) => { v with lock }

/-! ### Reference counts -/

/-- A count, how often its hook ran, and what its operations returned, the latest first. -/
structure CountedRun where
  references : RefCount
  freed : Nat := 0
  results : List Int64 := []

namespace CountedRun

/-- Count a reference. -/
def increment (r : CountedRun) : CountedRun :=
  { r with references := (RefCount.increment.on r.references).2 }

/-- Count a reference away; the hook notes that none is left. -/
def decrement (r : CountedRun) : CountedRun :=
  match RefCount.decrement.on r.references with
  | (.ok n, references) =>
    { references, freed := if n = 0 then r.freed + 1 else r.freed, results := n :: r.results }
  | (.error _, references) => { r with references }

/-- Every thread takes a reference, takes and gives up further ones, and gives up its own. -/
def share (threads iterations : Nat) (r : CountedRun) : CountedRun :=
  (List.range threads).foldl
    (fun r _ => (Nat.repeat (fun r => r.increment.decrement) iterations r.increment).decrement) r

/-- Count references away one after another, with the results of these operations alone. -/
def giveUp (n : Nat) (r : CountedRun) : CountedRun :=
  Nat.repeat decrement n { r with results := [] }

end CountedRun

/-- Every thread takes a reference to an object, takes and gives up further ones, and gives up
its own. -/
def shareObject (threads iterations : Nat) (place : Nat) (heap : Heap) : Heap :=
  let retain := fun heap => ((Heap.retain place).on heap).2
  let release := fun heap => ((Heap.release place).on heap).2
  (List.range threads).foldl
    (fun heap _ => release (Nat.repeat (fun heap => release (retain heap)) iterations (retain heap)))
    heap

/-! ### Tallies -/

/-- Record as many operations of a thread, and end the thread. -/
def recordAndExit (interval cycles : UInt64) (times : Nat) (totals : Tally) : Tally :=
  ((Attempt.times () (Merging.record interval cycles) times).on { totals }).2.flush.totals

/-- The totals of threads that record operations of the given cycles and end. -/
def recordAll (interval : UInt64) (cycles : ThreadId → UInt64) (threads times : Nat) : Tally :=
  (List.range threads).foldl (fun totals t => recordAndExit interval (cycles t) times totals) .zero

end SyncLayer.Workload
