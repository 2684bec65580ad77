import SyncLayer.Fib.Program
import SyncLayer.Lock.Claimant

/-!
# Workers of the contention driver

What a worker does, one access to what the workers share after the other. A call of the function
looks names up under a recursive lock, which it acquires twice and releases as often. Then it counts
a reference to the object that they share, makes the two calls that its number is the sum of, if it
needs them, and counts the reference away. Had it counted the last one away, the object would be
freed, which is none of its business.

Workers that run at the same time wait for each other before they begin, and each prints one line. A
worker that runs alone prints all of them.
-/

namespace SyncLayer.Fib

/-- The calls on the lock by which names are looked up, in their order. -/
inductive Lookup where
  | acquire
  | reacquire
  | release
  | releaseLast
deriving DecidableEq, Repr

namespace Lookup

/-- What is seen of the start of a call on the lock. -/
def start : Lookup → ClaimEvent
  | acquire | reacquire => .calls .acquire
  | release | releaseLast => .leaves

/-- The call on the lock behind another one. -/
def next? : Lookup → Option Lookup
  | acquire => some reacquire
  | reacquire => some release
  | release => some releaseLast
  | releaseLast => none

end Lookup

/-- A call of the function that waits: for the first call that it makes, or, with the result of that,
for the second. -/
inductive Frame where
  | first (n : UInt32)
  | second (n : UInt32) (a : UInt64)
deriving DecidableEq, Repr

/-- Where a worker stands: before it says that it is there, or waits until all of them are; before it
begins another line; before it calls the function, or a call on the lock, in one, before it counts a
reference, makes a call if it needs one, counts the reference away, frees the object, or returns
from the call; before it prints; and nowhere, behind a fault. -/
inductive WorkerPhase where
  | arriving
  | gathered
  | ready
  | calling (n : UInt32)
  | looking (n : UInt32) (g : Lookup)
  | inside (n : UInt32) (g : Lookup)
  | counting (n : UInt32)
  | branching (n : UInt32)
  | dropping (n : UInt32) (r : UInt64)
  | freeing (n : UInt32)
  | returning (n : UInt32) (r : UInt64)
  | printing (r : UInt64)
  | failed
deriving DecidableEq, Repr

/-- A worker, with its calls that wait, the innermost first, and the lines that it has not begun. -/
structure Worker where
  phase : WorkerPhase := .ready
  stack : List Frame := []
  todo : Nat := 0
deriving DecidableEq, Repr

/-- What workers share besides the lock: the object's references, and what is printed. -/
structure Desk where
  object : RefCount := {}
  stdout : String := ""
deriving DecidableEq, Repr

/-- What is seen of a step of a worker. -/
inductive WorkerEvent where
  | arrives
  | passes
  | begins
  | calls (n : UInt32)
  | locks (e : ClaimEvent)
  | increments
  | branches
  | decrements
  | frees
  | returns (n : UInt32) (r : UInt64)
  | prints (r : UInt64)
  | faults (f : Fault)
deriving DecidableEq, Repr

/-- The line of a number. -/
def line (r : Nat) : String :=
  Decimal.text r ++ "\n"

/-- The number of the threads that work. -/
def Options.threads (o : Options) : Nat :=
  if o.serial then 1 else o.workers.toNat

/-- The number of the threads that wait for each other. -/
def Options.barrier (o : Options) : Nat :=
  if o.serial then 0 else o.workers.toNat

namespace Worker

/-- A worker before its first step. -/
def fresh (o : Options) (t : ThreadId) : Worker :=
  if t < o.threads then
    if o.serial then { todo := o.workers.toNat } else { phase := .arriving, todo := 1 }
  else {}

/-- Where a worker stands behind a step of a call on the lock, which is over if the thread stands
outside. -/
def behind (n : UInt32) (g : Lookup) : ClaimEvent → ClaimPhase → WorkerPhase
  | .faults _, _ => .failed
  | _, .outside =>
    match g.next? with
    | some g => .looking n g
    | none => .counting n
  | _, _ => .inside n g

/-- What a worker does next by itself, if it does anything: what is seen of it, and what it leaves. -/
def act (depth : UInt32) (d : Desk) (w : Worker) : Option (WorkerEvent × Desk × Worker) :=
  match w.phase with
  | .ready =>
    match w.todo with
    | 0 => none
    | k + 1 => some (.begins, d, { w with phase := .calling depth, todo := k })
  | .calling n => some (.calls n, d, { w with phase := .looking n .acquire })
  | .counting n =>
    match RefCount.increment.on d.object with
    | (.ok _, object) => some (.increments, { d with object }, { w with phase := .branching n })
    | (.error f, object) => some (.faults f, { d with object }, { w with phase := .failed })
  | .branching n =>
    if n < 2 then some (.branches, d, { w with phase := .dropping n 1 })
    else some (.branches, d, { w with phase := .calling (n - 1), stack := .first n :: w.stack })
  | .dropping n r =>
    match RefCount.decrement.on d.object with
    | (.ok count, object) =>
      let phase := if count = 0 then .freeing n else .returning n r
      some (.decrements, { d with object }, { w with phase })
    | (.error f, object) => some (.faults f, { d with object }, { w with phase := .failed })
  | .freeing _ => some (.frees, d, { w with phase := .failed })
  | .returning n r =>
    match w.stack with
    | [] => some (.returns n r, d, { w with phase := .printing r })
    | .first m :: stack =>
      some (.returns n r, d, { w with phase := .calling (m - 2), stack := .second m r :: stack })
    | .second m a :: stack =>
      if a.toNat + r.toNat < UInt64.size then
        some (.returns n r, d, { w with phase := .dropping m (a + r), stack })
      else some (.faults .additionOverflow, d, { w with phase := .failed })
  | .printing r =>
    some (.prints r, { d with stdout := d.stdout ++ line r.toNat }, { w with phase := .ready })
  | .arriving | .gathered | .looking _ _ | .inside _ _ | .failed => none

end Worker

end SyncLayer.Fib
