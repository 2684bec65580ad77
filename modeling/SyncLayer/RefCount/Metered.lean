import SyncLayer.RefCount.Basic
import SyncLayer.Tally.Basic

/-!
# Counts of a thread that keeps a tally

A thread may time what it does to a count. It counts every timed operation in its shadow, once the
count has moved without a fault. The hook of a count acts on surroundings of its own. It runs behind
all that, and it may fail.
-/

namespace SyncLayer

/-- What a hook leaves of its surroundings, and whether it fails. -/
abbrev CountHook (σ : Type) := σ → Bool × σ

/-- How an operation is timed: the interval at which the thread merges its shadow, and the cycles
that the operation takes. -/
structure Timing where
  interval : UInt64
  cycles : UInt64
deriving DecidableEq, Repr

/-- What a thread does to a count: it counts a reference, or counts one away, with a hook or
without. -/
inductive CountOperation (σ : Type) where
  | increment (timing : Option Timing)
  | decrement (timing : Option Timing) (hook : Option (CountHook σ))

/-- A count, the surroundings of its hooks, and the tallies of the thread that acts on it. -/
structure MeteredCount (σ : Type) where
  references : RefCount
  surroundings : σ
  merging : Merging := {}
deriving Repr

namespace MeteredCount

variable {σ : Type}

/-- An operation on the count, which the shadow counts if it is timed. -/
def timed (timing : Option Timing) (a : Attempt RefCount Int64) :
  Attempt (MeteredCount σ) Int64
  := do
  let n ← Attempt.within MeteredCount.references (fun m references => { m with references }) a
  match timing with
  | none => pure ()
  | some t =>
    Attempt.within MeteredCount.merging (fun m merging => { m with merging })
      (Merging.record t.interval t.cycles)
  return n

/-- Run a hook on its surroundings. -/
def runHook (hook : CountHook σ) : Attempt (MeteredCount σ) Unit :=
  Attempt.ofRun (fun m =>
    let (fails, surroundings) := hook m.surroundings
    (if fails then .error .hookFailed else .ok (), { m with surroundings }))

/-- Do an operation. -/
def perform : CountOperation σ → Attempt (MeteredCount σ) Int64
  | .increment timing => timed timing RefCount.increment
  | .decrement timing none => timed timing RefCount.decrement
  | .decrement timing (some hook) =>
    RefCount.thenIfZero (timed timing RefCount.decrement) (runHook hook)

/-- Do operations one after the other, behind faults too; what each of them returns, and what they
leave. -/
def performEach : List (CountOperation σ) → MeteredCount σ →
    List (CountOperation σ × Except Fault Int64) × MeteredCount σ
  | [], m => ([], m)
  | op :: ops, m =>
    let (r, m) := (perform op).on m
    let (rs, m) := performEach ops m
    ((op, r) :: rs, m)

end MeteredCount

end SyncLayer
