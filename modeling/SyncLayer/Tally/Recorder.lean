import SyncLayer.Tally.Basic

/-!
# Threads that keep tallies

What a thread does to count operations, to merge shadows into the totals of the process, and to
take the totals, one access to what threads share after the other. A thread merges a shadow in
three steps: it adds the cycles to the totals, it adds the operations, and then it empties the
shadow. So between these steps the shadow and the totals may both hold what is merged. Totals are
taken in two steps, the operations first.

Besides its own shadow, which it loses at its end, a thread may keep separate ones. Behind its end
a thread may still count operations, and adds each of them to the totals at once.
-/

namespace SyncLayer

/-- A shadow of a thread: its own, or a separate one by its place. -/
inductive ShadowPlace where
  | own
  | separate (i : Nat)
deriving DecidableEq, Repr

/-- What a thread merges: a shadow, its own shadow for the last time, or an operation that no
shadow counts. -/
inductive MergeOrigin where
  | shadow (p : ShadowPlace)
  | ending
  | direct
deriving DecidableEq, Repr

/-- The shadow that a merge empties, if there is one. -/
def MergeOrigin.place : MergeOrigin → Option ShadowPlace
  | shadow p => some p
  | ending => some .own
  | direct => none

/-- Where a thread stands: in no call; in a merge, before it adds the cycles to the totals, adds
the operations, or empties what it merged; or between the operations and the cycles that it
takes, which it keeps or not. -/
inductive RecorderPhase where
  | outside
  | adding (o : MergeOrigin) (t : Tally)
  | counting (o : MergeOrigin) (operations : UInt64)
  | closing (o : MergeOrigin)
  | taking (kept : Bool) (operations : UInt64)
deriving DecidableEq, Repr

/-- What a thread may do: count an operation; merge its own shadow, or merge it for the last time
at its end; make a separate shadow, count an operation there, or merge it; take the totals, to
keep them or not; and set the interval. -/
inductive TallyCall where
  | record (cycles : UInt64)
  | flush
  | exit
  | make
  | recordSeparate (i : Nat) (cycles : UInt64)
  | mergeSeparate (i : Nat)
  | take (kept : Bool)
  | setInterval (n : UInt64)
deriving DecidableEq, Repr

/-- What is seen of a step: that a thread counts an operation, in a shadow or not; that it fails
to; that it starts a merge, adds something to the totals, or has emptied what it merged; that it
has nothing to merge; that it makes a shadow; that it takes the operations, or has taken the
totals; and that it sets the interval. -/
inductive TallyEvent where
  | records (o : MergeOrigin) (cycles : UInt64)
  | faults (f : Fault)
  | merges (o : MergeOrigin)
  | adds
  | closes (o : MergeOrigin)
  | passes
  | makes
  | swaps
  | takes (kept : Bool) (t : Tally)
  | sets (n : UInt64)
deriving DecidableEq, Repr

/-- What the threads share: the totals, and the number of operations at which a thread merges its
own shadow. -/
structure TallyBoard where
  totals : Tally := .zero
  interval : UInt64 := 0
deriving DecidableEq, Repr

/-- A thread that keeps tallies, with its own shadow until that is gone. -/
structure Recorder where
  phase : RecorderPhase := .outside
  own : Option Tally := some .zero
  separate : List Tally := []
deriving DecidableEq, Repr

namespace Recorder

/-- A thread that stands somewhere else. -/
def enter (x : Recorder) (p : RecorderPhase) : Recorder :=
  { x with phase := p }

/-- A shadow of a thread. -/
def shadow? (x : Recorder) : ShadowPlace → Option Tally
  | .own => x.own
  | .separate i => x.separate[i]?

/-- A thread with another tally in a shadow. -/
def put (x : Recorder) (u : Tally) : ShadowPlace → Recorder
  | .own => { x with own := some u }
  | .separate i => { x with separate := x.separate.set i u }

/-- A thread without what it merged. -/
def forget (x : Recorder) : MergeOrigin → Recorder
  | .shadow p => x.put .zero p
  | .ending => { x with own := none }
  | .direct => x

/-- A thread that merges a tally, which it adds to the totals unless the tally is empty. -/
def merging (x : Recorder) (o : MergeOrigin) (u : Tally) : Recorder :=
  x.enter (if u.isEmpty then .closing o else .adding o u)

/-- The start of a call with what it does before a further access to the totals: what is seen of
it, what the threads share, and the thread. A separate shadow keeps what a fault left in it, and
the thread's own does not. -/
def call (b : TallyBoard) (x : Recorder) : TallyCall → Option (TallyEvent × TallyBoard × Recorder)
  | .record c =>
    match x.own with
    | none => some (.records .direct c, b, x.merging .direct { operations := 1, cycles := c })
    | some u =>
      match (Tally.record c).on u with
      | (.error f, _) => some (.faults f, b, x)
      | (.ok _, v) =>
        some (.records (.shadow .own) c, b,
          if b.interval ≠ 0 ∧ b.interval ≤ v.operations then x.merging (.shadow .own) v
          else x.put v .own)
  | .flush =>
    match x.own with
    | none => some (.passes, b, x)
    | some u => some (.merges (.shadow .own), b, x.merging (.shadow .own) u)
  | .exit => x.own.map (fun u => (.merges .ending, b, x.merging .ending u))
  | .make => some (.makes, b, { x with separate := x.separate ++ [.zero] })
  | .recordSeparate i c =>
    x.separate[i]?.map (fun u =>
      match (Tally.record c).on u with
      | (.error f, v) => (.faults f, b, x.put v (.separate i))
      | (.ok _, v) => (.records (.shadow (.separate i)) c, b, x.put v (.separate i)))
  | .mergeSeparate i =>
    x.separate[i]?.map (fun u =>
      (.merges (.shadow (.separate i)), b, x.merging (.shadow (.separate i)) u))
  | .take kept =>
    some (.swaps, { b with totals := { b.totals with operations := 0 } },
      x.enter (.taking kept b.totals.operations))
  | .setInterval n => some (.sets n, { b with interval := n }, x)

/-- What a thread in a call does next: what is seen of it, what the threads share, and the
thread. -/
def access (b : TallyBoard) (x : Recorder) : Option (TallyEvent × TallyBoard × Recorder) :=
  match x.phase with
  | .outside => none
  | .adding o u =>
    some (.adds, { b with totals := { b.totals with cycles := b.totals.cycles + u.cycles } },
      x.enter (.counting o u.operations))
  | .counting o n =>
    some (.adds, { b with totals := { b.totals with operations := b.totals.operations + n } },
      x.enter (.closing o))
  | .closing o => some (.closes o, b, (x.forget o).enter .outside)
  | .taking kept n =>
    some (.takes kept { operations := n, cycles := b.totals.cycles },
      { b with totals := { b.totals with cycles := 0 } }, x.enter .outside)

end Recorder

end SyncLayer
