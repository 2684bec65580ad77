import SyncLayer.RefCount.Basic

/-!
# Counted objects

Objects on a heap live as long as references to them are counted. An object may hold one
reference to another that was there before it. When the last reference to an object is given
up the object is freed, and the reference it holds is given up too.

A freed object keeps its place, so that its count can still be read.
-/

namespace SyncLayer

/-- An object with a count of the references to it. -/
structure CountedObject where
  name : String
  references : RefCount
  child : Option Nat := none
deriving DecidableEq, Repr

/-- Objects, each known by its place, and the names of the freed ones in the order of freeing. -/
structure Heap where
  objects : Array CountedObject := #[]
  freed : List String := []

namespace Heap

/-- Make an object; its place. -/
def add (object : CountedObject) (heap : Heap) : Nat × Heap :=
  (heap.objects.size, { heap with objects := heap.objects.push object })

/-- The object at a place. -/
def object? (heap : Heap) (place : Nat) : Option CountedObject :=
  heap.objects[place]?

/-- The count of an object. -/
def count (heap : Heap) (place : Nat) : Int64 :=
  ((heap.object? place).map (fun o => o.references.count)).getD 0

/-- An operation on the count of an object. -/
def onCount (place : Nat) (a : Attempt RefCount Int64) : Attempt Heap Int64 :=
  Attempt.within
    (fun heap => ((heap.object? place).map CountedObject.references).getD { count := 0 })
    (fun heap references =>
      { heap with objects := heap.objects.modify place (fun o => { o with references }) })
    a

/-- Take another reference to an object. -/
def retain (place : Nat) : Attempt Heap Int64 :=
  onCount place RefCount.increment

/-- Free an object; the reference that it held. -/
def free (place : Nat) : Attempt Heap (Option Nat) :=
  Attempt.ofRun (fun heap =>
    match heap.object? place with
    | none => (.ok none, heap)
    | some o =>
      (.ok o.child,
        { objects := heap.objects.modify place (fun o => { o with child := none })
          freed := heap.freed ++ [o.name] }))

/-- Give up a reference to an object. -/
def release (place : Nat) : Attempt Heap Int64 := do
  let count ← onCount place RefCount.decrement
  if count = 0 then
    match ← free place with
    | none => pure ()
    | some child =>
      if _h : child < place then
        let _ ← release child
      else pure ()
  return count
termination_by place

end Heap

end SyncLayer
