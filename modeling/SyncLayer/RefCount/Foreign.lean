import SyncLayer.RefCount.Heap

/-!
# Counts behind pointers

Foreign code counts references to an object by a pointer to the count, which may be null, and hands
over what is to be done when none is left: a hook, if there is one, and what the hook is called
with.
-/

namespace SyncLayer

namespace Heap

/-- Free an object, and give up the reference that it held. -/
def deallocate (place : Nat) : Attempt Heap Unit := do
  match ← free place with
  | none => pure ()
  | some child => if child < place then let _ ← release child

/-- Giving up a reference is counting it away, and deallocating the object if none is left. -/
theorem release_eq (place : Nat) :
  release place = RefCount.thenIfZero (onCount place RefCount.decrement) (deallocate place)
  := by
  rw [release, RefCount.thenIfZero]
  congr 1
  funext count
  by_cases hz : count = 0
  · simp only [hz, if_true, deallocate, bind_assoc]
    congr 1
    funext child
    cases child with
    | none => simp
    | some child =>
        by_cases hc : child < place
        · simp [hc]
        · simp [hc]
  · simp [hz]

/-- Take another reference to what a pointer points to; the new count. -/
def retainAt : Option Nat → Attempt Heap Int64
  | none => pure 0
  | some place => onCount place RefCount.increment

/-- Give up a reference to what a pointer points to, and call the hook if none is left; the new
count. -/
def releaseAt (object : Nat) (hook : Option (Nat → Attempt Heap Unit)) :
  Option Nat → Attempt Heap Int64
  | none => pure 0
  | some place =>
    RefCount.thenIfZero (onCount place RefCount.decrement)
      (match hook with
        | none => pure ()
        | some f => f object)

/-- The count that a pointer points to. -/
def countAt (heap : Heap) : Option Nat → Int64
  | none => 0
  | some place => heap.count place

end Heap

/-- How references to an object are counted: by handles, which deallocate it; by its count, with a
hook that does; or by a pointer to its count, with a hook and the object. -/
inductive CountWay where
  | handle
  | count
  | pointer
deriving DecidableEq, Repr

namespace CountWay

/-- Take another reference to an object. -/
def retain (place : Nat) : CountWay → Attempt Heap Int64
  | handle => Heap.retain place
  | count => Heap.onCount place RefCount.increment
  | pointer => Heap.retainAt (some place)

/-- Give up a reference to an object. -/
def release (place : Nat) : CountWay → Attempt Heap Int64
  | handle => Heap.release place
  | count =>
    RefCount.thenIfZero (Heap.onCount place RefCount.decrement) (Heap.deallocate place)
  | pointer => Heap.releaseAt place (some Heap.deallocate) (some place)

/-- Take a reference to an object or give one up. -/
def act (place : Nat) (takes : Bool) (way : CountWay) : Attempt Heap Int64 :=
  if takes then way.retain place else way.release place

/-- Take references to objects and give them up, one after the other and behind faults too; what
each time returns, and the heap behind it. -/
def actEach : List (Nat × Bool × CountWay) → Heap → List (Except Fault Int64 × Heap)
  | [], _ => []
  | (place, takes, way) :: rest, heap =>
    let x := (way.act place takes).on heap
    x :: actEach rest x.2

end CountWay

end SyncLayer
