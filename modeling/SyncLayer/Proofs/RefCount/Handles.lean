import SyncLayer.RefCount.Foreign
import SyncLayer.Proofs.RefCount.Sharing

/-!
# Sharing objects on a heap

Any threads make objects and share them. Whoever owns a reference to an object owns it as a handle
or as a raw reference, and may turn either into the other, hand it to some thread, put it into an
object that it makes, or give it up. While there is a reference to an object, threads may take
others and read the count. Whoever leaves a count of zero frees the object, which gives it the
reference that the object held; before that other threads may take steps, but that thread takes no
other.

The state says who owns references, and which threads are about to free what. No operation on the
heap goes by that.
-/

namespace SyncLayer

namespace Heap

variable {heap : Heap} {p q : Nat} {n : Int64} {o : CountedObject}

/-- The object that an object holds a reference to. -/
def child? (heap : Heap) (p : Nat) : Option Nat :=
  (heap.object? p).bind CountedObject.child

/-- How many objects hold a reference to an object. -/
def holders (heap : Heap) (q : Nat) : Nat :=
  ∑ i ∈ Finset.range heap.objects.size, if heap.child? i = some q then 1 else 0

/-- The heap with another count of an object. -/
def setCount (p : Nat) (n : Int64) (heap : Heap) : Heap :=
  { heap with objects := heap.objects.modify p (fun o => { o with references := { count := n } }) }

/-! ### What operations leave -/

theorem object?_setCount :
  (heap.setCount p n).object? q
    = if p = q then (heap.object? q).map (fun o => { o with references := { count := n } })
      else heap.object? q
  := Array.getElem?_modify

@[simp]
theorem size_setCount :
  (heap.setCount p n).objects.size = heap.objects.size
  := Array.size_modify

theorem object?_eq_none (h : heap.objects.size ≤ q) :
  heap.object? q = none
  := Array.getElem?_eq_none h

theorem count_of_le (h : heap.objects.size ≤ q) :
  heap.count q = 0
  := by
  rw [count, object?_eq_none h]
  rfl

theorem child?_of_le (h : heap.objects.size ≤ q) :
  heap.child? q = none
  := by
  rw [child?, object?_eq_none h]
  rfl

theorem count_setCount (h : p < heap.objects.size) :
  (heap.setCount p n).count q = if p = q then n else heap.count q
  := by
  rw [count, object?_setCount]
  by_cases hq : p = q
  · obtain rfl := hq
    have ho : heap.object? p = some heap.objects[p] := Array.getElem?_eq_getElem h
    simp [ho]
  · simp [hq, count]

@[simp]
theorem child?_setCount :
  (heap.setCount p n).child? q = heap.child? q
  := by
  rw [child?, object?_setCount, child?]
  by_cases hq : p = q
  · cases heap.object? q <;> simp [hq]
  · simp [hq]

/-- An operation on a count goes by the count alone. -/
theorem onCount_on (a : Attempt RefCount Int64) :
  (onCount p a).on heap
    = ((a.on { count := heap.count p }).1, heap.setCount p (a.on { count := heap.count p }).2.count)
  := by
  have hr : ((heap.object? p).map CountedObject.references).getD { count := 0 }
      = { count := heap.count p } := by
    rw [count]
    cases heap.object? p <;> rfl
  rw [onCount, Attempt.on_within, hr]
  rfl

theorem increment_on_of_lt (h : heap.count p < Int64.maxValue) :
  (onCount p RefCount.increment).on heap
    = (.ok (heap.count p + 1), heap.setCount p (heap.count p + 1))
  := by
  have hi := @RefCount.increment_on { count := heap.count p } h
  rw [onCount_on, hi]

theorem increment_on_of_not_lt (h : ¬ heap.count p < Int64.maxValue) :
  ∃ heap', (onCount p RefCount.increment).on heap = (.error .refcountOverflow, heap')
  := by
  rw [onCount_on]
  simp [RefCount.increment, h]

theorem decrement_on_of_pos (h : 0 < heap.count p) :
  (onCount p RefCount.decrement).on heap
    = (.ok (heap.count p - 1), heap.setCount p (heap.count p - 1))
  := by
  have hd := @RefCount.decrement_on { count := heap.count p } h
  rw [onCount_on, hd]

/-- Freeing an object takes its reference out of it and leaves all counts. -/
theorem free_on :
  ∃ heap', (free p).on heap = (.ok (heap.child? p), heap')
    ∧ heap'.objects.size = heap.objects.size ∧ (∀ q, heap'.count q = heap.count q)
    ∧ ∀ q, heap'.child? q = if p = q then none else heap.child? q
  := by
  rw [free, Attempt.on_ofRun]
  cases ho : heap.object? p with
  | none =>
      refine ⟨heap, ?_, rfl, fun _ => rfl, ?_⟩
      · simp [child?, ho]
      · intro q
        split
        · rename_i hq
          rw [← hq, child?, ho]
          rfl
        · rfl
  | some o =>
      generalize hh : Heap.mk (heap.objects.modify p (fun o => { o with child := none }))
        (heap.freed ++ [o.name]) = heap'
      have hg (q : Nat) : heap'.object? q
          = if p = q then (heap.object? q).map (fun o => { o with child := none })
            else heap.object? q := by
        rw [← hh]
        apply Array.getElem?_modify
      refine ⟨heap', ?_, ?_, ?_, ?_⟩
      · simp [child?, ho, hh]
      · rw [← hh]
        apply Array.size_modify
      · intro q
        rw [count, hg, count]
        by_cases hq : p = q
        · cases heap.object? q <;> simp [hq]
        · simp [hq]
      · intro q
        rw [child?, hg, child?]
        by_cases hq : p = q
        · cases heap.object? q <;> simp [hq]
        · simp [hq]

theorem object?_add :
  (heap.add o).2.object? q = if q = heap.objects.size then some o else heap.object? q
  := Array.getElem?_push

theorem size_add :
  (heap.add o).2.objects.size = heap.objects.size + 1
  := Array.size_push _

theorem count_add :
  (heap.add o).2.count q = if q = heap.objects.size then o.references.count else heap.count q
  := by
  rw [count, object?_add]
  split
  · rfl
  · rfl

theorem child?_add :
  (heap.add o).2.child? q = if q = heap.objects.size then o.child else heap.child? q
  := by
  rw [child?, object?_add]
  split
  · rfl
  · rfl

/-! ### How many objects hold a reference -/

@[simp]
theorem holders_setCount :
  (heap.setCount p n).holders q = heap.holders q
  := by
  simp [holders]

theorem holders_add :
  (heap.add o).2.holders q = heap.holders q + if o.child = some q then 1 else 0
  := by
  rw [holders, size_add, Finset.sum_range_succ, holders, child?_add, if_pos rfl]
  congr 1
  apply Finset.sum_congr rfl
  intro i hi
  rw [child?_add, if_neg (Nat.ne_of_lt (Finset.mem_range.mp hi))]

/-- The reference that is taken out of an object is held by one object less. -/
theorem holders_freed {heap' : Heap} (hs : heap'.objects.size = heap.objects.size)
    (hc : ∀ q, heap'.child? q = if p = q then none else heap.child? q) :
  heap'.holders q + (if heap.child? p = some q then 1 else 0) = heap.holders q
  := by
  rw [holders, hs, holders]
  by_cases hp : p < heap.objects.size
  · have change := sum_change (T := Finset.range heap.objects.size) (t := p)
      (f := fun i => if heap.child? i = some q then 1 else 0)
      (g := fun i => if heap'.child? i = some q then 1 else 0) (Finset.mem_range.mpr hp) (by
        intro i hi
        simp [hc, Ne.symm hi])
    simpa [hc] using change
  · rw [child?_of_le (Nat.le_of_not_lt hp), if_neg (by simp), Nat.add_zero]
    apply Finset.sum_congr rfl
    intro i hi
    have hi' : p ≠ i := by
      rintro rfl
      apply hp (Finset.mem_range.mp hi)
    rw [hc, if_neg hi']

end Heap

/-! ### The system -/

/-- How a thread owns a reference: as a handle, or as a raw reference. -/
inductive ReferenceKind where
  | handle
  | raw
deriving DecidableEq, Repr

/-- The kind of a handle that is given up without its reference, or of a raw reference that is
adopted. -/
def ReferenceKind.turned : ReferenceKind → ReferenceKind
  | handle => raw
  | raw => handle

/-- A reference to an object that a thread owns. -/
structure Reference where
  owner : ThreadId
  kind : ReferenceKind := .handle
  place : Nat
deriving DecidableEq, Repr

/-- A heap, the references that threads own, and the threads that are about to free objects. -/
structure SharedHeap where
  heap : Heap := {}
  owned : Multiset Reference := 0
  due : Finset (ThreadId × Nat) := ∅

/-- What is seen of a step on an object: that a thread makes it; what taking another reference
returns, or giving one up; that a handle becomes a raw reference, or a raw reference a handle; what
count a thread reads; to whom it hands a reference; and that it frees the object. -/
inductive HeapEvent where
  | makes (p : Nat)
  | retains (p : Nat) (r : Except Fault Int64)
  | releases (p : Nat) (r : Except Fault Int64)
  | turns (p : Nat)
  | reads (p : Nat) (n : Int64)
  | hands (p : Nat) (u : ThreadId)
  | frees (p : Nat)

/-- The object that a step concerns. -/
def HeapEvent.place : HeapEvent → Nat
  | makes p | retains p _ | releases p _ | turns p | reads p _ | hands p _ | frees p => p

/-- A step leaves the object that it concerns what it was. -/
def HeapEvent.Passes : HeapEvent → Prop
  | turns _ | reads _ _ | hands _ _ => True
  | _ => False

namespace SharedHeap

/-- An operation on the heap. -/
def onHeap (a : Attempt Heap Int64) : Attempt SharedHeap Int64 :=
  Attempt.within SharedHeap.heap (fun s heap => { s with heap }) a

/-- What a thread does to give up a reference, before it frees the object. -/
def giveUp (t : ThreadId) (p : Nat) : Attempt SharedHeap Int64 :=
  RefCount.thenIfZero (onHeap (Heap.onCount p RefCount.decrement))
    (modify (fun s => { s with due := insert (t, p) s.due }))

/-- The number of references to an object that threads own. -/
def owns (owned : Multiset Reference) (q : Nat) : Nat :=
  owned.countP (fun r => r.place = q)

/-- The number of references to an object: those that threads own, and those that objects hold. -/
def refs (s : SharedHeap) (q : Nat) : Nat :=
  owns s.owned q + s.heap.holders q

/-- A thread is not about to free an object. -/
def Idle (s : SharedHeap) (t : ThreadId) : Prop :=
  ∀ p, (t, p) ∉ s.due

/-- The state in which threads own other references. -/
def own (s : SharedHeap) (owned : Multiset Reference) : SharedHeap :=
  { s with owned }

/-- What threads own when one of them gets the reference that an object held. -/
def adopt (t : ThreadId) (owned : Multiset Reference) : Option Nat → Multiset Reference
  | none => owned
  | some p => { owner := t, place := p } ::ₘ owned

/-- The steps of a thread. -/
inductive Step : SharedHeap → ThreadId → HeapEvent → SharedHeap → Prop
  | make {s : SharedHeap} {t : ThreadId} {name : String} (hd : s.Idle t) :
      Step s t (.makes s.heap.objects.size)
        { s with
          heap := (s.heap.add { name, references := {} }).2
          owned := { owner := t, place := s.heap.objects.size } ::ₘ s.owned }
  | makeAround {s : SharedHeap} {t : ThreadId} {r : Reference} {name : String} (h : r ∈ s.owned)
      (ho : r.owner = t) (hk : r.kind = .handle) (hd : s.Idle t) :
      Step s t (.makes s.heap.objects.size)
        { s with
          heap := (s.heap.add { name, references := {}, child := some r.place }).2
          owned := { owner := t, place := s.heap.objects.size } ::ₘ s.owned.erase r }
  | retain {s s' : SharedHeap} {t : ThreadId} {k : ReferenceKind} {p : Nat} {n : Int64}
      (h : 0 < s.refs p) (hd : s.Idle t) (hn : (onHeap (Heap.retain p)).on s = (.ok n, s')) :
      Step s t (.retains p (.ok n)) (s'.own ({ owner := t, kind := k, place := p } ::ₘ s.owned))
  | retainFault {s s' : SharedHeap} {t : ThreadId} {p : Nat} {f : Fault} (h : 0 < s.refs p)
      (hd : s.Idle t) (hf : (onHeap (Heap.retain p)).on s = (.error f, s')) :
      Step s t (.retains p (.error f)) s'
  | release {s : SharedHeap} {t : ThreadId} {r : Reference} (h : r ∈ s.owned) (ho : r.owner = t)
      (hd : s.Idle t) :
      Step s t (.releases r.place ((giveUp t r.place).on s).1)
        (((giveUp t r.place).on s).2.own (s.owned.erase r))
  | turn {s : SharedHeap} {t : ThreadId} {r : Reference} (h : r ∈ s.owned) (ho : r.owner = t)
      (hd : s.Idle t) :
      Step s t (.turns r.place) (s.own ({ r with kind := r.kind.turned } ::ₘ s.owned.erase r))
  | read {s : SharedHeap} {t : ThreadId} {p : Nat} (h : 0 < s.refs p) (hd : s.Idle t) :
      Step s t (.reads p (s.heap.count p)) s
  | hand {s : SharedHeap} {t u : ThreadId} {r : Reference} (h : r ∈ s.owned) (ho : r.owner = t)
      (hd : s.Idle t) :
      Step s t (.hands r.place u) (s.own ({ r with owner := u } ::ₘ s.owned.erase r))
  | free {s : SharedHeap} {t : ThreadId} {p : Nat} {child : Option Nat} {heap : Heap}
      (h : (t, p) ∈ s.due) (hf : (Heap.free p).on s.heap = (.ok child, heap)) :
      Step s t (.frees p) { heap, owned := adopt t s.owned child, due := s.due.erase (t, p) }

/-- The threads around a heap on which there is no object at first. -/
def system : System SharedHeap HeapEvent where
  Starts s := s = {}
  Step := Step

/-- The counts are the numbers of references. -/
def Counted (s : SharedHeap) : Prop :=
  ∀ q, (s.heap.count q).toInt = s.refs q

variable {s s' : SharedHeap} {t : ThreadId} {e : HeapEvent} {p q : Nat} {n : Int64}
  {r : Reference} {owned : Multiset Reference}

/-! ### References -/

theorem owns_cons :
  owns (r ::ₘ owned) q = owns owned q + if r.place = q then 1 else 0
  := by
  rw [owns, Multiset.countP_cons]
  rfl

theorem owns_erase (h : r ∈ owned) :
  owns (owned.erase r) q + (if r.place = q then 1 else 0) = owns owned q
  := by
  rw [← owns_cons, Multiset.cons_erase h]

theorem owns_adopt {child : Option Nat} :
  owns (adopt t owned child) q = owns owned q + if child = some q then 1 else 0
  := by
  cases child with
  | none => rfl
  | some p =>
      rw [adopt, owns_cons]
      simp

theorem refs_pos (h : r ∈ s.owned) :
  0 < s.refs r.place
  := by
  have hr := @owns_erase r.place r s.owned h
  rw [if_pos rfl] at hr
  rw [refs]
  omega

/-- The count of an object is not zero while there is a reference to it. -/
theorem Counted.pos (i : s.Counted) (h : 0 < s.refs p) :
  0 < s.heap.count p
  := by
  rw [Int64.lt_iff_toInt_lt, i, Int64.toInt_zero, Int.natCast_pos]
  apply h

/-- There is no reference to what is not there. -/
theorem Counted.lt_size (i : s.Counted) (h : 0 < s.refs p) :
  p < s.heap.objects.size
  := by
  by_contra hp
  have hc := i p
  rw [Heap.count_of_le (Nat.le_of_not_lt hp), Int64.toInt_zero] at hc
  omega

/-! ### What a step is for an object -/

/-- What an operation leaves that takes a reference, where the count is not the greatest one. -/
theorem retain_on (h : s.heap.count p < Int64.maxValue) :
  (onHeap (Heap.retain p)).on s
    = (.ok (s.heap.count p + 1), { s with heap := s.heap.setCount p (s.heap.count p + 1) })
  := by
  rw [onHeap, Attempt.on_within, Heap.retain, Heap.increment_on_of_lt h]

/-- Taking a reference changes a count at most, also if it is a fault. -/
theorem eq_of_retain {x : Except Fault Int64} (h : (onHeap (Heap.retain p)).on s = (x, s')) :
  ∃ n, s' = { s with heap := s.heap.setCount p n }
  := by
  rw [onHeap, Attempt.on_within, Heap.retain, Heap.onCount_on] at h
  exact ⟨_, (Prod.mk.inj h).2.symm⟩

/-- What an operation leaves that gives up a reference, where there is one. -/
theorem giveUp_on (h : 0 < s.heap.count p) :
  (giveUp t p).on s
    = (.ok (s.heap.count p - 1),
      { s with
        heap := s.heap.setCount p (s.heap.count p - 1)
        due := if s.heap.count p - 1 = 0 then insert (t, p) s.due else s.due })
  := by
  have hd : (onHeap (Heap.onCount p RefCount.decrement)).on s
      = (.ok (s.heap.count p - 1), { s with heap := s.heap.setCount p (s.heap.count p - 1) }) := by
    rw [onHeap, Attempt.on_within, Heap.decrement_on_of_pos h]
  rw [giveUp, RefCount.thenIfZero_on_ok hd, Attempt.on_modify]
  by_cases hz : s.heap.count p - 1 = 0
  · rw [if_pos hz, if_pos hz]
  · rw [if_neg hz, if_neg hz]

/-- An object and the references to it are what they were. -/
structure Stays (q : Nat) (s s' : SharedHeap) : Prop where
  made : q < s'.heap.objects.size ↔ q < s.heap.objects.size
  refs : s'.refs q = s.refs q
  count : s'.heap.count q = s.heap.count q
  due : ∀ u, (u, q) ∈ s'.due ↔ (u, q) ∈ s.due

/-- The steps of a thread, as they are for one object: they concern another one; or the thread makes
the object, takes a reference to it, gives one up, or frees the object; or it does something that
leaves the object what it was. -/
inductive Turn (q : Nat) (s : SharedHeap) (t : ThreadId) : HeapEvent → SharedHeap → Prop
  | apart {e : HeapEvent} {s' : SharedHeap} (he : e.place ≠ q) (k : Stays q s s') : Turn q s t e s'
  | made {s' : SharedHeap} (hq : s.heap.objects.size = q) (hs : q < s'.heap.objects.size)
      (hr : s'.refs q = 1) (hc : s'.heap.count q = 1) (hd : s'.due = s.due) :
      Turn q s t (.makes q) s'
  | retained {s' : SharedHeap} {n : Int64} (h : 0 < s.refs q)
      (hs : s'.heap.objects.size = s.heap.objects.size) (hr : s'.refs q = s.refs q + 1)
      (hc : s'.heap.count q = n) (hn : n.toInt = s'.refs q) (hd : s'.due = s.due) :
      Turn q s t (.retains q (.ok n)) s'
  | released {s' : SharedHeap} {n : Int64} (h : 0 < s.refs q)
      (hs : s'.heap.objects.size = s.heap.objects.size) (hr : s'.refs q + 1 = s.refs q)
      (hc : s'.heap.count q = n) (hn : n.toInt = s'.refs q)
      (hd : s'.due = if n = 0 then insert (t, q) s.due else s.due) :
      Turn q s t (.releases q (.ok n)) s'
  | passed {e : HeapEvent} {s' : SharedHeap} (he : e.place = q) (hp : e.Passes)
      (h : 0 < s.refs q) (k : Stays q s s') : Turn q s t e s'
  | freed {s' : SharedHeap} (h : (t, q) ∈ s.due)
      (hs : s'.heap.objects.size = s.heap.objects.size) (hr : s'.refs q = s.refs q)
      (hc : s'.heap.count q = s.heap.count q) (hd : s'.due = s.due.erase (t, q)) :
      Turn q s t (.frees q) s'

theorem refs_of_le (i : s.Counted) (h : s.heap.objects.size ≤ q) :
  s.refs q = 0
  := by
  by_contra hr
  have hq := i.lt_size (Nat.pos_of_ne_zero hr)
  omega

/-- Making an object, around a reference or around none. -/
theorem Turn.make {o : CountedObject} (i : s.Counted) (hn : o.references.count = 1)
    (hc : ∀ q, owns owned q + (if o.child = some q then 1 else 0) = owns s.owned q) :
  Turn q s t (.makes s.heap.objects.size)
    { s with
      heap := (s.heap.add o).2
      owned := { owner := t, place := s.heap.objects.size } ::ₘ owned }
  := by
  have hr : SharedHeap.refs
      { s with
        heap := (s.heap.add o).2
        owned := { owner := t, place := s.heap.objects.size } ::ₘ owned } q
      = s.refs q + if s.heap.objects.size = q then 1 else 0 := by
    have hq := hc q
    rw [refs, owns_cons, Heap.holders_add, refs]
    dsimp only
    omega
  by_cases hq : s.heap.objects.size = q
  · obtain rfl := hq
    apply made rfl
    · rw [Heap.size_add]
      omega
    · rw [hr, refs_of_le i le_rfl, if_pos rfl]
    · rw [Heap.count_add, if_pos rfl, hn]
    · rfl
  · refine apart hq ?_
    constructor
    · rw [Heap.size_add]
      omega
    · rw [hr, if_neg hq, Nat.add_zero]
    · rw [Heap.count_add, if_neg (Ne.symm hq)]
    · intro u
      rfl

/-- Taking a reference. -/
theorem Turn.retain {k : ReferenceKind} (i : s.Counted) (h : 0 < s.refs p)
    (hn : (onHeap (Heap.retain p)).on s = (.ok n, s')) :
  Turn q s t (.retains p (.ok n)) (s'.own ({ owner := t, kind := k, place := p } ::ₘ s.owned))
  := by
  have hm : s.heap.count p < Int64.maxValue := by
    by_contra hm
    obtain ⟨heap, hf⟩ := Heap.increment_on_of_not_lt hm
    rw [onHeap, Attempt.on_within, Heap.retain, hf] at hn
    cases hn
  rw [retain_on hm] at hn
  cases hn
  have hs := i.lt_size h
  have hr : (own { s with heap := s.heap.setCount p (s.heap.count p + 1) }
      ({ owner := t, kind := k, place := p } ::ₘ s.owned)).refs q
      = s.refs q + if p = q then 1 else 0 := by
    rw [refs, own, owns_cons, Heap.holders_setCount, refs]
    dsimp only
    omega
  by_cases hq : p = q
  · obtain rfl := hq
    apply retained h
    · apply Heap.size_setCount
    · rw [hr, if_pos rfl]
    · rw [own, Heap.count_setCount hs, if_pos rfl]
    · rw [hr, if_pos rfl, RefCount.toInt_succ hm, i]
      rfl
    · rfl
  · refine apart hq ?_
    constructor
    · rw [own, Heap.size_setCount]
    · rw [hr, if_neg hq, Nat.add_zero]
    · rw [own, Heap.count_setCount hs, if_neg hq]
    · intro u
      rfl

/-- Giving up a reference. -/
theorem Turn.release (i : s.Counted) (h : r ∈ s.owned) :
  Turn q s t (.releases r.place ((giveUp t r.place).on s).1)
    (((giveUp t r.place).on s).2.own (s.owned.erase r))
  := by
  have hp := refs_pos h
  have hc := i.pos hp
  have hs := i.lt_size hp
  rw [giveUp_on hc]
  generalize hd : (if s.heap.count r.place - 1 = 0 then insert (t, r.place) s.due else s.due) = due
  dsimp only
  have hr : (own (SharedHeap.mk (s.heap.setCount r.place (s.heap.count r.place - 1)) s.owned due)
      (s.owned.erase r)).refs q + (if r.place = q then 1 else 0) = s.refs q := by
    have ho := @owns_erase q r s.owned h
    rw [refs, own, Heap.holders_setCount, refs]
    dsimp only
    omega
  by_cases hq : r.place = q
  · obtain rfl := hq
    rw [if_pos rfl] at hr
    apply released hp
    · apply Heap.size_setCount
    · apply hr
    · rw [own, Heap.count_setCount hs, if_pos rfl]
    · rw [RefCount.toInt_pred hc, i]
      omega
    · rw [own, ← hd]
  · refine apart hq ?_
    constructor
    · rw [own, Heap.size_setCount]
    · rw [← hr, if_neg hq, Nat.add_zero]
    · rw [own, Heap.count_setCount hs, if_neg hq]
    · intro u
      rw [own, ← hd]
      split
      · simp [Ne.symm hq]
      · rfl

/-- Turning a reference or handing it on. -/
theorem Turn.pass {r' : Reference} (h : r ∈ s.owned) (hr : r'.place = r.place) (hp : e.Passes)
    (he : e.place = r.place) :
  Turn q s t e (s.own (r' ::ₘ s.owned.erase r))
  := by
  have stays : Stays q s (s.own (r' ::ₘ s.owned.erase r)) := by
    constructor
    · rfl
    · rw [refs, own, owns_cons, hr, owns_erase h, refs]
    · rfl
    · intro u
      rfl
  by_cases hq : e.place = q
  · apply passed hq hp _ stays
    rw [← hq, he]
    apply refs_pos h
  · refine apart hq stays

/-- Freeing an object. -/
theorem Turn.free {child : Option Nat} {heap : Heap} (h : (t, p) ∈ s.due)
    (hf : (Heap.free p).on s.heap = (.ok child, heap)) :
  Turn q s t (.frees p) { heap, owned := adopt t s.owned child, due := s.due.erase (t, p) }
  := by
  obtain ⟨heap', hf', hs, hc, hh⟩ := @Heap.free_on s.heap p
  rw [hf] at hf'
  cases hf'
  have hr : SharedHeap.refs
      { heap, owned := adopt t s.owned (s.heap.child? p), due := s.due.erase (t, p) } q
      = s.refs q := by
    have holders := @Heap.holders_freed s.heap p q heap hs hh
    rw [refs, owns_adopt, refs]
    dsimp only
    omega
  by_cases hq : p = q
  · obtain rfl := hq
    apply freed h hs hr (hc p) rfl
  · refine apart hq ?_
    constructor
    · rw [hs]
    · apply hr
    · apply hc
    · intro u
      simp [Ne.symm hq]

/-- A step of a thread in which taking a reference is no fault is one of these for every object. -/
theorem Turn.of_step (i : s.Counted) (he : ∀ p f, e ≠ .retains p (.error f))
    (k : Step s t e s') (q : Nat) :
  Turn q s t e s'
  := by
  cases k with
  | make _ =>
      apply Turn.make i rfl
      intro q
      simp
  | makeAround h _ _ _ =>
      apply Turn.make i rfl
      intro q
      simpa using owns_erase h
  | retain h _ hn => apply Turn.retain i h hn
  | retainFault _ _ _ => apply absurd rfl (he _ _)
  | release h _ _ => apply Turn.release i h
  | turn h _ _ => exact Turn.pass h rfl trivial rfl
  | read h hd =>
      have stays : Stays q s s := ⟨Iff.rfl, rfl, rfl, fun _ => Iff.rfl⟩
      rename_i p
      by_cases hq : p = q
      · obtain rfl := hq
        exact passed rfl trivial h stays
      · exact apart hq stays
  | hand h _ _ => exact Turn.pass h rfl trivial rfl
  | free h hf => apply Turn.free h hf

end SharedHeap

end SyncLayer
