import SyncLayer.Session.Item
import SyncLayer.Proofs.System
import Mathlib.Data.Finset.Basic

/-!
# Sharing an object

Any threads share one object whose references are counted. A thread that owns a reference counts
another one, hands its reference to some thread, or gives it up. Whoever leaves a count of zero
runs the hook, and before that other threads may take steps, but that thread takes no other. There
are never more references than the greatest count.

The state says who owns the references that have not been given up, and which threads are about to
run the hook. No operation on the count goes by that.
-/

namespace SyncLayer

namespace RefCount

variable {c : RefCount}

/-- One may count a reference if the count is not the greatest one. -/
theorem increment_on (h : c.count < Int64.maxValue) :
  increment.on c = (.ok (c.count + 1), { count := c.count + 1 })
  := by
  simp [increment, h]

/-- One may count a reference away if there is one. -/
theorem decrement_on (h : 0 < c.count) :
  decrement.on c = (.ok (c.count - 1), { count := c.count - 1 })
  := by
  simp [decrement, h]

/-- Counting a reference adds one if the count is not the greatest one. -/
theorem toInt_succ {n : Int64} (h : n < Int64.maxValue) :
  (n + 1).toInt = n.toInt + 1
  := by
  have hl := n.le_toInt
  rw [Int64.lt_iff_toInt_lt, Int64.toInt_maxValue] at h
  rw [Int64.toInt_add, Int64.toInt_one]
  apply Int.bmod_eq_of_le
  · omega
  · omega

/-- Counting a reference away takes one if there is one. -/
theorem toInt_pred {n : Int64} (h : 0 < n) :
  (n - 1).toInt = n.toInt - 1
  := by
  have hl := n.toInt_lt
  rw [Int64.lt_iff_toInt_lt, Int64.toInt_zero] at h
  rw [Int64.toInt_sub, Int64.toInt_one]
  apply Int.bmod_eq_of_le
  · omega
  · omega

end RefCount

/-- A count, who owns the references that have not been given up, and the threads that are about
to run the hook. -/
structure SharedCount where
  references : RefCount
  owners : Multiset ThreadId
  due : Finset ThreadId := ∅

/-- What is seen of a step on a count: what an operation returns, to whom a thread hands its
reference, and that a thread runs the hook. -/
inductive CountEvent where
  | increments (r : Except Fault Int64)
  | decrements (r : Except Fault Int64)
  | hands (u : ThreadId)
  | hook

namespace SharedCount

/-- An operation on the count. -/
def onCount (a : Attempt RefCount Int64) : Attempt SharedCount Int64 :=
  Attempt.within SharedCount.references (fun s references => { s with references }) a

/-- What a thread does to give up a reference, before it runs the hook. -/
def giveUp (t : ThreadId) : Attempt SharedCount Int64 :=
  RefCount.thenIfZero (onCount RefCount.decrement)
    (modify (fun s => { s with due := insert t s.due }))

/-- The count is the number of the references that have not been given up. -/
def Counted (s : SharedCount) : Prop :=
  s.references.count.toInt = s.owners.card

/-- The state in which references have other owners. -/
def own (s : SharedCount) (owners : Multiset ThreadId) : SharedCount :=
  { s with owners }

/-- The steps of a thread. -/
inductive Step : SharedCount → ThreadId → CountEvent → SharedCount → Prop
  | increment {s : SharedCount} {t : ThreadId} (h : t ∈ s.owners) (hd : t ∉ s.due)
      (hn : s.owners.card < Int64.maxValue.toInt) :
      Step s t (.increments ((onCount RefCount.increment).on s).1)
        (((onCount RefCount.increment).on s).2.own (t ::ₘ s.owners))
  | decrement {s : SharedCount} {t : ThreadId} (h : t ∈ s.owners) (hd : t ∉ s.due) :
      Step s t (.decrements ((giveUp t).on s).1) (((giveUp t).on s).2.own (s.owners.erase t))
  | hand {s : SharedCount} {t u : ThreadId} (h : t ∈ s.owners) (hd : t ∉ s.due) :
      Step s t (.hands u) (s.own (u ::ₘ s.owners.erase t))
  | hook {s : SharedCount} {t : ThreadId} (h : t ∈ s.due) :
      Step s t .hook { s with due := s.due.erase t }

/-- The threads around a count of the references that they own at first, of which there is one at
least. -/
def system : System SharedCount CountEvent where
  Starts s := s.Counted ∧ s.owners ≠ 0 ∧ s.due = ∅
  Step := Step

variable {s s' : SharedCount} {t : ThreadId} {e : CountEvent}

/-- Where there is no reference a thread can only run the hook. -/
theorem Step.of_owners_eq_zero (hs : s.owners = 0) (k : Step s t e s') :
  e = .hook ∧ t ∈ s.due
  := by
  cases k with
  | hook h => exact ⟨rfl, h⟩
  | increment h _ _ => simp [hs] at h
  | decrement h _ => simp [hs] at h
  | hand h _ => simp [hs] at h

/-- The count is not zero while there is a reference. -/
theorem Counted.pos (i : s.Counted) (ht : t ∈ s.owners) :
  0 < s.references.count
  := by
  rw [Int64.lt_iff_toInt_lt, i, Int64.toInt_zero, Int.natCast_pos]
  apply Multiset.card_pos_iff_exists_mem.mpr ⟨t, ht⟩

/-- A thread that counts a reference leaves a greater count. -/
theorem onCount_increment (h : s.references.count < Int64.maxValue) :
  (onCount RefCount.increment).on s
    = (.ok (s.references.count + 1), { s with references := { count := s.references.count + 1 } })
  := by
  simp [onCount, RefCount.increment_on h]

/-- A thread that gives up a reference leaves a lower count, and it is about to run the hook if
that is zero. -/
theorem giveUp_on (h : 0 < s.references.count) :
  (giveUp t).on s
    = (.ok (s.references.count - 1),
      { s with
        references := { count := s.references.count - 1 }
        due := if s.references.count - 1 = 0 then insert t s.due else s.due })
  := by
  by_cases hz : s.references.count - 1 = 0
  · simp [giveUp, onCount, RefCount.thenIfZero, RefCount.decrement_on h, hz]
  · simp [giveUp, onCount, RefCount.thenIfZero, RefCount.decrement_on h, hz]

/-- The steps of a thread around a count of its references, one by one: it counts a reference, it
gives one up while there are others, it gives up the last one, it hands one on, and it runs the
hook. -/
inductive Turn (s : SharedCount) (t : ThreadId) : CountEvent → SharedCount → Prop
  | increment {c : Int64} (h : t ∈ s.owners) (hc : c.toInt = s.owners.card + 1) :
      Turn s t (.increments (.ok c))
        { references := { count := c }, owners := t ::ₘ s.owners, due := s.due }
  | decrement {c : Int64} (h : t ∈ s.owners) (hc : c.toInt + 1 = s.owners.card) (hz : c ≠ 0) :
      Turn s t (.decrements (.ok c))
        { references := { count := c }, owners := s.owners.erase t, due := s.due }
  | last (h : s.owners = {t}) :
      Turn s t (.decrements (.ok 0))
        { references := { count := 0 }, owners := 0, due := insert t s.due }
  | hand {u : ThreadId} (h : t ∈ s.owners) :
      Turn s t (.hands u) (s.own (u ::ₘ s.owners.erase t))
  | hook (h : t ∈ s.due) : Turn s t .hook { s with due := s.due.erase t }

/-- A step around a count of the references is one of the five. -/
theorem Turn.of_step (i : s.Counted) (k : Step s t e s') :
  Turn s t e s'
  := by
  cases k with
  | increment h _ hn =>
      have hm : s.references.count < Int64.maxValue := by
        rw [Int64.lt_iff_toInt_lt, i]
        apply hn
      rw [onCount_increment hm]
      apply increment h
      rw [RefCount.toInt_succ hm, i]
  | decrement h _ =>
      have hp := i.pos h
      have hc : (s.references.count - 1).toInt + 1 = s.owners.card := by
        rw [RefCount.toInt_pred hp, i]
        apply Int.sub_add_cancel
      rw [giveUp_on hp]
      by_cases hz : s.references.count - 1 = 0
      · have ho : s.owners = {t} := by
          have hn : s.owners.card = 1 := by
            rw [hz, Int64.toInt_zero] at hc
            omega
          obtain ⟨u, hu⟩ := Multiset.card_eq_one.mp hn
          rw [hu, Multiset.mem_singleton] at h
          rw [hu, h]
        have he : s.owners.erase t = 0 := by
          rw [ho]
          apply Multiset.erase_singleton
        rw [own, he, hz]
        apply last ho
      · rw [if_neg hz]
        apply decrement h hc hz
  | hand h _ => apply hand h
  | hook h => apply hook h

/-! ### Calls that nobody interrupts -/

/-- Whoever gives up a reference runs the hook if that leaves a count of zero. -/
theorem decrement_note_on {c : RefCount} (n : Nat) (h : 0 < c.count) :
  (Session.HookedCount.decrement .note).on { references := c, freed := n }
    = (.ok (c.count - 1),
      { references := { count := c.count - 1 }
        freed := if c.count - 1 = 0 then n + 1 else n })
  := by
  have ho : (Session.HookedCount.onCount RefCount.decrement).on { references := c, freed := n }
      = (.ok (c.count - 1), { references := { count := c.count - 1 }, freed := n }) := by
    simp [Session.HookedCount.onCount, RefCount.decrement_on h]
  by_cases hz : c.count - 1 = 0
  · simp [Session.HookedCount.decrement, Session.HookedCount.run, RefCount.thenIfZero, ho, hz]
  · simp [Session.HookedCount.decrement, Session.HookedCount.run, RefCount.thenIfZero, ho, hz]

/-- That is what a thread does that nobody interrupts, one step after the other. -/
theorem path_decrement (n : Nat) (i : s.Counted) (ht : t ∈ s.owners) (hd : t ∉ s.due) :
  ∃ c s', system.Path s ([(t, .decrements (.ok c))] ++ if c = 0 then [(t, .hook)] else []) s'
    ∧ (Session.HookedCount.decrement .note).on { references := s.references, freed := n }
      = (.ok c, { references := s'.references, freed := if c = 0 then n + 1 else n })
  := by
  have h := i.pos ht
  have k := Step.decrement ht hd
  rw [giveUp_on h] at k
  have p := System.Path.single (S := system) k
  use s.references.count - 1
  by_cases hz : s.references.count - 1 = 0
  · have p := p.step (Step.hook (t := t) (by simp [own, hz]))
    rw [if_pos hz]
    exact ⟨_, p, decrement_note_on n h⟩
  · rw [if_neg hz, List.append_nil]
    exact ⟨_, p, decrement_note_on n h⟩

end SharedCount

end SyncLayer
