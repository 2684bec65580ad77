import SyncLayer.Proofs.RefCount.Handles
import SyncLayer.Session.Counts

/-!
# Every object on a heap is freed once

The count of an object is the number of its handles and raw references. So the thread that leaves a
count of zero gave up the last one. Nobody can take another reference behind that, and nobody has
one to give up; that thread alone frees the object, and it does nothing before. A step on an object
leaves the counts of the others, whoever takes it.
-/

namespace SyncLayer

/-! ### What happened to an object -/

/-- What happened to an object. -/
def concerning (q : Nat) (h : History HeapEvent) : History HeapEvent :=
  h.filter (fun x => x.2.place = q)

/-- Nothing was freed and no last reference was given up in what happened. -/
def Alive (h : History HeapEvent) : Prop :=
  ∀ t e, (t, e) ∈ h → ∀ p, e ≠ .frees p ∧ e ≠ .releases p (.ok 0)

/-- Taking a reference was never a fault in what happened. -/
def Fitting (h : History HeapEvent) : Prop :=
  ∀ t p f, (t, .retains p (.error f)) ∉ h

variable {h h' : History HeapEvent} {t : ThreadId} {e : HeapEvent} {p q : Nat}

theorem concerning_concat_of_ne (he : e.place ≠ q) :
  concerning q (h ++ [(t, e)]) = concerning q h
  := by
  simp [concerning, he]

theorem concerning_concat_of_eq (he : e.place = q) :
  concerning q (h ++ [(t, e)]) = concerning q h ++ [(t, e)]
  := by
  simp [concerning, he]

theorem Alive.concat (a : Alive h) (he : ∀ p, e ≠ .frees p ∧ e ≠ .releases p (.ok 0)) :
  Alive (h ++ [(t, e)])
  := by
  intro u f hf
  rw [List.mem_append, List.mem_singleton] at hf
  rcases hf with hf | hf
  · apply a u f hf
  · cases hf
    apply he

namespace SharedHeap

variable {s s' : SharedHeap}

/-! ### The course of an object -/

/-- How far an object is: it has not been made; there are references to it; one thread gave up the
last one and is about to free the object; or it has done so, right behind that. -/
inductive Course (q : Nat) (h : History HeapEvent) (s : SharedHeap) : Prop
  | absent (hs : s.heap.objects.size ≤ q) (hd : ∀ u, (u, q) ∉ s.due) (hh : concerning q h = [])
  | live (hr : 0 < s.refs q) (hd : ∀ u, (u, q) ∉ s.due) (a : Alive (concerning q h))
  | due {t : ThreadId} {h' : History HeapEvent} (hs : q < s.heap.objects.size)
      (hr : s.refs q = 0) (hd : ∀ u, (u, q) ∈ s.due ↔ u = t) (a : Alive h')
      (hh : concerning q h = h' ++ [(t, .releases q (.ok 0))])
  | freed {t : ThreadId} {h' : History HeapEvent} (hs : q < s.heap.objects.size)
      (hr : s.refs q = 0) (hd : ∀ u, (u, q) ∉ s.due) (a : Alive h')
      (hh : concerning q h = h' ++ [(t, .releases q (.ok 0)), (t, .frees q)])

/-- An object to which there is a reference has not been freed and is not about to be. -/
theorem Course.of_pos (i : s.Counted) (c : Course q h s) (hr : 0 < s.refs q) :
  (∀ u, (u, q) ∉ s.due) ∧ Alive (concerning q h)
  := by
  cases c with
  | absent hs _ _ =>
      rw [refs_of_le i hs] at hr
      cases hr
  | live _ hd a => exact ⟨hd, a⟩
  | due _ hz _ _ _ =>
      rw [hz] at hr
      cases hr
  | freed _ hz _ _ _ =>
      rw [hz] at hr
      cases hr

/-- Nothing has happened to an object that has not been made. -/
theorem Course.of_le (i : s.Counted) (c : Course q h s) (hs : s.heap.objects.size ≤ q) :
  (∀ u, (u, q) ∉ s.due) ∧ concerning q h = []
  := by
  cases c with
  | absent _ hd hh => exact ⟨hd, hh⟩
  | live hr _ _ =>
      have hq := i.lt_size hr
      omega
  | due hq _ _ _ _ => omega
  | freed hq _ _ _ _ => omega

/-- A thread that is about to free an object gave up the last reference to it. -/
theorem Course.of_mem (c : Course q h s) (ht : (t, q) ∈ s.due) :
  q < s.heap.objects.size ∧ s.refs q = 0 ∧ (∀ u, (u, q) ∈ s.due ↔ u = t)
    ∧ ∃ h', Alive h' ∧ concerning q h = h' ++ [(t, .releases q (.ok 0))]
  := by
  cases c with
  | absent _ hd _ => apply absurd ht (hd t)
  | live _ hd _ => apply absurd ht (hd t)
  | due hs hr hd a hh =>
      obtain rfl := (hd t).mp ht
      exact ⟨hs, hr, hd, _, a, hh⟩
  | freed _ _ hd _ _ => apply absurd ht (hd t)

/-- A step that leaves an object what it was leaves it as far as it was. -/
theorem Course.stays (c : Course q h s) (k : Stays q s s')
    (hh : concerning q h' = concerning q h) :
  Course q h' s'
  := by
  cases c with
  | absent hs hd hn =>
      apply absent
      · have made := k.made
        omega
      · simpa only [k.due] using hd
      · rw [hh, hn]
  | live hr hd a =>
      apply live
      · rw [k.refs]
        apply hr
      · simpa only [k.due] using hd
      · rw [hh]
        apply a
  | due hs hr hd a hn =>
      apply due (k.made.mpr hs) (k.refs.trans hr) _ a (hh.trans hn)
      simpa only [k.due] using hd
  | freed hs hr hd a hn =>
      apply freed (k.made.mpr hs) (k.refs.trans hr) _ a (hh.trans hn)
      simpa only [k.due] using hd

/-- Every step takes an object on. -/
theorem Course.step (i : s.Counted) (c : Course q h s) (k : Turn q s t e s') :
  Course q (h ++ [(t, e)]) s'
  := by
  cases k with
  | apart he k => apply c.stays k (concerning_concat_of_ne he)
  | made hq hs hr hc hd =>
      obtain ⟨hn, hh⟩ := c.of_le i hq.le
      apply live
      · rw [hr]
        apply Nat.one_pos
      · rw [hd]
        apply hn
      · rw [concerning_concat_of_eq (by rfl), hh]
        intro u f hf
        simp only [List.nil_append, List.mem_singleton] at hf
        cases hf
        simp
  | retained hp hs hr hc hn hd =>
      obtain ⟨hq, a⟩ := c.of_pos i hp
      apply live
      · omega
      · rw [hd]
        apply hq
      · rw [concerning_concat_of_eq (by rfl)]
        apply a.concat
        simp
  | @released _ n hp hs hr hc hn hd =>
      obtain ⟨hq, a⟩ := c.of_pos i hp
      have hl := i.lt_size hp
      by_cases hz : n = 0
      · rw [hz, Int64.toInt_zero] at hn
        rw [if_pos hz] at hd
        apply due (t := t)
        · rw [hs]
          apply hl
        · omega
        · intro u
          simp [hd, hq]
        · apply a
        · rw [concerning_concat_of_eq (by rfl), hz]
      · rw [if_neg hz] at hd
        apply live
        · -- A count that is not zero tells that there is another reference.
          apply Nat.pos_of_ne_zero
          intro he
          apply hz
          rw [← Int64.toInt_inj, hn, he, Int64.toInt_zero]
          rfl
        · rw [hd]
          apply hq
        · rw [concerning_concat_of_eq (by rfl)]
          apply a.concat
          simp [hz]
  | passed he hp hr k =>
      obtain ⟨hq, a⟩ := c.of_pos i hr
      apply live
      · rw [k.refs]
        apply hr
      · simpa only [k.due] using hq
      · rw [concerning_concat_of_eq he]
        apply a.concat
        cases e with
        | turns _ => simp
        | reads _ _ => simp
        | hands _ _ => simp
        | makes _ => cases hp
        | retains _ _ => cases hp
        | releases _ _ => cases hp
        | frees _ => cases hp
  | freed hf hs hr hc hd =>
      obtain ⟨hl, hz, hu, h', a, hh⟩ := c.of_mem hf
      apply freed (t := t)
      · rw [hs]
        apply hl
      · rw [hr]
        apply hz
      · intro u
        rw [hd, Finset.mem_erase, hu]
        rintro ⟨hn, rfl⟩
        apply hn rfl
      · apply a
      · rw [concerning_concat_of_eq (by rfl), hh, List.append_assoc]
        rfl

/-- Every step keeps the counts. -/
theorem Counted.step (i : s.Counted) (k : ∀ q, Turn q s t e s') :
  s'.Counted
  := by
  intro q
  cases k q with
  | apart _ k => rw [k.count, k.refs, i]
  | made _ _ hr hc _ =>
      rw [hc, hr]
      rfl
  | retained _ _ _ hc hn _ => rw [hc, hn]
  | released _ _ _ hc hn _ => rw [hc, hn]
  | passed _ _ _ k => rw [k.count, k.refs, i]
  | freed _ _ hr hc _ => rw [hc, hr, i]

/-- Objects hold references to objects that were there before them. -/
def Ordered (heap : Heap) : Prop :=
  ∀ i c, heap.child? i = some c → c < i

theorem Ordered.setCount {heap : Heap} {n : Int64} (o : Ordered heap) :
  Ordered (heap.setCount p n)
  := by
  intro j c hc
  rw [Heap.child?_setCount] at hc
  apply o j c hc

/-- What a new object holds a reference to was there before it. -/
theorem Ordered.add {heap : Heap} {x : CountedObject} (o : Ordered heap)
    (hx : ∀ c, x.child = some c → c < heap.objects.size) :
  Ordered (heap.add x).2
  := by
  intro j c hc
  rw [Heap.child?_add] at hc
  split at hc
  · rename_i hj
    rw [hj]
    apply hx c hc
  · apply o j c hc

/-- Every step keeps the order. -/
theorem Ordered.step (i : s.Counted) (o : Ordered s.heap) (k : Step s t e s') :
  Ordered s'.heap
  := by
  cases k with
  | make _ =>
      apply o.add
      rintro c ⟨⟩
  | makeAround h _ _ _ =>
      apply o.add
      rintro c ⟨⟩
      apply i.lt_size (refs_pos h)
  | retain _ _ hn =>
      obtain ⟨n, rfl⟩ := eq_of_retain hn
      apply o.setCount
  | retainFault _ _ hf =>
      obtain ⟨n, rfl⟩ := eq_of_retain hf
      apply o.setCount
  | release h _ _ =>
      rw [giveUp_on (i.pos (refs_pos h))]
      apply o.setCount
  | turn _ _ _ => apply o
  | read _ _ => apply o
  | hand _ _ _ => apply o
  | free hm hf =>
      rename_i p child heap
      obtain ⟨heap', hf', _, _, hh⟩ := @Heap.free_on s.heap p
      rw [hf] at hf'
      cases hf'
      intro j c hc
      rw [hh] at hc
      split at hc
      · cases hc
      · apply o j c hc

/-- A thread that is about to free an object was so before, or it has just given up the last
reference. -/
theorem Step.due {u : ThreadId} (i : s.Counted) (k : Step s t e s') (hu : (u, p) ∈ s'.due) :
  (u, p) ∈ s.due ∨ u = t ∧ s.Idle t ∧ e = .releases p (.ok 0)
  := by
  cases k with
  | make _ => exact .inl hu
  | makeAround _ _ _ _ => exact .inl hu
  | retain _ _ hn =>
      obtain ⟨n, rfl⟩ := eq_of_retain hn
      exact .inl hu
  | retainFault _ _ hf =>
      obtain ⟨n, rfl⟩ := eq_of_retain hf
      exact .inl hu
  | release h _ hd =>
      rw [giveUp_on (i.pos (refs_pos h))] at hu ⊢
      simp only [own] at hu
      split at hu
      · rename_i r hz
        rw [Finset.mem_insert] at hu
        rcases hu with hu | hu
        · cases hu
          right
          rw [hz]
          exact ⟨rfl, hd, rfl⟩
        · exact .inl hu
      · exact .inl hu
  | turn _ _ _ => exact .inl hu
  | read _ _ => exact .inl hu
  | hand _ _ _ => exact .inl hu
  | free _ _ => exact .inl (Finset.mem_of_mem_erase hu)

/-! ### What holds behind every path -/

/-- The counts are right, every object is somewhere on its course, a thread is about to free one
object at most, and objects hold references to older ones. -/
structure Kept (h : History HeapEvent) (s : SharedHeap) : Prop where
  counted : s.Counted
  course : ∀ q, Course q h s
  single : ∀ u p p', (u, p) ∈ s.due → (u, p') ∈ s.due → p = p'
  ordered : Ordered s.heap

theorem Kept.start :
  Kept [] {}
  := by
  constructor
  · intro q
    simp [refs, owns, Heap.holders, Heap.count, Heap.object?]
  · intro q
    apply Course.absent
    · apply Nat.zero_le
    · simp
    · rfl
  · simp
  · intro j c hc
    cases hc

/-- Every step in which taking a reference is no fault keeps everything in order. -/
theorem Kept.step (i : Kept h s) (he : ∀ p f, e ≠ .retains p (.error f)) (k : Step s t e s') :
  Kept (h ++ [(t, e)]) s'
  := by
  have turn := Turn.of_step i.counted he k
  constructor
  · apply i.counted.step turn
  · intro q
    apply (i.course q).step i.counted (turn q)
  · intro u p p' hp hp'
    rcases k.due i.counted hp with hp | ⟨rfl, hd, rfl⟩
    · rcases k.due i.counted hp' with hp' | ⟨rfl, hd, _⟩
      · apply i.single u p p' hp hp'
      · apply absurd hp (hd p)
    · rcases k.due i.counted hp' with hp' | ⟨_, _, he⟩
      · apply absurd hp' (hd p')
      · cases he
        rfl
  · apply i.ordered.step i.counted k

theorem Kept.of_path (p : system.Path {} h s) (f : Fitting h) :
  Kept h s
  := by
  induction p with
  | refl => apply start
  | @step h s s' t e _ k ih =>
      apply (ih (fun t p f' hf => f t p f' (List.mem_append_left _ hf))).step
      · rintro p f' rfl
        apply f t p f'
        simp
      · apply k

/-! ### Calls that nobody interrupts -/

/-- The step by which a thread gives up a reference. -/
theorem step_release {r : Reference} {n : Int64} (i : s.Counted) (h : r ∈ s.owned)
    (ho : r.owner = t) (hd : s.Idle t) (hn : s.heap.count r.place - 1 = n) :
  Step s t (.releases r.place (.ok n))
    { heap := s.heap.setCount r.place n
      owned := s.owned.erase r
      due := if n = 0 then insert (t, r.place) s.due else s.due }
  := by
  have k := Step.release h ho hd
  rw [giveUp_on (i.pos (refs_pos h)), hn] at k
  apply k

/-- A thread that gives up a reference, and that nobody interrupts, frees the object if it gave up
the last one, and gives up what the object held. -/
theorem path_release {r : Reference} (i : s.Counted) (o : Ordered s.heap) (h : r ∈ s.owned)
    (ho : r.owner = t) (hd : s.Idle t) :
  ∃ h n s', system.Path s h s' ∧ (Heap.release r.place).on s.heap = (.ok n, s'.heap)
    ∧ s'.owned = s.owned.erase r ∧ s'.due = s.due
  := by
  generalize hp : r.place = p
  induction p using Nat.strongRecOn generalizing s r with
  | ind p ih =>
      subst hp
      have pos := i.pos (refs_pos h)
      have count := Heap.decrement_on_of_pos pos
      generalize hn : s.heap.count r.place - 1 = n at count
      have k := step_release i h ho hd hn
      have p := System.Path.single (S := system) k
      by_cases hz : n = 0
      · -- The last reference: the thread frees the object, and goes on with what it held.
        rw [if_pos hz] at k p
        have counted := i.step (Turn.of_step i (fun _ _ he => by cases he) k)
        have ordered := o.step i k
        obtain ⟨heap, hf, _⟩ := @Heap.free_on (s.heap.setCount r.place n) r.place
        generalize hc : (s.heap.setCount r.place n).child? r.place = child at hf
        have k' : Step
            { heap := s.heap.setCount r.place n
              owned := s.owned.erase r
              due := insert (t, r.place) s.due } t (.frees r.place) _ :=
          .free (Finset.mem_insert_self _ _) hf
        have p := p.step k'
        have counted' := counted.step (Turn.of_step counted (fun _ _ he => by cases he) k')
        have ordered' := ordered.step counted k'
        have due : (insert (t, r.place) s.due).erase (t, r.place) = s.due := by
          simp [hd r.place]
        rw [due] at p counted' ordered'
        cases child with
        | none =>
            refine ⟨_, n, _, p, ?_, rfl, rfl⟩
            rw [Heap.release_eq, RefCount.thenIfZero_on_ok count, if_pos hz]
            simp [Heap.deallocate, hf]
        | some c =>
            have hl := ordered _ _ hc
            obtain ⟨_, n', s', q, hr, ho', hd'⟩ := ih c hl (r := { owner := t, place := c })
              counted' ordered' (by simp [adopt]) rfl hd rfl
            refine ⟨_, n, s', p.trans q, ?_, ?_, hd'⟩
            · rw [Heap.release_eq, RefCount.thenIfZero_on_ok count, if_pos hz]
              simp [Heap.deallocate, hf, hl, hr]
            · rw [ho']
              simp [adopt]
      · rw [if_neg hz] at p
        refine ⟨_, n, _, p, ?_, rfl, rfl⟩
        rw [Heap.release_eq, RefCount.thenIfZero_on_ok count, if_neg hz]

end SharedHeap

/-! ### Ways to count -/

namespace CountWay

variable {way : CountWay} {takes : Bool}

theorem retain_eq :
  way.retain p = Heap.retain p
  := by
  cases way <;> rfl

theorem release_eq :
  way.release p = Heap.release p
  := by
  cases way with
  | handle => rfl
  | count => exact (Heap.release_eq p).symm
  | pointer => exact (Heap.release_eq p).symm

theorem act_eq :
  way.act p takes = handle.act p takes
  := by
  rw [act, act, retain_eq, release_eq]
  rfl

/-- In whichever ways references are counted, the same is returned and the heap is the same behind
every operation. -/
theorem actEach_eq (calls : List (Nat × Bool × CountWay × CountWay)) (heap : Heap) :
  actEach (calls.map (fun (p, takes, way, _) => (p, takes, way))) heap
    = actEach (calls.map (fun (p, takes, _, way) => (p, takes, way))) heap
  := by
  induction calls generalizing heap with
  | nil => rfl
  | cons call calls ih =>
      obtain ⟨p, takes, way, way'⟩ := call
      rw [List.map_cons, List.map_cons, actEach, actEach, act_eq, @act_eq p way' takes, ih]

end CountWay

/-- Whoever counts references to nothing gets zero, and nothing changes. -/
theorem Heap.at_none (heap : Heap) (object : Nat) (hook : Option (Nat → Attempt Heap Unit)) :
  (retainAt none).on heap = (.ok 0, heap) ∧ (releaseAt object hook none).on heap = (.ok 0, heap)
    ∧ heap.countAt none = 0
  := ⟨rfl, rfl, rfl⟩

theorem Session.countNothing_run (w : Session.World Session.Outcome) :
  Session.countNothing.run.run w = (.ok (.numbers [0, 0, 0]), w)
  := rfl

namespace SharedHeap

variable {s s' : SharedHeap}

/-! ### What a step does to other objects -/

/-- What a step needs of the object that it concerns: that it is not there, that there is a
reference to it, or that the thread is about to free it. -/
theorem Step.cases_place (k : Step s t e s') :
  e.place = s.heap.objects.size ∨ 0 < s.refs e.place
    ∨ (t, e.place) ∈ s.due ∧ e = .frees e.place
  := by
  cases k with
  | make _ => exact .inl rfl
  | makeAround _ _ _ _ => exact .inl rfl
  | retain h _ _ => exact .inr (.inl h)
  | retainFault h _ _ => exact .inr (.inl h)
  | release h _ _ => exact .inr (.inl (refs_pos h))
  | turn h _ _ => exact .inr (.inl (refs_pos h))
  | read h _ => exact .inr (.inl h)
  | hand h _ _ => exact .inr (.inl (refs_pos h))
  | free h _ => exact .inr (.inr ⟨h, rfl⟩)

/-- A step leaves the counts of the objects that it does not concern. -/
theorem Step.count_of_ne (i : s.Counted) (k : Step s t e s') (hq : q ≠ e.place) :
  s'.heap.count q = s.heap.count q
  := by
  by_cases he : ∀ p f, e ≠ .retains p (.error f)
  · cases Turn.of_step i he k q with
    | apart _ k => apply k.count
    | made _ _ _ _ _ => apply absurd rfl hq
    | retained _ _ _ _ _ _ => apply absurd rfl hq
    | released _ _ _ _ _ _ => apply absurd rfl hq
    | passed _ _ _ k => apply k.count
    | freed _ _ _ _ _ => apply absurd rfl hq
  · push Not at he
    obtain ⟨p, f, he⟩ := he
    cases k with
    | retainFault h _ hf =>
        obtain ⟨n, rfl⟩ := eq_of_retain hf
        rw [Heap.count_setCount (i.lt_size h)]
        apply if_neg
        exact Ne.symm hq
    | _ => cases he

/-- A step that passes an object leaves the heap. -/
theorem Step.heap_of_passes (k : Step s t e s') (hp : e.Passes) :
  s'.heap = s.heap
  := by
  cases k with
  | turn _ _ _ => rfl
  | read _ _ => rfl
  | hand _ _ _ => rfl
  | _ => cases hp

/-- Only taking a reference can be a fault, where there are as many as a count can tell. -/
theorem Step.of_fault {f : Fault} (i : s.Counted) (k : Step s t e s')
    (he : e = .retains q (.error f) ∨ e = .releases q (.error f)) :
  e = .retains q (.error .refcountOverflow) ∧ (s.refs q : Int) = Int64.maxValue.toInt
  := by
  cases k with
  | retainFault h _ hf =>
      rcases he with he | he
      · cases he
        by_cases hm : s.heap.count q < Int64.maxValue
        · rw [retain_on hm] at hf
          cases hf
        · obtain ⟨heap, ho⟩ := Heap.increment_on_of_not_lt hm
          rw [onHeap, Attempt.on_within, Heap.retain, ho] at hf
          cases hf
          refine ⟨rfl, ?_⟩
          have hl := (s.heap.count q).toInt_le
          rw [Int64.lt_iff_toInt_lt] at hm
          rw [← i q]
          omega
      · cases he
  | release h _ _ =>
      rw [giveUp_on (i.pos (refs_pos h))] at he
      rcases he with he | he
      · cases he
      · cases he
  | _ =>
      rcases he with he | he
      · cases he
      · cases he

/-- A step makes one reference to an object at most. -/
theorem Step.refs_le (i : s.Counted) (he : ∀ p f, e ≠ .retains p (.error f)) (k : Step s t e s')
    (q : Nat) :
  s'.refs q ≤ s.refs q + 1
  := by
  cases Turn.of_step i he k q with
  | apart _ k =>
      have refs := k.refs
      omega
  | made _ _ hr _ _ => omega
  | retained _ _ hr _ _ _ => omega
  | released _ _ hr _ _ _ => omega
  | passed _ _ _ k =>
      have refs := k.refs
      omega
  | freed _ _ hr _ _ => omega

/-- Taking a reference is no fault in fewer steps than a count can tell references. -/
theorem fitting_of_length_le (p : system.Path {} h s)
    (hl : (h.length : Int) ≤ Int64.maxValue.toInt) :
  Fitting h
  := by
  suffices fitting : Fitting h ∧ ∀ q, s.refs q ≤ h.length from fitting.1
  induction p with
  | refl =>
      constructor
      · intro t p f hf
        cases hf
      · intro q
        apply Nat.le_refl
  | @step h s s' t e p k ih =>
      rw [List.length_append, List.length_singleton] at hl ⊢
      obtain ⟨fitting, less⟩ := ih (by omega)
      have counted := (Kept.of_path p fitting).counted
      have he : ∀ q f, e ≠ .retains q (.error f) := by
        rintro q f rfl
        have full := (k.of_fault counted (.inl rfl)).2
        have few := less q
        omega
      constructor
      · intro u q f hf
        rw [List.mem_append, List.mem_singleton] at hf
        rcases hf with hf | hf
        · apply fitting u q f hf
        · cases hf
          apply he q f rfl
      · intro q
        have step := Step.refs_le counted he k q
        have before := less q
        omega

/-! ### Books on the objects -/

/-- The number of handles of an object: those of threads, and those in objects. -/
def handles (s : SharedHeap) (q : Nat) : Nat :=
  s.owned.countP (fun r => r.place = q ∧ r.kind = .handle) + s.heap.holders q

/-- The number of raw references to an object. -/
def raws (s : SharedHeap) (q : Nat) : Nat :=
  s.owned.countP (fun r => r.place = q ∧ r.kind = .raw)

theorem refs_eq :
  s.refs q = s.handles q + s.raws q
  := by
  have kinds (owned : Multiset Reference) :
      owns owned q = owned.countP (fun r => r.place = q ∧ r.kind = .handle)
        + owned.countP (fun r => r.place = q ∧ r.kind = .raw) := by
    induction owned using Multiset.induction_on with
    | empty => rfl
    | cons r owned ih =>
        rw [owns_cons, ih, Multiset.countP_cons, Multiset.countP_cons]
        cases hk : r.kind with
        | handle =>
            simp only [and_true, reduceCtorEq, and_false, if_false]
            omega
        | raw =>
            simp only [and_true, reduceCtorEq, and_false, if_false]
            omega
  rw [refs, kinds, handles, raws]
  omega

/-- What becomes of an object. While there are references to it nobody gave up the last one, and
nobody can free it. Once a thread has given up the last one, that thread can free it, can do nothing
else, and is the only one that can do anything with it. Behind that it was freed, right after its
last reference was given up and by that thread, and nobody can do anything with it. -/
inductive Fate (q : Nat) (h : History HeapEvent) (s : SharedHeap) : Prop
  | live (hr : 0 < s.handles q + s.raws q) (a : Alive (concerning q h))
      (hf : ∀ u s', ¬ Step s u (.frees q) s')
  | due {t : ThreadId} {h' : History HeapEvent} (hr : s.handles q + s.raws q = 0) (a : Alive h')
      (hh : concerning q h = h' ++ [(t, .releases q (.ok 0))])
      (hf : ∃ s', Step s t (.frees q) s') (ho : ∀ e s', Step s t e s' → e = .frees q)
      (hu : ∀ u e s', Step s u e s' → e.place = q → u = t)
  | freed {t : ThreadId} {h' : History HeapEvent} (hr : s.handles q + s.raws q = 0) (a : Alive h')
      (hh : concerning q h = h' ++ [(t, .releases q (.ok 0)), (t, .frees q)])
      (hu : ∀ u e s', Step s u e s' → e.place ≠ q)

/-- Only who is about to free an object frees it. -/
theorem Step.mem_due (k : Step s t (.frees q) s') :
  (t, q) ∈ s.due
  := by
  cases k with
  | free h _ => apply h

/-- Who is about to free an object can do so. -/
theorem exists_free (h : (t, q) ∈ s.due) :
  ∃ s', Step s t (.frees q) s'
  := by
  obtain ⟨heap, hf, _⟩ := @Heap.free_on s.heap q
  exact ⟨_, .free h hf⟩

/-- Who is about to free an object, and no other one, does nothing before. -/
theorem Step.eq_frees (hs : ∀ p, (t, p) ∈ s.due → p = q) (h : (t, q) ∈ s.due)
    (k : Step s t e s') :
  e = .frees q
  := by
  cases k with
  | make hd | makeAround _ _ _ hd | retain _ hd _ | retainFault _ hd _ | release _ _ hd
  | turn _ _ hd | read _ hd | hand _ _ hd => apply absurd h (hd q)
  | free hm _ => rw [hs _ hm]

/-- Nobody but who is about to free it does anything with an object that is there and to which there
is no reference. -/
theorem Step.mem_of_place (hq : q < s.heap.objects.size) (hr : s.refs q = 0) (k : Step s t e s')
    (he : e.place = q) :
  (t, q) ∈ s.due
  := by
  rcases k.cases_place with hs | hs | hs
  · omega
  · rw [he] at hs
    omega
  · rw [← he]
    apply hs.1

theorem Kept.fate (i : Kept h s) (hq : q < s.heap.objects.size) :
  Fate q h s
  := by
  cases i.course q with
  | absent hs _ _ => omega
  | live hr hd a =>
      apply Fate.live
      · rw [← refs_eq]
        apply hr
      · apply a
      · intro u s' k
        apply hd u k.mem_due
  | @due t h' _ hr hd a hh =>
      have ht : (t, q) ∈ s.due := (hd t).mpr rfl
      apply Fate.due (refs_eq.symm.trans hr) a hh (exists_free ht)
      · intro e s' k
        apply k.eq_frees _ ht
        intro p hp
        apply i.single t p q hp ht
      · intro u e s' k he
        apply (hd u).mp
        apply k.mem_of_place hq hr he
  | freed _ hr hd a hh =>
      apply Fate.freed (refs_eq.symm.trans hr) a hh
      intro u e s' k he
      apply hd u
      apply k.mem_of_place hq hr he

/-- Whatever threads do with the objects that they make and share, the count of an object is the
number of its handles and raw references, and the object is freed once, by the thread that gives up
the last of them. No step changes the count of another object, and turning a reference, handing it
on or reading a count changes nothing on the heap. Only taking a reference can be a fault, where
there are as many as a count can tell. In whichever way a reference is given up, the call is a path
of steps. It does not matter for what operations return, and for the heap behind each of them, in
which ways references are counted; and with a pointer to nothing they change nothing. -/
theorem bookkeeping (p : system.Path {} h s) (f : Fitting h) :
  (∀ q, (s.heap.count q).toInt = s.handles q + s.raws q)
    ∧ (∀ q < s.heap.objects.size, Fate q h s)
    ∧ (∀ t e s', Step s t e s' →
        (∀ q ≠ e.place, s'.heap.count q = s.heap.count q) ∧ (e.Passes → s'.heap = s.heap))
    ∧ (∀ t e s' q g, Step s t e s' → e = .retains q (.error g) ∨ e = .releases q (.error g) →
        e = .retains q (.error .refcountOverflow) ∧ (s.refs q : Int) = Int64.maxValue.toInt)
    ∧ (∀ r ∈ s.owned, s.Idle r.owner → ∀ way : CountWay, ∃ h n s', system.Path s h s'
        ∧ (way.release r.place).on s.heap = (.ok n, s'.heap)
        ∧ s'.owned = s.owned.erase r ∧ s'.due = s.due)
    ∧ (∀ (calls : List (Nat × Bool × CountWay × CountWay)) (heap : Heap),
        CountWay.actEach (calls.map (fun (p, takes, way, _) => (p, takes, way))) heap
          = CountWay.actEach (calls.map (fun (p, takes, _, way) => (p, takes, way))) heap)
    ∧ ∀ (heap : Heap) (object : Nat) (hook : Option (Nat → Attempt Heap Unit)),
        (Heap.retainAt none).on heap = (.ok 0, heap)
          ∧ (Heap.releaseAt object hook none).on heap = (.ok 0, heap) ∧ heap.countAt none = 0
  := by
  have kept := Kept.of_path p f
  refine ⟨?_, ?_, ?_, ?_, ?_, CountWay.actEach_eq, Heap.at_none⟩
  · intro q
    rw [kept.counted, refs_eq]
    rfl
  · intro q hq
    apply kept.fate hq
  · intro t e s' k
    constructor
    · intro q hq
      apply k.count_of_ne kept.counted hq
    · apply k.heap_of_passes
  · intro t e s' q g k he
    apply k.of_fault kept.counted he
  · intro r hr hd way
    rw [CountWay.release_eq]
    apply path_release kept.counted kept.ordered hr rfl hd

/-- A thread makes an object, takes a raw reference to it and hands that to another thread. The
first one drops its handle, and the other one gives up the raw reference and frees the object. -/
theorem exists_path_shared :
  ∃ s, system.Path {} [(1, .makes 0), (1, .retains 0 (.ok 2)), (1, .hands 0 2),
    (1, .releases 0 (.ok 1)), (2, .releases 0 (.ok 0)), (2, .frees 0)] s
  := by
  have idle {heap : Heap} {owned : Multiset Reference} {t : ThreadId} :
      Idle { heap, owned } t := fun p => Finset.notMem_empty (t, p)
  have path := System.Path.single (S := system) (@Step.make {} 1 "" idle)
  have path := path.step (Step.retain (t := 1) (p := 0) (k := .raw) (by decide) idle rfl)
  have path := path.step (Step.hand (t := 1) (u := 2)
    (r := { owner := 1, kind := .raw, place := 0 }) (by decide) rfl idle)
  have path := path.step (Step.release (t := 1) (r := { owner := 1, place := 0 }) (by decide) rfl
    idle)
  have path := path.step (Step.release (t := 2) (r := { owner := 2, kind := .raw, place := 0 })
    (by decide) rfl idle)
  have path := path.step (Step.free (t := 2) (p := 0) (by decide) rfl)
  exact ⟨_, path⟩

theorem bookkeeping_shared :
  ∃ h s, h = [(1, .makes 0), (1, .retains 0 (.ok 2)), (1, .hands 0 2),
      (1, .releases 0 (.ok 1)), (2, .releases 0 (.ok 0)), (2, .frees 0)]
    ∧ system.Path {} h s ∧ Fitting h
    ∧ (∀ q, (s.heap.count q).toInt = s.handles q + s.raws q)
    ∧ ∀ q < s.heap.objects.size, Fate q h s
  := by
  obtain ⟨s, path⟩ := exists_path_shared
  have fitting := fitting_of_length_le path (by decide)
  have kept := bookkeeping path fitting
  exact ⟨_, s, rfl, path, fitting, kept.1, kept.2.1⟩

end SharedHeap

end SyncLayer
