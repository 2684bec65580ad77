import SyncLayer.Proofs.Fib.Work

/-!
# Runs of the contention driver

Some worker can take a step unless all have printed their lines: one that waits for the lock waits for
a worker that holds it, and that goes on. So a run that cannot go on has as many lines of the same
number as there are workers, whether these take turns or not, and leaves the lock to nobody and the
object with its own reference.
-/

namespace SyncLayer.Fib

variable {depth n : UInt32} {w w' : Worker} {d d' : Desk} {e : WorkerEvent} {p : ClaimPhase} {c : Nat}
  {g : Lookup} {b : ClaimEvent}

/-! ### What is seen of a worker that is in order -/

/-- What a call returns, and what a worker prints, is its Fibonacci number. Nobody frees the object,
and nothing ends in a fault. -/
def WorkerEvent.Sound (depth : UInt32) : WorkerEvent → Prop
  | returns n r => r.toNat = number n.toNat
  | prints r => r.toNat = number depth.toNat
  | frees | faults _ | locks (.faults _) => False
  | _ => True

theorem Turn.sound (k : Turn depth d w e d' w') (fits : w.phase.Fits depth p c w.stack) :
  e.Sound depth
  := by
  cases k with
  | again hp _ | add hp _ _ | finish hp _ | print hp =>
      rw [hp] at fits
      exact fits.2.2.2
  | start _ _ | call _ | increment _ _ | leaf _ _ | fork _ _ | decrement _ _ => trivial

/-! ### What is seen of calls -/

/-- The call in which a worker stands. -/
@[simp]
def WorkerPhase.argument? : WorkerPhase → Option UInt32
  | looking n _ | inside n _ | counting n | branching n | dropping n _ | freeing n
  | returning n _ => some n
  | arriving | gathered | ready | calling _ | printing _ | failed => none

/-- The argument of a call that waits. -/
@[simp]
def Frame.argument : Frame → UInt32
  | first n | second n _ => n

/-- The number of calls of an argument in which a worker is. -/
def Worker.calls (n : UInt32) (w : Worker) : Nat :=
  w.phase.argument?.toList.count n + (w.stack.map Frame.argument).count n

/-- A call of an argument begins. -/
@[simp]
def WorkerEvent.isCall (n : UInt32) : WorkerEvent → Bool
  | calls m => m == n
  | _ => false

/-- A call of an argument returns. -/
@[simp]
def WorkerEvent.isReturn (n : UInt32) : WorkerEvent → Bool
  | returns m _ => m == n
  | _ => false

/-- A reference is counted. -/
@[simp]
def WorkerEvent.isIncrement : WorkerEvent → Bool
  | increments => true
  | _ => false

/-- A reference is counted away. -/
@[simp]
def WorkerEvent.isDecrement : WorkerEvent → Bool
  | decrements => true
  | _ => false

theorem count_cons_argument (n m : UInt32) (l : List UInt32) :
  (m :: l).count n = (m == n).toNat + l.count n
  := by
  rw [List.count_cons, Nat.add_comm, Bool.toNat, Bool.cond_eq_ite]

/-- A turn begins a call or returns from one just if the worker is in one more or less. -/
theorem Turn.calls (n : UInt32) (k : Turn depth d w e d' w') :
  (e.isReturn n).toNat + w'.calls n = (e.isCall n).toNat + w.calls n
  := by
  cases k with
  | start hp _ => simp [Worker.calls, hp]
  | call hp => simp [Worker.calls, hp, count_cons_argument]
  | increment hp _ => simp [Worker.calls, hp]
  | leaf hp _ => simp [Worker.calls, hp]
  | fork hp _ => simp [Worker.calls, hp, count_cons_argument]
  | decrement hp _ => simp [Worker.calls, hp]
  | again hp hs => simp [Worker.calls, hp, hs, count_cons_argument]
  | add hp hs _ => simp [Worker.calls, hp, hs, count_cons_argument]
  | finish hp hs => simp [Worker.calls, hp, hs, count_cons_argument]
  | print hp => simp [Worker.calls, hp]

/-- A turn counts a reference, or counts it away, just if a call holds one more or less. -/
theorem Turn.references (k : Turn depth d w e d' w') :
  e.isDecrement.toNat + w'.held = e.isIncrement.toNat + w.held
  := by
  cases k with
  | start hp _ => simp [Worker.held, WorkerPhase.held, hp]
  | call hp => simp [Worker.held, WorkerPhase.held, hp]
  | increment hp _ => simp [Worker.held, WorkerPhase.held, hp]
  | leaf hp _ => simp [Worker.held, WorkerPhase.held, hp]
  | fork hp _ => simp [Worker.held, WorkerPhase.held, hp, Nat.add_comm]
  | decrement hp _ => simp [Worker.held, WorkerPhase.held, hp]
  | again hp hs => simp [Worker.held, WorkerPhase.held, hp, hs]
  | add hp hs _ => simp [Worker.held, WorkerPhase.held, hp, hs, Nat.add_comm]
  | finish hp hs => simp [Worker.held, WorkerPhase.held, hp, hs]
  | print hp => simp [Worker.held, WorkerPhase.held, hp]

/-- Behind a step of a call on the lock a worker stands in the same call of the function. -/
theorem argument?_behind (hb : ∀ f, b ≠ .faults f) :
  (Worker.behind n g b p).argument? = some n
  := by
  rw [Worker.behind.eq_def]
  split
  · cases hb _ rfl
  · cases g.next? <;> rfl
  · rfl

/-! ### What a worker can do -/

/-- Where a worker does nothing by itself: it waits for the others, calls the lock, has failed, or has
begun all its lines. -/
theorem act_eq_none (h : w.act depth d = none) :
  w.phase = .arriving ∨ w.phase = .gathered ∨ (∃ n g, w.phase = .looking n g)
    ∨ (∃ n g, w.phase = .inside n g) ∨ w.phase = .failed ∨ w.phase = .ready ∧ w.todo = 0
  := by
  rw [Worker.act] at h
  cases hp : w.phase with
  | arriving => exact .inl rfl
  | gathered => exact .inr (.inl rfl)
  | looking n g => exact .inr (.inr (.inl ⟨n, g, rfl⟩))
  | inside n g => exact .inr (.inr (.inr (.inl ⟨n, g, rfl⟩)))
  | failed => exact .inr (.inr (.inr (.inr (.inl rfl))))
  | ready =>
      simp only [hp] at h
      split at h
      · rename_i hk
        exact .inr (.inr (.inr (.inr (.inr ⟨rfl, hk⟩))))
      · cases h
  | calling n | freeing n | printing r =>
      simp only [hp] at h
      cases h
  | counting n | branching n | dropping n r =>
      simp only [hp] at h
      split at h <;> cases h
  | returning n r =>
      simp only [hp] at h
      split at h
      · cases h
      · cases h
      · split at h <;> cases h

namespace Crew

variable {o : Options} {s s' : Crew} {t u : ThreadId} {h : History WorkerEvent}

theorem Step.workers_of_ne (k : Step o s t e s') (hu : u ≠ t) :
  s'.workers u = s.workers u
  := by
  cases k <;> exact workers_put_of_ne hu

/-- What is seen of a step is sound, and tells which calls begin and return and which references are
counted. -/
theorem InOrder.seen (i : InOrder o s) (room : HasRoom o) (hF : number o.depth.toNat < UInt64.size)
    (k : Step o s t e s') :
  e.Sound o.depth
    ∧ (∀ n, (e.isReturn n).toNat + (s'.workers t).calls n
        = (e.isCall n).toNat + (s.workers t).calls n)
    ∧ e.isDecrement.toNat + (s'.workers t).held = e.isIncrement.toNat + (s.workers t).held
  := by
  have ht := k.mem_crew i
  cases k with
  | arrive hp =>
      rw [workers_put_self]
      exact ⟨trivial, by simp [Worker.calls, hp], by simp [Worker.held, WorkerPhase.held, hp]⟩
  | pass hp _ =>
      rw [workers_put_self]
      exact ⟨trivial, by simp [Worker.calls, hp], by simp [Worker.held, WorkerPhase.held, hp]⟩
  | act h =>
      rw [workers_put_self]
      have turn := i.turn room hF ht h
      exact ⟨turn.sound (i.fits t), turn.calls, turn.references⟩
  | @enter n g l hp _ =>
      rw [workers_put_self]
      refine ⟨?_, by simp [Worker.calls, hp], by simp [Worker.held, WorkerPhase.held, hp]⟩
      cases g <;> trivial
  | @go n g e l hp _ k =>
      rw [workers_put_self]
      have he : ∀ f, e ≠ .faults f := by
        rintro f rfl
        exact i.not_faults hp k
      refine ⟨?_, ?_, ?_⟩
      · cases e with
        | faults f => cases he f rfl
        | _ => trivial
      · intro m
        rw [Worker.calls, argument?_behind he, Worker.calls, hp]
        rfl
      · rw [Worker.held, behind_aside.1, Worker.held, hp]
        rfl

/-! ### Histories -/

/-- What happened in a run is sound. -/
theorem sound_of_run (r : (system o).Run h s) (room : HasRoom o)
    (hF : number o.depth.toNat < UInt64.size) :
  ∀ x ∈ h, x.2.Sound o.depth
  := by
  apply r.induct (I := fun h _ => ∀ x ∈ h, x.2.Sound o.depth)
  · intro _ _
    exact List.forall_mem_nil _
  · intro h s t e s' r ih k
    rw [List.forall_mem_append, List.forall_mem_singleton]
    exact ⟨ih, ((InOrder.of_reachable r.reachable room hF).seen room hF k).1⟩

/-- What begins and ends step by step has begun as often as it has ended and is the case. -/
theorem timesBy_balance {p q : WorkerEvent → Bool} {f : Worker → Nat}
    (fresh : ∀ t, f (Worker.fresh o t) = 0)
    (step : ∀ s t e s', (system o).Reachable s → Step o s t e s' →
      (q e).toNat + f (s'.workers t) = (p e).toNat + f (s.workers t))
    (r : (system o).Run h s) (t : ThreadId) :
  h.timesBy t q + f (s.workers t) = h.timesBy t p
  := by
  apply r.induct (I := fun h s => h.timesBy t q + f (s.workers t) = h.timesBy t p)
  · rintro _ ⟨description, stats, rfl⟩
    change 0 + f (Worker.fresh o t) = 0
    rw [fresh]
  · intro h s u e s' r ih k
    rw [History.timesBy_concat, History.timesBy_concat, ← ih]
    by_cases hu : u = t
    · subst hu
      have balance := step s u e s' r.reachable k
      rw [if_pos rfl, if_pos rfl]
      omega
    · rw [if_neg hu, if_neg hu, k.workers_of_ne (Ne.symm hu)]
      rfl

theorem calls_fresh (o : Options) (n : UInt32) (t : ThreadId) :
  (Worker.fresh o t).calls n = 0
  := by
  rw [Worker.fresh]
  split
  · split <;> rfl
  · rfl

theorem held_fresh (o : Options) (t : ThreadId) :
  (Worker.fresh o t).held = 0
  := by
  rw [Worker.fresh]
  split
  · split <;> rfl
  · rfl

/-! ### Progress -/

/-- A worker that is about to call the lock can. -/
theorem InOrder.exists_enter (i : InOrder o s) (hp : (s.workers t).phase = .looking n g) :
  ∃ e s', Step o s t e s'
  := by
  have fits := i.fits t
  rw [hp] at fits
  obtain ⟨_, outside, hc⟩ := fits
  have call : ∃ l, RecursiveState.Step s.globals t g.start l := by
    cases g with
    | acquire | reacquire => exact ⟨_, .call outside⟩
    | release | releaseLast => exact ⟨_, .leave outside (by rw [hc]; decide)⟩
  obtain ⟨l, k⟩ := call
  exact ⟨_, _, .enter hp k⟩

/-- A worker goes on with a call on the lock, unless it is about to acquire the lock inside. -/
theorem InOrder.exists_go (i : InOrder o s) (hp : (s.workers t).phase = .inside n g)
    (he : ∀ c, s.globals.phase t ≠ .entering c) :
  ∃ e s', Step o s t e s'
  := by
  have fits := i.fits t
  rw [hp] at fits
  obtain ⟨_, stands, _⟩ := fits
  have ho := Lookup.Stands.ne_outside stands
  obtain ⟨e, l, q, ha⟩ := ClaimPhase.exists_access t s.globals.lock ho he
  exact ⟨_, _, .go hp ho (.access ha)⟩

/-- The worker that holds the lock inside goes on. -/
theorem InOrder.exists_of_holder (i : InOrder o s) (hu : s.globals.holder = some u) :
  ∃ e s', Step o s u e s'
  := by
  have holds := i.consistent.fits u hu
  by_cases hl : ∃ n g, (s.workers u).phase = .looking n g
  · obtain ⟨n, g, hp⟩ := hl
    apply i.exists_enter hp
  by_cases hi : ∃ n g, (s.workers u).phase = .inside n g
  · obtain ⟨n, g, hp⟩ := hi
    apply i.exists_go hp
    intro c hc
    rw [hc] at holds
    cases holds
  · -- Elsewhere it has acquired nothing, and would not hold the lock inside.
    push Not at hl hi
    obtain ⟨hp, hc⟩ := outside_of_fits (i.fits u) hl hi
    rw [hp, hc] at holds
    cases holds.2.2

/-- If a worker stands in a call on the lock, some worker can take a step: that one, or the one that
holds the lock inside. -/
theorem InOrder.exists_of_inside (i : InOrder o s) (hp : (s.workers t).phase = .inside n g) :
  ∃ u e s', Step o s u e s'
  := by
  by_cases he : ∃ c, s.globals.phase t = .entering c
  · obtain ⟨c, hc⟩ := he
    cases hu : s.globals.holder with
    | some u => exact ⟨u, i.exists_of_holder hu⟩
    | none =>
        have fits := i.fits t
        rw [hp, hc] at fits
        obtain ⟨_, stands, _⟩ := fits
        obtain rfl := Lookup.Stands.eq_acquire stands
        have free := i.consistent.free_iff.mpr hu
        have enters := RecursiveState.Step.enter hc (.atOnce {} 0 ⟨"", "", 0, 0⟩ free)
        exact ⟨t, _, _, .go hp (by rw [hc]; nofun) enters⟩
  · push Not at he
    exact ⟨t, i.exists_go hp he⟩

/-- If a worker waits for the others, some worker can take a step: that one, or one that is awaited. -/
theorem InOrder.exists_of_gathered (i : InOrder o s) (hp : (s.workers t).phase = .gathered) :
  ∃ u e s', Step o s u e s'
  := by
  by_cases ha : s.arrived = o.barrier
  · exact ⟨t, _, _, .pass hp ha⟩
  · have awaited : ∑ u ∈ crew o, (s.workers u).awaited ≠ 0 := by
      have total := i.barrier
      omega
    obtain ⟨u, _, hu⟩ := Finset.exists_ne_zero_of_sum_ne_zero awaited
    rw [Worker.awaited, ne_eq, ite_eq_right_iff, Classical.not_imp] at hu
    exact ⟨u, _, _, .arrive hu.1⟩

/-- A run goes on, unless every worker has printed all its lines. -/
theorem InOrder.exists_step (i : InOrder o s)
    (h : ¬ ((s.workers t).phase = .ready ∧ (s.workers t).todo = 0)) :
  ∃ u e s', Step o s u e s'
  := by
  cases ha : (s.workers t).act o.depth s.desk with
  | some x => exact ⟨t, _, _, .act ha⟩
  | none =>
      obtain hp | hp | ⟨n, g, hp⟩ | ⟨n, g, hp⟩ | hp | hp := act_eq_none ha
      · exact ⟨t, _, _, .arrive hp⟩
      · apply i.exists_of_gathered hp
      · exact ⟨t, i.exists_enter hp⟩
      · apply i.exists_of_inside hp
      · have fits := i.fits t
        rw [hp] at fits
        cases fits
      · cases h hp

/-! ### Ends -/

/-- No worker can take a step. -/
def Ended (o : Options) (s : Crew) : Prop :=
  ∀ t e s', ¬ Step o s t e s'

/-- At the end every worker has printed all its lines. -/
theorem InOrder.ready (i : InOrder o s) (ended : Ended o s) (t : ThreadId) :
  (s.workers t).phase = .ready ∧ (s.workers t).todo = 0
  := by
  by_contra h
  obtain ⟨u, e, s', k⟩ := i.exists_step h
  apply ended u e s' k

/-- At the end no call waits. -/
theorem InOrder.stack_eq_nil (i : InOrder o s) (ended : Ended o s) (t : ThreadId) :
  (s.workers t).stack = []
  := by
  have fits := i.fits t
  rw [(i.ready ended t).1] at fits
  exact fits.1

/-- At the end the object has its own reference. -/
theorem InOrder.count_of_ended (i : InOrder o s) (ended : Ended o s) :
  s.desk.object.count = 1
  := by
  have none : ∑ t ∈ crew o, (s.workers t).held = 0 := by
    apply Finset.sum_eq_zero
    intro t _
    rw [Worker.held, (i.ready ended t).1, i.stack_eq_nil ended t]
    rfl
  apply Int64.toInt_inj.mp
  rw [i.count, none]
  rfl

/-- At the end nobody has the lock. -/
theorem InOrder.lock_of_ended (i : InOrder o s) (ended : Ended o s) :
  s.globals.lock.lock.word = .free ∧ s.globals.lock.owner = none ∧ s.globals.lock.depth = 0
  := by
  have vacant : s.globals.holder = none := by
    by_contra hu
    obtain ⟨u, hu⟩ := Option.ne_none_iff_exists'.mp hu
    obtain ⟨e, s', k⟩ := i.exists_of_holder hu
    apply ended u e s' k
  exact ⟨i.consistent.free_iff.mpr vacant, i.consistent.vacant vacant⟩

/-- At the end there is a line for every worker. -/
theorem InOrder.stdout_of_ended (i : InOrder o s) (ended : Ended o s) :
  s.desk.stdout = lines o.workers.toNat (number o.depth.toNat)
  := by
  obtain ⟨k, hk, total⟩ := i.printed
  have none : ∑ t ∈ crew o, (s.workers t).left = 0 := by
    apply Finset.sum_eq_zero
    intro t _
    obtain ⟨hp, htodo⟩ := i.ready ended t
    rw [Worker.left, hp, htodo]
    rfl
  rw [none, Nat.add_zero] at total
  rw [hk, total]

/-- At the end no worker is in a call. -/
theorem InOrder.calls_of_ended (i : InOrder o s) (ended : Ended o s) :
  (s.workers t).calls n = 0
  := by
  rw [Worker.calls, (i.ready ended t).1, i.stack_eq_nil ended t]
  rfl

/-- Every run can be led to an end. -/
theorem exists_ended {h : History WorkerEvent} {s : Crew} (r : (system o).Run h s)
    (room : HasRoom o) (hF : number o.depth.toNat < UInt64.size) :
  ∃ h' s', (system o).Path s h' s' ∧ Ended o s'
  := by
  by_cases ended : Ended o s
  · exact ⟨[], s, .refl, ended⟩
  · rw [Ended] at ended
    push Not at ended
    obtain ⟨t, e, s', k⟩ := ended
    have less := (InOrder.of_reachable r.reachable room hF).work_lt room hF k
    obtain ⟨h', s'', p, ended⟩ := exists_ended (r.step k) room hF
    exact ⟨[(t, e)] ++ h', s'', (System.Path.single k).trans p, ended⟩
termination_by work o s

/-- What the driver prints, if it has room for the workers. -/
theorem work?_eq (room : fits o = true) (hF : number o.depth.toNat < UInt64.size) :
  work? o = some (lines o.workers.toNat (number o.depth.toNat), [])
  := by
  rw [work?, line?, if_pos (le_depthLimit hF), room]
  rfl

/-- In every run of the driver, with workers that take turns or not, each call returns its Fibonacci
number. The count of the object is always one more than the calls that have counted a reference and
not counted it away, nobody frees the object, and there is no fault. No run goes on for ever, and
every run can be led to an end. There all calls have returned, the object has one reference, the lock
is nobody's, and there is a line of the number for each worker, as the driver prints them. So what is
printed does not depend on who took which step. -/
theorem completion (r : (system o).Run h s) (room : HasRoom o)
    (hF : number o.depth.toNat < UInt64.size) :
  (∀ x ∈ h, x.2.Sound o.depth)
    ∧ (∀ t n, h.timesBy t (WorkerEvent.isReturn n) + (s.workers t).calls n
        = h.timesBy t (WorkerEvent.isCall n))
    ∧ (∀ t, h.timesBy t WorkerEvent.isDecrement + (s.workers t).held
        = h.timesBy t WorkerEvent.isIncrement)
    ∧ s.desk.object.count.toInt = 1 + ((∑ t ∈ crew o, (s.workers t).held : Nat) : Int)
    ∧ h.length ≤ limit o
    ∧ (∃ h' s', (system o).Path s h' s' ∧ Ended o s')
    ∧ (Ended o s →
      (∀ t n, h.timesBy t (WorkerEvent.isReturn n) = h.timesBy t (WorkerEvent.isCall n))
        ∧ s.desk.object.count = 1
        ∧ (s.globals.lock.lock.word = .free ∧ s.globals.lock.owner = none
          ∧ s.globals.lock.depth = 0)
        ∧ s.desk.stdout = lines o.workers.toNat (number o.depth.toNat)
        ∧ (fits o = true → work? o = some (s.desk.stdout, []))
        ∧ ∀ o' h' s', o'.workers = o.workers → o'.depth = o.depth → HasRoom o' →
          (system o').Run h' s' → Ended o' s' → s'.desk.stdout = s.desk.stdout)
  := by
  have i := InOrder.of_reachable r.reachable room hF
  have calls : ∀ t n, h.timesBy t (WorkerEvent.isReturn n) + (s.workers t).calls n
      = h.timesBy t (WorkerEvent.isCall n) := by
    intro t n
    apply timesBy_balance (calls_fresh o n) _ r t
    intro s t e s' r k
    apply ((InOrder.of_reachable r room hF).seen room hF k).2.1
  have references : ∀ t, h.timesBy t WorkerEvent.isDecrement + (s.workers t).held
      = h.timesBy t WorkerEvent.isIncrement := by
    intro t
    apply timesBy_balance (held_fresh o) _ r t
    intro s t e s' r k
    apply ((InOrder.of_reachable r room hF).seen room hF k).2.2
  have bound : h.length ≤ limit o := Nat.le_of_add_right_le (length_add_work_le r room hF)
  refine ⟨sound_of_run r room hF, calls, references, i.count, bound, exists_ended r room hF, ?_⟩
  intro ended
  have stdout := i.stdout_of_ended ended
  refine ⟨?_, i.count_of_ended ended, i.lock_of_ended ended, stdout, ?_, ?_⟩
  · intro t n
    rw [← calls t n, i.calls_of_ended ended, Nat.add_zero]
  · intro hf
    rw [stdout]
    apply work?_eq hf hF
  · intro o' h' s' hw hd room' r' ended'
    rw [← hd] at hF
    rw [(InOrder.of_reachable r'.reachable room' hF).stdout_of_ended ended', hw, hd, stdout]

/-- Two workers at the same time print the same line. -/
theorem completion_at_once :
  ∃ h s, (system { workers := 2, depth := 2 }).Run h s ∧ Ended { workers := 2, depth := 2 } s
    ∧ s.desk.stdout = "2\n2\n"
  := by
  have hF : number (2 : UInt32).toNat < UInt64.size := by decide
  have room : HasRoom { workers := 2, depth := 2 } := hasRoom_of_fits rfl hF
  have r : (system { workers := 2, depth := 2 }).Run [] _ := ⟨_, ⟨"", .off, rfl⟩, .refl⟩
  obtain ⟨h, s, p, ended⟩ := exists_ended r room hF
  obtain ⟨_, _, _, _, _, _, last⟩ := completion (r.trans p) room hF
  obtain ⟨_, _, _, stdout, _⟩ := last ended
  exact ⟨_, s, r.trans p, ended, stdout⟩

end Crew

end SyncLayer.Fib
