import SyncLayer.Proofs.Fib.Workers
import Mathlib.Algebra.Ring.Nat

/-!
# How long the contention driver runs

A call of the function takes so many steps of its own, and those of the calls that it makes. What is
left of them for a worker can be told from where it stands and from the calls that wait on its stack.
Every step makes it less, whoever takes it. So no run has more steps than all calls of all workers.
-/

namespace SyncLayer.Fib

variable {depth n m : UInt32} {r a : UInt64} {stack : List Frame} {w w' : Worker} {d d' : Desk}
  {e : WorkerEvent} {p : ClaimPhase} {c : Nat} {g : Lookup} {b : ClaimEvent}

/-! ### The steps that are left -/

/-- The steps of a call of the function but for those of the calls that it makes: four calls on the
lock, and one each to begin, to count a reference, to go on, to count it away and to return. -/
def ownSteps : Nat :=
  4 * (ClaimPhase.rankLimit + 1) + 5

/-- The steps of a call of the function with all calls that it makes. -/
def callSteps (n : UInt32) : Nat :=
  ownSteps * (2 * number n.toNat - 1)

/-- The steps of the calls that a call of the function makes. -/
def calleeSteps (n : UInt32) : Nat :=
  if n < 2 then 0 else callSteps (n - 1) + callSteps (n - 2)

theorem callSteps_eq (n : UInt32) :
  callSteps n = ownSteps + calleeSteps n
  := by
  rw [calleeSteps]
  split
  · rename_i hn
    rw [callSteps, number_of_lt hn]
    rfl
  · rename_i hn
    have sum := number_toNat (UInt32.not_lt.mp hn)
    have one := number_pos (n - 1).toNat
    have two := number_pos (n - 2).toNat
    rw [callSteps, callSteps, callSteps, ← Nat.mul_add, ← sum]
    nth_rewrite 2 [← Nat.mul_one ownSteps]
    rw [← Nat.mul_add]
    congr 1
    omega

/-- The calls on the lock that a lookup makes yet. -/
def Lookup.rest : Lookup → Nat
  | acquire => 4
  | reacquire => 3
  | release => 2
  | releaseLast => 1

/-- The steps that a worker takes at most before it begins another line or returns from its call to
one that waits, by where it stands. -/
def WorkerPhase.work (p : ClaimPhase) : WorkerPhase → Nat
  | arriving => 2
  | gathered => 1
  | ready => 0
  | calling n => callSteps n + 1
  | looking n g => g.rest * (ClaimPhase.rankLimit + 1) + calleeSteps n + 5
  | inside n g => p.rank + (g.rest - 1) * (ClaimPhase.rankLimit + 1) + calleeSteps n + 5
  | counting n => calleeSteps n + 5
  | branching n => calleeSteps n + 4
  | dropping _ _ => 3
  | returning _ _ => 2
  | printing _ | freeing _ => 1
  | failed => 0

/-- The steps of a call that waits behind the return for which it does. -/
def Frame.work : Frame → Nat
  | first n => callSteps (n - 2) + 2
  | second _ _ => 2

/-- The steps that a worker takes at most. -/
def Worker.work (depth : UInt32) (p : ClaimPhase) (w : Worker) : Nat :=
  w.phase.work p + (w.stack.map Frame.work).sum + w.todo * (callSteps depth + 2)

/-- Every turn is one of these steps. -/
theorem Turn.work (k : Turn depth d w e d' w') :
  w'.work depth p < w.work depth p
  := by
  cases k with
  | start hp hk =>
      simp only [Worker.work, hp, hk, WorkerPhase.work, Nat.add_mul]
      omega
  | @call n hp =>
      have eq := callSteps_eq n
      simp only [Worker.work, hp, WorkerPhase.work, Lookup.rest, ownSteps] at eq ⊢
      omega
  | increment hp _ =>
      simp only [Worker.work, hp, WorkerPhase.work]
      omega
  | @leaf n hp hn =>
      simp only [Worker.work, hp, WorkerPhase.work]
      omega
  | @fork n hp hn =>
      have eq : calleeSteps n = callSteps (n - 1) + callSteps (n - 2) :=
        if_neg (UInt32.not_lt.mpr hn)
      simp only [Worker.work, hp, WorkerPhase.work, eq, List.map_cons, List.sum_cons, Frame.work]
      omega
  | decrement hp _ =>
      simp only [Worker.work, hp, WorkerPhase.work]
      omega
  | again hp hs =>
      simp only [Worker.work, hp, hs, WorkerPhase.work, List.map_cons, List.sum_cons, Frame.work]
      omega
  | add hp hs _ =>
      simp only [Worker.work, hp, hs, WorkerPhase.work, List.map_cons, List.sum_cons, Frame.work]
      omega
  | finish hp hs =>
      simp only [Worker.work, hp, hs, WorkerPhase.work]
      omega
  | print hp =>
      simp only [Worker.work, hp, WorkerPhase.work]
      omega

/-- A step of a call on the lock is one of these steps. -/
theorem work_behind {q : ClaimPhase} (hr : q.rank < p.rank) :
  (Worker.behind n g b q).work q < (WorkerPhase.inside n g).work p
  := by
  rw [Worker.behind.eq_def]
  split
  · simp only [WorkerPhase.work]
    omega
  · cases g with
    | releaseLast =>
        simp only [Lookup.next?, WorkerPhase.work, Lookup.rest]
        omega
    | _ =>
        simp only [Lookup.next?, WorkerPhase.work, Lookup.rest]
        omega
  · simp only [WorkerPhase.work]
    omega

namespace Crew

variable {o : Options} {s s' : Crew} {t u : ThreadId} {h : History WorkerEvent}

/-- The steps that the workers take at most. -/
def work (o : Options) (s : Crew) : Nat :=
  ∑ t ∈ crew o, (s.workers t).work o.depth (s.globals.phase t)

/-- The steps of all workers. -/
def limit (o : Options) : Nat :=
  o.workers.toNat * (callSteps o.depth + 4)

/-- What is left for all is less if it is for one worker and the others stand where they did. -/
theorem work_put {l : RecursiveState} {d : Desk} {k : Nat} {w : Worker} (ht : t ∈ crew o)
    (others : ∀ u, u ≠ t → l.phase u = s.globals.phase u)
    (less : w.work o.depth (l.phase t) < (s.workers t).work o.depth (s.globals.phase t)) :
  work o ({ s with globals := l, desk := d, arrived := k }.put t w) < work o s
  := by
  have change := sum_change (T := crew o)
    (f := fun u => (s.workers u).work o.depth (s.globals.phase u))
    (g := fun u => ((Crew.put { s with globals := l, desk := d, arrived := k } t w).workers u).work
      o.depth (l.phase u)) ht
    (fun u hu => by rw [workers_put_of_ne hu, others u hu])
  rw [workers_put_self] at change
  change ∑ u ∈ crew o, _ < ∑ u ∈ crew o, _
  simp only [Crew.put] at change ⊢
  omega

/-- After every step less is left. -/
theorem InOrder.work_lt (i : InOrder o s) (room : HasRoom o)
    (hF : number o.depth.toNat < UInt64.size) (k : Step o s t e s') :
  work o s' < work o s
  := by
  have ht := k.mem_crew i
  cases k with
  | arrive hp =>
      apply work_put ht (fun _ _ => rfl)
      simp only [Worker.work, hp, WorkerPhase.work]
      omega
  | pass hp _ =>
      apply work_put ht (fun _ _ => rfl)
      simp only [Worker.work, hp, WorkerPhase.work]
      omega
  | act h =>
      apply work_put ht (fun _ _ => rfl)
      apply (i.turn room hF ht h).work
  | @enter n g l hp k =>
      apply work_put ht (fun u hu => k.phase_of_ne hu)
      have le := (l.phase t).rank_le
      simp only [Worker.work, hp, WorkerPhase.work]
      cases g <;> simp only [Lookup.rest] <;> omega
  | @go n g e l hp ho k =>
      apply work_put ht (fun u hu => k.phase_of_ne hu)
      have lt := work_behind (n := n) (g := g) (b := e) (k.rank_lt ho)
      simp only [Worker.work, hp]
      omega

/-- A run has no more steps than the workers take. -/
theorem length_add_work_le (r : (system o).Run h s) (room : HasRoom o)
    (hF : number o.depth.toNat < UInt64.size) :
  h.length + work o s ≤ limit o
  := by
  apply r.induct (I := fun h s => h.length + work o s ≤ limit o)
  · rintro _ ⟨description, stats, rfl⟩
    change 0 + ∑ t ∈ crew o, (Worker.fresh o t).work o.depth .outside ≤ _
    rw [sum_fresh, limit, Nat.zero_add]
    split
    · simp only [Worker.work, WorkerPhase.work, List.map_nil, List.sum_nil, Nat.zero_add]
      apply Nat.mul_le_mul_left
      omega
    · simp only [Worker.work, WorkerPhase.work, List.map_nil, List.sum_nil]
      apply Nat.mul_le_mul_left
      omega
  · intro h s t e s' r ih k
    have lt := (InOrder.of_reachable r.reachable room hF).work_lt room hF k
    rw [List.length_append, List.length_singleton]
    omega

end Crew

end SyncLayer.Fib
