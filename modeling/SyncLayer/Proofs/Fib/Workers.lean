import SyncLayer.Fib.Worker
import SyncLayer.Proofs.Lock.Calls
import SyncLayer.Proofs.RefCount.Sharing
import Mathlib.Algebra.Group.Action.Defs
import Mathlib.Algebra.Order.BigOperators.Group.Finset

/-!
# Workers that share a lock and an object

The workers of the contention driver take their steps in any order. What a worker waits for, and
what it has computed, stands on its stack, so that every call returns its Fibonacci number. The count
of the object that they share is the number of the calls that hold a reference, and one more. So it
never becomes zero, and nobody frees the object.
-/

namespace SyncLayer.Fib

/-! ### Numbers -/

theorem number_pos (n : Nat) :
  0 < number n
  := by
  induction n using Nat.twoStepInduction with
  | zero => decide
  | one => decide
  | more n h _ =>
      rw [number_add_two]
      omega

theorem number_le_succ (n : Nat) :
  number n ≤ number (n + 1)
  := by
  cases n with
  | zero => decide
  | succ n =>
      rw [number_add_two]
      omega

theorem number_mono {m n : Nat} (h : m ≤ n) :
  number m ≤ number n
  := monotone_nat_of_le_succ number_le_succ h

/-- A word holds no numbers but those of these depths. -/
theorem le_depthLimit {n : Nat} (h : number n < UInt64.size) :
  n ≤ depthLimit
  := by
  by_contra hn
  have le : number (depthLimit + 1) ≤ number n := number_mono (Nat.lt_of_not_le hn)
  apply Nat.not_le_of_lt h
  apply number_depthLimit_succ.trans le

variable {depth n m : UInt32} {r a : UInt64} {stack : List Frame} {w w' : Worker} {d d' : Desk}
  {e : WorkerEvent} {p : ClaimPhase} {c : Nat} {g : Lookup}

theorem toNat_sub_one (h : 2 ≤ n) :
  (n - 1).toNat + 1 = n.toNat
  := by
  have le : 2 ≤ n.toNat := UInt32.le_iff_toNat_le.mp h
  have sub : (n - 1).toNat = n.toNat - 1 :=
    UInt32.toNat_sub_of_le n 1 (UInt32.le_iff_toNat_le.mpr (Nat.le_of_succ_le le))
  omega

theorem toNat_sub_two (h : 2 ≤ n) :
  (n - 2).toNat + 2 = n.toNat
  := by
  have le : 2 ≤ n.toNat := UInt32.le_iff_toNat_le.mp h
  have sub : (n - 2).toNat = n.toNat - 2 := UInt32.toNat_sub_of_le n 2 h
  omega

/-- The number of an argument that makes two calls is the sum of theirs. -/
theorem number_toNat (h : 2 ≤ n) :
  number (n - 1).toNat + number (n - 2).toNat = number n.toNat
  := by
  have one := toNat_sub_one h
  have two := toNat_sub_two h
  rw [← two, number_add_two, show (n - 1).toNat = (n - 2).toNat + 1 by omega, Nat.add_comm]

/-- The number of an argument that makes no calls is one. -/
theorem number_of_lt (h : n < 2) :
  number n.toNat = 1
  := by
  have lt : n.toNat < 2 := UInt32.lt_iff_toNat_lt.mp h
  obtain h | h : n.toNat = 0 ∨ n.toNat = 1 := by omega
  · rw [h]
    rfl
  · rw [h]
    rfl

/-! ### Stacks -/

/-- The calls on a stack, from the outermost one of the given depth, wait for a call of an
argument. -/
inductive Awaits (depth : UInt32) : UInt32 → List Frame → Prop
  | nil : Awaits depth depth []
  | first {n : UInt32} {stack : List Frame} (hn : 2 ≤ n) (h : Awaits depth n stack) :
      Awaits depth (n - 1) (.first n :: stack)
  | second {n : UInt32} {a : UInt64} {stack : List Frame} (hn : 2 ≤ n)
      (ha : a.toNat = number (n - 1).toNat) (h : Awaits depth n stack) :
      Awaits depth (n - 2) (.second n a :: stack)

/-- Every call that waits has a greater argument than the one it waits for. -/
theorem Awaits.add_length_le (h : Awaits depth n stack) :
  n.toNat + stack.length ≤ depth.toNat
  := by
  induction h with
  | nil => simp
  | first hn _ ih =>
      have sub := toNat_sub_one hn
      rw [List.length_cons]
      omega
  | second hn _ _ ih =>
      have sub := toNat_sub_two hn
      rw [List.length_cons]
      omega

/-! ### What fits where a worker stands -/

/-- The acquisitions that a worker has not released before a call on the lock. -/
def Lookup.held : Lookup → Nat
  | acquire => 0
  | reacquire => 1
  | release => 2
  | releaseLast => 1

/-- A thread stands in a call on the lock. -/
def Lookup.Stands : Lookup → ClaimPhase → Prop
  | acquire, p | reacquire, p => p.IsAcquiring
  | release, p | releaseLast, p => p.IsReleasing

theorem Lookup.Stands.ne_outside (h : g.Stands p) :
  p ≠ .outside
  := by
  cases g with
  | acquire | reacquire => apply ClaimPhase.ne_outside_of_isAcquiring h
  | release | releaseLast => apply ClaimPhase.ne_outside_of_isReleasing h

/-- A call on the lock that is about to acquire the lock inside waits for it. -/
theorem Lookup.Stands.eq_acquire {q : Claim} (h : g.Stands (.entering q)) :
  q = .acquire
  := by
  cases g with
  | acquire | reacquire => apply h
  | release | releaseLast => cases h

/-- How where a worker stands fits its stack, where it stands with the lock, and its acquisitions of
the lock that it has not released. What it returns is its Fibonacci number, and it is not about to
free the object. -/
def WorkerPhase.Fits (depth : UInt32) (p : ClaimPhase) (c : Nat) (stack : List Frame) :
    WorkerPhase → Prop
  | arriving | gathered | ready => stack = [] ∧ p = .outside ∧ c = 0
  | calling n | counting n | branching n => Awaits depth n stack ∧ p = .outside ∧ c = 0
  | looking n g => Awaits depth n stack ∧ p = .outside ∧ c = g.held
  | inside n g => Awaits depth n stack ∧ g.Stands p ∧ c = g.held
  | dropping n r | returning n r =>
    Awaits depth n stack ∧ p = .outside ∧ c = 0 ∧ r.toNat = number n.toNat
  | printing r => stack = [] ∧ p = .outside ∧ c = 0 ∧ r.toNat = number depth.toNat
  | freeing _ | failed => False

/-- The call in which a worker stands, if it holds a reference. -/
def WorkerPhase.held : WorkerPhase → Nat
  | branching _ | dropping _ _ => 1
  | _ => 0

/-- The number of the calls of a worker that hold a reference: those that wait do. -/
def Worker.held (w : Worker) : Nat :=
  w.phase.held + w.stack.length

/-- Where a worker fits, no more calls wait than the depth allows. -/
theorem length_le_of_fits {q : WorkerPhase} (fits : q.Fits depth p c stack) :
  stack.length ≤ depth.toNat
  := by
  cases q with
  | arriving | gathered | ready | printing _ =>
      rw [fits.1]
      simp
  | freeing _ | failed => cases fits
  | calling n | looking n _ | inside n _ | counting n | branching n | dropping n _ | returning n _ =>
      have le := fits.1.add_length_le
      omega

/-- A worker that neither stands in a call on the lock nor is about to start one has acquired
nothing. -/
theorem outside_of_fits {q : WorkerPhase} (fits : q.Fits depth p c stack)
    (hl : ∀ n g, q ≠ .looking n g) (hi : ∀ n g, q ≠ .inside n g) :
  p = .outside ∧ c = 0
  := by
  cases q with
  | arriving | gathered | ready | calling _ | counting _ | branching _ => exact fits.2
  | dropping _ _ | returning _ _ | printing _ => exact ⟨fits.2.1, fits.2.2.1⟩
  | looking n g => cases hl n g rfl
  | inside n g => cases hi n g rfl
  | freeing _ | failed => cases fits

theorem WorkerPhase.held_le (q : WorkerPhase) :
  q.held ≤ 1
  := by
  cases q <;> simp [WorkerPhase.held]

/-! ### What a worker does by itself -/

/-- What a worker does by itself, as long as the object has a reference of its own and the count can
hold one more. -/
inductive Turn (depth : UInt32) (d : Desk) (w : Worker) : WorkerEvent → Desk → Worker → Prop
  | start {k : Nat} (hp : w.phase = .ready) (hk : w.todo = k + 1) :
      Turn depth d w .begins d { w with phase := .calling depth, todo := k }
  | call {n : UInt32} (hp : w.phase = .calling n) :
      Turn depth d w (.calls n) d { w with phase := .looking n .acquire }
  | increment {n : UInt32} {i : Int64} (hp : w.phase = .counting n)
      (hi : i.toInt = d.object.count.toInt + 1) :
      Turn depth d w .increments { d with object := { count := i } }
        { w with phase := .branching n }
  | leaf {n : UInt32} (hp : w.phase = .branching n) (hn : n < 2) :
      Turn depth d w .branches d { w with phase := .dropping n 1 }
  | fork {n : UInt32} (hp : w.phase = .branching n) (hn : 2 ≤ n) :
      Turn depth d w .branches d
        { w with phase := .calling (n - 1), stack := .first n :: w.stack }
  | decrement {n : UInt32} {r : UInt64} {i : Int64} (hp : w.phase = .dropping n r)
      (hi : i.toInt + 1 = d.object.count.toInt) :
      Turn depth d w .decrements { d with object := { count := i } }
        { w with phase := .returning n r }
  | again {n m : UInt32} {r : UInt64} {stack : List Frame} (hp : w.phase = .returning n r)
      (hs : w.stack = .first m :: stack) :
      Turn depth d w (.returns n r) d
        { w with phase := .calling (m - 2), stack := .second m r :: stack }
  | add {n m : UInt32} {r a : UInt64} {stack : List Frame} (hp : w.phase = .returning n r)
      (hs : w.stack = .second m a :: stack) (ha : (a + r).toNat = a.toNat + r.toNat) :
      Turn depth d w (.returns n r) d { w with phase := .dropping m (a + r), stack }
  | finish {n : UInt32} {r : UInt64} (hp : w.phase = .returning n r) (hs : w.stack = []) :
      Turn depth d w (.returns n r) d { w with phase := .printing r }
  | print {r : UInt64} (hp : w.phase = .printing r) :
      Turn depth d w (.prints r) { d with stdout := d.stdout ++ line r.toNat }
        { w with phase := .ready }

/-- What a worker returns to a call that waits for its second call can be added to what that has. -/
theorem add_lt_of_awaits (hF : number depth.toNat < UInt64.size)
    (h : Awaits depth n (.second m a :: stack)) (hr : r.toNat = number n.toNat) :
  a.toNat + r.toNat < UInt64.size
  := by
  cases h with
  | second hm ha h =>
      have le : m.toNat ≤ depth.toNat := by
        have := h.add_length_le
        omega
      rw [ha, hr, number_toNat hm]
      apply Nat.lt_of_le_of_lt (number_mono le) hF

/-- A worker that fits where it stands takes one of these turns. -/
theorem Turn.of_act (h : w.act depth d = some (e, d', w'))
    (fits : w.phase.Fits depth p c w.stack) (hF : number depth.toNat < UInt64.size)
    (low : (w.held : Int) < d.object.count.toInt)
    (high : w.phase.held = 0 → d.object.count < Int64.maxValue) :
  Turn depth d w e d' w'
  := by
  rw [Worker.act] at h
  cases hp : w.phase with
  | ready =>
      simp only [hp] at h
      split at h
      · cases h
      · rename_i k hk
        cases h
        apply start hp hk
  | calling n =>
      simp only [hp] at h
      cases h
      apply call hp
  | counting n =>
      simp only [hp, RefCount.increment_on (high (by rw [hp]; rfl))] at h
      cases h
      apply increment hp (RefCount.toInt_succ (high (by rw [hp]; rfl)))
  | branching n =>
      simp only [hp] at h
      split at h
      · rename_i hn
        cases h
        apply leaf hp hn
      · rename_i hn
        cases h
        apply fork hp (UInt32.not_lt.mp hn)
  | dropping n r =>
      have more : 1 < d.object.count.toInt := by
        rw [Worker.held, hp, WorkerPhase.held] at low
        omega
      have pos : 0 < d.object.count := by
        rw [Int64.lt_iff_toInt_lt, Int64.toInt_zero]
        omega
      have pred := RefCount.toInt_pred pos
      have ne : d.object.count - 1 ≠ 0 := by
        intro hz
        rw [hz, Int64.toInt_zero] at pred
        omega
      simp only [hp, RefCount.decrement_on pos, if_neg ne] at h
      cases h
      apply decrement hp
      omega
  | freeing n =>
      rw [hp] at fits
      cases fits
  | returning n r =>
      simp only [hp] at h
      rw [hp] at fits
      split at h
      · rename_i hs
        cases h
        apply finish hp hs
      · rename_i m stack hs
        cases h
        apply again hp hs
      · rename_i m a stack hs
        rw [hs] at fits
        have lt := add_lt_of_awaits hF fits.1 fits.2.2.2
        rw [if_pos lt] at h
        cases h
        apply add hp hs
        rw [UInt64.toNat_add, Nat.mod_eq_of_lt lt]
  | printing r =>
      simp only [hp] at h
      cases h
      apply print hp
  | arriving | gathered | looking _ _ | inside _ _ | failed =>
      simp only [hp] at h
      cases h

/-- A turn leads from where a worker fits to where it fits. -/
theorem Turn.fits (k : Turn depth d w e d' w') (fits : w.phase.Fits depth p c w.stack) :
  w'.phase.Fits depth p c w'.stack
  := by
  cases k with
  | start hp _ =>
      rw [hp] at fits
      obtain ⟨hs, outside⟩ := fits
      change Awaits depth depth w.stack ∧ _
      rw [hs]
      exact ⟨.nil, outside⟩
  | call hp =>
      rw [hp] at fits
      exact fits
  | increment hp _ =>
      rw [hp] at fits
      exact fits
  | leaf hp hn =>
      rw [hp] at fits
      obtain ⟨h, outside, hc⟩ := fits
      exact ⟨h, outside, hc, (number_of_lt hn).symm⟩
  | fork hp hn =>
      rw [hp] at fits
      obtain ⟨h, outside⟩ := fits
      exact ⟨.first hn h, outside⟩
  | decrement hp _ =>
      rw [hp] at fits
      exact fits
  | again hp hs =>
      rw [hp, hs] at fits
      obtain ⟨h, outside, hc, hr⟩ := fits
      cases h with
      | first hm h => exact ⟨.second hm hr h, outside, hc⟩
  | add hp hs ha =>
      rw [hp, hs] at fits
      obtain ⟨h, outside, hc, hr⟩ := fits
      cases h with
      | second hm hv h =>
          refine ⟨h, outside, hc, ?_⟩
          rw [ha, hv, hr, number_toNat hm]
  | finish hp hs =>
      rw [hp, hs] at fits
      obtain ⟨h, outside, hc, hr⟩ := fits
      cases h with
      | nil => exact ⟨hs, outside, hc, hr⟩
  | print hp =>
      rw [hp] at fits
      obtain ⟨hs, outside, hc, _⟩ := fits
      exact ⟨hs, outside, hc⟩

/-- A turn counts a reference just if a call holds one more. -/
theorem Turn.held (k : Turn depth d w e d' w') :
  d'.object.count.toInt + w.held = d.object.count.toInt + w'.held
  := by
  cases k with
  | start hp _ => simp [Worker.held, WorkerPhase.held, hp]
  | call hp => simp [Worker.held, WorkerPhase.held, hp]
  | increment hp hi =>
      simp [Worker.held, WorkerPhase.held, hp, hi]
      omega
  | leaf hp _ => simp [Worker.held, WorkerPhase.held, hp]
  | fork hp _ =>
      simp [Worker.held, WorkerPhase.held, hp]
      omega
  | decrement hp hi =>
      simp [Worker.held, WorkerPhase.held, hp]
      omega
  | again hp hs => simp [Worker.held, WorkerPhase.held, hp, hs]
  | add hp hs _ =>
      simp [Worker.held, WorkerPhase.held, hp, hs]
      omega
  | finish hp hs => simp [Worker.held, WorkerPhase.held, hp, hs]
  | print hp => simp [Worker.held, WorkerPhase.held, hp]

/-! ### Lines -/

/-- A worker is about to print a line, or computes its number. -/
def WorkerPhase.current : WorkerPhase → Nat
  | arriving | gathered | ready => 0
  | _ => 1

/-- The lines that a worker has not printed. -/
def Worker.left (w : Worker) : Nat :=
  w.phase.current + w.todo

/-- A worker is awaited until it says that it is there. -/
def Worker.awaited (w : Worker) : Nat :=
  if w.phase = .arriving then 1 else 0

/-- So many lines of a number. -/
def lines (k r : Nat) : String :=
  String.join (List.replicate k (line r))

theorem lines_succ (k r : Nat) :
  lines (k + 1) r = lines k r ++ line r
  := by
  rw [lines, List.replicate_succ', String.join_append]
  simp [lines]

/-- A turn prints a line of the Fibonacci number if one less is left. -/
theorem Turn.left (k : Turn depth d w e d' w') (fits : w.phase.Fits depth p c w.stack) :
  w'.left = w.left ∧ d'.stdout = d.stdout
    ∨ w'.left + 1 = w.left ∧ d'.stdout = d.stdout ++ line (number depth.toNat)
  := by
  cases k with
  | start hp hk =>
      left
      simp [Worker.left, WorkerPhase.current, hp, hk]
      omega
  | print hp =>
      right
      rw [hp] at fits
      rw [fits.2.2.2]
      simp [Worker.left, WorkerPhase.current, hp]
      omega
  | call hp => simp [Worker.left, WorkerPhase.current, hp]
  | increment hp _ => simp [Worker.left, WorkerPhase.current, hp]
  | leaf hp _ => simp [Worker.left, WorkerPhase.current, hp]
  | fork hp _ => simp [Worker.left, WorkerPhase.current, hp]
  | decrement hp _ => simp [Worker.left, WorkerPhase.current, hp]
  | again hp _ => simp [Worker.left, WorkerPhase.current, hp]
  | add hp _ _ => simp [Worker.left, WorkerPhase.current, hp]
  | finish hp _ => simp [Worker.left, WorkerPhase.current, hp]

/-- A worker that does something by itself has arrived. -/
theorem Turn.awaited (k : Turn depth d w e d' w') :
  w.awaited = 0 ∧ w'.awaited = 0
  := by
  cases k with
  | start hp _ => simp [Worker.awaited, hp]
  | call hp => simp [Worker.awaited, hp]
  | increment hp _ => simp [Worker.awaited, hp]
  | leaf hp _ => simp [Worker.awaited, hp]
  | fork hp _ => simp [Worker.awaited, hp]
  | decrement hp _ => simp [Worker.awaited, hp]
  | again hp _ => simp [Worker.awaited, hp]
  | add hp _ _ => simp [Worker.awaited, hp]
  | finish hp _ => simp [Worker.awaited, hp]
  | print hp => simp [Worker.awaited, hp]

/-! ### Calls on the lock -/

section

variable {b : ClaimEvent}

/-- Where a worker stands behind the end of a call on the lock. -/
theorem behind_outside (hb : ∀ f, b ≠ .faults f) :
  Worker.behind n g b .outside
    = match g.next? with
      | some g => .looking n g
      | none => .counting n
  := by
  cases b with
  | faults f => cases hb f rfl
  | _ => rfl

/-- Where a worker stands behind another step of a call on the lock. -/
theorem behind_of_ne (hb : ∀ f, b ≠ .faults f) (hp : p ≠ .outside) :
  Worker.behind n g b p = .inside n g
  := by
  rw [Worker.behind]
  · exact hb
  · intro h
    exact hp h

/-- Behind a step of a call on the lock a worker holds no reference for its call, has its line before
it, and has arrived. -/
theorem behind_aside :
  (Worker.behind n g b p).held = 0 ∧ (Worker.behind n g b p).current = 1
    ∧ Worker.behind n g b p ≠ .arriving
  := by
  rw [Worker.behind.eq_def]
  split
  · exact ⟨rfl, rfl, nofun⟩
  · cases g.next?
    · exact ⟨rfl, rfl, nofun⟩
    · exact ⟨rfl, rfl, nofun⟩
  · exact ⟨rfl, rfl, nofun⟩

end

/-! ### The system -/

/-- The threads that work. -/
def crew (o : Options) : Finset ThreadId :=
  Finset.range o.threads

/-- Workers, the lock and the other things that they share, and how many of them have said that they
are there. -/
structure Crew where
  globals : RecursiveState
  desk : Desk := {}
  arrived : Nat := 0
  workers : ThreadId → Worker

namespace Crew

/-- The state in which a worker is another one. -/
def put (s : Crew) (t : ThreadId) (w : Worker) : Crew :=
  { s with workers := Function.update s.workers t w }

/-- The steps of a worker: it says that it is there, goes on once all are, does something by itself,
starts a call on the lock, or takes a step of that. -/
inductive Step (o : Options) : Crew → ThreadId → WorkerEvent → Crew → Prop
  | arrive {s : Crew} {t : ThreadId} (hp : (s.workers t).phase = .arriving) :
      Step o s t .arrives
        ({ s with arrived := s.arrived + 1 }.put t { s.workers t with phase := .gathered })
  | pass {s : Crew} {t : ThreadId} (hp : (s.workers t).phase = .gathered)
      (ha : s.arrived = o.barrier) :
      Step o s t .passes (s.put t { s.workers t with phase := .ready })
  | act {s : Crew} {t : ThreadId} {e : WorkerEvent} {d : Desk} {w : Worker}
      (h : (s.workers t).act o.depth s.desk = some (e, d, w)) :
      Step o s t e ({ s with desk := d }.put t w)
  | enter {s : Crew} {t : ThreadId} {n : UInt32} {g : Lookup} {l : RecursiveState}
      (hp : (s.workers t).phase = .looking n g) (k : RecursiveState.Step s.globals t g.start l) :
      Step o s t (.locks g.start)
        ({ s with globals := l }.put t { s.workers t with phase := .inside n g })
  | go {s : Crew} {t : ThreadId} {n : UInt32} {g : Lookup} {e : ClaimEvent} {l : RecursiveState}
      (hp : (s.workers t).phase = .inside n g) (ho : s.globals.phase t ≠ .outside)
      (k : RecursiveState.Step s.globals t e l) :
      Step o s t (.locks e)
        ({ s with globals := l }.put t
          { s.workers t with phase := Worker.behind n g e (l.phase t) })

/-- The workers before their first steps, with a lock that nobody has acquired. -/
def system (o : Options) : System Crew WorkerEvent where
  Starts s := ∃ description stats,
    s = { globals := { lock := .fresh description stats }, workers := Worker.fresh o }
  Step := Step o

variable {o : Options} {s s' : Crew} {t u : ThreadId} {e : WorkerEvent}

/-- The count can hold a reference of every call that the workers can be in at the same time. Workers
that take turns are in few calls. The calls of other workers need a frame each on their stacks, so that
a memory with addresses of 64 bits has never room for more. -/
def HasRoom (o : Options) : Prop :=
  o.serial = false → ((o.workers.toNat * (o.depth.toNat + 1) : Nat) : Int) < Int64.maxValue.toInt

/-- What holds of the workers at every time. -/
structure InOrder (o : Options) (s : Crew) : Prop where
  consistent : s.globals.Consistent
  fits : ∀ t, (s.workers t).phase.Fits o.depth (s.globals.phase t) (s.globals.count t)
    (s.workers t).stack
  idle : ∀ t, t ∉ crew o → s.workers t = {}
  count : s.desk.object.count.toInt = 1 + ((∑ t ∈ crew o, (s.workers t).held : Nat) : Int)
  printed : ∃ k, s.desk.stdout = lines k (number o.depth.toNat)
    ∧ k + ∑ t ∈ crew o, (s.workers t).left = o.workers.toNat
  barrier : s.arrived + ∑ t ∈ crew o, (s.workers t).awaited = o.barrier

/-- A thread that takes a step is one of those that work. -/
theorem Step.mem_crew (k : Step o s t e s') (i : InOrder o s) :
  t ∈ crew o
  := by
  by_contra ht
  have idle := i.idle t ht
  cases k with
  | arrive hp =>
      rw [idle] at hp
      cases hp
  | pass hp _ =>
      rw [idle] at hp
      cases hp
  | act h =>
      rw [idle] at h
      cases h
  | enter hp _ =>
      rw [idle] at hp
      cases hp
  | go hp _ _ =>
      rw [idle] at hp
      cases hp

theorem workers_put_self {w : Worker} :
  (s.put t w).workers t = w
  := Function.update_self ..

theorem workers_put_of_ne {w : Worker} (hu : u ≠ t) :
  (s.put t w).workers u = s.workers u
  := Function.update_of_ne hu ..

/-- What the workers have together changes as what one of them has. -/
theorem sum_put {w : Worker} (f : Worker → Nat) (ht : t ∈ crew o) :
  ∑ u ∈ crew o, f ((s.put t w).workers u) + f (s.workers t)
    = ∑ u ∈ crew o, f (s.workers u) + f w
  := by
  have change := sum_change (f := fun u => f (s.workers u)) (g := fun u => f ((s.put t w).workers u))
    ht (fun u hu => by rw [workers_put_of_ne hu])
  rw [workers_put_self] at change
  exact change

/-! ### Room for references -/

/-- There are no more calls at the same time than the count can hold references. -/
theorem HasRoom.threads_lt (room : HasRoom o) (hF : number o.depth.toNat < UInt64.size) :
  ((o.threads * (o.depth.toNat + 1) : Nat) : Int) < Int64.maxValue.toInt
  := by
  have le := le_depthLimit hF
  have max : Int64.maxValue.toInt = 9223372036854775807 := rfl
  cases hs : o.serial with
  | true =>
      rw [Options.threads, if_pos hs]
      rw [depthLimit] at le
      omega
  | false =>
      rw [Options.threads, if_neg (by rw [hs]; decide)]
      apply room hs

/-- The driver has room for so many workers at the same time only if the count has. -/
theorem hasRoom_of_fits (h : fits o = true) (hF : number o.depth.toNat < UInt64.size) :
  HasRoom o
  := by
  intro hs
  have le := le_depthLimit hF
  rw [fits, hs, Bool.false_or, decide_eq_true_iff] at h
  have prod : o.workers.toNat * (o.depth.toNat + 1) ≤ workerLimit * (depthLimit + 1) :=
    Nat.mul_le_mul h (Nat.succ_le_succ le)
  have max : Int64.maxValue.toInt = 9223372036854775807 := rfl
  rw [workerLimit, depthLimit] at prod
  omega

/-- The object has a reference of its own besides those of a worker. -/
theorem InOrder.held_lt (i : InOrder o s) (ht : t ∈ crew o) :
  ((s.workers t).held : Int) < s.desk.object.count.toInt
  := by
  have le := Finset.single_le_sum (f := fun u => (s.workers u).held) (fun _ _ => Nat.zero_le _) ht
  rw [i.count]
  omega

/-- The count can hold one more reference for a call that has none. -/
theorem InOrder.count_lt (i : InOrder o s) (room : HasRoom o)
    (hF : number o.depth.toNat < UInt64.size) (ht : t ∈ crew o)
    (hp : (s.workers t).phase.held = 0) :
  s.desk.object.count < Int64.maxValue
  := by
  have le : ∀ u ∈ crew o, (s.workers u).held ≤ o.depth.toNat + 1 := by
    intro u _
    have := length_le_of_fits (i.fits u)
    have := (s.workers u).phase.held_le
    rw [Worker.held]
    omega
  have lt : (s.workers t).held < o.depth.toNat + 1 := by
    have := length_le_of_fits (i.fits t)
    rw [Worker.held, hp]
    omega
  have sum := Finset.sum_lt_sum le ⟨t, ht, lt⟩
  rw [Finset.sum_const, crew, Finset.card_range, smul_eq_mul] at sum
  have lt := room.threads_lt hF
  rw [Int64.lt_iff_toInt_lt, i.count]
  rw [crew]
  omega

/-- What a worker does by itself is one of its turns. -/
theorem InOrder.turn {d : Desk} {w : Worker} (i : InOrder o s) (room : HasRoom o)
    (hF : number o.depth.toNat < UInt64.size) (ht : t ∈ crew o)
    (h : (s.workers t).act o.depth s.desk = some (e, d, w)) :
  Turn o.depth s.desk (s.workers t) e d w
  := .of_act h (i.fits t) hF (i.held_lt ht) (i.count_lt room hF ht)

/-! ### Steps keep the workers in order -/

/-- A worker may become another one that fits, with what it does to the count, the output and the
barrier. -/
theorem InOrder.put {l : RecursiveState} {d : Desk} {k : Nat} {w : Worker} (i : InOrder o s)
    (ht : t ∈ crew o) (consistent : l.Consistent)
    (others : ∀ u, u ≠ t → l.phase u = s.globals.phase u ∧ l.count u = s.globals.count u)
    (fits : w.phase.Fits o.depth (l.phase t) (l.count t) w.stack)
    (held : d.object.count.toInt + (s.workers t).held = s.desk.object.count.toInt + w.held)
    (left : w.left = (s.workers t).left ∧ d.stdout = s.desk.stdout
      ∨ w.left + 1 = (s.workers t).left ∧ d.stdout = s.desk.stdout ++ line (number o.depth.toNat))
    (barrier : k + w.awaited = s.arrived + (s.workers t).awaited) :
  InOrder o ({ s with globals := l, desk := d, arrived := k }.put t w)
  := by
  constructor
  · exact consistent
  · intro u
    by_cases hu : u = t
    · subst hu
      rw [workers_put_self]
      exact fits
    · obtain ⟨hp, hc⟩ := others u hu
      rw [workers_put_of_ne hu]
      change _ = _ at hp
      simp only [Crew.put]
      rw [hp, hc]
      exact i.fits u
  · intro u hu
    have hut : u ≠ t := by
      rintro rfl
      exact hu ht
    rw [workers_put_of_ne hut]
    exact i.idle u hu
  · have sum := sum_put (s := { s with globals := l, desk := d, arrived := k }) (w := w) Worker.held ht
    have count := i.count
    change d.object.count.toInt = _
    simp only at sum
    omega
  · obtain ⟨j, hj, total⟩ := i.printed
    have sum := sum_put (s := { s with globals := l, desk := d, arrived := k }) (w := w) Worker.left ht
    simp only at sum
    rcases left with ⟨hw, hd⟩ | ⟨hw, hd⟩
    · exact ⟨j, hd.trans hj, by omega⟩
    · refine ⟨j + 1, ?_, by omega⟩
      change d.stdout = _
      rw [hd, hj, lines_succ]
  · have sum := sum_put (s := { s with globals := l, desk := d, arrived := k }) (w := w) Worker.awaited ht
    have total := i.barrier
    simp only at sum
    change k + _ = _
    omega

/-- A call on the lock ends in no fault, because the depth can count two acquisitions. -/
theorem InOrder.not_faults {n : UInt32} {f : Fault} {l : RecursiveState} (i : InOrder o s)
    (hp : (s.workers t).phase = .inside n g) :
  ¬ RecursiveState.Step s.globals t (.faults f) l
  := by
  intro k
  obtain ⟨_, hc⟩ := i.consistent.overflow_of_faults k
  have fits := i.fits t
  rw [hp] at fits
  have held : g.held ≤ 2 := by
    cases g <;> decide
  rw [fits.2.2] at hc
  have size : (2 : Nat) + 1 < UInt64.size := by decide
  omega

/-- A step of a call on the lock leads to where the worker fits: in the call, or behind it. -/
theorem InOrder.fits_behind {n : UInt32} {e : ClaimEvent} {l : RecursiveState} (i : InOrder o s)
    (hp : (s.workers t).phase = .inside n g) (k : RecursiveState.Step s.globals t e l) :
  (Worker.behind n g e (l.phase t)).Fits o.depth (l.phase t) (l.count t) (s.workers t).stack
  := by
  have he : ∀ f, e ≠ .faults f := by
    rintro f rfl
    exact i.not_faults hp k
  have fits := i.fits t
  rw [hp] at fits
  obtain ⟨h, stands, hc⟩ := fits
  cases g with
  | acquire | reacquire =>
      rcases k.acquiring stands with ⟨f, hf⟩ | ⟨hq, hn⟩ | ⟨hq, hn⟩
      · cases he f hf
      · rw [hq, behind_outside he]
        refine ⟨h, rfl, ?_⟩
        rw [hn, hc]
        rfl
      · rw [behind_of_ne he (ClaimPhase.ne_outside_of_isAcquiring hq)]
        exact ⟨h, hq, hn.trans hc⟩
  | release | releaseLast =>
      rcases k.releasing stands with ⟨f, hf⟩ | ⟨hq, hn⟩ | ⟨hq, hn⟩
      · cases he f hf
      · rw [hq, behind_outside he]
        refine ⟨h, rfl, ?_⟩
        rw [hn, hc]
        rfl
      · rw [behind_of_ne he (ClaimPhase.ne_outside_of_isReleasing hq)]
        exact ⟨h, hq, hn.trans hc⟩

/-- A call on the lock starts where the worker fits. -/
theorem fits_inside {n : UInt32} {l : RecursiveState}
    (fits : (WorkerPhase.looking n g).Fits depth (s.globals.phase t) (s.globals.count t) stack)
    (k : RecursiveState.Step s.globals t g.start l) :
  (WorkerPhase.inside n g).Fits depth (l.phase t) (l.count t) stack
  := by
  obtain ⟨h, _, hc⟩ := fits
  cases g with
  | acquire | reacquire =>
      obtain ⟨hp, hn⟩ := k.of_calls
      refine ⟨h, ?_, hn.trans hc⟩
      rw [hp]
      rfl
  | release | releaseLast =>
      obtain ⟨hp, hn⟩ := k.of_leaves
      refine ⟨h, ?_, hn.trans hc⟩
      rw [hp]
      trivial

/-- Every step keeps the workers in order. -/
theorem InOrder.step (i : InOrder o s) (room : HasRoom o) (hF : number o.depth.toNat < UInt64.size)
    (k : Step o s t e s') :
  InOrder o s'
  := by
  have ht := k.mem_crew i
  have fits := i.fits t
  cases k with
  | arrive hp =>
      rw [hp] at fits
      apply i.put ht i.consistent (fun _ _ => ⟨rfl, rfl⟩) fits
      · simp [Worker.held, WorkerPhase.held, hp]
      · simp [Worker.left, WorkerPhase.current, hp]
      · simp [Worker.awaited, hp]
  | pass hp _ =>
      rw [hp] at fits
      apply i.put ht i.consistent (fun _ _ => ⟨rfl, rfl⟩) fits
      · simp [Worker.held, WorkerPhase.held, hp]
      · simp [Worker.left, WorkerPhase.current, hp]
      · simp [Worker.awaited, hp]
  | act h =>
      have turn := i.turn room hF ht h
      apply i.put ht i.consistent (fun _ _ => ⟨rfl, rfl⟩) (turn.fits fits) turn.held (turn.left fits)
      rw [turn.awaited.1, turn.awaited.2]
  | @enter n g l hp k =>
      rw [hp] at fits
      apply i.put ht (i.consistent.step k) (fun u hu => ⟨k.phase_of_ne hu, k.count_of_ne hu⟩)
      · apply fits_inside fits k
      · simp [Worker.held, WorkerPhase.held, hp]
      · simp [Worker.left, WorkerPhase.current, hp]
      · simp [Worker.awaited, hp]
  | @go n g e l hp ho k =>
      apply i.put ht (i.consistent.step k) (fun u hu => ⟨k.phase_of_ne hu, k.count_of_ne hu⟩)
        (i.fits_behind hp k)
      · have held : (WorkerPhase.inside n g).held = 0 := rfl
        simp [Worker.held, behind_aside, held, hp]
      · have current : (WorkerPhase.inside n g).current = 1 := rfl
        simp [Worker.left, behind_aside, current, hp]
      · simp [Worker.awaited, behind_aside, hp]

/-- Workers that have not begun fit the lock that nobody has acquired. -/
theorem fits_fresh (o : Options) (t : ThreadId) :
  (Worker.fresh o t).phase.Fits o.depth .outside 0 (Worker.fresh o t).stack
  := by
  rw [Worker.fresh]
  split
  · split
    · exact ⟨rfl, rfl, rfl⟩
    · exact ⟨rfl, rfl, rfl⟩
  · exact ⟨rfl, rfl, rfl⟩

/-- What the workers have together before their first steps. -/
theorem sum_fresh (f : Worker → Nat) (o : Options) :
  ∑ t ∈ crew o, f (Worker.fresh o t)
    = if o.serial then f { todo := o.workers.toNat }
      else o.workers.toNat * f { phase := .arriving, todo := 1 }
  := by
  have each : ∀ t ∈ crew o, f (Worker.fresh o t)
      = if o.serial then f { todo := o.workers.toNat } else f { phase := .arriving, todo := 1 } := by
    intro t ht
    rw [Worker.fresh, if_pos (Finset.mem_range.mp ht)]
    split <;> rfl
  rw [Finset.sum_congr rfl each, Finset.sum_const, crew, Finset.card_range, Options.threads]
  split <;> simp

/-- Workers that have not begun are in order. -/
theorem InOrder.start (o : Options) (description : String) (stats : LockStats) :
  InOrder o { globals := { lock := .fresh description stats }, workers := Worker.fresh o }
  := by
  constructor
  · apply RecursiveState.Consistent.start
  · exact fits_fresh o
  · intro t ht
    exact if_neg (fun h => ht (Finset.mem_range.mpr h))
  · rw [sum_fresh]
    split <;> simp [Worker.held, WorkerPhase.held]
  · refine ⟨0, rfl, ?_⟩
    rw [sum_fresh]
    split <;> simp [Worker.left, WorkerPhase.current]
  · rw [sum_fresh, Options.barrier]
    split <;> simp [Worker.awaited]

/-- In every run the workers are in order. -/
theorem InOrder.of_reachable (r : (system o).Reachable s) (room : HasRoom o)
    (hF : number o.depth.toNat < UInt64.size) :
  InOrder o s
  := by
  apply r.invariant
  · rintro _ ⟨description, stats, rfl⟩
    apply InOrder.start
  · intro _ _ _ _ i k
    apply i.step room hF k

end Crew

end SyncLayer.Fib
