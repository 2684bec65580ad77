import SyncLayer.Session.Request
import SyncLayer.Proofs.Lock.Coherence
import SyncLayer.Proofs.Lock.Reentry
import Mathlib.Algebra.GroupWithZero.Nat

/-!
# A machine for locks

A lock is a machine that is unlocked, or locked by an owner a number of times. The machine keeps
the site of its latest outermost acquisition, and the outermost acquisitions since it was made or
its statistics were reset. It knows nothing of words, of sleeping threads or of counters; whatever
is asked of a lock, the lock returns what the machine returns and shows what the machine keeps.
-/

namespace SyncLayer

/-! ### The machine -/

/-- An outermost acquisition, as statistics see it. -/
structure Outermost where
  contended : Bool
  delay : UInt64
deriving DecidableEq, Repr

/-- Who has acquired a lock, and how often again. -/
inductive Tenure where
  | unlocked
  | locked (owner : ThreadId) (again : Nat)
deriving DecidableEq, Repr

namespace Tenure

/-- How often the owner has acquired the lock. -/
def depth : Tenure → Nat
  | unlocked => 0
  | locked _ again => again + 1

/-- The owner, if there is one. -/
def owner? : Tenure → Option ThreadId
  | unlocked => none
  | locked owner _ => some owner

variable {owner : ThreadId} {again : Nat}

@[simp]
theorem depth_unlocked :
  unlocked.depth = 0
  := rfl

@[simp]
theorem depth_locked :
  (locked owner again).depth = again + 1
  := rfl

@[simp]
theorem owner?_unlocked :
  unlocked.owner? = none
  := rfl

@[simp]
theorem owner?_locked :
  (locked owner again).owner? = some owner
  := rfl

end Tenure

/-- A lock that its owner may acquire again or may not, with what is kept of it. -/
structure LockMachine where
  isRecursive : Bool
  description : String
  threshold : Option UInt64
  tenure : Tenure := .unlocked
  site : Option Site := none
  seen : List Outermost := []
deriving DecidableEq, Repr

namespace LockMachine

/-- The machine that has not been asked for anything. -/
def fresh (isRecursive : Bool) (description : String) (threshold : Option UInt64) : LockMachine :=
  { isRecursive, description, threshold }

/-- An outermost acquisition. -/
def enter (me : ThreadId) (s : Settings) (site : Site) (delay : UInt64) (m : LockMachine) :
  LockMachine
  :=
  let contended := decide (m.threshold.getD s.threshold < delay)
  { m with tenure := .locked me 0, site := some site, seen := { contended, delay } :: m.seen }

/-- Another acquisition by the owner, whose depth has to fit in a word. -/
def reenter (owner : ThreadId) (again : Nat) (m : LockMachine) : Except Fault Bool × LockMachine :=
  if again + 2 < UInt64.size then (.ok true, { m with tenure := .locked owner (again + 1) })
  else (.error .additionOverflow, m)

/-- The release of the latest acquisition. -/
def leave (owner : ThreadId) (m : LockMachine) : Nat → LockMachine
  | 0 => { m with tenure := .unlocked }
  | again + 1 => { m with tenure := .locked owner again }

/-- What the machine returns when it is asked for something, and the machine behind it. -/
def next (m : LockMachine) : LockRequest → Option (Except Fault Bool × LockMachine)
  | .acquire me s site delay _ =>
    match m.tenure with
    | .unlocked => some (.ok true, m.enter me s site delay)
    | .locked owner again =>
      if m.isRecursive ∧ owner = me then some (m.reenter owner again) else none
  | .tryAcquire me s site =>
    match m.tenure with
    | .unlocked => some (.ok true, m.enter me s site 0)
    | .locked owner again =>
      if m.isRecursive ∧ owner = me then some (m.reenter owner again) else some (.ok false, m)
  | .release me =>
    match m.tenure with
    | .unlocked => if m.isRecursive then some (.error .unownedRelease, m) else none
    | .locked owner again =>
      if m.isRecursive ∧ owner ≠ me then none else some (.ok true, m.leave owner again)
  | .resetStats => some (.ok true, { m with seen := [] })
  | .renew description =>
    match m.tenure with
    | .unlocked => some (.ok true, fresh m.isRecursive description m.threshold)
    | .locked _ _ => none

/-- What the machine returns when it is asked for one thing after the other, and the machine behind
it. -/
def nextEach : List LockRequest → LockMachine → Option (List (Except Fault Bool) × LockMachine)
  | [], m => some ([], m)
  | q :: rest, m => do
    let (r, m) ← m.next q
    let (rs, m) ← nextEach rest m
    return (r :: rs, m)

end LockMachine

/-! ### What statistics make of the acquisitions -/

namespace Counters

/-- The counters behind some outermost acquisitions, the latest first. -/
def ofSeen (seen : List Outermost) : Counters :=
  let delays := (seen.filter Outermost.contended).map Outermost.delay
  { uncontended := .ofNat (seen.countP (fun a => !a.contended))
    contended := .ofNat (seen.countP Outermost.contended)
    totalDelay := .ofNat (delays.map UInt64.toNat).sum
    maxDelay := delays.foldr (fun d longest => max longest d) 0 }

variable {seen : List Outermost} {threshold delay : UInt64}

@[simp]
theorem ofSeen_nil :
  ofSeen [] = .zero
  := rfl

/-- Counting another acquisition. -/
theorem record_ofSeen :
  (ofSeen seen).record threshold delay
    = ofSeen ({ contended := decide (threshold < delay), delay } :: seen)
  := by
  by_cases h : threshold < delay
  · have hle : ¬ delay ≤ threshold := UInt64.not_le.mpr h
    simp [record, ofSeen, h, hle, UInt64.ofNat_add, UInt64.add_comm]
  · have hle : delay ≤ threshold := UInt64.not_lt.mp h
    simp [record, ofSeen, h, hle, UInt64.ofNat_add]

/-- The total of the counters is the number of acquisitions, if that fits. -/
theorem total_ofSeen (h : seen.length < UInt64.size) :
  (ofSeen seen).total = .ok (.ofNat seen.length)
  := by
  have hs : seen.countP (fun a => !a.contended) + seen.countP Outermost.contended
      = seen.length := by
    rw [List.length_eq_countP_add_countP Outermost.contended, Nat.add_comm]
    simp
  rw [← hs] at h ⊢
  exact (total_of_number rfl rfl h).2

end Counters

/-! ### What a lock shows of its machine -/

namespace LockMachine

/-- The lock that the machine stands for, or the one inside it, whose word is left open. -/
def base (w : LockWord) (m : LockMachine) : Lock where
  word := w
  description := m.description
  site := m.site
  held := decide (0 < m.tenure.depth)
  stats := .on m.threshold (.ofSeen m.seen)

/-- The lock that the machine stands for. -/
def lock (w : LockWord) (m : LockMachine) : AnyLock :=
  if m.isRecursive then
    .recursive { lock := m.base w, owner := m.tenure.owner?, depth := m.tenure.depth }
  else .plain (m.base w)

/-- A word is free if the machine is unlocked; and a plain lock is acquired once. -/
structure Fits (w : LockWord) (m : LockMachine) : Prop where
  free : w = .free ↔ m.tenure = .unlocked
  depth : m.isRecursive = false → m.tenure.depth ≤ 1

/-- A lock is one that a machine stands for. -/
def Shows (l : AnyLock) (m : LockMachine) : Prop :=
  ∃ w, Fits w m ∧ l = m.lock w

/-- A lock and its machine return the same, and the lock goes on to show what the machine keeps.
Unless it returns that something was done, the lock is what it was. -/
structure Agrees (l : AnyLock) (x : Except Fault Bool × AnyLock)
    (y : Except Fault Bool × LockMachine) : Prop where
  returned : x.1 = y.1
  shows : Shows x.2 y.2
  kept : x.1 ≠ .ok true → x.2 = l

variable {m : LockMachine} {w : LockWord} {me owner : ThreadId} {again : Nat} {s : Settings}
  {site : Site} {delay : UInt64} {slept : Bool} {q : LockRequest}

theorem base_lock :
  (m.lock w).base = m.base w
  := by
  rw [lock]
  split
  · rfl
  · rfl

theorem isFree_free :
  LockWord.free.isFree = true
  := rfl

theorem isFree_of_ne (hw : w ≠ .free) :
  w.isFree = false
  := by
  rw [← Bool.not_eq_true, LockWord.isFree_iff]
  apply hw

theorem Fits.ne_free (f : Fits w m) (hm : m.tenure = .locked owner again) :
  w ≠ .free
  := by
  rw [ne_eq, f.free, hm]
  rintro ⟨⟩

/-- The machine is unlocked; or a thread acquires it again when it acquires it; or the machine is
locked otherwise. -/
theorem Fits.cases_tenure (f : Fits w m) (me : ThreadId) :
  (w = .free ∧ m.tenure = .unlocked)
    ∨ (∃ again, w ≠ .free ∧ m.isRecursive = true ∧ m.tenure = .locked me again)
    ∨ ∃ owner again, w ≠ .free ∧ m.tenure = .locked owner again
      ∧ ¬ (m.isRecursive = true ∧ owner = me)
  := by
  cases hm : m.tenure with
  | unlocked => exact .inl ⟨f.free.mpr hm, rfl⟩
  | locked owner again =>
      have hn := f.ne_free hm
      by_cases ho : m.isRecursive = true ∧ owner = me
      · obtain ⟨hr, rfl⟩ := ho
        exact .inr (.inl ⟨again, hn, hr, rfl⟩)
      · exact .inr (.inr ⟨owner, again, hn, rfl, ho⟩)

/-! #### A machine that is unlocked -/

theorem blocks_of_unlocked :
  (m.lock .free).blocks me = false
  := by
  cases hr : m.isRecursive with
  | false => simp [lock, hr, AnyLock.blocks, base]
  | true => simp [lock, hr, AnyLock.blocks, base]

/-- The lock inside, acquired at once or by a thread that slept. -/
theorem acquireAfter_base (slept : Bool) :
  (m.base .free).acquireAfter slept s delay site
    = (m.enter me s site delay).base (if slept then .contended else .held)
  := by
  cases slept with
  | false =>
      simp [Lock.acquireAfter, Lock.acquire, Lock.noteHeld, base, enter, LockStats.record,
        Counters.record_ofSeen, LockWord.tryTake, LockWord.takeFree]
  | true =>
      simp [Lock.acquireAfter, Lock.acquireWoken, Lock.noteHeld, base, enter, LockStats.record,
        Counters.record_ofSeen, LockWord.mark]

theorem acquireBy_of_unlocked (hm : m.tenure = .unlocked) (slept : Bool) :
  (m.lock .free).acquireBy (Lock.acquireAfter slept s delay site) me
    = (m.enter me s site delay).lock (if slept then .contended else .held)
  := by
  have hi := @acquireAfter_base m me s site delay slept
  cases hr : m.isRecursive with
  | false => simp [lock, hr, AnyLock.acquireBy, hi, enter]
  | true =>
      simp [lock, hr, AnyLock.acquireBy, hi, enter, hm, RecursiveLock.acquireBy,
        RecursiveLock.isOwnedBy]

theorem tryAcquire_of_unlocked (hm : m.tenure = .unlocked) :
  (m.lock .free).tryAcquire s site me = (true, (m.enter me s site 0).lock .held)
  := by
  have ht : (m.base .free).tryAcquire s site = (true, (m.enter me s site 0).base .held) := by
    rw [Lock.tryAcquire_of_free _ _ rfl]
    exact congrArg _ (acquireAfter_base false)
  cases hr : m.isRecursive with
  | false => simp [lock, hr, AnyLock.tryAcquire, ht, enter]
  | true =>
      simp [lock, hr, AnyLock.tryAcquire, ht, enter, hm,
        RecursiveLock.tryAcquire, RecursiveLock.isOwnedBy]

theorem settle_of_unlocked {next : AnyLock} (hm : m.tenure = .unlocked) :
  (AnyLock.settle me next).on (m.lock .free) = (.ok true, next)
  := by
  cases hr : m.isRecursive with
  | false => simp [lock, hr, AnyLock.settle]
  | true => simp [lock, hr, hm, AnyLock.settle, RecursiveLock.isOwnedBy]

theorem shows_enter (hw : w ≠ .free) :
  Shows ((m.enter me s site delay).lock w) (m.enter me s site delay)
  := by
  refine ⟨w, ⟨?_, ?_⟩, rfl⟩
  · simp [hw, enter]
  · simp [enter]

/-! #### A machine that is locked by the thread that acquires it again -/

theorem blocks_of_own (hr : m.isRecursive = true) (hm : m.tenure = .locked me again) :
  (m.lock w).blocks me = false
  := by
  simp [lock, hr, hm, AnyLock.blocks, RecursiveLock.isOwnedBy]

theorem acquireBy_of_own {inner : Lock → Lock} (hr : m.isRecursive = true)
    (hm : m.tenure = .locked me again) :
  (m.lock w).acquireBy inner me = { m with tenure := .locked me (again + 1) }.lock w
  := by
  simp [lock, hr, hm, AnyLock.acquireBy, RecursiveLock.acquireBy, RecursiveLock.isOwnedBy,
    RecursiveLock.reenter, base]

theorem tryAcquire_of_own (hr : m.isRecursive = true) (hm : m.tenure = .locked me again) :
  (m.lock w).tryAcquire s site me
    = (true, { m with tenure := .locked me (again + 1) }.lock w)
  := by
  simp [lock, hr, hm, AnyLock.tryAcquire, RecursiveLock.tryAcquire, RecursiveLock.isOwnedBy,
    RecursiveLock.reenter, base]

theorem settle_of_own (hr : m.isRecursive = true) (hm : m.tenure = .locked me again)
    (hw : w ≠ .free) :
  Agrees (m.lock w)
    ((AnyLock.settle me ({ m with tenure := .locked me (again + 1) }.lock w)).on (m.lock w))
    (m.reenter me again)
  := by
  by_cases hd : again + 2 < UInt64.size
  · have hs : (AnyLock.settle me ({ m with tenure := .locked me (again + 1) }.lock w)).on (m.lock w)
        = (.ok true, { m with tenure := .locked me (again + 1) }.lock w) := by
      simp [lock, hr, hm, hd, AnyLock.settle, RecursiveLock.isOwnedBy]
    rw [hs, reenter, if_pos hd]
    refine ⟨rfl, ⟨w, ⟨?_, ?_⟩, rfl⟩, fun h => absurd rfl h⟩
    · simp [hw]
    · simp [hr]
  · have hs : (AnyLock.settle me ({ m with tenure := .locked me (again + 1) }.lock w)).on (m.lock w)
        = (.error .additionOverflow, m.lock w) := by
      simp [lock, hr, hm, hd, AnyLock.settle, RecursiveLock.isOwnedBy]
    rw [hs, reenter, if_neg hd]
    refine ⟨rfl, ⟨w, ⟨?_, ?_⟩, rfl⟩, fun _ => rfl⟩
    · simp [hw, hm]
    · simp [hr]

/-! #### A machine that is locked otherwise -/

theorem blocks_of_other (hm : m.tenure = .locked owner again)
    (ho : ¬ (m.isRecursive ∧ owner = me)) (hw : w ≠ .free) :
  (m.lock w).blocks me = true
  := by
  cases hr : m.isRecursive with
  | false => simp [lock, hr, AnyLock.blocks, base, isFree_of_ne hw]
  | true =>
      have ho' : owner ≠ me := fun h => ho ⟨hr, h⟩
      simp [lock, hr, hm, ho', AnyLock.blocks, base, isFree_of_ne hw, RecursiveLock.isOwnedBy]

theorem tryAcquire_of_other (hm : m.tenure = .locked owner again)
    (ho : ¬ (m.isRecursive ∧ owner = me)) (hw : w ≠ .free) :
  (m.lock w).tryAcquire s site me = (false, m.lock w)
  := by
  have ht := @Lock.tryAcquire_of_ne_free (m.base w) s site hw
  cases hr : m.isRecursive with
  | false => simp [lock, hr, AnyLock.tryAcquire, ht]
  | true =>
      have ho' : owner ≠ me := fun h => ho ⟨hr, h⟩
      simp [lock, hr, hm, ho', AnyLock.tryAcquire, RecursiveLock.tryAcquire,
        RecursiveLock.isOwnedBy, ht]

/-! ### Step by step -/

theorem serve_acquire (f : Fits w m) :
  Option.Rel (Agrees (m.lock w)) ((m.lock w).serve (.acquire me s site delay slept))
    (m.next (.acquire me s site delay slept))
  := by
  obtain ⟨rfl, hm⟩ | ⟨again, hw, hr, hm⟩ | ⟨owner, again, hw, hm, ho⟩ := f.cases_tenure me
  · simp only [AnyLock.serve, next, hm, blocks_of_unlocked, settle_of_unlocked hm,
      acquireBy_of_unlocked hm]
    apply Option.Rel.some
    refine ⟨rfl, shows_enter ?_, fun h => absurd rfl h⟩
    cases slept <;> decide
  · have hn : m.next (.acquire me s site delay slept) = some (m.reenter me again) := by
      simp [next, hm, hr]
    rw [hn, AnyLock.serve, blocks_of_own hr hm, acquireBy_of_own hr hm]
    apply Option.Rel.some (settle_of_own hr hm hw)
  · simp only [AnyLock.serve, next, hm, blocks_of_other hm ho hw, if_neg ho]
    apply Option.Rel.none

theorem serve_tryAcquire (f : Fits w m) :
  Option.Rel (Agrees (m.lock w)) ((m.lock w).serve (.tryAcquire me s site))
    (m.next (.tryAcquire me s site))
  := by
  obtain ⟨rfl, hm⟩ | ⟨again, hw, hr, hm⟩ | ⟨owner, again, hw, hm, ho⟩ := f.cases_tenure me
  · simp only [AnyLock.serve, next, hm, tryAcquire_of_unlocked hm, settle_of_unlocked hm]
    apply Option.Rel.some
    exact ⟨rfl, shows_enter LockWord.held_ne_free, fun h => absurd rfl h⟩
  · have hn : m.next (.tryAcquire me s site) = some (m.reenter me again) := by
      simp [next, hm, hr]
    rw [hn, AnyLock.serve, tryAcquire_of_own hr hm]
    apply Option.Rel.some (settle_of_own hr hm hw)
  · simp only [AnyLock.serve, next, hm, tryAcquire_of_other hm ho hw, if_neg ho]
    apply Option.Rel.some
    exact ⟨rfl, ⟨w, f, rfl⟩, fun _ => rfl⟩

theorem release_base :
  (m.base w).release = { m with tenure := .unlocked }.base .free
  := by
  have hw : w.giveBack.2 = .free := @Lock.word_release (m.base w)
  simp [Lock.release, base, hw]

/-- A release that is not the last one goes as the machine does. -/
theorem release_again (hr : m.isRecursive = true) (hm : m.tenure = .locked owner (again + 1)) :
  AnyLock.release.on (m.lock w) = (.ok (), (m.leave owner (again + 1)).lock w)
  := by
  have hb : (m.leave owner (again + 1)).base w = m.base w := by
    simp [leave, base, hm]
  have hl : (m.leave owner (again + 1)).lock w
      = .recursive { lock := m.base w, owner := some owner, depth := again + 1 } := by
    rw [lock, hb]
    simp [leave, hr]
  have hd : 1 < again + 1 + 1 := by omega
  rw [hl, AnyLock.release, Attempt.on_ofRun]
  simp [lock, hr, hm, RecursiveLock.release_on_of_one_lt, hd]

/-- The last release goes as the machine does. -/
theorem release_last (hm : m.tenure = .locked owner 0) :
  AnyLock.release.on (m.lock w) = (.ok (), (m.leave owner 0).lock .free)
  := by
  cases hr : m.isRecursive with
  | false => simp [lock, hr, AnyLock.release, leave, release_base]
  | true =>
      simp [lock, hr, hm, AnyLock.release, RecursiveLock.release_on_of_eq_one, leave, release_base]

/-- A release of a lock that is locked goes as the machine does. -/
theorem release_lock (f : Fits w m) (hm : m.tenure = .locked owner again) :
  ∃ l, AnyLock.release.on (m.lock w) = (.ok (), l) ∧ Shows l (m.leave owner again)
  := by
  cases again with
  | zero =>
      refine ⟨_, release_last hm, .free, ⟨?_, ?_⟩, rfl⟩
      · simp [leave]
      · simp [leave]
  | succ again =>
      have hr : m.isRecursive = true := by
        by_contra hr
        have hd := f.depth (by simpa using hr)
        rw [hm, Tenure.depth_locked] at hd
        omega
      refine ⟨_, release_again hr hm, w, ⟨?_, ?_⟩, rfl⟩
      · simp [leave, f.free, hm]
      · simp [leave, hr]

/-- Whether a thread may release a lock that is locked. -/
theorem mayRelease_lock (hm : m.tenure = .locked owner again) (hw : w ≠ .free) :
  Session.mayRelease me (m.lock w) = true ↔ ¬ (m.isRecursive = true ∧ owner ≠ me)
  := by
  cases hr : m.isRecursive with
  | false => simp [lock, hr, Session.mayRelease, base, isFree_of_ne hw]
  | true => simp [lock, hr, hm, Session.mayRelease, RecursiveLock.isOwnedBy]

theorem serve_release (f : Fits w m) :
  Option.Rel (Agrees (m.lock w)) ((m.lock w).serve (.release me)) (m.next (.release me))
  := by
  cases hm : m.tenure with
  | unlocked =>
      obtain rfl := f.free.mpr hm
      cases hr : m.isRecursive with
      | false =>
          have hn : m.next (.release me) = none := by
            simp [next, hm, hr]
          have hs : (m.lock .free).serve (.release me) = none := by
            simp [AnyLock.serve, Session.mayRelease, lock, hr, base, isFree_free]
          rw [hn, hs]
          apply Option.Rel.none
      | true =>
          have hn : m.next (.release me) = some (.error .unownedRelease, m) := by
            simp [next, hm, hr]
          have hs : (m.lock .free).serve (.release me)
              = some (.error .unownedRelease, m.lock .free) := by
            simp [AnyLock.serve, Session.mayRelease, lock, hr, hm, AnyLock.release,
              RecursiveLock.release]
            rfl
          rw [hn, hs]
          apply Option.Rel.some
          exact ⟨rfl, ⟨.free, f, rfl⟩, fun _ => rfl⟩
  | locked owner again =>
      have hw := f.ne_free hm
      by_cases ho : m.isRecursive = true ∧ owner ≠ me
      · have hn : m.next (.release me) = none := by
          simp only [next, hm, if_pos ho]
        rw [hn, AnyLock.serve, if_neg (fun h => (mayRelease_lock hm hw).mp h ho)]
        apply Option.Rel.none
      · have hn : m.next (.release me) = some (.ok true, m.leave owner again) := by
          simp only [next, hm, if_neg ho]
        obtain ⟨l, hl, shows⟩ := release_lock f hm
        rw [hn, AnyLock.serve, if_pos ((mayRelease_lock hm hw).mpr ho), hl]
        apply Option.Rel.some
        exact ⟨rfl, shows, fun h => absurd rfl h⟩

theorem serve_resetStats (f : Fits w m) :
  Option.Rel (Agrees (m.lock w)) ((m.lock w).serve .resetStats) (m.next .resetStats)
  := by
  apply Option.Rel.some
  refine ⟨rfl, ⟨w, ⟨f.free, f.depth⟩, ?_⟩, fun h => absurd rfl h⟩
  cases hr : m.isRecursive with
  | false => simp [lock, hr, AnyLock.mapBase, Lock.resetStats, base, LockStats.reset]
  | true => simp [lock, hr, AnyLock.mapBase, Lock.resetStats, base, LockStats.reset]

theorem renew_lock (description : String) :
  (m.lock w).renew description
    = (fresh m.isRecursive description m.threshold).lock .free
  := by
  cases hr : m.isRecursive with
  | false => simp [lock, hr, AnyLock.renew, Lock.reinitialize, base, LockStats.reset, fresh]
  | true =>
      simp [lock, hr, AnyLock.renew, RecursiveLock.reinitialize, Lock.reinitialize, base,
        LockStats.reset, fresh]

theorem fits_fresh {isRecursive : Bool} {description : String} {threshold : Option UInt64} :
  Fits .free (fresh isRecursive description threshold)
  := by
  constructor <;> simp [fresh]

theorem serve_renew (f : Fits w m) (description : String) :
  Option.Rel (Agrees (m.lock w)) ((m.lock w).serve (.renew description))
    (m.next (.renew description))
  := by
  cases hm : m.tenure with
  | unlocked =>
      obtain rfl := f.free.mpr hm
      simp only [AnyLock.serve, next, hm, base_lock, base, isFree_free, renew_lock]
      apply Option.Rel.some
      exact ⟨rfl, ⟨.free, fits_fresh, rfl⟩, fun h => absurd rfl h⟩
  | locked owner again =>
      have hn := f.ne_free hm
      simp only [AnyLock.serve, next, hm, base_lock, base, isFree_of_ne hn]
      apply Option.Rel.none

/-- Whatever is asked of a lock, the lock and its machine agree on it. -/
theorem Shows.serve {l : AnyLock} (h : Shows l m) (q : LockRequest) :
  Option.Rel (Agrees l) (l.serve q) (m.next q)
  := by
  obtain ⟨w, f, rfl⟩ := h
  cases q with
  | acquire me s site delay slept => apply serve_acquire f
  | tryAcquire me s site => apply serve_tryAcquire f
  | release me => apply serve_release f
  | resetStats => apply serve_resetStats f
  | renew description => apply serve_renew f

/-- Whatever is asked of a lock one after the other, the lock and its machine return the same, and
the lock goes on to show what the machine keeps. -/
theorem Shows.serveEach {l : AnyLock} (h : Shows l m) (qs : List LockRequest) :
  Option.Rel (fun x y => x.1 = y.1 ∧ Shows x.2 y.2) (AnyLock.serveEach qs l) (nextEach qs m)
  := by
  induction qs generalizing l m with
  | nil => exact .some ⟨rfl, h⟩
  | cons q qs ih =>
      have step := h.serve q
      rw [AnyLock.serveEach, nextEach]
      generalize l.serve q = x at step
      generalize m.next q = y at step
      cases step with
      | none => apply Option.Rel.none
      | @some x y a =>
          obtain ⟨r, l'⟩ := x
          obtain ⟨r', m'⟩ := y
          obtain ⟨hr, shows, -⟩ := a
          obtain rfl : r = r' := hr
          have rest := ih shows
          simp only [Option.bind_eq_bind, Option.bind_some]
          generalize AnyLock.serveEach qs l' = x at rest
          generalize nextEach qs m' = y at rest
          cases rest with
          | none => apply Option.Rel.none
          | some b => exact .some ⟨congrArg _ b.1, b.2⟩

/-! ### What can be seen of a lock -/

theorem lock_fresh {isRecursive : Bool} {description : String} {threshold : Option UInt64} :
  (fresh isRecursive description threshold).lock .free
    = .fresh isRecursive description (.fresh threshold)
  := by
  cases isRecursive <;> rfl

/-- What can be seen of a lock is what its machine keeps. The owner of a recursive lock and its
depth can be seen, too. -/
structure Observed (l : AnyLock) (m : LockMachine) : Prop where
  isRecursive : m.isRecursive = true ↔ ∃ r, l = .recursive r
  depth : ∀ r, l = .recursive r → r.depth = m.tenure.depth
  owned : ∀ r, l = .recursive r → ∀ t, r.isOwnedBy t = true ↔ m.tenure.owner? = some t
  heldState : l.base.heldState = if 1 ≤ m.tenure.depth then "Locked" else "Unlocked"
  free : l.base.word = .free ↔ m.tenure = .unlocked
  description : l.base.description = m.description
  site : l.base.site = m.site
  stats : l.base.stats = .on m.threshold (.ofSeen m.seen)
  total : m.seen.length < UInt64.size → l.base.stats.counters.total = .ok (.ofNat m.seen.length)

theorem heldState_base :
  (m.base w).heldState = if 1 ≤ m.tenure.depth then "Locked" else "Unlocked"
  := by
  simp [Lock.heldState, base, Nat.one_le_iff_ne_zero, Nat.pos_iff_ne_zero]

theorem isOwnedBy_iff {r : RecursiveLock} {t : ThreadId} (hr : m.isRecursive = true)
    (hl : m.lock w = .recursive r) :
  r.isOwnedBy t = true ↔ m.tenure.owner? = some t
  := by
  simp only [lock, hr, if_true] at hl
  cases hl
  cases hm : m.tenure <;> simp [RecursiveLock.isOwnedBy]

theorem Shows.observed {l : AnyLock} (h : Shows l m) :
  Observed l m
  := by
  obtain ⟨w, f, rfl⟩ := h
  have kind : m.isRecursive = true ↔ ∃ r, m.lock w = .recursive r := by
    cases hr : m.isRecursive <;> simp [lock, hr]
  exact {
    isRecursive := kind
    depth := by
      intro r hl
      have hr := kind.mpr ⟨r, hl⟩
      simp only [lock, hr, if_true] at hl
      cases hl
      rfl
    owned := fun r hl t => isOwnedBy_iff (kind.mpr ⟨r, hl⟩) hl
    heldState := by
      rw [base_lock, heldState_base]
    free := by
      rw [base_lock]
      apply f.free
    description := by
      rw [base_lock]
      rfl
    site := by
      rw [base_lock]
      rfl
    stats := by
      rw [base_lock]
      rfl
    total := by
      intro fits
      rw [base_lock]
      apply Counters.total_ofSeen fits }

/-- What a request leaves as it was: of a lock that its owner acquires again, all but the depth; of
a lock that a request cannot have, or ends in a fault on, everything; of the statistics of a lock
that is acquired without waiting, all but the number of uncontended acquisitions; and of a lock
that is made a fresh one, nothing but its kind and its threshold. -/
structure Framed (l : AnyLock) (m : LockMachine) : Prop where
  again : ∀ r t, l = .recursive r → r.isOwnedBy t = true → r.depth + 1 < UInt64.size →
    ∀ s site delay slept,
      l.serve (.acquire t s site delay slept) = some (.ok true, .recursive r.reenter)
        ∧ l.serve (.tryAcquire t s site) = some (.ok true, .recursive r.reenter)
  refused : ∀ q x, l.serve q = some x → x.1 ≠ .ok true → x.2 = l
  unowned : ∀ r t, l = .recursive r → r.depth = 0 →
    l.serve (.release t) = some (.error .unownedRelease, l)
  tried : ∀ t s site l', l.isOutermost t = true →
    l.serve (.tryAcquire t s site) = some (.ok true, l') →
      l'.base.stats = l.base.stats.change (.count false)
  renewed : ∀ description x, l.serve (.renew description) = some x →
    x = (.ok true, .fresh m.isRecursive description (.fresh m.threshold))

end LockMachine

namespace AnyLock

variable {l l' : AnyLock} {r : RecursiveLock} {t : ThreadId} {s : Settings} {site : Site}

/-- The owner of a recursive lock acquires it once more, and nothing changes but the depth. -/
theorem serve_of_isOwnedBy (ho : r.isOwnedBy t = true) (hd : r.depth + 1 < UInt64.size)
    (delay : UInt64) (slept : Bool) :
  (recursive r).serve (.acquire t s site delay slept) = some (.ok true, .recursive r.reenter)
    ∧ (recursive r).serve (.tryAcquire t s site) = some (.ok true, .recursive r.reenter)
  := by
  constructor
  · simp [serve, blocks, ho, hd, acquireBy, RecursiveLock.acquireBy, settle]
  · simp [serve, tryAcquire, RecursiveLock.tryAcquire, ho, hd, settle]

/-- The release of a recursive lock that nobody has acquired is a fault and changes nothing. -/
theorem serve_release_of_depth_eq_zero (hd : r.depth = 0) :
  (recursive r).serve (.release t) = some (.error .unownedRelease, .recursive r)
  := by
  simp [serve, Session.mayRelease, hd, release, RecursiveLock.release]
  rfl

/-- An acquisition that passes its checks makes the lock the one it leads to. -/
theorem eq_of_settle {next : AnyLock} {b : Bool} (h : (settle t next).on l = (.ok b, l')) :
  b = true ∧ l' = next
  := by
  cases l with
  | plain l =>
      cases h
      exact ⟨rfl, rfl⟩
  | recursive r =>
      by_cases ho : r.isOwnedBy t = true
      · by_cases hd : r.depth + 1 < UInt64.size
        · simp [settle, ho, hd] at h
          exact ⟨h.1, h.2.symm⟩
        · simp [settle, ho, hd] at h
      · by_cases hd : r.depth = 0
        · simp [settle, ho, hd] at h
          exact ⟨h.1, h.2.symm⟩
        · simp [settle, ho, hd] at h

/-- An acquisition without delay counts as uncontended, whatever the threshold is. -/
theorem record_zero (stats : LockStats) :
  stats.record s 0 = stats.change (.count false)
  := by
  cases stats with
  | off => rfl
  | on threshold c => simp [LockStats.record, LockStats.change, Counters.record, Counters.count]

theorem stats_of_inner {k k' : Lock} (h : k.tryAcquire s site = (true, k')) :
  k'.stats = k.stats.change (.count false)
  := by
  have hw := (Lock.acquires_of_tryAcquire h).word_eq_free
  rw [Lock.tryAcquire_of_free _ _ hw] at h
  cases h
  apply record_zero

theorem stats_of_tryAcquire (ho : l.isOutermost t = true)
    (h : l.tryAcquire s site t = (true, l')) :
  l'.base.stats = l.base.stats.change (.count false)
  := by
  cases l with
  | plain k =>
      rcases hk : k.tryAcquire s site with ⟨won, k'⟩
      simp only [tryAcquire, hk, Prod.mk.injEq] at h
      obtain ⟨rfl, rfl⟩ := h
      apply stats_of_inner hk
  | recursive r =>
      have ho' : r.isOwnedBy t = false := by simpa [isOutermost] using ho
      rcases hk : r.lock.tryAcquire s site with ⟨_ | _, k'⟩
      · simp [tryAcquire, RecursiveLock.tryAcquire, ho', hk] at h
      · simp [tryAcquire, RecursiveLock.tryAcquire, ho', hk] at h
        rw [← h]
        apply stats_of_inner hk

/-- An outermost acquisition of a call that does not block counts as uncontended. -/
theorem stats_of_serve (ho : l.isOutermost t = true)
    (h : l.serve (.tryAcquire t s site) = some (.ok true, l')) :
  l'.base.stats = l.base.stats.change (.count false)
  := by
  rw [serve] at h
  split at h
  · rename_i next hn
    obtain ⟨-, rfl⟩ := eq_of_settle (Option.some.inj h)
    apply stats_of_tryAcquire ho hn
  · cases h

end AnyLock

namespace LockMachine

variable {m : LockMachine}

theorem Shows.framed {l : AnyLock} (h : Shows l m) :
  Framed l m
  where
  again r t hl ho hd s site delay slept := by
    subst hl
    apply AnyLock.serve_of_isOwnedBy ho hd
  refused q x hx := by
    have agrees := h.serve q
    rw [hx] at agrees
    generalize m.next q = y at agrees
    cases agrees with
    | some a => apply a.kept
  unowned r t hl hd := by
    subst hl
    apply AnyLock.serve_release_of_depth_eq_zero hd
  tried t s site l' ho hl := AnyLock.stats_of_serve ho hl
  renewed description x hx := by
    obtain ⟨w, f, rfl⟩ := h
    rw [AnyLock.serve, renew_lock, lock_fresh] at hx
    split at hx
    · exact (Option.some.inj hx).symm
    · cases hx

/-- A lock that nobody has acquired, plain or recursive, and its machine: whatever they are asked
for one after the other, either both go on to the end or none does, they return the same, and what
can be seen of the lock is what the machine keeps. -/
theorem refinement (isRecursive : Bool) (description : String) (threshold : Option UInt64)
    (qs : List LockRequest) :
  Option.Rel (fun x y => x.1 = y.1 ∧ Observed x.2 y.2 ∧ Framed x.2 y.2)
    (AnyLock.serveEach qs (.fresh isRecursive description (.fresh threshold)))
    (nextEach qs (fresh isRecursive description threshold))
  := by
  have shows : Shows (.fresh isRecursive description (.fresh threshold))
      (fresh isRecursive description threshold) := ⟨.free, fits_fresh, lock_fresh.symm⟩
  have agrees := shows.serveEach qs
  generalize AnyLock.serveEach qs _ = x at agrees
  generalize nextEach qs _ = y at agrees
  cases agrees with
  | none => apply Option.Rel.none
  | some a => exact .some ⟨a.1, a.2.observed, a.2.framed⟩

/-- Thread 1 acquires a lock twice without waiting, thread 2 fails to, thread 1 releases the lock
once too often, and the lock is made a fresh one. -/
example :
  (AnyLock.serveEach
    [.tryAcquire 1 {} ⟨"A", "", 1, 1⟩, .acquire 1 {} ⟨"B", "", 2, 1⟩ 900 false,
      .tryAcquire 2 {} ⟨"C", "", 3, 1⟩, .release 1, .release 1, .release 1, .renew "new"]
    (.fresh true "old" (.fresh none))).map Prod.fst
    = some [.ok true, .ok true, .ok false, .ok true, .ok true, .error .unownedRelease, .ok true]
  := by
  rfl

end LockMachine

end SyncLayer
