import SyncLayer.Proofs.Lock.Refinement

/-!
# The locks of a session

What a step of a session on a lock asks of it, and that the step returns what the lock returns and
leaves in the lock's place what the lock leaves. A step that the lock does not serve is refused. So
the locks of a session go as their machines do, as long as a depth is one that fits in a word.
-/

namespace SyncLayer.Session

/-- What a step of a thread asks of a lock. -/
def request? (t : ThreadId) (slept : Bool) (s : Settings) (l : TimedLock) :
  ItemStep → Option LockRequest
  | .acquire site => some (.acquire t s site (l.delays.next slept).1 slept)
  | .tryAcquire site => some (.tryAcquire t s site)
  | .release => some (.release t)
  | .resetStats => some .resetStats
  | _ => none

/-- How a step on a lock ends by what the lock returns. -/
def answered (step : ItemStep) (r : Except Fault Bool) : Except Stop Outcome :=
  match step, r with
  | _, .error f => .error (.fault f)
  | .tryAcquire _, .ok won => .ok (.truth won)
  | _, .ok _ => .ok .ok

variable {w : World Outcome} {t : ThreadId} {place : Nat} {s : Settings} {site : Site}
  {slept : Bool} {l : TimedLock} {m : LockMachine} {step : ItemStep} {q : LockRequest}
  {x : Except Fault Bool × AnyLock}

/-! ### Steps on what stands in a place -/

theorem get_run {α : Type} {f : World Outcome → Deed Outcome α} :
  (get >>= f).run.run w = (f w).run.run w
  := rfl

theorem map_run {α β : Type} {d : Deed Outcome α} {f : α → β} :
  (f <$> d).run.run w = ((d.run.run w).1.map f, (d.run.run w).2)
  := by
  rw [ExceptT.run_map, StateT.run_map]
  rfl

theorem acquire_run (h : w.locks[place]? = some l) :
  (acquire t place site slept).run.run w
    = if l.lock.blocks t then (.error (.refused .precondition), w)
      else (.ok (), w.changeLock place (TimedLock.acquire w.settings site slept t))
  := by
  rw [acquire, get_run, h]
  cases hb : l.lock.blocks t with
  | true =>
      simp only [hb]
      rfl
  | false =>
      simp only [hb]
      rfl

theorem tryAcquire_run (h : w.locks[place]? = some l) :
  (tryAcquire t place site).run.run w
    = (.ok (l.lock.tryAcquire w.settings site t).1,
      w.changeLock place (fun k => { k with lock := (l.lock.tryAcquire w.settings site t).2 }))
  := by
  rw [tryAcquire, get_run, h]
  rfl

theorem attemptLock_run (h : w.locks[place]? = some l) {a : Attempt AnyLock Unit} :
  (attemptLock place a).run.run w
    = ((a.on l.lock).1.mapError .fault,
      w.changeLock place (fun k => { k with lock := (a.on l.lock).2 }))
  := by
  rw [attemptLock, get_run, h]
  rfl

theorem release_run (h : w.locks[place]? = some l) :
  (release t place).run.run w
    = if mayRelease t l.lock then (attemptLock place AnyLock.release).run.run w
      else (.error (.refused .precondition), w)
  := by
  rw [release, get_run, h]
  cases hm : mayRelease t l.lock with
  | true => simp only [hm, if_true]
  | false =>
      simp only [hm]
      rfl

/-! ### Steps on locks -/

/-- An acquisition of a session is one of its lock, after the delay that comes next. -/
theorem lock_acquire :
  (l.acquire s site slept t).lock
    = l.lock.acquireBy (Lock.acquireAfter slept s (l.delays.next slept).1 site) t
  := by
  obtain ⟨l, delays⟩ := l
  cases l with
  | plain l => cases slept <;> simp [TimedLock.acquire, AnyLock.isOutermost, Lock.acquireAfter]
  | recursive r =>
      by_cases ho : r.isOwnedBy t = true
      · simp [TimedLock.acquire, AnyLock.isOutermost, AnyLock.acquireBy, RecursiveLock.acquireBy,
          ho]
      · cases slept <;> simp [TimedLock.acquire, AnyLock.isOutermost, Lock.acquireAfter, ho]

/-- A lock whose depth fits in a word is acquired without a fault. -/
theorem ok_of_fits {y : Except Fault Bool × LockMachine} (fits : m.tenure.depth + 1 < UInt64.size)
    (hq : ∀ u, q ≠ .release u) (hy : m.next q = some y) :
  ∃ b, y.1 = .ok b
  := by
  have again (owner : ThreadId) (n : Nat) (hm : m.tenure = .locked owner n) :
      (m.reenter owner n).1 = .ok true := by
    rw [hm, Tenure.depth_locked] at fits
    rw [LockMachine.reenter, if_pos fits]
  cases q with
  | acquire u s site delay slept =>
      cases hm : m.tenure with
      | unlocked =>
          simp only [LockMachine.next, hm] at hy
          cases hy
          exact ⟨_, rfl⟩
      | locked owner n =>
          simp only [LockMachine.next, hm] at hy
          split at hy
          · cases hy
            exact ⟨_, again owner n hm⟩
          · cases hy
  | tryAcquire u s site =>
      cases hm : m.tenure with
      | unlocked =>
          simp only [LockMachine.next, hm] at hy
          cases hy
          exact ⟨_, rfl⟩
      | locked owner n =>
          simp only [LockMachine.next, hm] at hy
          split at hy
          · cases hy
            exact ⟨_, again owner n hm⟩
          · cases hy
            exact ⟨_, rfl⟩
  | release u => cases hq u rfl
  | resetStats =>
      cases hy
      exact ⟨_, rfl⟩
  | renew description =>
      rw [LockMachine.next] at hy
      split at hy
      · cases hy
        exact ⟨_, rfl⟩
      · cases hy

/-- So is the lock that stands for it. -/
theorem served_of_fits (hm : LockMachine.Shows l.lock m) (fits : m.tenure.depth + 1 < UInt64.size)
    (hq : ∀ u, q ≠ .release u) (hx : l.lock.serve q = some x) :
  ∃ b, x.1 = .ok b
  := by
  have agrees := hm.serve q
  rw [hx] at agrees
  generalize hy : m.next q = y at agrees
  cases agrees with
  | some a =>
      rw [a.returned]
      apply ok_of_fits fits hq hy

theorem eq_of_serve_acquire (hm : LockMachine.Shows l.lock m)
    (fits : m.tenure.depth + 1 < UInt64.size)
    (hx : l.lock.serve (.acquire t s site (l.delays.next slept).1 slept) = some x) :
  l.lock.blocks t = false ∧ x = (.ok true, (l.acquire s site slept t).lock)
  := by
  obtain ⟨b, hb⟩ := served_of_fits hm fits (by simp) hx
  obtain ⟨r, k⟩ := x
  obtain rfl : r = .ok b := hb
  rw [AnyLock.serve] at hx
  split at hx
  · cases hx
  · rename_i hb
    rw [Option.some.injEq, ← lock_acquire] at hx
    obtain ⟨rfl, rfl⟩ := AnyLock.eq_of_settle hx
    exact ⟨by simpa using hb, rfl⟩

theorem eq_of_serve_tryAcquire (hm : LockMachine.Shows l.lock m)
    (fits : m.tenure.depth + 1 < UInt64.size)
    (hx : l.lock.serve (.tryAcquire t s site) = some x) :
  x = (.ok (l.lock.tryAcquire s site t).1, (l.lock.tryAcquire s site t).2)
  := by
  obtain ⟨b, hb⟩ := served_of_fits hm fits (by simp) hx
  obtain ⟨r, k⟩ := x
  obtain rfl : r = .ok b := hb
  rw [AnyLock.serve] at hx
  split at hx
  · rename_i next hn
    obtain ⟨rfl, rfl⟩ := AnyLock.eq_of_settle (Option.some.inj hx)
    rw [hn]
  · rename_i next hn
    cases hx
    rw [hn]

/-! ### Steps on locks as requests -/

theorem lockStep_acquire (h : w.locks[place]? = some l) :
  (lockStep t slept place (.acquire site)).run.run w
    = ((fun _ => Outcome.ok) <$> acquire t place site slept).run.run w
  := by
  rw [lockStep, get_run, h]
  rfl

theorem lockStep_tryAcquire (h : w.locks[place]? = some l) :
  (lockStep t slept place (.tryAcquire site)).run.run w
    = (Outcome.truth <$> tryAcquire t place site).run.run w
  := by
  rw [lockStep, get_run, h]
  rfl

theorem lockStep_release (h : w.locks[place]? = some l) :
  (lockStep t slept place .release).run.run w
    = ((fun _ => Outcome.ok) <$> release t place).run.run w
  := by
  rw [lockStep, get_run, h]
  rfl

theorem lockStep_resetStats (h : w.locks[place]? = some l) :
  (lockStep t slept place .resetStats).run.run w
    = (.ok .ok, w.changeLock place (TimedLock.mapBase Lock.resetStats))
  := by
  rw [lockStep, get_run, h]
  rfl

/-- A step that a lock serves returns what the lock returns, and leaves in the lock's place what the
lock leaves. -/
theorem lockStep_serves (h : w.locks[place]? = some l) (hm : LockMachine.Shows l.lock m)
    (fits : m.tenure.depth + 1 < UInt64.size) (hq : request? t slept w.settings l step = some q)
    (hx : l.lock.serve q = some x) :
  ∃ f : TimedLock → TimedLock, (f l).lock = x.2
    ∧ (lockStep t slept place step).run.run w = (answered step x.1, w.changeLock place f)
  := by
  cases step with
  | acquire site =>
      cases hq
      obtain ⟨hb, rfl⟩ := eq_of_serve_acquire hm fits hx
      refine ⟨TimedLock.acquire w.settings site slept t, rfl, ?_⟩
      rw [lockStep_acquire h, map_run, acquire_run h, hb]
      rfl
  | tryAcquire site =>
      cases hq
      obtain rfl := eq_of_serve_tryAcquire hm fits hx
      refine ⟨fun k => { k with lock := (l.lock.tryAcquire w.settings site t).2 }, rfl, ?_⟩
      rw [lockStep_tryAcquire h, map_run, tryAcquire_run h]
      rfl
  | release =>
      cases hq
      rw [AnyLock.serve] at hx
      split at hx
      · rename_i hr
        rcases hl : AnyLock.release.on l.lock with ⟨r, k⟩
        rw [hl] at hx
        cases hx
        refine ⟨fun l => { l with lock := k }, rfl, ?_⟩
        rw [lockStep_release h, map_run, release_run h, if_pos hr, attemptLock_run h, hl]
        cases r <;> rfl
      · cases hx
  | resetStats =>
      cases hq
      cases hx
      exact ⟨_, rfl, lockStep_resetStats h⟩
  | _ => cases hq

/-- A step that a lock does not serve is refused and changes nothing. -/
theorem lockStep_refuses (h : w.locks[place]? = some l)
    (hq : request? t slept w.settings l step = some q) (hx : l.lock.serve q = none) :
  (lockStep t slept place step).run.run w = (.error (.refused .precondition), w)
  := by
  cases step with
  | acquire site =>
      cases hq
      rw [AnyLock.serve] at hx
      split at hx
      · rename_i hb
        rw [lockStep_acquire h, map_run, acquire_run h, if_pos hb]
        rfl
      · cases hx
  | release =>
      cases hq
      rw [AnyLock.serve] at hx
      split at hx
      · cases hx
      · rename_i hr
        rw [lockStep_release h, map_run, release_run h, if_neg hr]
        rfl
  | tryAcquire site =>
      cases hq
      rw [AnyLock.serve] at hx
      split at hx
      · cases hx
      · cases hx
  | resetStats =>
      cases hq
      cases hx
  | _ => cases hq

/-! ### Guards -/

/-- A guard acquires its lock as the step does that acquires one. -/
theorem lockStep_guard (h : w.locks[place]? = some l) :
  ((lockStep t slept place (.guard site)).run.run w).1
      = ((lockStep t slept place (.acquire site)).run.run w).1
    ∧ ((lockStep t slept place (.guard site)).run.run w).2.locks
      = ((lockStep t slept place (.acquire site)).run.run w).2.locks
  := by
  have guard : (lockStep t slept place (.guard site)).run.run w
      = (acquire t place site slept >>= fun _ =>
          (fun _ => Outcome.ok) <$> keepGuard t (.lock place)).run.run w := by
    rw [lockStep, get_run, h]
    rfl
  rw [guard, lockStep_acquire h, map_run]
  simp only [ExceptT.run_bind, StateT.run_bind, acquire_run h]
  cases hb : l.lock.blocks t with
  | true => exact ⟨rfl, rfl⟩
  | false => exact ⟨rfl, rfl⟩

theorem takeGuard_run {g : Guard} (hg : g ∈ (w.thread t).guards) :
  (takeGuard t g).run.run w
    = (.ok (), w.setThread t { w.thread t with guards := (w.thread t).guards.erase g })
  := by
  rw [takeGuard, get_run, if_pos hg]
  rfl

/-- A guard that is dropped gives its lock back as the step does that releases one. -/
theorem lockStep_dropGuard (h : w.locks[place]? = some l) (hg : .lock place ∈ (w.thread t).guards)
    (hr : mayRelease t l.lock = true) :
  ((lockStep t slept place .dropGuard).run.run w).1
      = ((lockStep t slept place .release).run.run w).1
    ∧ ((lockStep t slept place .dropGuard).run.run w).2.locks
      = ((lockStep t slept place .release).run.run w).2.locks
  := by
  have taken := takeGuard_run hg
  generalize hv :
    w.setThread t { w.thread t with guards := (w.thread t).guards.erase (.lock place) } = v at taken
  have hl : v.locks = w.locks := by
    rw [← hv]
    rfl
  have dropped : (lockStep t slept place .dropGuard).run.run w
      = ((fun _ => Outcome.ok) <$> attemptLock place AnyLock.release).run.run v := by
    have guard : (lockStep t slept place .dropGuard).run.run w
        = (takeGuard t (.lock place) >>= fun _ =>
            (fun _ => Outcome.ok) <$> attemptLock place AnyLock.release).run.run w := by
      rw [lockStep, get_run, h]
      rfl
    rw [guard, ExceptT.run_bind, StateT.run_bind, taken]
    rfl
  rw [dropped, lockStep_release h, map_run, map_run, release_run h, if_pos hr, attemptLock_run h,
    attemptLock_run (hl ▸ h)]
  refine ⟨rfl, ?_⟩
  simp [World.changeLock, hl]

end SyncLayer.Session
