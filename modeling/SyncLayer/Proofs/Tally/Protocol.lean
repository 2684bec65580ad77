import SyncLayer.Tally.Recorder
import SyncLayer.Proofs.System

/-!
# The protocol of tallies

Any threads count operations in shadows and merge these into the totals that they share. A step of
a thread is the start of a call with what the thread does there by itself, or one access to the
totals, or the end of a merge. A thread makes one call at a time, and it may change the interval at
which the others merge their shadows.
-/

namespace SyncLayer

/-- What the threads share, and the threads that keep tallies. -/
structure TallyState where
  board : TallyBoard := {}
  threads : ThreadId → Recorder := fun _ => {}

namespace Tally

variable {t : Tally} {c : UInt64}

/-- An operation is counted as long as the number of the operations fits. -/
theorem record_on (h : t.operations.toNat + 1 < UInt64.size) :
  (record c).on t = (.ok (), { operations := t.operations + 1, cycles := t.cycles + c })
  := by
  simp [record, h]

/-- An operation too many is a fault, behind which its cycles are there. -/
theorem record_on_of_not_lt (h : ¬ t.operations.toNat + 1 < UInt64.size) :
  (record c).on t = (.error .additionOverflow, { t with cycles := t.cycles + c })
  := by
  simp [record, h]

/-- A tally with an operation is not empty. -/
theorem isEmpty_succ (h : t.operations.toNat + 1 < UInt64.size) :
  isEmpty { operations := t.operations + 1, cycles := c } = false
  := by
  have hn : (t.operations + 1).toNat = t.operations.toNat + 1 := by
    rw [UInt64.toNat_add]
    apply Nat.mod_eq_of_lt h
  have hz : t.operations + 1 ≠ 0 := by
    intro hz
    rw [hz] at hn
    cases hn
  simp [isEmpty, hz]

end Tally

namespace Merging

variable {m : Merging} {interval c : UInt64} {u : Tally}

/-- An operation is counted in the shadow, which is merged if it is full. -/
theorem record_on (h : m.shadow.operations.toNat + 1 < UInt64.size)
    (hu : u = { operations := m.shadow.operations + 1, cycles := m.shadow.cycles + c }) :
  (record interval c).on m
    = (.ok (), if interval ≠ 0 ∧ interval ≤ u.operations then flush { m with shadow := u }
        else { m with shadow := u })
  := by
  subst hu
  simp [record, Tally.record_on h, Attempt.ofExcept]

end Merging

/-! ### The steps of a thread, one by one -/

/-- The steps of a thread, one by one: it counts an operation for which it has no shadow; it counts
one in a shadow; it counts one that makes it merge its own shadow; it fails to count one; it starts
to merge a shadow; it has nothing to merge; it makes a shadow; it sets the interval; it takes the
operations; it adds the cycles of what it merges, adds the operations, and empties it; and it takes
the cycles. -/
inductive Recorder.Turn (b : TallyBoard) (x : Recorder) :
  TallyEvent → TallyBoard → Recorder → Prop
  | direct {c : UInt64} (hp : x.phase = .outside) (ho : x.own = none) :
      Turn b x (.records .direct c) b
        (x.enter (.adding .direct { operations := 1, cycles := c }))
  | record {p : ShadowPlace} {c : UInt64} {u : Tally} (hp : x.phase = .outside)
      (hu : x.shadow? p = some u) (hn : u.operations.toNat + 1 < UInt64.size) :
      Turn b x (.records (.shadow p) c) b
        (x.put { operations := u.operations + 1, cycles := u.cycles + c } p)
  | recordFull {c : UInt64} {u : Tally} (hp : x.phase = .outside) (hu : x.own = some u)
      (hn : u.operations.toNat + 1 < UInt64.size) :
      Turn b x (.records (.shadow .own) c) b
        (x.enter (.adding (.shadow .own)
          { operations := u.operations + 1, cycles := u.cycles + c }))
  | fault {p : ShadowPlace} {u : Tally} {x' : Recorder} (hu : x.shadow? p = some u)
      (hn : ¬ u.operations.toNat + 1 < UInt64.size) :
      Turn b x (.faults .additionOverflow) b x'
  | merge {o : MergeOrigin} {p : ShadowPlace} {u : Tally} (hp : x.phase = .outside)
      (ho : o.place = some p) (hu : x.shadow? p = some u) :
      Turn b x (.merges o) b (x.merging o u)
  | pass (hp : x.phase = .outside) : Turn b x .passes b x
  | make (hp : x.phase = .outside) :
      Turn b x .makes b { x with separate := x.separate ++ [.zero] }
  | set {n : UInt64} (hp : x.phase = .outside) : Turn b x (.sets n) { b with interval := n } x
  | swap {kept : Bool} (hp : x.phase = .outside) :
      Turn b x .swaps { b with totals := { b.totals with operations := 0 } }
        (x.enter (.taking kept b.totals.operations))
  | add {o : MergeOrigin} {u : Tally} (hp : x.phase = .adding o u) :
      Turn b x .adds { b with totals := { b.totals with cycles := b.totals.cycles + u.cycles } }
        (x.enter (.counting o u.operations))
  | count {o : MergeOrigin} {n : UInt64} (hp : x.phase = .counting o n) :
      Turn b x .adds { b with totals := { b.totals with operations := b.totals.operations + n } }
        (x.enter (.closing o))
  | close {o : MergeOrigin} (hp : x.phase = .closing o) :
      Turn b x (.closes o) b ((x.forget o).enter .outside)
  | take {kept : Bool} {n : UInt64} (hp : x.phase = .taking kept n) :
      Turn b x (.takes kept { operations := n, cycles := b.totals.cycles })
        { b with totals := { b.totals with cycles := 0 } } (x.enter .outside)

namespace Recorder

/-- Where a thread stands says nothing about its shadows. -/
@[simp]
theorem forget_enter {x : Recorder} {p q : RecorderPhase} {o : MergeOrigin} :
  ((x.enter p).forget o).enter q = (x.forget o).enter q
  := by
  cases o with
  | shadow p => cases p <;> rfl
  | ending => rfl
  | direct => rfl

variable {b b' : TallyBoard} {x x' : Recorder} {e : TallyEvent} {c : TallyCall}

/-- The start of a call is one of the steps. -/
theorem Turn.of_call (hp : x.phase = .outside) (h : x.call b c = some (e, b', x')) :
  Turn b x e b' x'
  := by
  cases c with
  | record c =>
      rw [call] at h
      split at h
      · rename_i ho
        cases h
        apply direct hp ho
      · rename_i u hu
        by_cases hn : u.operations.toNat + 1 < UInt64.size
        · rw [Tally.record_on hn] at h
          cases h
          split
          · rw [merging, Tally.isEmpty_succ hn]
            apply recordFull hp hu hn
          · exact record (p := .own) hp hu hn
        · rw [Tally.record_on_of_not_lt hn] at h
          cases h
          exact fault (p := .own) hu hn
  | flush =>
      rw [call] at h
      split at h
      · cases h
        apply pass hp
      · rename_i u hu
        cases h
        exact merge (p := .own) hp rfl hu
  | exit =>
      obtain ⟨u, hu, h⟩ := Option.map_eq_some_iff.mp h
      cases h
      exact merge (p := .own) hp rfl hu
  | make =>
      cases h
      apply make hp
  | recordSeparate i c =>
      obtain ⟨u, hu, h⟩ := Option.map_eq_some_iff.mp h
      by_cases hn : u.operations.toNat + 1 < UInt64.size
      · rw [Tally.record_on hn] at h
        cases h
        exact record (p := .separate i) hp hu hn
      · rw [Tally.record_on_of_not_lt hn] at h
        cases h
        exact fault (p := .separate i) hu hn
  | mergeSeparate i =>
      obtain ⟨u, hu, h⟩ := Option.map_eq_some_iff.mp h
      cases h
      exact merge (p := .separate i) hp rfl hu
  | take kept =>
      cases h
      apply swap hp
  | setInterval n =>
      cases h
      apply set hp

/-- What a thread in a call does next is one of the steps. -/
theorem Turn.of_access (h : x.access b = some (e, b', x')) :
  Turn b x e b' x'
  := by
  cases hp : x.phase with
  | outside => simp [access, hp] at h
  | adding o u =>
      simp only [access, hp] at h
      cases h
      apply add hp
  | counting o n =>
      simp only [access, hp] at h
      cases h
      apply count hp
  | closing o =>
      simp only [access, hp] at h
      cases h
      apply close hp
  | taking kept n =>
      simp only [access, hp] at h
      cases h
      apply take hp

end Recorder

namespace TallyState

/-- Where a thread stands. -/
def phase (s : TallyState) (t : ThreadId) : RecorderPhase :=
  (s.threads t).phase

/-- The state with something else that the threads share and another thread in the place of
one. -/
def set (s : TallyState) (t : ThreadId) (b : TallyBoard) (x : Recorder) : TallyState :=
  { board := b, threads := Function.update s.threads t x }

/-- The steps of a thread. -/
inductive Step : TallyState → ThreadId → TallyEvent → TallyState → Prop
  | call {s : TallyState} {t : ThreadId} {c : TallyCall} {e : TallyEvent} {b : TallyBoard}
      {x : Recorder} (hp : s.phase t = .outside)
      (h : (s.threads t).call s.board c = some (e, b, x)) :
      Step s t e (s.set t b x)
  | access {s : TallyState} {t : ThreadId} {e : TallyEvent} {b : TallyBoard} {x : Recorder}
      (h : (s.threads t).access s.board = some (e, b, x)) :
      Step s t e (s.set t b x)

/-- The threads around totals that are zero at first, with any interval. -/
def system : System TallyState TallyEvent where
  Starts s := ∃ n, s = { board := { interval := n } }
  Step := Step

variable {s s' : TallyState} {t u : ThreadId} {b b' : TallyBoard} {x x' : Recorder}
  {e : TallyEvent}

@[simp]
theorem board_set :
  (s.set t b x).board = b
  := rfl

theorem threads_set :
  (s.set t b x).threads u = if u = t then x else s.threads u
  := Function.update_apply s.threads t x u

theorem set_set :
  (s.set t b x).set t b' x' = s.set t b' x'
  := by
  simp [set]

/-- A step changes what the threads share and one thread. -/
theorem Step.turn (k : Step s t e s') :
  ∃ b x, s' = s.set t b x ∧ (s.threads t).Turn s.board e b x
  := by
  cases k with
  | call hp h => exact ⟨_, _, rfl, .of_call hp h⟩
  | access h => exact ⟨_, _, rfl, .of_access h⟩

/-! ### Calls that nobody interrupts -/

/-- A thread's own shadow and the totals. -/
def merging (s : TallyState) (t : ThreadId) : Merging :=
  { shadow := (s.threads t).own.getD .zero, totals := s.board.totals }

/-- A thread goes on from where it stands. -/
theorem step_set (h : x.access b = some (e, b', x')) :
  Step (s.set t b x) t e (s.set t b' x')
  := by
  have k := Step.access (s := s.set t b x) (t := t) (e := e) (b := b') (x := x')
    (by rw [threads_set, if_pos rfl]; exact h)
  rw [set_set] at k
  exact k

/-- A merge that has been started adds the tally to the totals and empties what is merged. -/
theorem path_merging {o : MergeOrigin} {v : Tally} :
  ∃ h, system.Path (s.set t b (x.merging o v)) h
    (s.set t { b with totals := (Merging.flush { shadow := v, totals := b.totals }).totals }
      ((x.forget o).enter .outside))
  := by
  have close : ∀ b, Step (s.set t b (x.enter (.closing o))) t (.closes o)
      (s.set t b ((x.forget o).enter .outside)) := by
    intro b
    apply step_set
    rw [← Recorder.forget_enter]
    rfl
  by_cases hv : v.isEmpty = true
  · rw [Recorder.merging, Merging.flush, if_pos hv, if_pos hv]
    exact ⟨_, .single (close b)⟩
  · rw [Recorder.merging, Merging.flush, if_neg hv, if_neg hv]
    have add : Step (s.set t b (x.enter (.adding o v))) t .adds
        (s.set t { b with totals := { b.totals with cycles := b.totals.cycles + v.cycles } }
          (x.enter (.counting o v.operations))) := step_set rfl
    have count : Step
        (s.set t { b with totals := { b.totals with cycles := b.totals.cycles + v.cycles } }
          (x.enter (.counting o v.operations))) t .adds
        (s.set t { b with totals := b.totals.add v } (x.enter (.closing o))) := step_set rfl
    exact ⟨_, ((System.Path.single add).step count).step (close _)⟩

/-- A thread that merges its own shadow leaves what the merge as a whole leaves. -/
theorem path_flush (hp : s.phase t = .outside) (ho : (s.threads t).own ≠ none) :
  ∃ h s', system.Path s h s' ∧ s'.phase t = .outside ∧ s'.merging t = (s.merging t).flush
  := by
  obtain ⟨v, hv⟩ := Option.ne_none_iff_exists'.mp ho
  have k : Step s t (.merges (.shadow .own))
      (s.set t s.board ((s.threads t).merging (.shadow .own) v)) := by
    apply Step.call (c := .flush) hp
    rw [Recorder.call, hv]
  obtain ⟨h, p⟩ := path_merging (s := s) (t := t) (b := s.board) (x := s.threads t)
    (o := .shadow .own) (v := v)
  refine ⟨_, _, (System.Path.single k).trans p, ?_, ?_⟩
  · rw [phase, threads_set, if_pos rfl]
    rfl
  · simp [merging, threads_set, Recorder.enter, Recorder.forget, Recorder.put, Merging.flush, hv]

/-- A thread that counts an operation leaves what counting it as a whole leaves, if the number of
its operations fits. -/
theorem path_record {u : Tally} {c : UInt64} (hp : s.phase t = .outside)
    (hu : (s.threads t).own = some u) (hn : u.operations.toNat + 1 < UInt64.size) :
  ∃ h s', system.Path s h s' ∧ s'.phase t = .outside
    ∧ (Merging.record s.board.interval c).on (s.merging t) = (.ok (), s'.merging t)
  := by
  rw [Merging.record_on (m := s.merging t) (by simpa [merging, hu] using hn) rfl]
  simp only [merging, hu, Option.getD_some]
  set v : Tally := { operations := u.operations + 1, cycles := u.cycles + c } with hv
  have k : Step s t (.records (.shadow .own) c)
      (s.set t s.board
        (if s.board.interval ≠ 0 ∧ s.board.interval ≤ v.operations
          then (s.threads t).merging (.shadow .own) v else (s.threads t).put v .own)) := by
    apply Step.call (c := .record c) hp
    rw [Recorder.call, hu]
    simp only [Tally.record_on hn]
    rfl
  by_cases hi : s.board.interval ≠ 0 ∧ s.board.interval ≤ v.operations
  · rw [if_pos hi] at k ⊢
    obtain ⟨h, p⟩ := path_merging (s := s) (t := t) (b := s.board) (x := s.threads t)
      (o := .shadow .own) (v := v)
    refine ⟨_, _, (System.Path.single k).trans p, ?_, ?_⟩
    · rw [phase, threads_set, if_pos rfl]
      rfl
    · simp [threads_set, Recorder.enter, Recorder.forget, Recorder.put, Merging.flush]
  · rw [if_neg hi] at k ⊢
    refine ⟨_, _, .single k, ?_, ?_⟩
    · rw [phase, threads_set, if_pos rfl]
      exact hp
    · simp [threads_set, Recorder.put]

end TallyState

end SyncLayer
