import SyncLayer.Proofs.Output.Sink
import SyncLayer.Registry
import Mathlib.Data.List.Induction
import Mathlib.Data.List.Nodup

/-!
# What is left when reports cannot be written

The registered locks are reported in turn, and each is reset when its report is written. If the
reports cannot all be written, then the bytes that were written are the beginning of all of them,
and the locks that were reset are those whose reports lie in these bytes.
-/

namespace SyncLayer

/-! ### Registered locks -/

/-- The registry behind calls that registered locks. -/
def registered (calls : List Nat) : List Nat :=
  calls.foldl (fun registry lock => registerLock lock registry) []

variable {calls : List Nat} {lock l : Nat}

theorem registered_concat (calls : List Nat) (lock : Nat) :
  registered (calls ++ [lock]) = registerLock lock (registered calls)
  := by
  rw [registered, List.foldl_append]
  rfl

theorem mem_registerLock {registry : List Nat} :
  l ∈ registerLock lock registry ↔ l ∈ registry ∨ l = lock
  := by
  rw [registerLock]
  split
  · rename_i h
    constructor
    · apply Or.inl
    · rintro (hl | rfl)
      · exact hl
      · exact h
  · rw [List.mem_append, List.mem_singleton]

/-- The registry holds the locks that were registered. -/
theorem mem_registered :
  l ∈ registered calls ↔ l ∈ calls
  := by
  induction calls using List.reverseRecOn with
  | nil => rfl
  | append_singleton calls lock ih =>
      rw [registered_concat, mem_registerLock, ih, List.mem_append, List.mem_singleton]

/-- The registry holds the locks in the order of their first registrations. -/
theorem pairwise_registered :
  (registered calls).Pairwise (fun a b => calls.idxOf a < calls.idxOf b)
  := by
  induction calls using List.reverseRecOn with
  | nil => apply List.Pairwise.nil
  | append_singleton calls lock ih =>
      have old : (registered calls).Pairwise
          (fun a b => (calls ++ [lock]).idxOf a < (calls ++ [lock]).idxOf b) := by
        apply ih.imp_of_mem
        intro a b ha hb hab
        rw [List.idxOf_append_of_mem (mem_registered.mp ha),
          List.idxOf_append_of_mem (mem_registered.mp hb)]
        exact hab
      rw [registered_concat, registerLock]
      split
      · exact old
      · rename_i hl
        rw [mem_registered] at hl
        apply List.pairwise_append.mpr
        refine ⟨old, List.pairwise_singleton _ _, ?_⟩
        intro a ha b hb
        rw [List.mem_singleton] at hb
        subst hb
        rw [List.idxOf_append_of_mem (mem_registered.mp ha), List.idxOf_append_of_notMem hl]
        apply Nat.lt_add_right
        apply List.idxOf_lt_length_of_mem (mem_registered.mp ha)

/-- Every lock is registered once. -/
theorem nodup_registered :
  (registered calls).Nodup
  := by
  apply pairwise_registered.imp
  rintro a b hab rfl
  apply Nat.lt_irrefl _ hab

/-! ### Reports -/

namespace Counters

variable {s : Settings} {d : String} {c : Counters}

/-- The number of acquisitions fits into its 64 bits. -/
def Fits (c : Counters) : Prop :=
  c.uncontended.toNat + c.contended.toNat < UInt64.size

instance (c : Counters) : Decidable c.Fits :=
  inferInstanceAs (Decidable (_ < _))

/-- There is a report, in either format, if the number of acquisitions fits. -/
theorem exists_formatted (h : c.Fits) :
  ∃ text, c.formatted s d = .ok text
  := by
  have ht : c.total = .ok (c.uncontended + c.contended) := if_pos h
  rw [formatted.eq_def]
  split
  · rw [report, ht]
    exact ⟨_, rfl⟩
  · rw [jsonReport, ht]
    exact ⟨_, rfl⟩

theorem formatted_eq_error (h : ¬ c.Fits) :
  c.formatted s d = .error .additionOverflow
  := by
  have ht : c.total = .error .additionOverflow := if_neg h
  rw [formatted.eq_def]
  split
  · rw [report, ht]
    rfl
  · rw [jsonReport, ht]
    rfl

/-- Without a report nothing is written. -/
theorem write_eq_error {sink : Sink} (h : ¬ c.Fits) :
  (c.write s d).on sink = (.error .additionOverflow, sink)
  := by
  rw [write, formatted_eq_error h]
  rfl

end Counters

namespace LockEntry

variable {s : Settings} {e : LockEntry} {entries rest : List LockEntry} {sink : Sink}

/-- The bytes of the report of a lock, with the line end behind it. -/
def bytes (s : Settings) (e : LockEntry) : List UInt8 :=
  match e.counters.formatted s e.description with
  | .ok text => text.toUTF8.data.toList ++ "\n".toUTF8.data.toList
  | .error _ => []

/-- The bytes of the reports of locks, one behind the other. -/
def reports (s : Settings) (entries : List LockEntry) : List UInt8 :=
  entries.flatMap (bytes s)

theorem bytes_of_formatted {text : String} (h : e.counters.formatted s e.description = .ok text) :
  e.bytes s = text.toUTF8.data.toList ++ "\n".toUTF8.data.toList
  := by
  rw [bytes, h]

@[simp]
theorem reports_cons :
  reports s (e :: entries) = e.bytes s ++ reports s entries
  := List.flatMap_cons

/-- A report is written like all its bytes at once. -/
theorem wrote_bytes (s : Settings) (sink : Sink) (h : e.counters.Fits) :
  ∃ r sink', (e.counters.write s e.description).on sink = (.ok r, sink')
    ∧ sink.Wrote (e.bytes s) r sink'
  := by
  obtain ⟨text, ht⟩ := Counters.exists_formatted (s := s) (d := e.description) h
  have front : sink.Wrote text.toUTF8.data.toList _ _ := Sink.wrote_write
  rw [bytes_of_formatted ht, Counters.write, Attempt.on_bind, ht, Attempt.ofExcept, Attempt.on_pure]
  simp only [Attempt.on_ofRun, Sink.writeText]
  obtain ⟨r, sink', hw⟩ : ∃ r sink', sink.write text.toUTF8.data.toList = (r, sink') := ⟨_, _, rfl⟩
  rw [hw] at front ⊢
  cases r with
  | error er => exact ⟨_, _, rfl, front.append_error⟩
  | ok _ =>
      obtain ⟨room, took⟩ := front.of_ok
      exact ⟨_, _, rfl, took.append room Sink.wrote_write⟩

/-- The entries of which those are reset whose reports lie in the bytes that a sink has room for. -/
def swept (s : Settings) (sink : Sink) (entries : List LockEntry) : List LockEntry :=
  entries.mapIdx (fun i e =>
    if sink.hasRoom (reports s (entries.take (i + 1))).length then e.reset else e)

theorem swept_cons_of_hasRoom {sink' : Sink} (hr : sink.hasRoom (e.bytes s).length = true)
    (k : sink.Took (e.bytes s) sink') :
  swept s sink (e :: entries) = e.reset :: swept s sink' entries
  := by
  rw [swept, List.mapIdx_cons, swept]
  congr 1
  · simp [reports, hr]
  · simp [k.hasRoom hr]

theorem swept_cons_of_not_hasRoom (hr : sink.hasRoom (e.bytes s).length = false) :
  swept s sink (e :: entries) = e :: entries
  := by
  rw [swept]
  apply List.ext_getElem List.length_mapIdx
  intro i _ _
  rw [List.getElem_mapIdx, if_neg]
  intro h
  rw [List.take_succ_cons, reports_cons, List.length_append] at h
  rw [Sink.hasRoom_of_le (Nat.le_add_right _ _) h] at hr
  cases hr

/-- With room for all reports, all entries are reset. -/
theorem swept_of_hasRoom (hr : sink.hasRoom (reports s entries).length = true) :
  swept s sink entries = entries.map reset
  := by
  rw [swept]
  apply List.ext_getElem (by simp)
  intro i _ _
  rw [List.getElem_mapIdx, List.getElem_map, if_pos]
  have hle : (reports s (entries.take (i + 1))).length ≤ (reports s entries).length := by
    conv => right; rw [← List.take_append_drop (i + 1) entries]
    rw [reports, reports, List.flatMap_append, List.length_append]
    apply Nat.le_add_right
  apply Sink.hasRoom_of_le hle hr

/-- If all reports exist they are written like all their bytes at once. Behind them it goes on with
the rest, unless that failed. -/
theorem writeAll_append (s : Settings) (rest : List LockEntry) (sink : Sink)
    (ht : ∀ e ∈ entries, e.counters.Fits) :
  ∃ r sink', sink.Wrote (reports s entries) r sink'
    ∧ writeAll s (entries ++ rest) sink
      = match r with
        | .ok () =>
          ((writeAll s rest sink').1, swept s sink entries ++ (writeAll s rest sink').2.1,
            (writeAll s rest sink').2.2)
        | .error er => (.ok (.error er), swept s sink entries ++ rest, sink')
  := by
  induction entries generalizing sink with
  | nil => exact ⟨_, _, .nil, rfl⟩
  | cons e entries ih =>
      obtain ⟨r, sink₁, hw, k⟩ := wrote_bytes s sink (ht e List.mem_cons_self)
      rw [reports_cons, List.cons_append, writeAll, hw]
      cases r with
      | error er =>
          refine ⟨_, _, k.append_error, ?_⟩
          rw [swept_cons_of_not_hasRoom k.of_error.1]
          rfl
      | ok _ =>
          obtain ⟨room, took⟩ := k.of_ok
          obtain ⟨r, sink', k', hr⟩ := ih sink₁
            (fun x hx => ht x (List.mem_cons_of_mem _ hx))
          refine ⟨_, _, took.append room k', ?_⟩
          rw [swept_cons_of_hasRoom room took]
          simp only [hr]
          cases r <;> rfl

/-- Where a report does not exist, nothing more is written. -/
theorem writeAll_cons_of_not_fits (h : ¬ e.counters.Fits) :
  writeAll s (e :: rest) sink = (.error .additionOverflow, e :: rest, sink)
  := by
  rw [writeAll, Counters.write_eq_error h]

/-- With room for all reports it goes on with the rest, and without it the sink is full and nothing
of the rest is written. -/
theorem writeAll_of_room (s : Settings) (rest : List LockEntry) {B : Nat}
    (hB : sink.room = some B) (ht : ∀ e ∈ entries, e.counters.Fits) :
  ((reports s entries).length ≤ B →
    ∃ sink', sink'.written = sink.written ++ reports s entries
      ∧ writeAll s (entries ++ rest) sink
        = ((writeAll s rest sink').1, entries.map reset ++ (writeAll s rest sink').2.1,
            (writeAll s rest sink').2.2))
  ∧ (B < (reports s entries).length →
    ∃ sink', sink'.written = sink.written ++ (reports s entries).take B
      ∧ writeAll s (entries ++ rest) sink
        = (.ok (.error sink.failure), swept s sink entries ++ rest, sink'))
  := by
  obtain ⟨r, sink', k, hw⟩ := writeAll_append s rest sink ht
  constructor
  · intro hle
    obtain ⟨rfl, written⟩ := k.of_le hB hle
    rw [swept_of_hasRoom k.of_ok.1] at hw
    exact ⟨sink', written, hw⟩
  · intro hlt
    obtain ⟨rfl, written⟩ := k.of_lt hB hlt
    exact ⟨sink', written, hw⟩

theorem swept_of_room {B : Nat} (hB : sink.room = some B) :
  swept s sink entries
    = entries.mapIdx (fun i e =>
      if (reports s (entries.take (i + 1))).length ≤ B then e.reset else e)
  := by
  simp only [swept, Sink.hasRoom_of_some hB]

/-- The registry holds each registered lock once, in the order of first registrations. A sink has
room for some number of bytes, which it takes in pieces of any sizes, and then it fails.

* If all reports exist and there is room for them, then they are written, one behind the other, and
  all locks are reset. Otherwise the sink's error is the outcome, as many bytes of the reports are
  written as there is room for, and the locks that are reset are those whose reports end within
  these bytes.
* If some report does not exist, then the reports in front of the first such are written in the same
  way. With room for them this ends in a fault, and the lock and those behind it stay as they
  are. -/
theorem writeAll_registered (calls : List Nat) (locks : Nat → LockEntry) (s : Settings)
    (sink : Sink) {B : Nat} (hB : sink.room = some B) :
  ((∀ lock, lock ∈ registered calls ↔ lock ∈ calls) ∧ (registered calls).Nodup
    ∧ (registered calls).Pairwise (fun a b => calls.idxOf a < calls.idxOf b))
  ∧ ((∀ lock ∈ calls, (locks lock).counters.Fits) →
    let entries := (registered calls).map locks
    let (r, after, sink') := writeAll s entries sink
    ((reports s entries).length ≤ B →
      r = .ok (.ok ()) ∧ sink'.written = sink.written ++ reports s entries
        ∧ after = entries.map reset ∧ ∀ e ∈ after, e.counters = .zero)
    ∧ (B < (reports s entries).length →
      r = .ok (.error sink.failure) ∧ sink'.written = sink.written ++ (reports s entries).take B
        ∧ after = entries.mapIdx (fun i e =>
          if (reports s (entries.take (i + 1))).length ≤ B then e.reset else e)))
  ∧ ∀ front e behind, (registered calls).map locks = front ++ e :: behind →
    (∀ x ∈ front, x.counters.Fits) → ¬ e.counters.Fits →
    let (r, after, sink') := writeAll s ((registered calls).map locks) sink
    ((reports s front).length ≤ B →
      r = .error .additionOverflow ∧ sink'.written = sink.written ++ reports s front
        ∧ after = front.map reset ++ e :: behind)
    ∧ (B < (reports s front).length →
      r = .ok (.error sink.failure) ∧ sink'.written = sink.written ++ (reports s front).take B
        ∧ after = front.mapIdx (fun i x =>
          if (reports s (front.take (i + 1))).length ≤ B then x.reset else x) ++ e :: behind)
  := by
  refine ⟨⟨fun _ => mem_registered, nodup_registered, pairwise_registered⟩, ?_, ?_⟩
  · intro ht entries
    have fits : ∀ e ∈ entries, e.counters.Fits := by
      intro e he
      obtain ⟨lock, hl, rfl⟩ := List.mem_map.mp he
      apply ht lock (mem_registered.mp hl)
    obtain ⟨enough, short⟩ := writeAll_of_room s [] hB fits
    rw [List.append_nil] at enough short
    constructor
    · intro hle
      obtain ⟨sink', written, hw⟩ := enough hle
      rw [hw]
      refine ⟨rfl, written, List.append_nil _, ?_⟩
      intro e he
      rw [writeAll, List.append_nil, List.mem_map] at he
      obtain ⟨_, _, rfl⟩ := he
      rfl
    · intro hlt
      obtain ⟨sink', written, hw⟩ := short hlt
      rw [hw, List.append_nil, swept_of_room hB]
      exact ⟨rfl, written, rfl⟩
  · intro front e behind he fits hf
    obtain ⟨enough, short⟩ := writeAll_of_room s (e :: behind) hB fits
    rw [he]
    constructor
    · intro hle
      obtain ⟨sink', written, hw⟩ := enough hle
      rw [hw, writeAll_cons_of_not_fits hf]
      exact ⟨rfl, written, rfl⟩
    · intro hlt
      obtain ⟨sink', written, hw⟩ := short hlt
      rw [hw, swept_of_room hB]
      exact ⟨rfl, written, rfl⟩

/-- A lock with a number of acquisitions. -/
private def acquired (n : Nat) : LockEntry :=
  { description := "list", counters := { uncontended := .ofNat n } }

/-- A sink with room for the report of one lock, but not of two. -/
private def narrow : Sink :=
  { room := some 100, failure := .stalled, pieces := [0, 9, 2] }

/-- The lock whose report is cut off keeps its counters. -/
theorem writeAll_registered_narrow :
  registered [3, 5, 3] = [3, 5]
    ∧ (writeAll {} [acquired 3, acquired 5] narrow).1 = .ok (.error .stalled)
    ∧ (writeAll {} [acquired 3, acquired 5] narrow).2.1 = [(acquired 3).reset, acquired 5]
  := by
  have fits : ∀ lock ∈ [3, 5, 3], (acquired lock).counters.Fits := by decide
  have short : 100 < (reports {} [acquired 3, acquired 5]).length := by decide +kernel
  have first : (reports {} [acquired 3]).length ≤ 100 := by decide +kernel
  obtain ⟨r, _, after⟩ :=
    ((writeAll_registered [3, 5, 3] acquired {} narrow rfl).2.1 fits).2 short
  refine ⟨rfl, r, after.trans ?_⟩
  change [if (reports {} [acquired 3]).length ≤ 100 then (acquired 3).reset else acquired 3,
    if (reports {} [acquired 3, acquired 5]).length ≤ 100 then (acquired 5).reset
      else acquired 5] = _
  rw [if_pos first, if_neg (Nat.not_le_of_lt short)]

end LockEntry

end SyncLayer
