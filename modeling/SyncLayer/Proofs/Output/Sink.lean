import SyncLayer.Output.Sink
import Mathlib.Data.List.Basic

/-!
# What a sink takes

However few bytes a sink takes at once, it takes as many as there is room for before a write fails.
So writes one after the other are like one write of all their bytes, up to the first that fails.
-/

namespace SyncLayer.Sink

variable {sink sink' sink'' : Sink} {bytes more : List UInt8} {n m b : Nat}
  {r : Except WriteError Unit} {e : WriteError}

/-- Whether there is room for a number of bytes. -/
def hasRoom (n : Nat) (sink : Sink) : Bool :=
  match sink.room with
  | none => true
  | some room => n ≤ room

theorem hasRoom_of_none (h : sink.room = none) :
  sink.hasRoom n = true
  := by
  rw [hasRoom, h]

theorem hasRoom_of_some (h : sink.room = some b) :
  sink.hasRoom n = true ↔ n ≤ b
  := by
  rw [hasRoom, h]
  apply decide_eq_true_iff

theorem fitting_of_none (h : sink.room = none) :
  sink.fitting n = n
  := by
  rw [fitting, h]

theorem fitting_of_some (h : sink.room = some b) :
  sink.fitting n = min n b
  := by
  rw [fitting, h]
  dsimp only
  split <;> omega

theorem fitting_le :
  sink.fitting n ≤ n
  := by
  cases h : sink.room with
  | none => exact Nat.le_of_eq (fitting_of_none h)
  | some b =>
      rw [fitting_of_some h]
      apply Nat.min_le_left

/-- As many bytes fit as there are if there is room for them. -/
theorem fitting_of_hasRoom (h : sink.hasRoom n = true) :
  sink.fitting n = n
  := by
  cases hr : sink.room with
  | none => apply fitting_of_none hr
  | some b =>
      rw [fitting_of_some hr]
      apply Nat.min_eq_left ((hasRoom_of_some hr).mp h)

/-- There is room for no more bytes than fit. -/
theorem fitting_of_not_hasRoom (h : sink.hasRoom n = false) (hm : n ≤ m) :
  sink.fitting m = sink.fitting n ∧ sink.fitting n < n
  := by
  cases hr : sink.room with
  | none =>
      rw [hasRoom_of_none hr] at h
      cases h
  | some b =>
      have hn : ¬ n ≤ b := by
        rw [← hasRoom_of_some hr, h]
        exact Bool.false_ne_true
      rw [fitting_of_some hr, fitting_of_some hr]
      omega

/-- There is room for fewer bytes if there is for more. -/
theorem hasRoom_of_le (hn : n ≤ m) (h : sink.hasRoom m = true) :
  sink.hasRoom n = true
  := by
  cases hr : sink.room with
  | none => apply hasRoom_of_none hr
  | some b =>
      rw [hasRoom_of_some hr] at h ⊢
      apply Nat.le_trans hn h

/-- There is room for the bytes that fit. -/
theorem le_fitting_iff (hn : n ≤ m) :
  n ≤ sink.fitting m ↔ sink.hasRoom n = true
  := by
  cases hr : sink.room with
  | none =>
      rw [fitting_of_none hr, hasRoom_of_none hr]
      simpa using hn
  | some b =>
      rw [fitting_of_some hr, hasRoom_of_some hr]
      omega

/-! ### Calls -/

theorem accepted_le :
  sink.accepted n ≤ sink.fitting n
  := by
  rw [accepted.eq_def]
  split
  · apply Nat.le_refl
  · split <;> omega

/-- A sink takes no byte only if there is no room for any. -/
theorem fitting_eq_zero (h : sink.accepted n = 0) :
  sink.fitting n = 0
  := by
  rw [accepted.eq_def] at h
  split at h
  · exact h
  · split at h <;> omega

/-- A sink that has taken bytes, in any calls. -/
structure Took (sink : Sink) (bytes : List UInt8) (sink' : Sink) : Prop where
  written : sink'.written = sink.written ++ bytes
  room : sink'.room = sink.room.map (fun room => room - bytes.length)
  failure : sink'.failure = sink.failure

namespace Took

theorem refl :
  sink.Took [] sink
  := by
  constructor
  · rw [List.append_nil]
  · cases sink.room <;> rfl
  · rfl

theorem take :
  sink.Took bytes (sink.take bytes)
  := ⟨rfl, rfl, rfl⟩

theorem trans (k : sink.Took bytes sink') (k' : sink'.Took more sink'') :
  sink.Took (bytes ++ more) sink''
  := by
  constructor
  · rw [k'.written, k.written, List.append_assoc]
  · rw [k'.room, k.room]
    cases sink.room with
    | none => rfl
    | some b => simp [Nat.sub_sub]
  · rw [k'.failure, k.failure]

theorem room_of_none (k : sink.Took bytes sink') (h : sink.room = none) :
  sink'.room = none
  := by
  rw [k.room, h]
  rfl

theorem room_of_some (k : sink.Took bytes sink') (h : sink.room = some b) :
  sink'.room = some (b - bytes.length)
  := by
  rw [k.room, h]
  rfl

/-- Bytes that fit behind others fit with them. -/
theorem fitting (k : sink.Took bytes sink') (h : bytes.length ≤ sink.fitting (bytes.length + n)) :
  sink.fitting (bytes.length + n) = bytes.length + sink'.fitting n
  := by
  cases hr : sink.room with
  | none => rw [fitting_of_none hr, fitting_of_none (k.room_of_none hr)]
  | some b =>
      have hr' := k.room_of_some hr
      rw [fitting_of_some hr] at h ⊢
      rw [fitting_of_some hr']
      omega

/-- There is room for bytes behind others if there is room for all of them. -/
theorem hasRoom (k : sink.Took bytes sink') (h : sink.hasRoom bytes.length = true) :
  sink'.hasRoom n = sink.hasRoom (bytes.length + n)
  := by
  rw [Bool.eq_iff_iff]
  cases hr : sink.room with
  | none => rw [hasRoom_of_none hr, hasRoom_of_none (k.room_of_none hr)]
  | some b =>
      have hr' := k.room_of_some hr
      rw [hasRoom_of_some hr] at h ⊢
      rw [hasRoom_of_some hr']
      omega

end Took

/-! ### Writes -/

/-- What it means to write bytes: all of them if there is room, and otherwise as many as there is
room for, and an error. -/
structure Wrote (sink : Sink) (bytes : List UInt8) (r : Except WriteError Unit) (sink' : Sink) :
  Prop where
  result : r = if sink.hasRoom bytes.length then .ok () else .error sink.failure
  took : sink.Took (bytes.take (sink.fitting bytes.length)) sink'

namespace Wrote

theorem nil :
  sink.Wrote [] (.ok ()) sink
  := by
  constructor
  · rw [if_pos]
    cases h : sink.room with
    | none => apply hasRoom_of_none h
    | some b =>
        rw [hasRoom_of_some h]
        apply Nat.zero_le
  · rw [List.take_nil]
    apply Took.refl

/-- A write that succeeds has written all its bytes. -/
theorem of_ok (k : sink.Wrote bytes (.ok ()) sink') :
  sink.hasRoom bytes.length = true ∧ sink.Took bytes sink'
  := by
  have hr : sink.hasRoom bytes.length = true := by
    by_contra hr
    have h := k.result
    rw [if_neg hr] at h
    cases h
  have ht := k.took
  rw [fitting_of_hasRoom hr, List.take_length] at ht
  exact ⟨hr, ht⟩

theorem of_error (k : sink.Wrote bytes (.error e) sink') :
  sink.hasRoom bytes.length = false ∧ e = sink.failure
  := by
  have h := k.result
  split at h
  · cases h
  · rename_i hr
    cases h
    exact ⟨eq_false_of_ne_true hr, rfl⟩

/-- With room for all bytes, a write succeeds. -/
theorem of_le (k : sink.Wrote bytes r sink') (hb : sink.room = some b) (h : bytes.length ≤ b) :
  r = .ok () ∧ sink'.written = sink.written ++ bytes
  := by
  have room := (hasRoom_of_some hb).mpr h
  obtain ⟨result, took⟩ := k
  rw [if_pos room] at result
  rw [fitting_of_hasRoom room, List.take_length] at took
  exact ⟨result, took.written⟩

/-- With room for fewer bytes, a write fails when there is no more room. -/
theorem of_lt (k : sink.Wrote bytes r sink') (hb : sink.room = some b) (h : b < bytes.length) :
  r = .error sink.failure ∧ sink'.written = sink.written ++ bytes.take b
  := by
  obtain ⟨result, took⟩ := k
  rw [if_neg (fun room => Nat.not_le_of_lt h ((hasRoom_of_some hb).mp room))] at result
  rw [fitting_of_some hb, Nat.min_eq_right (Nat.le_of_lt h)] at took
  exact ⟨result, took.written⟩

/-- A write that fails is one of all bytes that were to be written. -/
theorem append_error (k : sink.Wrote bytes (.error e) sink') :
  sink.Wrote (bytes ++ more) (.error e) sink'
  := by
  obtain ⟨hr, rfl⟩ := k.of_error
  have hle : bytes.length ≤ (bytes ++ more).length := by
    rw [List.length_append]
    apply Nat.le_add_right
  obtain ⟨hf, hlt⟩ := fitting_of_not_hasRoom hr hle
  constructor
  · rw [if_neg]
    intro h
    rw [fitting_of_hasRoom h] at hf
    omega
  · rw [hf, List.take_append_of_le_length (Nat.le_of_lt hlt)]
    apply k.took

end Wrote

/-- A write of all bytes and then one of others is one of them all. -/
theorem Took.append (k : sink.Took bytes sink') (h : sink.hasRoom bytes.length = true)
    (k' : sink'.Wrote more r sink'') :
  sink.Wrote (bytes ++ more) r sink''
  := by
  have hle : bytes.length ≤ sink.fitting (bytes.length + more.length) :=
    (le_fitting_iff (Nat.le_add_right _ _)).mpr h
  constructor
  · rw [k'.result, k.hasRoom h, k.failure, List.length_append]
  · rw [List.length_append, k.fitting hle, List.take_length_add_append]
    apply k.trans k'.took

/-- Writing in as many calls as it takes writes what there is room for. -/
theorem wrote_write :
  sink.Wrote bytes (sink.write bytes).1 (sink.write bytes).2
  := by
  induction bytes, sink using write.induct with
  | case1 sink =>
      rw [write, if_pos rfl]
      apply Wrote.nil
  | case2 bytes sink hb ha =>
      rw [write, if_neg hb, if_pos ha]
      have hf := fitting_eq_zero ha
      have hl := List.length_pos_iff.mpr hb
      constructor
      · rw [if_neg]
        intro hr
        rw [fitting_of_hasRoom hr] at hf
        omega
      · rw [hf, List.take_zero]
        apply Took.refl
  | case3 bytes sink hb ha ih =>
      rw [write, if_neg hb, if_neg ha]
      have hle : sink.accepted bytes.length ≤ sink.fitting bytes.length := accepted_le
      have hlen := Nat.le_trans hle fitting_le
      have hn : (bytes.take (sink.accepted bytes.length)).length = sink.accepted bytes.length := by
        rw [List.length_take]
        apply Nat.min_eq_left hlen
      have hr : sink.hasRoom (bytes.take (sink.accepted bytes.length)).length = true := by
        rw [hn]
        apply (le_fitting_iff hlen).mp hle
      have k := Took.append Took.take hr ih
      rw [List.take_append_drop] at k
      exact k

end SyncLayer.Sink
