import SyncLayer.Config.Overrides
import Mathlib.Logic.Basic

/-!
# Fields and their variables

A configuration is overridden field by field. Its new value is the old one where no variable is
set for it, and otherwise what the text of the variable denotes. There is no such configuration
just if some text denotes nothing.
-/

namespace SyncLayer

/-! ### Steps that may fail -/

section Steps

variable {ε α β : Type} {x : Except ε α} {f : α → Except ε β}

theorem bind_eq_ok {b : β} :
  x >>= f = .ok b ↔ ∃ a, x = .ok a ∧ f a = .ok b
  := by
  constructor
  · intro h
    cases x with
    | error e => cases h
    | ok a => exact ⟨a, rfl, h⟩
  · rintro ⟨a, rfl, h⟩
    exact h

theorem bind_eq_error {e : ε} :
  x >>= f = .error e ↔ x = .error e ∨ ∃ a, x = .ok a ∧ f a = .error e
  := by
  constructor
  · intro h
    cases x with
    | error e' =>
        left
        cases h
        rfl
    | ok a => exact .inr ⟨a, rfl, h⟩
  · rintro (rfl | ⟨a, rfl, h⟩)
    · rfl
    · exact h

end Steps

namespace Config

/-- The new value of a field, given the text of its variable if that is set: what the text denotes,
or the old value. -/
inductive Overridden {α : Type} (read : String → Except ConfigError α) (old : α) :
    Option String → α → Prop
  | kept : Overridden read old none old
  | replaced {s : String} {a : α} (h : read s = .ok a) : Overridden read old (some s) a

/-- A configuration that has the fields of another one where no variable is set for them, and
otherwise what the variables say. -/
structure Overlays (lookup : String → Option String) (c c' : Config) : Prop where
  threshold : Overridden (readNumber "contention_threshold_cycles") c.contentionThreshold
    (lookup thresholdVariable) c'.contentionThreshold
  rate : Overridden readRate c.cyclesPerSecond (lookup rateVariable) c'.cyclesPerSecond
  calibrate : Overridden (fun s => .ok (readSwitch s)) c.calibrateClock (lookup calibrateVariable)
    c'.calibrateClock
  interval : Overridden (readNumber "refcount_flush_interval") c.flushInterval
    (lookup intervalVariable) c'.flushInterval
  format : Overridden readFormat c.statsFormat (lookup formatVariable) c'.statsFormat

/-- The error about a variable whose text denotes nothing. -/
inductive Illegible (lookup : String → Option String) : ConfigError → Prop
  | threshold {s : String} {e : ConfigError} (hs : lookup thresholdVariable = some s)
      (he : readNumber "contention_threshold_cycles" s = .error e) : Illegible lookup e
  | rate {s : String} {e : ConfigError} (hs : lookup rateVariable = some s)
      (he : readNumber "cycles_per_second" s = .error e) : Illegible lookup e
  | interval {s : String} {e : ConfigError} (hs : lookup intervalVariable = some s)
      (he : readNumber "refcount_flush_interval" s = .error e) : Illegible lookup e
  | format {s : String} {e : ConfigError} (hs : lookup formatVariable = some s)
      (he : readFormat s = .error e) : Illegible lookup e

variable {α : Type} {read : String → Except ConfigError α} {old a : α} {text : Option String}
  {lookup : String → Option String} {c c' : Config} {e : ConfigError}

theorem overridden_eq_ok_iff :
  overridden read old text = .ok a ↔ Overridden read old text a
  := by
  constructor
  · intro h
    cases text with
    | none =>
        cases h
        apply Overridden.kept
    | some s => apply Overridden.replaced h
  · rintro (_ | h)
    · rfl
    · exact h

theorem overridden_eq_error_iff :
  overridden read old text = .error e ↔ ∃ s, text = some s ∧ read s = .error e
  := by
  cases text <;> simp [overridden]

/-- A rate is legible if its number is. -/
theorem readRate_eq_error_iff {s : String} :
  readRate s = .error e ↔ readNumber "cycles_per_second" s = .error e
  := by
  rw [readRate, bind_eq_error]
  simp [pure, Except.pure]

/-- Overrides succeed just with the fields and variables laid on each other. -/
theorem withOverrides_eq_ok_iff :
  c.withOverrides lookup = .ok c' ↔ Overlays lookup c c'
  := by
  simp only [withOverrides, bind_eq_ok, overridden_eq_ok_iff]
  constructor
  · rintro ⟨_, threshold, _, rate, _, calibrate, _, interval, _, format, h⟩
    cases h
    exact ⟨threshold, rate, calibrate, interval, format⟩
  · rintro ⟨threshold, rate, calibrate, interval, format⟩
    exact ⟨_, threshold, _, rate, _, calibrate, _, interval, _, format, rfl⟩

/-- If overrides fail, then the text of a variable denotes nothing. -/
theorem illegible_of_withOverrides (h : c.withOverrides lookup = .error e) :
  Illegible lookup e
  := by
  simp only [withOverrides, bind_eq_error, overridden_eq_error_iff] at h
  rcases h with ⟨s, hs, he⟩ | ⟨_, _, ⟨s, hs, he⟩ | ⟨_, _, ⟨s, hs, he⟩ | ⟨_, _, ⟨s, hs, he⟩ |
    ⟨_, _, ⟨s, hs, he⟩ | ⟨_, _, he⟩⟩⟩⟩⟩
  · apply Illegible.threshold hs he
  · apply Illegible.rate hs (readRate_eq_error_iff.mp he)
  · cases he
  · apply Illegible.interval hs he
  · apply Illegible.format hs he
  · cases he

/-- A field that is overridden has a text that can be read, if any. -/
theorem Overridden.read_ne_error {s : String} (o : Overridden read old (some s) a) :
  read s ≠ .error e
  := by
  cases o with
  | replaced h =>
      rw [h]
      nofun

/-- Where the fields are overridden, every variable can be read. -/
theorem Overlays.not_illegible (o : Overlays lookup c c') :
  ¬ Illegible lookup e
  := by
  rintro (⟨hs, he⟩ | ⟨hs, he⟩ | ⟨hs, he⟩ | ⟨hs, he⟩)
  · exact (hs ▸ o.threshold).read_ne_error he
  · exact (hs ▸ o.rate).read_ne_error (readRate_eq_error_iff.mpr he)
  · exact (hs ▸ o.interval).read_ne_error he
  · exact (hs ▸ o.format).read_ne_error he

/-- There is an overridden configuration just if every variable that is set can be read. -/
theorem exists_overlays_iff :
  (∃ c', Overlays lookup c c') ↔ ∀ e, ¬ Illegible lookup e
  := by
  constructor
  · rintro ⟨c', o⟩ e
    apply o.not_illegible
  · intro h
    cases hr : c.withOverrides lookup with
    | ok c' => exact ⟨c', withOverrides_eq_ok_iff.mp hr⟩
    | error e => cases h e (illegible_of_withOverrides hr)

end Config

end SyncLayer
