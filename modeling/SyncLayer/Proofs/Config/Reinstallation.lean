import SyncLayer.Proofs.Config.Installation
import SyncLayer.Session.Run

/-!
# What is left of earlier settings

The settings of a process are what the last changes made of them, field by field. A configuration
that is installed decides every field, whatever was there before, but for the rate in one case: if it
asks for a calibration, and the calibration shows no rate, then the rate stays what the last change
before it had made of it.
-/

namespace SyncLayer

/-- A measurement shows no rate in 64 bits, because no cycles were counted, too few for a cycle per
second, or so many that the rate is a multiple of the range. -/
def Measurement.ShowsNone (m : Measurement) : Prop :=
  UInt64.size ∣ m.cycles.toNat * 1000000000 / max m.nanoseconds 1

/-- The rate that a measurement shows, if it shows any. -/
def Measurement.rate? (m : Measurement) : Option UInt64 :=
  if m.rate = 0 then none else some m.rate

namespace Config

/-- A configuration keeps the rate that is there if it has none of its own, and asks for a
calibration that shows none. -/
def KeepsRate (c : Config) (m : Measurement) : Prop :=
  c.cyclesPerSecond = none ∧ c.calibrateClock = true ∧ m.ShowsNone

/-- The rate of a configuration with a measurement, where zero stands for that of the platform. -/
def ownRate (c : Config) (m : Measurement) : UInt64 :=
  c.cyclesPerSecond.getD (if c.calibrateClock then m.rate else 0)

end Config

/-- A change of the settings of a process. -/
inductive SettingsChange where
  | threshold (n : UInt64)
  | interval (n : UInt64)
  | rate (n : UInt64)
  | calibrate (m : Measurement)
  | install (c : Config) (m : Measurement)

namespace SettingsChange

/-- The threshold that a change stores. -/
def threshold? : SettingsChange → Option UInt64
  | threshold n => some n
  | install c _ => some c.contentionThreshold
  | _ => none

/-- The interval that a change stores. -/
def interval? : SettingsChange → Option UInt64
  | interval n => some n
  | install c _ => some c.flushInterval
  | _ => none

/-- The format that a change stores. -/
def format? : SettingsChange → Option StatsFormat
  | install c _ => some c.statsFormat
  | _ => none

/-- The rate that a change stores. -/
def rate? : SettingsChange → Option UInt64
  | rate n => some n
  | calibrate m => m.rate?
  | install c m => c.cyclesPerSecond.or (if c.calibrateClock then m.rate? else some 0)
  | _ => none

end SettingsChange

namespace Settings

/-- The settings behind a change. -/
def change (s : Settings) : SettingsChange → Settings
  | .threshold n => { s with threshold := n }
  | .interval n => { s with flushInterval := n }
  | .rate n => { s with rate := n }
  | .calibrate m => s.calibrate m
  | .install c m => s.install c m

/-- The settings of a process behind some changes, one after the other. -/
def after (h : List SettingsChange) : Settings :=
  h.foldl change {}

end Settings

/-- The change that a step of a session makes to the settings. -/
def Session.Step.change? : Session.Step → Option SettingsChange
  | .apply c => some (.install c Session.nominalMeasurement)
  | .setThreshold n => some (.threshold n)
  | .setRate n => some (.rate n)
  | .setFlush n => some (.interval n)
  | _ => none

open Config Session

variable {c : Config} {m : Measurement} {s : Settings} {h h' : List SettingsChange}
  {a : SettingsChange}

/-! ### Measurements -/

theorem Measurement.rate_eq_zero_iff :
  m.rate = 0 ↔ m.ShowsNone
  := by
  rw [rate, ShowsNone, ← UInt64.toNat_inj, UInt64.toNat_ofNat']
  exact Nat.dvd_iff_mod_eq_zero.symm

theorem Measurement.rate?_eq_none_iff :
  m.rate? = none ↔ m.ShowsNone
  := by
  rw [← rate_eq_zero_iff, rate?]
  split <;> simp_all

/-! ### One change -/

/-- A configuration that keeps the rate does not store one. -/
theorem keepsRate_iff_rate?_eq_none :
  KeepsRate c m ↔ (SettingsChange.install c m).rate? = none
  := by
  rw [KeepsRate, ← Measurement.rate?_eq_none_iff, SettingsChange.rate?, Option.or_eq_none_iff]
  cases c.calibrateClock <;> simp

/-- A configuration that does not keep the rate stores its own. -/
theorem rate?_install (hk : ¬ KeepsRate c m) :
  (SettingsChange.install c m).rate? = some (c.ownRate m)
  := by
  rw [SettingsChange.rate?, ownRate]
  rcases hr : c.cyclesPerSecond with _ | r
  · rw [Option.none_or, Option.getD_none]
    by_cases hc : c.calibrateClock = true
    · have shown : m.rate ≠ 0 := fun hm => hk ⟨hr, hc, Measurement.rate_eq_zero_iff.mp hm⟩
      rw [if_pos hc, if_pos hc, Measurement.rate?, if_neg shown]
    · rw [if_neg hc, if_neg hc]
  · rw [Option.some_or, Option.getD_some]

theorem Settings.rate_install :
  (s.install c m).rate = (SettingsChange.install c m).rate?.getD s.rate
  := by
  have i := installed_install c m s
  rw [SettingsChange.rate?]
  cases hr : c.cyclesPerSecond with
  | some r => simp [i.given r hr]
  | none =>
      cases hc : c.calibrateClock with
      | false => simp [i.platform hr hc]
      | true =>
          rw [i.measured hr hc]
          by_cases hm : m.rate = 0 <;> simp [Measurement.rate?, hm, UInt64.pos_iff_ne_zero]

/-- A calibration changes nothing but the rate. -/
theorem Settings.calibrate_eq :
  s.calibrate m = { s with rate := m.rate?.getD s.rate }
  := by
  rw [calibrate, Measurement.rate?]
  by_cases hm : m.rate = 0
  · simp [hm]
  · simp [hm, UInt64.pos_iff_ne_zero]

theorem Settings.install_eq :
  s.install c m
    = { threshold := c.contentionThreshold
        rate := (SettingsChange.install c m).rate?.getD s.rate
        flushInterval := c.flushInterval
        format := c.statsFormat }
  := by
  have i := installed_install c m s
  rw [← rate_install, ← i.threshold, ← i.interval, ← i.format]

/-- Each field is what a change stores in it, or what it was. -/
theorem Settings.change_eq :
  s.change a
    = { threshold := a.threshold?.getD s.threshold
        rate := a.rate?.getD s.rate
        flushInterval := a.interval?.getD s.flushInterval
        format := a.format?.getD s.format }
  := by
  cases a with
  | calibrate m =>
      rw [change, calibrate_eq]
      rfl
  | install c m =>
      rw [change, install_eq]
      rfl
  | _ => rfl

/-! ### Histories -/

/-- A field that each change stores or leaves as it is has the value that was stored last. -/
theorem Settings.field_foldl {α : Type} {field : Settings → α}
    {stored? : SettingsChange → Option α}
    (hf : ∀ s a, field (s.change a) = (stored? a).getD (field s)) :
  field (h.foldl change s) = (h.filterMap stored?).getLastD (field s)
  := by
  induction h generalizing s with
  | nil => rfl
  | cons a h ih =>
      rw [List.foldl_cons, ih, hf, List.filterMap_cons]
      cases stored? a with
      | none => rfl
      | some v => rw [Option.getD_some, List.getLastD_cons]

/-- Behind any changes, each field is what was stored in it last, or the default. -/
theorem Settings.after_eq (h : List SettingsChange) :
  after h
    = { threshold := (h.filterMap SettingsChange.threshold?).getLastD defaultThreshold
        rate := (h.filterMap SettingsChange.rate?).getLastD 0
        flushInterval := (h.filterMap SettingsChange.interval?).getLastD 0
        format := (h.filterMap SettingsChange.format?).getLastD .text }
  := by
  rw [mk.injEq]
  exact ⟨field_foldl fun _ _ => congrArg threshold change_eq,
    field_foldl fun _ _ => congrArg rate change_eq,
    field_foldl fun _ _ => congrArg flushInterval change_eq,
    field_foldl fun _ _ => congrArg format change_eq⟩

/-! ### What is read back -/

theorem Settings.cyclesPerSecond_ne_zero (s : Settings) :
  s.cyclesPerSecond ≠ 0
  := by
  rw [cyclesPerSecond]
  split
  · decide
  · assumption

/-- The settings as they are read back behind a configuration that keeps no rate. -/
theorem view_install (hk : ¬ KeepsRate c m) :
  SettingsView.of (s.install c m)
    = { threshold := c.contentionThreshold
        rate := some (if c.ownRate m = 0 then platformRate else c.ownRate m)
        flushInterval := c.flushInterval
        format := c.statsFormat }
  := by
  rw [SettingsView.of, Settings.cyclesPerSecond, Settings.install_eq, rate?_install hk,
    Option.getD_some]

/-- The settings as they are read back behind one that keeps the rate. -/
theorem view_install_of_keepsRate (hk : KeepsRate c m) :
  SettingsView.of (s.install c m)
    = { threshold := c.contentionThreshold
        rate := some s.cyclesPerSecond
        flushInterval := c.flushInterval
        format := c.statsFormat }
  := by
  rw [SettingsView.of, Settings.cyclesPerSecond, Settings.install_eq,
    keepsRate_iff_rate?_eq_none.mp hk, Option.getD_none, Settings.cyclesPerSecond]

/-- A step of a session that makes a change makes it to the settings of the world. -/
theorem Session.settings_perform {t : ThreadId} {slept : Bool} {step : Step} {w : World Outcome}
    (hs : step.change? = some a) :
  (perform t slept step w).2.settings = w.settings.change a
  := by
  cases step
  case apply c =>
    cases hs
    rw [perform, Session.step, apply]
    by_cases hc : c.calibrateClock ∧ c.cyclesPerSecond = none
    · simp only [if_pos hc]
      rfl
    · simp only [if_neg hc]
      rfl
  all_goals
    cases hs <;> rfl

/-- A configuration that is installed decides how the settings are read back, whatever they were,
unless it keeps the rate. Then it decides all but the rate, which stays the one that was in force,
so that it depends on the changes before. Whatever is done, no rate is zero, and each field is
what was stored in it last. -/
theorem history_free_unless_rate_kept (c : Config) (m : Measurement) :
  (¬ KeepsRate c m → ∀ h, SettingsView.of ((Settings.after h).install c m)
      = { threshold := c.contentionThreshold
          rate := some (if c.ownRate m = 0 then platformRate else c.ownRate m)
          flushInterval := c.flushInterval
          format := c.statsFormat })
    ∧ (KeepsRate c m → ∀ h, SettingsView.of ((Settings.after h).install c m)
      = { threshold := c.contentionThreshold
          rate := some (Settings.after h).cyclesPerSecond
          flushInterval := c.flushInterval
          format := c.statsFormat })
    ∧ ((∀ h h', SettingsView.of ((Settings.after h).install c m)
        = SettingsView.of ((Settings.after h').install c m)) ↔ ¬ KeepsRate c m)
    ∧ (∀ h, (Settings.after h).cyclesPerSecond ≠ 0)
    ∧ (∀ h, Settings.after h
      = { threshold := (h.filterMap SettingsChange.threshold?).getLastD defaultThreshold
          rate := (h.filterMap SettingsChange.rate?).getLastD 0
          flushInterval := (h.filterMap SettingsChange.interval?).getLastD 0
          format := (h.filterMap SettingsChange.format?).getLastD .text })
    ∧ ∀ t slept step a (w : World Outcome), Step.change? step = some a →
      (perform t slept step w).2.settings = w.settings.change a
  := by
  refine ⟨fun hk _ => view_install hk, fun hk _ => view_install_of_keepsRate hk, ?_,
    fun _ => Settings.cyclesPerSecond_ne_zero _, Settings.after_eq,
    fun _ _ _ _ _ => settings_perform⟩
  constructor
  · intro same hk
    have rate := congrArg SettingsView.rate (same [.rate 1] [.rate 2])
    rw [view_install_of_keepsRate hk, view_install_of_keepsRate hk] at rate
    have differ : (Settings.after [.rate 1]).cyclesPerSecond
        ≠ (Settings.after [.rate 2]).cyclesPerSecond := by decide
    exact differ (Option.some.inj rate)
  · intro hk h h'
    rw [view_install hk, view_install hk]

/-- A calibration that shows a rate replaces the one before it. One that counts no cycles leaves it
in force. -/
theorem history_free_unless_rate_kept_calibrated :
  SettingsView.of ((Settings.after [.rate 7, .interval 3]).install { calibrateClock := true }
        nominalMeasurement)
      = { threshold := 250, rate := some platformRate, flushInterval := 0, format := .text }
    ∧ SettingsView.of ((Settings.after [.rate 7, .interval 3]).install { calibrateClock := true }
        { cycles := 0, nanoseconds := 50000000 })
      = { threshold := 250, rate := some 7, flushInterval := 0, format := .text }
    ∧ (perform 0 false (.setRate 7) {}).2.settings = ({} : Settings).change (.rate 7)
  := by
  obtain ⟨own, -, -, -, -, performed⟩ :=
    history_free_unless_rate_kept { calibrateClock := true } nominalMeasurement
  obtain ⟨-, kept, -⟩ :=
    history_free_unless_rate_kept { calibrateClock := true } { cycles := 0, nanoseconds := 50000000 }
  refine ⟨?_, ?_, performed 0 false (.setRate 7) (.rate 7) {} rfl⟩
  · apply own
    rintro ⟨-, -, none⟩
    rw [Measurement.ShowsNone] at none
    revert none
    decide
  · apply kept
    refine ⟨rfl, rfl, ?_⟩
    rw [Measurement.ShowsNone]
    decide

/-- The settings behind a configuration depend on those before it. -/
theorem not_history_free :
  ¬ ∀ h h' c m, SettingsView.of ((Settings.after h).install c m)
      = SettingsView.of ((Settings.after h').install c m)
  := by
  intro free
  have rate := congrArg SettingsView.rate (free
    [.install { cyclesPerSecond := some 7 } nominalMeasurement] [] { calibrateClock := true }
    { cycles := 0, nanoseconds := 50000000 })
  revert rate
  decide

end SyncLayer
