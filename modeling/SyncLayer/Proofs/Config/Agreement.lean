import SyncLayer.Proofs.Config.Acceptance
import SyncLayer.Proofs.Config.Installation
import SyncLayer.Proofs.Config.RoundTrip
import Mathlib

/-!
# Files and environments

A configuration from a file can be spelled in the variables of an environment. Only a rate of zero
is not taken alike: in a file it is a rate, with which the clock is not calibrated, and in an
environment it leaves the rate open. So the two have the same effect but where a rate of zero
stands beside the wish to calibrate the clock.
-/

namespace SyncLayer.Config

variable {c : Config} {m : Measurement} {t : Settings} {v s : String} {n : UInt64} {b : Bool}
  {f : StatsFormat}

/-- The variables that spell a configuration, with their texts. That of the rate is not set where
no rate is given. -/
def spelling (c : Config) : List (String × String) :=
  (thresholdVariable, Decimal.text c.contentionThreshold.toNat)
    :: (c.cyclesPerSecond.toList.map (fun r => (rateVariable, Decimal.text r.toNat))
      ++ [(calibrateVariable, if c.calibrateClock then "true" else "false"),
        (intervalVariable, Decimal.text c.flushInterval.toNat),
        (formatVariable, c.statsFormat.name)])

/-- The environment that spells a configuration. -/
def environment (c : Config) : Environment :=
  ⟨c.spelling.map (fun v => (v.1, v.2.toUTF8))⟩

/-- The configuration that has no rate where the rate is zero. -/
def openZero (c : Config) : Config :=
  { c with cyclesPerSecond := c.cyclesPerSecond.filter (· ≠ 0) }

/-- The clock is calibrated when the configuration is installed. -/
def Calibrates (c : Config) : Prop :=
  c.cyclesPerSecond = none ∧ c.calibrateClock = true

/-! ### What is spelled -/

/-- The decimal text of a number denotes it. -/
theorem denotes_text (n : UInt64) :
  Denotes (Decimal.text n.toNat) n
  := by
  have spelled : Spelled (.ofList ([] ++ ([] ++ Decimal.digits n.toNat) ++ [])) n.toNat :=
    spelled_of_spells (Decimal.spells_digits 0 n.toNat).1 nofun nofun
  rw [denotes_iff_spelled]
  simpa [Decimal.text] using spelled

theorem switchesOn_iff :
  SwitchesOn (if b then "true" else "false") ↔ b = true
  := by
  rw [← readSwitch_eq_true_iff]
  cases b <;> decide

theorem names_name :
  Names f.name f
  := by
  cases f <;> rfl

/-- What texts are bound to is looked up as texts. -/
theorem lookup_texts {l : List (String × String)} :
  Environment.lookup ⟨l.map (fun v => (v.1, v.2.toUTF8))⟩ v = l.lookup v
  := by
  induction l with
  | nil => rfl
  | cons x l ih =>
      obtain ⟨name, text⟩ := x
      rw [List.lookup_cons]
      by_cases h : v = name
      · subst h
        simp only [beq_self_eq_true]
        apply Environment.lookup_eq_some_iff.mpr
        refine ⟨(v, text.toUTF8), ?_, rfl⟩
        simp
      · simp only [beq_false_of_ne h, ← ih]
        simp [Environment.lookup, Ne.symm h]

/-- The environment that spells a configuration gives it back, but for a rate of zero. -/
theorem decided_environment (c : Config) :
  Decided c.environment.lookup default c.openZero
  := by
  obtain ⟨threshold, rate, calibrate, interval, format⟩ := c
  constructor
  all_goals rw [environment, lookup_texts]
  · apply denotes_text
  · cases rate with
    | none => rfl
    | some r =>
        refine ⟨r, denotes_text r, ?_⟩
        by_cases hr : r = 0 <;> simp [openZero, hr]
  · cases rate <;> apply switchesOn_iff.symm
  · cases rate <;> apply denotes_text
  · cases rate <;> apply names_name

theorem ofEnvironment_environment (c : Config) :
  ofEnvironment c.environment = .ok c.openZero
  := withOverrides_eq_ok_iff_decided.mpr (decided_environment c)

/-! ### What is installed -/

/-- A configuration with which the clock is not calibrated is installed alike whatever a measurement
shows. -/
theorem install_of_not_calibrates {m' : Measurement} (h : ¬ c.Calibrates) :
  t.install c m = t.install c m'
  := by
  rw [Settings.install, Settings.install]
  cases hr : c.cyclesPerSecond with
  | some r => rfl
  | none => simp [show c.calibrateClock ≠ true from fun hb => h ⟨hr, hb⟩]

/-- The clock is calibrated just if what is in force may depend on a measurement. -/
theorem calibrates_iff :
  c.Calibrates ↔ ∃ m m' t, Settings.install c m t ≠ Settings.install c m' t
  := by
  constructor
  · rintro ⟨rate, calibrate⟩
    use { cycles := 1, nanoseconds := 1 }, { cycles := 2, nanoseconds := 1 }, {}
    intro h
    have rates := congrArg Settings.rate h
    rw [(installed_install c _ {}).measured rate calibrate,
      (installed_install c _ {}).measured rate calibrate] at rates
    exact absurd rates (by decide)
  · rintro ⟨m, m', t, h⟩
    by_contra hn
    apply h (install_of_not_calibrates hn)

theorem openZero_of_ne (h : c.cyclesPerSecond ≠ some 0) :
  c.openZero = c
  := by
  obtain ⟨_, rate, _⟩ := c
  cases rate with
  | none => rfl
  | some r =>
      have hr : r ≠ 0 := fun hr => h (congrArg some hr)
      simp [openZero, Option.filter, hr]

theorem openZero_of_eq (h : c.cyclesPerSecond = some 0) :
  c.openZero = { c with cyclesPerSecond := none }
  := by
  rw [openZero, h]
  rfl

/-- A rate of zero and no rate are installed alike if nobody wishes to calibrate the clock. -/
theorem install_openZero (h : ¬ (c.cyclesPerSecond = some 0 ∧ c.calibrateClock = true)) :
  t.install c.openZero m = t.install c m
  := by
  by_cases hz : c.cyclesPerSecond = some 0
  · have hc : ¬ c.calibrateClock = true := fun hc => h ⟨hz, hc⟩
    rw [openZero_of_eq hz]
    simp [Settings.install, hz, hc]
  · rw [openZero_of_ne hz]

/-- With a rate of zero beside the wish to calibrate the clock, only the spelling does so. -/
theorem calibrates_openZero_iff :
  c.openZero.Calibrates
    ↔ c.Calibrates ∨ (c.cyclesPerSecond = some 0 ∧ c.calibrateClock = true)
  := by
  by_cases hz : c.cyclesPerSecond = some 0
  · rw [openZero_of_eq hz]
    simp [Calibrates, hz]
  · rw [openZero_of_ne hz]
    simp [hz]

/-- The spelling of a configuration does not calibrate the clock just where that does not, if it has
a rate of zero and says to. -/
theorem calibrates_of_zero (h : c.cyclesPerSecond = some 0 ∧ c.calibrateClock = true) :
  c.openZero.Calibrates ∧ ¬ c.Calibrates
  := by
  refine ⟨calibrates_openZero_iff.mpr (.inr h), ?_⟩
  intro hc
  rw [hc.1] at h
  cases h.1

/-- A configuration from a document has the same effect as the environment that spells it, unless
it has a rate of zero beside the wish to calibrate the clock. Then the clock is calibrated only with
the environment. The threshold, the interval and the format are the same in any case. -/
theorem agreement (s : String) :
  ∀ c, parse s = .ok c → ∃ c', ofEnvironment c.environment = .ok c'
    ∧ (∀ m t, (Settings.install c' m t).threshold = (Settings.install c m t).threshold
      ∧ (Settings.install c' m t).flushInterval = (Settings.install c m t).flushInterval
      ∧ (Settings.install c' m t).format = (Settings.install c m t).format)
    ∧ ((∀ m t, Settings.install c' m t = Settings.install c m t) ∧ (c'.Calibrates ↔ c.Calibrates)
      ↔ ¬ (c.cyclesPerSecond = some 0 ∧ c.calibrateClock = true))
    ∧ (c.cyclesPerSecond = some 0 ∧ c.calibrateClock = true → c'.Calibrates ∧ ¬ c.Calibrates)
  := by
  intro c _
  refine ⟨c.openZero, ofEnvironment_environment c, ?_, ?_, calibrates_of_zero⟩
  · intro m t
    have installed := installed_install c m t
    have spelled := installed_install c.openZero m t
    exact ⟨spelled.threshold.trans installed.threshold.symm,
      spelled.interval.trans installed.interval.symm, spelled.format.trans installed.format.symm⟩
  · constructor
    · rintro ⟨_, same⟩ hz
      obtain ⟨spelled, installed⟩ := calibrates_of_zero hz
      apply installed (same.mp spelled)
    · intro hz
      refine ⟨fun m t => install_openZero hz, ?_⟩
      rw [calibrates_openZero_iff, or_iff_left hz]

theorem parse_zero :
  parse "cycles_per_second = 0\ncalibrate_clock = true\n"
    = .ok { cyclesPerSecond := some 0, calibrateClock := true }
  := by
  cbv

/-- With the environment that spells such a document the clock is calibrated. -/
theorem agreement_zero :
  parse "cycles_per_second = 0\ncalibrate_clock = true\n"
      = .ok { cyclesPerSecond := some 0, calibrateClock := true }
    ∧ ∃ c',
      ofEnvironment (environment { cyclesPerSecond := some 0, calibrateClock := true }) = .ok c'
        ∧ c'.Calibrates
  := by
  obtain ⟨c', spelled, _, _, apart⟩ := agreement _ _ parse_zero
  exact ⟨parse_zero, c', spelled, (apart ⟨rfl, rfl⟩).1⟩

/-- So it is not true that documents and environments always agree. -/
theorem disagreement :
  ¬ ∀ s c, parse s = .ok c → ∃ c', ofEnvironment c.environment = .ok c'
    ∧ (∀ m t, Settings.install c' m t = Settings.install c m t)
    ∧ (c'.Calibrates ↔ c.Calibrates)
  := by
  intro agree
  obtain ⟨c', spelled, _, same⟩ := agree _ _ parse_zero
  rw [ofEnvironment_environment] at spelled
  cases spelled
  obtain ⟨spelled, installed⟩ :=
    calibrates_of_zero (c := { cyclesPerSecond := some 0, calibrateClock := true }) ⟨rfl, rfl⟩
  apply installed (same.mp spelled)

end SyncLayer.Config
