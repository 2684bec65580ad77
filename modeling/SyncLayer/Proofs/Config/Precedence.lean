import SyncLayer.Proofs.Config.Overrides
import SyncLayer.Proofs.Decimal.Numeral
import Mathlib.Data.Option.Basic
import Mathlib.Tactic.Use

/-!
# Which variable decides

A variable that is set decides its own field, whatever the configuration and the other variables
are. The first variable in the order of the fields whose text means nothing decides the error. So
overrides that are laid on twice change nothing the second time, and overrides laid on each other
are those of one environment, in which the later ones hide the earlier ones.
-/

namespace SyncLayer.Config

/-! ### Texts that mean something -/

/-- A text denotes a number of 64 bits if it is, but for the blanks around it, an optional plus sign
and some digits with that value. -/
def Denotes (s : String) (n : UInt64) : Prop :=
  ∃ ds, (Text.trim s.toList = ds ∨ Text.trim s.toList = '+' :: ds) ∧ ds ≠ []
    ∧ (∀ d ∈ ds, d.isDigit = true) ∧ Decimal.value ds = n.toNat

/-- A text names a format if its lower-case form is the name. -/
def Names (s : String) (f : StatsFormat) : Prop :=
  Text.lower s.toList = f.name.toList

/-- A text switches calibration on if it is a one, or if its lower-case form is the word for it. -/
def SwitchesOn (s : String) : Prop :=
  s = "1" ∨ Text.lower s.toList = "true".toList

/-- A field that may have a text which means nothing: the variable of the field, what it is called
in errors, and which texts mean something for it. -/
structure Checked where
  source : String
  key : String
  Legible : String → Prop

/-- These fields, in the order in which they are visited. -/
def checked : List Checked :=
  [⟨thresholdVariable, "contention_threshold_cycles", fun s => ∃ n, Denotes s n⟩,
    ⟨rateVariable, "cycles_per_second", fun s => ∃ n, Denotes s n⟩,
    ⟨intervalVariable, "refcount_flush_interval", fun s => ∃ n, Denotes s n⟩,
    ⟨formatVariable, "stats_format", fun s => ∃ f, Names s f⟩]

/-- The error about the first of some fields whose variable is set to a text that means nothing. It
tells the text as it stands there. -/
inductive FirstFault (lookup : String → Option String) : List Checked → ConfigError → Prop
  | here {f : Checked} {fs : List Checked} {s : String} (hs : lookup f.source = some s)
      (hf : ¬ f.Legible s) : FirstFault lookup (f :: fs) (.invalidValue f.key s)
  | later {f : Checked} {fs : List Checked} {e : ConfigError}
      (hf : ∀ s, lookup f.source = some s → f.Legible s) (h : FirstFault lookup fs e) :
      FirstFault lookup (f :: fs) e

/-- The new value of a field with an old one: what the text of its variable means, or the old value
if the variable is not set. -/
def Takes {α : Type} (Means : String → α → Prop) (old : α) : Option String → α → Prop
  | some s, a => Means s a
  | none, a => a = old

/-- A configuration whose fields have the values that their variables give them. -/
structure Decided (lookup : String → Option String) (c c' : Config) : Prop where
  threshold : Takes Denotes c.contentionThreshold (lookup thresholdVariable) c'.contentionThreshold
  rate : Takes (fun s r => ∃ n, Denotes s n ∧ r = if n = 0 then none else some n)
    c.cyclesPerSecond (lookup rateVariable) c'.cyclesPerSecond
  calibrate : Takes (fun s b => b = true ↔ SwitchesOn s) c.calibrateClock
    (lookup calibrateVariable) c'.calibrateClock
  interval : Takes Denotes c.flushInterval (lookup intervalVariable) c'.flushInterval
  format : Takes Names c.statsFormat (lookup formatVariable) c'.statsFormat

variable {α : Type} {read : String → Except ConfigError α} {old a b : α}
  {text text' : Option String}
  {lookup : String → Option String} {c c' : Config} {e : ConfigError} {key s : String} {n : UInt64}
  {f : StatsFormat}

/-! ### Numbers -/

/-- A text denotes the number that is read from it without the blanks around it. -/
theorem denotes_iff :
  Denotes s n ↔ Decimal.readUInt64? (Text.trim s.toList) = some n
  := Decimal.readUInt64?_eq_some_iff.symm

theorem readNumber_eq_ok_iff :
  readNumber key s = .ok n ↔ Denotes s n
  := by
  rw [denotes_iff, readNumber]
  cases Decimal.readUInt64? (Text.trim s.toList) <;> simp

theorem readNumber_eq_error_iff :
  readNumber key s = .error e ↔ e = .invalidValue key s ∧ ¬ ∃ n, Denotes s n
  := by
  simp only [denotes_iff, readNumber]
  cases Decimal.readUInt64? (Text.trim s.toList) <;> simp [eq_comm]

theorem readRate_eq_ok_iff {r : Option UInt64} :
  readRate s = .ok r ↔ ∃ n, Denotes s n ∧ r = if n = 0 then none else some n
  := by
  simp only [readRate, bind_eq_ok, readNumber_eq_ok_iff]
  constructor
  · rintro ⟨n, hn, h⟩
    cases h
    exact ⟨n, hn, rfl⟩
  · rintro ⟨n, hn, rfl⟩
    exact ⟨n, hn, rfl⟩

/-! ### Names -/

theorem readSwitch_eq_true_iff :
  readSwitch s = true ↔ SwitchesOn s
  := by
  simp [readSwitch, Text.readsAs, SwitchesOn]

theorem readFormat_eq_ok_iff :
  readFormat s = .ok f ↔ Names s f
  := by
  simp only [readFormat, Text.readsAs, Names, beq_iff_eq]
  by_cases text : Text.lower s.toList = "text".toList
  · cases f <;> simp [text, StatsFormat.name]
  · by_cases json : Text.lower s.toList = "json".toList
    · cases f <;> simp [json, StatsFormat.name]
    · cases f <;> simp_all [StatsFormat.name]

theorem readFormat_eq_error_iff :
  readFormat s = .error e ↔ e = .invalidValue "stats_format" s ∧ ¬ ∃ f, Names s f
  := by
  simp only [← readFormat_eq_ok_iff]
  cases hr : readFormat s with
  | ok f => simp
  | error e' =>
      simp only [readFormat] at hr
      split at hr
      · cases hr
      · split at hr
        · cases hr
        · cases hr
          simp [eq_comm]

/-! ### Fields -/

/-- A field is overridden by what its text means. -/
theorem overridden_iff_takes {Means : String → α → Prop}
    (h : ∀ s a, read s = .ok a ↔ Means s a) :
  Overridden read old text a ↔ Takes Means old text a
  := by
  rw [← overridden_eq_ok_iff]
  cases text with
  | some s => exact h s a
  | none =>
      rw [overridden, Takes, Except.ok.injEq]
      apply eq_comm

theorem overlays_iff_decided :
  Overlays lookup c c' ↔ Decided lookup c c'
  := by
  have number {key : String} (s : String) (n : UInt64) :
      readNumber key s = .ok n ↔ Denotes s n := readNumber_eq_ok_iff
  have switch (s : String) (b : Bool) :
      (Except.ok (readSwitch s) : Except ConfigError Bool) = .ok b ↔ (b = true ↔ SwitchesOn s) := by
    rw [← readSwitch_eq_true_iff, Except.ok.injEq, eq_comm, Bool.eq_iff_iff]
  have rate (s : String) (r : Option UInt64) := readRate_eq_ok_iff (s := s) (r := r)
  have format (s : String) (f : StatsFormat) := readFormat_eq_ok_iff (s := s) (f := f)
  constructor
  · intro o
    exact ⟨(overridden_iff_takes number).mp o.threshold, (overridden_iff_takes rate).mp o.rate,
      (overridden_iff_takes switch).mp o.calibrate, (overridden_iff_takes number).mp o.interval,
      (overridden_iff_takes format).mp o.format⟩
  · intro d
    exact ⟨(overridden_iff_takes number).mpr d.threshold, (overridden_iff_takes rate).mpr d.rate,
      (overridden_iff_takes switch).mpr d.calibrate, (overridden_iff_takes number).mpr d.interval,
      (overridden_iff_takes format).mpr d.format⟩

theorem withOverrides_eq_ok_iff_decided :
  c.withOverrides lookup = .ok c' ↔ Decided lookup c c'
  := by
  rw [withOverrides_eq_ok_iff, overlays_iff_decided]

/-! ### The first fault -/

/-- A field at fault ends the overrides, and one that is not leaves the others to be visited. -/
theorem bind_overridden_eq_error_iff {β : Type} {source : String} {Legible : String → Prop}
    {fs : List Checked} {k : α → Except ConfigError β}
    (hr : ∀ s e, read s = .error e ↔ e = .invalidValue key s ∧ ¬ Legible s)
    (hk : ∀ a, k a = .error e ↔ FirstFault lookup fs e) :
  overridden read old (lookup source) >>= k = .error e
    ↔ FirstFault lookup (⟨source, key, Legible⟩ :: fs) e
  := by
  rw [bind_eq_error, overridden_eq_error_iff]
  constructor
  · rintro (⟨s, hs, he⟩ | ⟨a, ha, he⟩)
    · obtain ⟨rfl, hn⟩ := (hr s e).mp he
      apply FirstFault.here hs hn
    · apply FirstFault.later _ ((hk a).mp he)
      intro s hs
      by_contra hn
      rw [hs, overridden, (hr s _).mpr ⟨rfl, hn⟩] at ha
      cases ha
  · rintro (⟨hs, hn⟩ | ⟨hf, h⟩)
    · exact .inl ⟨_, hs, (hr _ _).mpr ⟨rfl, hn⟩⟩
    · right
      cases ha : overridden read old (lookup source) with
      | ok a => exact ⟨a, rfl, (hk a).mpr h⟩
      | error e' =>
          obtain ⟨s, hs, he⟩ := overridden_eq_error_iff.mp ha
          exact absurd (hf s hs) ((hr s e').mp he).2

theorem not_firstFault_nil :
  ¬ FirstFault lookup [] e
  := nofun

/-- Overrides fail with the error about the first field at fault. -/
theorem withOverrides_eq_error_iff :
  c.withOverrides lookup = .error e ↔ FirstFault lookup checked e
  := by
  have number {key : String} (s : String) (e : ConfigError) :
      readNumber key s = .error e ↔ e = .invalidValue key s ∧ ¬ ∃ n, Denotes s n :=
    readNumber_eq_error_iff
  have rate (s : String) (e : ConfigError) := readRate_eq_error_iff (s := s) (e := e)
  rw [withOverrides, checked]
  apply bind_overridden_eq_error_iff number
  intro threshold
  apply bind_overridden_eq_error_iff (fun s e => (rate s e).trans (number s e))
  intro rate
  -- Calibration cannot fail.
  cases lookup calibrateVariable
  all_goals
    apply bind_overridden_eq_error_iff number
    intro interval
    apply bind_overridden_eq_error_iff (fun _ _ => readFormat_eq_error_iff)
    intro format
    constructor <;> intro h <;> cases h

/-- No field is at fault just if every text means something. -/
theorem exists_firstFault_iff {fs : List Checked} :
  (∃ e, FirstFault lookup fs e) ↔ ¬ ∀ f ∈ fs, ∀ s, lookup f.source = some s → f.Legible s
  := by
  induction fs with
  | nil => simp [not_firstFault_nil]
  | cons f fs ih =>
      rw [List.forall_mem_cons]
      constructor
      · rintro ⟨e, ⟨hs, hn⟩ | ⟨hf, h⟩⟩ legible
        · exact hn (legible.1 _ hs)
        · exact ih.mp ⟨e, h⟩ legible.2
      · intro h
        by_cases hf : ∀ s, lookup f.source = some s → f.Legible s
        · obtain ⟨e, h⟩ := ih.mpr (fun hfs => h ⟨hf, hfs⟩)
          exact ⟨e, .later hf h⟩
        · obtain ⟨s, hs⟩ := not_forall.mp hf
          obtain ⟨hs, hn⟩ := Classical.not_imp.mp hs
          exact ⟨_, .here hs hn⟩

/-! ### Overrides on overrides -/

/-- A field that is overridden twice by the same text is overridden once. -/
theorem Overridden.again (o : Overridden read old text a) :
  Overridden read a text a
  := by
  cases o with
  | kept => exact .kept
  | replaced h => exact .replaced h

/-- A field that is overridden by one text and then by another is overridden by the other, or by the
one if there is no other. -/
theorem Overridden.trans (o : Overridden read old text a) (o' : Overridden read a text' b) :
  Overridden read old (text'.or text) b
  := by
  cases o' with
  | kept => exact o
  | replaced h => exact .replaced h

theorem Overlays.again (o : Overlays lookup c c') :
  Overlays lookup c' c'
  := ⟨o.threshold.again, o.rate.again, o.calibrate.again, o.interval.again, o.format.again⟩

theorem Overlays.trans {lookup' : String → Option String} {c'' : Config} (o : Overlays lookup c c')
    (o' : Overlays lookup' c' c'') :
  Overlays (fun v => (lookup' v).or (lookup v)) c c''
  := ⟨o.threshold.trans o'.threshold, o.rate.trans o'.rate, o.calibrate.trans o'.calibrate,
    o.interval.trans o'.interval, o.format.trans o'.format⟩

/-- Overrides succeed just if every number and the format that is set can be read. Then each field
has the value that its own variable gives it, or else the one it had. They fail with the error about
the first field whose text cannot be read, which does not depend on the configuration. Overrides
that are laid on a second time change nothing, and overrides that are laid on others are like
those of one environment, where theirs come first. -/
theorem precedence (c : Config) (lookup : String → Option String) :
  ((∃ c', c.withOverrides lookup = .ok c')
      ↔ ∀ f ∈ checked, ∀ s, lookup f.source = some s → f.Legible s)
    ∧ (∀ c', c.withOverrides lookup = .ok c' ↔ Decided lookup c c')
    ∧ (∀ e, c.withOverrides lookup = .error e ↔ FirstFault lookup checked e)
    ∧ (c.withOverrides lookup >>= fun c' => c'.withOverrides lookup) = c.withOverrides lookup
    ∧ ∀ lookup' c' c'', c.withOverrides lookup = .ok c' → c'.withOverrides lookup' = .ok c'' →
      c.withOverrides (fun v => (lookup' v).or (lookup v)) = .ok c''
  := by
  refine ⟨?_, fun _ => withOverrides_eq_ok_iff_decided, fun _ => withOverrides_eq_error_iff, ?_, ?_⟩
  · rw [← not_not (a := ∀ f ∈ checked, ∀ s, lookup f.source = some s → f.Legible s),
      ← exists_firstFault_iff]
    cases hr : c.withOverrides lookup with
    | ok c' =>
        have none : ¬ ∃ e, FirstFault lookup checked e := by
          rintro ⟨e, he⟩
          rw [withOverrides_eq_error_iff.mpr he] at hr
          cases hr
        simp [none]
    | error e => simpa using ⟨e, withOverrides_eq_error_iff.mp hr⟩
  · cases hr : c.withOverrides lookup with
    | ok c' => exact withOverrides_eq_ok_iff.mpr (withOverrides_eq_ok_iff.mp hr).again
    | error e => rfl
  · intro lookup' c' c'' h h'
    exact withOverrides_eq_ok_iff.mpr
      ((withOverrides_eq_ok_iff.mp h).trans (withOverrides_eq_ok_iff.mp h'))

/-- A later threshold hides an earlier one, and a rate of zero stays what it meant. -/
theorem precedence_hidden :
  withOverrides { cyclesPerSecond := some 1 } (fun v =>
      (List.lookup v [(thresholdVariable, "+7"), (formatVariable, "JSON")]).or
        (List.lookup v [(thresholdVariable, " 500"), (rateVariable, "0")]))
    = .ok { contentionThreshold := 7, statsFormat := .json }
  := by
  obtain ⟨_, _, _, _, compose⟩ := precedence { cyclesPerSecond := some 1 }
    (fun v => List.lookup v [(thresholdVariable, " 500"), (rateVariable, "0")])
  apply compose (fun v => List.lookup v [(thresholdVariable, "+7"), (formatVariable, "JSON")])
    { contentionThreshold := 500 }
  · rfl
  · rfl

end SyncLayer.Config
