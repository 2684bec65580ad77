import SyncLayer.Session.Process
import SyncLayer.Proofs.Config.Overrides
import Mathlib.Tactic.Use

/-!
# Setting a process up

A process is set up as a whole or not at all. The configuration is that of the named file, or the
default one if none is named, with the variables of the environment laid on it. If it cannot be
loaded, or if a variable cannot be read, then the settings stay what they were. A file that cannot
be loaded is reported whatever the other variables hold.
-/

namespace SyncLayer

/-! ### Texts in bytes -/

/-- Bytes are a text in UTF-8 just if they are the encoding of the text. -/
theorem fromUTF8?_eq_some_iff {bytes : ByteArray} {s : String} :
  String.fromUTF8? bytes = some s ↔ bytes = s.toUTF8
  := by
  rw [String.toUTF8_eq_toByteArray, String.fromUTF8?]
  constructor
  · intro h
    split at h
    · cases h
      rfl
    · cases h
  · rintro rfl
    rw [dif_pos s.isValidUTF8]
    rfl

/-- A variable holds a text if that is what the bytes of its value encode. -/
def Environment.Holds (env : Environment) (name s : String) : Prop :=
  ∃ v, env.bindings.find? (fun v => v.1 == name) = some v ∧ v.2 = s.toUTF8

/-- A variable that holds no text counts as unset. -/
theorem Environment.lookup_eq_some_iff {env : Environment} {name s : String} :
  env.lookup name = some s ↔ env.Holds name s
  := by
  simp only [Environment.lookup, Option.bind_eq_some_iff, fromUTF8?_eq_some_iff, Holds]

theorem Environment.lookup_eq_none_iff {env : Environment} {name : String} :
  env.lookup name = none ↔ ∀ s, ¬ env.Holds name s
  := by
  simp only [Option.eq_none_iff_forall_ne_some, ← lookup_eq_some_iff, ne_eq]

namespace Config

/-- The configuration that overrides are laid on: the default one where no file is named, or what
the text of the named file denotes. -/
inductive IsBase (env : Environment) (files : String → FileContents) : Config → Prop
  | unnamed (hp : ∀ path, ¬ env.Holds fileVariable path) : IsBase env files default
  | named {path text : String} {c : Config} (hp : env.Holds fileVariable path)
      (hf : files path = .ok text.toUTF8) (hc : parse text = .ok c) : IsBase env files c

/-- Why there is no such configuration: the named file cannot be read, it is no text, or its text
denotes none. -/
inductive Unloadable (env : Environment) (files : String → FileContents) : ConfigError → Prop
  | unreadable {path : String} {e : SystemError} (hp : env.Holds fileVariable path)
      (hf : files path = .error e) : Unloadable env files (.read (.system e))
  | undecodable {path : String} {bytes : ByteArray} (hp : env.Holds fileVariable path)
      (hf : files path = .ok bytes) (hb : ∀ text : String, bytes ≠ text.toUTF8) :
      Unloadable env files (.read .notUtf8)
  | unparsable {path text : String} {e : ConfigError} (hp : env.Holds fileVariable path)
      (hf : files path = .ok text.toUTF8) (he : parse text = .error e) : Unloadable env files e

/-- What is in force after a configuration is installed. A measured rate of zero is not used. -/
structure Installed (c : Config) (m : Measurement) (s s' : Settings) : Prop where
  threshold : s'.threshold = c.contentionThreshold
  interval : s'.flushInterval = c.flushInterval
  format : s'.format = c.statsFormat
  given : ∀ r, c.cyclesPerSecond = some r → s'.rate = r
  platform : c.cyclesPerSecond = none → c.calibrateClock = false → s'.rate = 0
  measured : c.cyclesPerSecond = none → c.calibrateClock = true →
    s'.rate = if 0 < m.rate then m.rate else s.rate

variable {env env' : Environment} {files : String → FileContents} {c c' : Config}
  {e : ConfigError}

theorem installed_install (c : Config) (m : Measurement) (s : Settings) :
  Installed c m s (s.install c m)
  := by
  constructor
  all_goals
    rw [Settings.install]
    rcases c.cyclesPerSecond with _ | r
    · cases c.calibrateClock
      · simp
      · by_cases hm : 0 < m.rate <;> simp [Settings.calibrate, hm]
    · simp

/-! ### The base -/

/-- A file that holds a text is what the text denotes. -/
theorem load_text {text : String} :
  load (.ok text.toUTF8) = parse text
  := by
  rw [load, FileContents.text, fromUTF8?_eq_some_iff.mpr rfl]
  rfl

/-- A file that holds something else cannot be loaded. -/
theorem load_of_forall_ne {bytes : ByteArray} (hb : ∀ text : String, bytes ≠ text.toUTF8) :
  load (.ok bytes) = .error (.read .notUtf8)
  := by
  have none : String.fromUTF8? bytes = none := by
    apply Option.eq_none_iff_forall_ne_some.mpr
    intro text ht
    apply hb text (fromUTF8?_eq_some_iff.mp ht)
  rw [load, FileContents.text, none]
  rfl

theorem ofFile_named {path : String} (hp : env.Holds fileVariable path) :
  ofFile env files = load (files path)
  := by
  rw [ofFile, Environment.lookup_eq_some_iff.mpr hp]

theorem IsBase.ofFile_eq (b : IsBase env files c) :
  ofFile env files = .ok c
  := by
  cases b with
  | unnamed hp => rw [ofFile, Environment.lookup_eq_none_iff.mpr hp]
  | named hp hf hc => rw [ofFile_named hp, hf, load_text, hc]

theorem Unloadable.ofFile_eq (u : Unloadable env files e) :
  ofFile env files = .error e
  := by
  cases u with
  | unreadable hp hf =>
      rw [ofFile_named hp, hf]
      rfl
  | undecodable hp hf hb => rw [ofFile_named hp, hf, load_of_forall_ne hb]
  | unparsable hp hf he => rw [ofFile_named hp, hf, load_text, he]

/-- There is a base, or there is a reason why not. -/
theorem isBase_or_unloadable (env : Environment) (files : String → FileContents) :
  (∃ c, IsBase env files c) ∨ ∃ e, Unloadable env files e
  := by
  by_cases hp : ∃ path, env.Holds fileVariable path
  · obtain ⟨path, hp⟩ := hp
    cases hf : files path with
    | error e => exact .inr ⟨_, .unreadable hp hf⟩
    | ok bytes =>
        by_cases hb : ∃ text : String, bytes = text.toUTF8
        · obtain ⟨text, rfl⟩ := hb
          cases hc : parse text with
          | ok c => exact .inl ⟨c, .named hp hf hc⟩
          | error e => exact .inr ⟨e, .unparsable hp hf hc⟩
        · exact .inr ⟨_, .undecodable hp hf (not_exists.mp hb)⟩
  · exact .inl ⟨default, .unnamed (not_exists.mp hp)⟩

theorem isBase_iff :
  IsBase env files c ↔ ofFile env files = .ok c
  := by
  constructor
  · apply IsBase.ofFile_eq
  · intro h
    rcases isBase_or_unloadable env files with ⟨c', b⟩ | ⟨e, u⟩
    · rw [b.ofFile_eq] at h
      cases h
      exact b
    · rw [u.ofFile_eq] at h
      cases h

theorem unloadable_iff :
  Unloadable env files e ↔ ofFile env files = .error e
  := by
  constructor
  · apply Unloadable.ofFile_eq
  · intro h
    rcases isBase_or_unloadable env files with ⟨c, b⟩ | ⟨e', u⟩
    · rw [b.ofFile_eq] at h
      cases h
    · rw [u.ofFile_eq] at h
      cases h
      exact u

/-- Why a file cannot be loaded does not depend on other variables. -/
theorem Unloadable.congr (u : Unloadable env files e)
    (h : ∀ path, env'.Holds fileVariable path ↔ env.Holds fileVariable path) :
  Unloadable env' files e
  := by
  cases u with
  | unreadable hp hf => apply unreadable ((h _).mpr hp) hf
  | undecodable hp hf hb => apply undecodable ((h _).mpr hp) hf hb
  | unparsable hp hf he => apply unparsable ((h _).mpr hp) hf he

/-- What is discovered is a base with the variables laid on it. -/
theorem discover_eq_ok_iff :
  discover env files = .ok c ↔ ∃ b, IsBase env files b ∧ Overlays env.lookup b c
  := by
  simp only [discover, bind_eq_ok, isBase_iff, withOverrides_eq_ok_iff]

/-- Nothing is discovered if nothing can be loaded, or else if a variable cannot be read. -/
theorem of_discover_eq_error (h : discover env files = .error e) :
  Unloadable env files e ∨ (∃ b, IsBase env files b) ∧ Illegible env.lookup e
  := by
  rcases bind_eq_error.mp h with hu | ⟨b, hb, ho⟩
  · left
    apply unloadable_iff.mpr hu
  · right
    exact ⟨⟨b, isBase_iff.mpr hb⟩, illegible_of_withOverrides ho⟩

end Config

namespace Session

open Config

variable {env : Environment} {files : String → FileContents} {s s' : Settings} {m : Measurement}
  {c : Config} {e : LayerError}

/-- What is set up is discovered, and installed. -/
theorem setUp_eq_ok_iff :
  setUp env files s m = (.ok c, s') ↔ discover env files = .ok c ∧ s' = s.install c m
  := by
  rw [setUp]
  cases hd : discover env files with
  | ok c' =>
      simp only [Prod.mk.injEq, Except.ok.injEq]
      constructor
      · rintro ⟨rfl, rfl⟩
        exact ⟨rfl, rfl⟩
      · rintro ⟨rfl, rfl⟩
        exact ⟨rfl, rfl⟩
  | error e' => simp

/-- If nothing is discovered, then nothing is installed. -/
theorem setUp_eq_error_iff :
  setUp env files s m = (.error e, s')
    ↔ (∃ k, e = .config k ∧ discover env files = .error k) ∧ s' = s
  := by
  rw [setUp]
  cases hd : discover env files with
  | ok c' => simp
  | error k => simp [eq_comm]

/-- Setting up either installs a base with the variables laid on it, or leaves the settings as they
are. It does the one just if there is a base and every variable can be read; and what cannot be
loaded is the error whatever the variables hold. Told of or not, it does nothing else. -/
theorem all_or_nothing (env : Environment) (files : String → FileContents) (s : Settings)
    (m : Measurement) :
  (∀ e s', setUp env files s m = (.error e, s') → s' = s ∧ ∃ k, e = .config k
      ∧ (Unloadable env files k ∨ (∃ b, IsBase env files b) ∧ Illegible env.lookup k))
    ∧ (∀ c s', setUp env files s m = (.ok c, s') →
      (∃ b, IsBase env files b ∧ Overlays env.lookup b c) ∧ Installed c m s s')
    ∧ ((∃ c s', setUp env files s m = (.ok c, s')) ↔
      (∃ b, IsBase env files b) ∧ ∀ e, ¬ Illegible env.lookup e)
    ∧ (∀ e env', Unloadable env files e →
      (∀ path, env'.Holds fileVariable path ↔ env.Holds fileVariable path) →
      setUp env' files s m = (.error (.config e), s))
    ∧ ∀ (w : World Outcome) (quietly : Bool), (setUpStep env files quietly).run.run w
      = (.ok (.setUp
            (if quietly then none else some (setUp env files w.settings nominalMeasurement).1)
            (.of (setUp env files w.settings nominalMeasurement).2)),
          { w with settings := (setUp env files w.settings nominalMeasurement).2 })
  := by
  refine ⟨?_, ?_, ?_, ?_, fun w quietly => rfl⟩
  · intro e s' h
    obtain ⟨⟨k, he, hd⟩, hs⟩ := setUp_eq_error_iff.mp h
    use hs, k, he
    apply of_discover_eq_error hd
  · intro c s' h
    obtain ⟨hd, rfl⟩ := setUp_eq_ok_iff.mp h
    use discover_eq_ok_iff.mp hd
    apply installed_install
  · simp only [setUp_eq_ok_iff, discover_eq_ok_iff]
    constructor
    · rintro ⟨c, _, ⟨b, hb, o⟩, _⟩
      exact ⟨⟨b, hb⟩, fun e => o.not_illegible⟩
    · rintro ⟨⟨b, hb⟩, legible⟩
      obtain ⟨c, o⟩ := exists_overlays_iff.mpr legible
      exact ⟨c, _, ⟨b, hb, o⟩, rfl⟩
  · intro e env' u h
    apply setUp_eq_error_iff.mpr
    refine ⟨⟨e, rfl, ?_⟩, rfl⟩
    apply bind_eq_error.mpr
    left
    apply (u.congr h).ofFile_eq

/-- A file that is not there is reported, and not a threshold that cannot be read. -/
theorem all_or_nothing_missing :
  setUp ⟨[(fileVariable, "sync.toml".toUTF8), (thresholdVariable, "high".toUTF8)]⟩
      (fun _ => .error ⟨2⟩) { threshold := 7 } nominalMeasurement
    = (.error (.config (.read (.system ⟨2⟩))), { threshold := 7 })
  := by
  obtain ⟨_, _, _, unloadable, _⟩ := all_or_nothing ⟨[(fileVariable, "sync.toml".toUTF8)]⟩
    (fun _ => .error ⟨2⟩) { threshold := 7 } nominalMeasurement
  apply unloadable
  · have named : Environment.Holds ⟨[(fileVariable, "sync.toml".toUTF8)]⟩ fileVariable "sync.toml" :=
      ⟨_, rfl, rfl⟩
    apply Unloadable.unreadable named rfl
  · intro path
    rfl

end Session

end SyncLayer
