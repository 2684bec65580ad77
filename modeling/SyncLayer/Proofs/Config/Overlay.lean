import SyncLayer.Proofs.Config.RoundTrip
import Mathlib

/-!
# Documents laid on the default configuration

A document gives values for some fields of a configuration, and leaves the others at their defaults.
So it does not matter in which order the members stand, nor which members stand there that are no
fields. Only the error about members that cannot be used depends on their order: it is about the
first of them.
-/

namespace SyncLayer.Config

open Toml (Item Key Members Scalar Span)

/-! ### What members say -/

/-- A field of a configuration with a value for it. -/
inductive Given where
  | threshold (n : UInt64)
  | rate (n : UInt64)
  | calibrate (b : Bool)
  | interval (n : UInt64)
  | format (f : StatsFormat)

namespace Given

/-- The name of the field. -/
def name : Given → String
  | threshold _ => "contention_threshold_cycles"
  | rate _ => "cycles_per_second"
  | calibrate _ => "calibrate_clock"
  | interval _ => "refcount_flush_interval"
  | format _ => "stats_format"

/-- The configuration with the value in its field. -/
def set (c : Config) : Given → Config
  | threshold n => { c with contentionThreshold := n }
  | rate n => { c with cyclesPerSecond := some n }
  | calibrate b => { c with calibrateClock := b }
  | interval n => { c with flushInterval := n }
  | format f => { c with statsFormat := f }

end Given

/-- The names of the fields that hold numbers. -/
def numberNames : List String :=
  ["contention_threshold_cycles", "cycles_per_second", "refcount_flush_interval"]

/-- The names of all fields. -/
def fieldNames : List String :=
  numberNames ++ ["calibrate_clock", "stats_format"]

/-- An item is an integer that is a number of 64 bits. -/
def HoldsNumber (item : Item) (n : UInt64) : Prop :=
  ∃ span, item = .scalar (.integer n.toNat) span

/-- An item is a truth value. -/
def HoldsBoolean (item : Item) (b : Bool) : Prop :=
  ∃ span, item = .scalar (.boolean b) span

/-- An item names a format by a text, or by the only key of a table if the item behind the key holds
nothing. -/
inductive HoldsFormat : Item → StatsFormat → Prop
  | text (f : StatsFormat) (span : Span) : HoldsFormat (.scalar (.text f.name) span) f
  | key {item payload : Item} {key : Key} {f : StatsFormat}
      (h : members? item = some [(key, payload)]) (hk : key.name = f.name)
      (hp : isVoid payload = true) : HoldsFormat item f

/-- An item is the value for the field. -/
def Given.HeldBy (item : Item) : Given → Prop
  | threshold n => HoldsNumber item n
  | rate n => HoldsNumber item n
  | calibrate b => HoldsBoolean item b
  | interval n => HoldsNumber item n
  | format f => HoldsFormat item f

/-- A member gives a field a value. -/
def Gives (m : Key × Item) (g : Given) : Prop :=
  m.1.name = g.name ∧ g.HeldBy m.2

/-- One of the members gives a field a value. -/
def GivenBy (members : Members) (g : Given) : Prop :=
  ∃ m ∈ members, Gives m g

/-- A member can be used: it is no field, or it gives one a value. -/
def Usable (m : Key × Item) : Prop :=
  m.1.name ∉ fieldNames ∨ ∃ g, Gives m g

/-- A field has a value that is given, or its old one if none is. -/
def Chosen {α : Type} (IsGiven : α → Prop) (old new : α) : Prop :=
  IsGiven new ∨ (∀ a, ¬ IsGiven a) ∧ new = old

/-- A configuration has the values that are given, and those of an old one where none is. -/
structure Overlaid (IsGiven : Given → Prop) (old c : Config) : Prop where
  threshold : Chosen (fun n => IsGiven (.threshold n)) old.contentionThreshold c.contentionThreshold
  rate : Chosen (fun r => ∃ n, r = some n ∧ IsGiven (.rate n)) old.cyclesPerSecond c.cyclesPerSecond
  calibrate : Chosen (fun b => IsGiven (.calibrate b)) old.calibrateClock c.calibrateClock
  interval : Chosen (fun n => IsGiven (.interval n)) old.flushInterval c.flushInterval
  format : Chosen (fun f => IsGiven (.format f)) old.statsFormat c.statsFormat

/-! ### What is wrong with a member -/

/-- Why an item is no number: it is a negative one, or no integer at all. -/
inductive NumberFault : Item → Rejection → Prop
  | negative {n : Int} {span : Span} (h : n < 0) :
      NumberFault (.scalar (.integer n) span) (.outOfRange n "u64")
  | kind {item : Item} (h : ∀ n span, item ≠ .scalar (.integer n) span) :
      NumberFault item (.wrongKind (describe item) "u64")

/-- Why an item is no truth value. -/
inductive BooleanFault : Item → Rejection → Prop
  | kind {item : Item} (h : ∀ b span, item ≠ .scalar (.boolean b) span) :
      BooleanFault item (.wrongKind (describe item) "a boolean")

/-- Why an item at some place names no format: its text or its only key is unknown, or it has neither,
or something stands behind its key. -/
inductive FormatFault (source : List Char) (place : Span) : Item → DocumentError → Prop
  | name {s : String} {span : Span} (h : ∀ f : StatsFormat, s ≠ f.name) :
      FormatFault source place (.scalar (.text s) span) (.rejected source place (.unknownFormat s))
  | key {item payload : Item} {key : Key} (h : members? item = some [(key, payload)])
      (hk : ∀ f : StatsFormat, key.name ≠ f.name) :
      FormatFault source place item (.rejected source key.span (.unknownFormat key.name))
  | shape {item : Item} (ht : ∀ s span, item ≠ .scalar (.text s) span)
      (hm : ∀ m, members? item ≠ some [m]) : FormatFault source place item .formatShape
  | payload {item payload : Item} {key : Key} {f : StatsFormat}
      (h : members? item = some [(key, payload)]) (hk : key.name = f.name)
      (hp : isVoid payload = false) : FormatFault source place item .formatShape

/-- The place of a member's value, or of its key if the value has none. -/
def placeOf (m : Key × Item) : Span :=
  m.2.span?.getD m.1.span

/-- Why a member that is a field cannot be used. -/
inductive Faulty (source : List Char) (m : Key × Item) : DocumentError → Prop
  | number {r : Rejection} (hk : m.1.name ∈ numberNames) (h : NumberFault m.2 r) :
      Faulty source m (.rejected source (placeOf m) r)
  | boolean {r : Rejection} (hk : m.1.name = "calibrate_clock") (h : BooleanFault m.2 r) :
      Faulty source m (.rejected source (placeOf m) r)
  | format {e : DocumentError} (hk : m.1.name = "stats_format")
      (h : FormatFault source (placeOf m) m.2 e) : Faulty source m e

variable {source : List Char} {m : Key × Item} {members : Members} {item : Item} {g g' : Given}
  {n : UInt64} {b : Bool} {f : StatsFormat} {c c' c'' : Config} {e : DocumentError} {r : Rejection}
  {span : Span}

/-! ### Values -/

theorem number_eq_ok_iff (hi : item.Fits) :
  number item = .ok n ↔ HoldsNumber item n
  := by
  constructor
  · intro h
    rw [number.eq_def] at h
    split at h
    · rename_i k span
      have bound := hi k span rfl
      rw [Toml.maxInteger] at bound
      split at h
      · cases h
      · cases h
        refine ⟨span, ?_⟩
        have small : k.toNat < UInt64.size := by
          rw [UInt64.size]
          omega
        rw [UInt64.toNat_ofNat_of_lt' small]
        congr
        omega
    · cases h
  · rintro ⟨span, rfl⟩
    apply number_integer

theorem number_eq_error_iff :
  number item = .error r ↔ NumberFault item r
  := by
  constructor
  · intro h
    rw [number.eq_def] at h
    split at h
    · split at h
      · cases h
        apply NumberFault.negative
        assumption
      · cases h
    · cases h
      apply NumberFault.kind
      assumption
  · rintro (h | h)
    · rw [number, if_pos h]
    · rw [number]
      exact h

theorem boolean_eq_ok_iff :
  boolean item = .ok b ↔ HoldsBoolean item b
  := by
  constructor
  · intro h
    rw [boolean.eq_def] at h
    split at h
    · cases h
      exact ⟨_, rfl⟩
    · cases h
  · rintro ⟨span, rfl⟩
    rfl

theorem boolean_eq_error_iff :
  boolean item = .error r ↔ BooleanFault item r
  := by
  constructor
  · intro h
    rw [boolean.eq_def] at h
    split at h
    · cases h
    · cases h
      apply BooleanFault.kind
      assumption
  · rintro ⟨h⟩
    rw [boolean]
    exact h

theorem ofName?_eq_some_iff {s : String} :
  StatsFormat.ofName? s = some f ↔ s = f.name
  := by
  constructor
  · intro h
    simp only [StatsFormat.ofName?] at h
    split at h
    · cases h
      assumption
    · split at h
      · cases h
        assumption
      · cases h
  · rintro rfl
    apply ofName?_name

theorem ofName?_eq_none_iff {s : String} :
  StatsFormat.ofName? s = none ↔ ∀ f : StatsFormat, s ≠ f.name
  := by
  simp only [Option.eq_none_iff_forall_ne_some, ne_eq, ofName?_eq_some_iff]

theorem format_text {s : String} {place : Span} :
  format source place (.scalar (.text s) span)
    = match StatsFormat.ofName? s with
      | some f => .ok f
      | none => .error (.rejected source place (.unknownFormat s))
  := rfl

theorem format_key {payload : Item} {key : Key} (h : members? item = some [(key, payload)]) :
  format source span item
    = match StatsFormat.ofName? key.name with
      | some f => if isVoid payload then .ok f else .error .formatShape
      | none => .error (.rejected source key.span (.unknownFormat key.name))
  := by
  rw [format.eq_def, h]
  cases item with
  | scalar value span => cases h
  | _ => rfl

theorem format_shape (ht : ∀ s span, item ≠ .scalar (.text s) span)
    (hm : ∀ m, members? item ≠ some [m]) :
  format source span item = .error .formatShape
  := by
  rw [format.eq_def]
  split
  · exact absurd rfl (ht _ _)
  · exact absurd ‹_› (hm _)
  · rfl

/-- An item is a text, a table with one key, or neither. -/
theorem format_cases (item : Item) :
  (∃ s span, item = .scalar (.text s) span)
    ∨ (∃ key payload, members? item = some [(key, payload)])
    ∨ (∀ s span, item ≠ .scalar (.text s) span) ∧ ∀ m, members? item ≠ some [m]
  := by
  by_cases ht : ∃ s span, item = .scalar (.text s) span
  · exact .inl ht
  · by_cases hm : ∃ key payload, members? item = some [(key, payload)]
    · exact .inr (.inl hm)
    · push Not at ht hm
      exact .inr (.inr ⟨ht, fun m => hm m.1 m.2⟩)

theorem format_of_holds (source : List Char) (span : Span) (h : HoldsFormat item f) :
  format source span item = .ok f
  := by
  cases h with
  | text => rw [format_text, ofName?_name]
  | key h hk hp =>
      rw [format_key h, ofName?_eq_some_iff.mpr hk, hp]
      rfl

theorem format_of_fault (h : FormatFault source span item e) :
  format source span item = .error e
  := by
  cases h with
  | name h => rw [format_text, ofName?_eq_none_iff.mpr h]
  | key h hk => rw [format_key h, ofName?_eq_none_iff.mpr hk]
  | shape ht hm => exact format_shape ht hm
  | payload h hk hp =>
      rw [format_key h, ofName?_eq_some_iff.mpr hk, hp]
      rfl

/-- An item names a format, or there is a reason why not. -/
theorem holds_or_fault (source : List Char) (span : Span) (item : Item) :
  (∃ f, HoldsFormat item f) ∨ ∃ e, FormatFault source span item e
  := by
  rcases format_cases item with ⟨s, place, rfl⟩ | ⟨key, payload, h⟩ | ⟨ht, hm⟩
  · by_cases hs : ∃ f : StatsFormat, s = f.name
    · obtain ⟨f, rfl⟩ := hs
      exact .inl ⟨f, .text f place⟩
    · exact .inr ⟨_, .name (not_exists.mp hs)⟩
  · by_cases hk : ∃ f : StatsFormat, key.name = f.name
    · obtain ⟨f, hk⟩ := hk
      cases hp : isVoid payload with
      | true => exact .inl ⟨f, .key h hk hp⟩
      | false => exact .inr ⟨_, .payload h hk hp⟩
    · exact .inr ⟨_, .key h (not_exists.mp hk)⟩
  · exact .inr ⟨_, .shape ht hm⟩

theorem format_eq_ok_iff :
  format source span item = .ok f ↔ HoldsFormat item f
  := by
  refine ⟨?_, format_of_holds source span⟩
  intro h
  rcases holds_or_fault source span item with ⟨f', hf⟩ | ⟨e, he⟩
  · rw [format_of_holds source span hf] at h
    cases h
    exact hf
  · rw [format_of_fault he] at h
    cases h

theorem format_eq_error_iff :
  format source span item = .error e ↔ FormatFault source span item e
  := by
  refine ⟨?_, format_of_fault⟩
  intro h
  rcases holds_or_fault source span item with ⟨f', hf⟩ | ⟨e, he⟩
  · rw [format_of_holds source span hf] at h
    cases h
  · rw [format_of_fault he] at h
    cases h
    exact he

/-! ### One member -/

theorem located_eq_error_iff {α : Type} {x : Except Rejection α} :
  located source span x = .error e ↔ ∃ r, x = .error r ∧ e = .rejected source span r
  := by
  cases x <;> simp [located, Except.mapError, eq_comm]

theorem not_mem_fieldNames {k : String} (threshold : k ≠ "contention_threshold_cycles")
    (rate : k ≠ "cycles_per_second") (calibrate : k ≠ "calibrate_clock")
    (interval : k ≠ "refcount_flush_interval") (format : k ≠ "stats_format") :
  k ∉ fieldNames
  := by
  simpa [fieldNames, numberNames] using ⟨threshold, rate, interval, calibrate, format⟩

theorem Gives.mem_fieldNames (h : Gives m g) :
  m.1.name ∈ fieldNames
  := by
  rw [h.1]
  cases g <;> simp [Given.name, fieldNames, numberNames]

/-- A field is set to the value that is read for it. -/
theorem setField_eq_ok_iff {α : Type} {x : Except DocumentError α} {k : String} (field : α → Given)
    (hk : m.1.name = k) (hn : k ∈ fieldNames) (hg : ∀ g : Given, g.name = k ↔ ∃ a, g = field a)
    (hx : ∀ a, x = .ok a ↔ (field a).HeldBy m.2) :
  (x >>= fun a => pure ((field a).set c)) = .ok c'
    ↔ (m.1.name ∉ fieldNames ∧ c' = c) ∨ ∃ g, Gives m g ∧ c' = g.set c
  := by
  rw [bind_eq_ok, hk]
  constructor
  · rintro ⟨a, ha, h⟩
    cases h
    exact .inr ⟨field a, ⟨hk.trans ((hg _).mpr ⟨a, rfl⟩).symm, (hx a).mp ha⟩, rfl⟩
  · rintro (⟨other, -⟩ | ⟨g, ⟨name, held⟩, rfl⟩)
    · exact absurd hn other
    · obtain ⟨a, rfl⟩ := (hg g).mp (name.symm.trans hk)
      exact ⟨a, (hx a).mpr held, rfl⟩

/-- A member that can be used sets its field, if it is one. -/
theorem setMember_eq_ok_iff (hm : m.2.Fits) :
  setMember source c m = .ok c'
    ↔ (m.1.name ∉ fieldNames ∧ c' = c) ∨ ∃ g, Gives m g ∧ c' = g.set c
  := by
  have number (span : Span) (n : UInt64) :
      located source span (number m.2) = .ok n ↔ HoldsNumber m.2 n := by
    rw [located_eq_ok_iff, number_eq_ok_iff hm]
  have boolean (span : Span) (b : Bool) :
      located source span (boolean m.2) = .ok b ↔ HoldsBoolean m.2 b := by
    rw [located_eq_ok_iff, boolean_eq_ok_iff]
  rw [setMember]
  split
  case h_1 hk =>
    exact setField_eq_ok_iff .threshold hk (by decide) (fun g => by cases g <;> simp [Given.name])
      (number _)
  case h_2 hk =>
    exact setField_eq_ok_iff .rate hk (by decide) (fun g => by cases g <;> simp [Given.name])
      (number _)
  case h_3 hk =>
    exact setField_eq_ok_iff .calibrate hk (by decide) (fun g => by cases g <;> simp [Given.name])
      (boolean _)
  case h_4 hk =>
    exact setField_eq_ok_iff .interval hk (by decide) (fun g => by cases g <;> simp [Given.name])
      (number _)
  case h_5 hk =>
    exact setField_eq_ok_iff .format hk (by decide) (fun g => by cases g <;> simp [Given.name])
      (fun _ => format_eq_ok_iff)
  case h_6 threshold rate calibrate interval format =>
    have other := not_mem_fieldNames threshold rate calibrate interval format
    constructor
    · intro h
      cases h
      exact .inl ⟨other, rfl⟩
    · rintro (⟨-, rfl⟩ | ⟨g, hg, -⟩)
      · rfl
      · exact absurd hg.mem_fieldNames other

theorem setField_eq_error_iff {α : Type} {x : Except DocumentError α} {set : α → Config} :
  (x >>= fun a => pure (set a)) = .error e ↔ x = .error e
  := by
  rw [bind_eq_error]
  constructor
  · rintro (h | ⟨a, -, h⟩)
    · exact h
    · cases h
  · exact .inl

theorem faulty_number_iff (hk : m.1.name ∈ numberNames) :
  Faulty source m e ↔ located source (placeOf m) (number m.2) = .error e
  := by
  rw [located_eq_error_iff]
  constructor
  · rintro (⟨_, h⟩ | ⟨other, _⟩ | ⟨other, _⟩)
    · exact ⟨_, number_eq_error_iff.mpr h, rfl⟩
    all_goals
      rw [other] at hk
      exact absurd hk (by decide)
  · rintro ⟨r, h, rfl⟩
    exact .number hk (number_eq_error_iff.mp h)

theorem faulty_boolean_iff (hk : m.1.name = "calibrate_clock") :
  Faulty source m e ↔ located source (placeOf m) (boolean m.2) = .error e
  := by
  rw [located_eq_error_iff]
  constructor
  · rintro (⟨other, _⟩ | ⟨_, h⟩ | ⟨other, _⟩)
    · rw [hk] at other
      exact absurd other (by decide)
    · exact ⟨_, boolean_eq_error_iff.mpr h, rfl⟩
    · rw [hk] at other
      exact absurd other (by decide)
  · rintro ⟨r, h, rfl⟩
    exact .boolean hk (boolean_eq_error_iff.mp h)

theorem faulty_format_iff (hk : m.1.name = "stats_format") :
  Faulty source m e ↔ format source (placeOf m) m.2 = .error e
  := by
  rw [format_eq_error_iff]
  constructor
  · rintro (⟨other, _⟩ | ⟨other, _⟩ | ⟨_, h⟩)
    · rw [hk] at other
      exact absurd other (by decide)
    · rw [hk] at other
      exact absurd other (by decide)
    · exact h
  · exact .format hk

theorem Faulty.mem_fieldNames (h : Faulty source m e) :
  m.1.name ∈ fieldNames
  := by
  cases h with
  | number hk _ => exact List.mem_append_left _ hk
  | boolean hk _ => simp [hk, fieldNames]
  | format hk _ => simp [hk, fieldNames]

/-- A member that cannot be used decides the error, whatever is set before. -/
theorem setMember_eq_error_iff :
  setMember source c m = .error e ↔ Faulty source m e
  := by
  rw [setMember]
  split
  case h_1 hk => exact setField_eq_error_iff.trans (faulty_number_iff (by rw [hk]; decide)).symm
  case h_2 hk => exact setField_eq_error_iff.trans (faulty_number_iff (by rw [hk]; decide)).symm
  case h_3 hk => exact setField_eq_error_iff.trans (faulty_boolean_iff hk).symm
  case h_4 hk => exact setField_eq_error_iff.trans (faulty_number_iff (by rw [hk]; decide)).symm
  case h_5 hk => exact setField_eq_error_iff.trans (faulty_format_iff hk).symm
  case h_6 threshold rate calibrate interval format =>
    constructor
    · intro h
      cases h
    · intro h
      exact absurd h.mem_fieldNames
        (not_mem_fieldNames threshold rate calibrate interval format)

theorem usable_iff (source : List Char) (c : Config) (hm : m.2.Fits) :
  Usable m ↔ ∃ c', setMember source c m = .ok c'
  := by
  simp only [setMember_eq_ok_iff hm, Usable]
  constructor
  · rintro (other | ⟨g, hg⟩)
    · exact ⟨c, .inl ⟨other, rfl⟩⟩
    · exact ⟨g.set c, .inr ⟨g, hg, rfl⟩⟩
  · rintro ⟨_, ⟨other, _⟩ | ⟨g, hg, _⟩⟩
    · exact .inl other
    · exact .inr ⟨g, hg⟩

/-- A member can be used, or there is a reason why not, and not both. -/
theorem not_usable_iff (source : List Char) (hm : m.2.Fits) :
  ¬ Usable m ↔ ∃ e, Faulty source m e
  := by
  rw [usable_iff source default hm]
  simp only [← setMember_eq_error_iff (c := default)]
  cases setMember source default m <;> simp

/-! ### Fields that are chosen -/

theorem Chosen.trans {α : Type} {P Q : α → Prop} {a b d : α} (h : Chosen P a b)
    (h' : Chosen Q b d) :
  Chosen (fun x => P x ∨ Q x) a d
  := by
  rcases h' with hq | ⟨hq, rfl⟩
  · exact .inl (.inr hq)
  · rcases h with hp | ⟨hp, rfl⟩
    · exact .inl (.inl hp)
    · refine .inr ⟨?_, rfl⟩
      rintro x (hx | hx)
      · exact hp x hx
      · exact hq x hx

theorem Chosen.unique {α : Type} {P : α → Prop} {a b d : α} (h : Chosen P a b) (h' : Chosen P a d)
    (one : ∀ x y, P x → P y → x = y) :
  b = d
  := by
  rcases h with hb | ⟨none, rfl⟩
  · rcases h' with hd | ⟨none, _⟩
    · exact one b d hb hd
    · exact absurd hb (none b)
  · rcases h' with hd | ⟨_, rfl⟩
    · exact absurd hd (none d)
    · rfl

variable {P Q : Given → Prop}

theorem Overlaid.congr (h : Overlaid P c c') (hq : ∀ g, P g ↔ Q g) :
  Overlaid Q c c'
  := by
  rwa [← funext fun g => propext (hq g)]

theorem Overlaid.refl (h : ∀ g, ¬ P g) (c : Config) :
  Overlaid P c c
  := by
  constructor
  case rate =>
    refine .inr ⟨?_, rfl⟩
    rintro _ ⟨n, _, hn⟩
    exact h _ hn
  all_goals exact .inr ⟨fun _ => h _, rfl⟩

theorem Overlaid.trans (h : Overlaid P c c') (h' : Overlaid Q c' c'') :
  Overlaid (fun g => P g ∨ Q g) c c''
  := by
  constructor
  case rate =>
    have rate := h.rate.trans h'.rate
    simpa only [← exists_or, ← and_or_left] using rate
  · exact h.threshold.trans h'.threshold
  · exact h.calibrate.trans h'.calibrate
  · exact h.interval.trans h'.interval
  · exact h.format.trans h'.format

/-- A value that is given is set in its own field, and the other fields stay. -/
theorem overlaid_set (hg : Gives m g) :
  Overlaid (Gives m) c (g.set c)
  := by
  have own (g' : Given) (h : Gives m g') : g.name = g'.name := hg.1.symm.trans h.1
  constructor
  case rate =>
    cases g
    case rate n => exact .inl ⟨n, rfl, hg⟩
    all_goals
      refine .inr ⟨?_, rfl⟩
      rintro _ ⟨n, -, h⟩
      exact absurd (own _ h) (by simp [Given.name])
  all_goals
    cases g
    all_goals
      first
        | exact .inl hg
        | exact .inr ⟨fun _ h => absurd (own _ h) (by simp [Given.name]), rfl⟩

theorem Overlaid.unique (h : Overlaid P c c') (h' : Overlaid P c c'')
    (one : ∀ g g', P g → P g' → g.name = g'.name → g = g') :
  c' = c''
  := by
  have threshold := h.threshold.unique h'.threshold fun _ _ h h' =>
    Given.threshold.inj (one _ _ h h' rfl)
  have rate : c'.cyclesPerSecond = c''.cyclesPerSecond := by
    apply h.rate.unique h'.rate
    rintro _ _ ⟨n, rfl, h⟩ ⟨n', rfl, h'⟩
    rw [Given.rate.inj (one _ _ h h' rfl)]
  have calibrate := h.calibrate.unique h'.calibrate fun _ _ h h' =>
    Given.calibrate.inj (one _ _ h h' rfl)
  have interval := h.interval.unique h'.interval fun _ _ h h' =>
    Given.interval.inj (one _ _ h h' rfl)
  have format := h.format.unique h'.format fun _ _ h h' =>
    Given.format.inj (one _ _ h h' rfl)
  cases c'
  cases c''
  cases threshold
  cases rate
  cases calibrate
  cases interval
  cases format
  rfl

theorem HoldsNumber.unique {n' : UInt64} (h : HoldsNumber item n) (h' : HoldsNumber item n') :
  n = n'
  := by
  obtain ⟨_, rfl⟩ := h
  obtain ⟨_, h'⟩ := h'
  injection h' with h'
  injection h' with h'
  exact UInt64.toNat_inj.mp (Int.ofNat_inj.mp h')

theorem HoldsBoolean.unique {b' : Bool} (h : HoldsBoolean item b) (h' : HoldsBoolean item b') :
  b = b'
  := by
  obtain ⟨_, rfl⟩ := h
  obtain ⟨_, h'⟩ := h'
  cases h'
  rfl

theorem HoldsFormat.unique {f' : StatsFormat} (h : HoldsFormat item f) (h' : HoldsFormat item f') :
  f = f'
  := by
  have read := format_of_holds [] ⟨0, 0⟩ h
  rw [format_of_holds [] ⟨0, 0⟩ h'] at read
  cases read
  rfl

/-- An item is one value for a field at most. -/
theorem Given.HeldBy.unique (h : g.HeldBy item) (h' : g'.HeldBy item) (hn : g.name = g'.name) :
  g = g'
  := by
  cases g <;> cases g' <;> simp only [Given.name, String.reduceEq] at hn
  · exact congrArg _ (HoldsNumber.unique h h')
  · exact congrArg _ (HoldsNumber.unique h h')
  · exact congrArg _ (HoldsBoolean.unique h h')
  · exact congrArg _ (HoldsNumber.unique h h')
  · exact congrArg _ (HoldsFormat.unique h h')

/-- Members of different names give a field one value at most. -/
theorem GivenBy.unique (hm : members.Distinct) (h : GivenBy members g) (h' : GivenBy members g')
    (hn : g.name = g'.name) :
  g = g'
  := by
  obtain ⟨m, mem, name, held⟩ := h
  obtain ⟨m', mem', name', held'⟩ := h'
  obtain rfl := hm.eq_of_name mem mem' (by rw [name, name', hn])
  exact held.unique held' hn

/-! ### All members -/

/-- Members that can all be used are laid on a configuration. -/
theorem exists_overlaid (source : List Char) (hm : members.Fit) (hu : ∀ m ∈ members, Usable m)
    (c : Config) :
  ∃ c', members.foldlM (setMember source) c = .ok c' ∧ Overlaid (GivenBy members) c c'
  := by
  induction members generalizing c with
  | nil => exact ⟨c, rfl, .refl (fun g ⟨_, hm, _⟩ => by cases hm) c⟩
  | cons m members ih =>
      obtain ⟨hm, fit⟩ := List.forall_mem_cons.mp hm
      obtain ⟨hu, usable⟩ := List.forall_mem_cons.mp hu
      obtain ⟨c₁, set⟩ := (usable_iff source c hm).mp hu
      have first : Overlaid (Gives m) c c₁ := by
        rcases (setMember_eq_ok_iff hm).mp set with ⟨other, rfl⟩ | ⟨g, hg, rfl⟩
        · exact .refl (fun g hg => other hg.mem_fieldNames) _
        · exact overlaid_set hg
      obtain ⟨c', rest, overlaid⟩ := ih fit usable c₁
      refine ⟨c', ?_, ?_⟩
      · rw [List.foldlM_cons, set]
        exact rest
      · apply (first.trans overlaid).congr
        intro g
        simp [GivenBy]

/-- The first member that cannot be used decides the error. -/
theorem foldlM_eq_error {before after : Members} (hm : Members.Fit before)
    (hu : ∀ m ∈ before, Usable m) (he : Faulty source m e) :
  (before ++ m :: after).foldlM (setMember source) c = .error e
  := by
  obtain ⟨c', ok, _⟩ := exists_overlaid source hm hu c
  rw [List.foldlM_append]
  apply bind_eq_error.mpr (.inr ⟨c', ok, _⟩)
  rw [List.foldlM_cons]
  exact bind_eq_error.mpr (.inl (setMember_eq_error_iff.mpr he))

/-- All members can be used, or there is a first one that cannot. -/
theorem usable_or_faulty (source : List Char) (hm : members.Fit) :
  (∀ m ∈ members, Usable m) ∨ ∃ before m after e, members = before ++ m :: after
    ∧ (∀ m ∈ before, Usable m) ∧ Faulty source m e
  := by
  induction members with
  | nil => exact .inl nofun
  | cons m members ih =>
      obtain ⟨hm, fit⟩ := List.forall_mem_cons.mp hm
      by_cases hu : Usable m
      · rcases ih fit with usable | ⟨before, m', after, e, rfl, usable, he⟩
        · exact .inl (List.forall_mem_cons.mpr ⟨hu, usable⟩)
        · exact .inr ⟨m :: before, m', after, e, rfl, List.forall_mem_cons.mpr ⟨hu, usable⟩, he⟩
      · obtain ⟨e, he⟩ := (not_usable_iff source hm).mp hu
        exact .inr ⟨[], m, members, e, rfl, nofun, he⟩

/-! ### Documents -/

/-- A document with members denotes what they make of the default configuration. -/
theorem parse_of_read? {s : String} (h : Toml.read? s.toList = some members) :
  parse s = (members.foldlM (setMember s.toList) default).mapError .document
  := by
  rw [parse, ofDocument, h]
  rfl

theorem exists_parse {s : String} (h : Toml.read? s.toList = some members)
    (hu : ∀ m ∈ members, Usable m) :
  ∃ c, parse s = .ok c ∧ Overlaid (GivenBy members) default c
  := by
  obtain ⟨c, made, overlaid⟩ := exists_overlaid s.toList (Toml.fit_of_read? h) hu default
  refine ⟨c, ?_, overlaid⟩
  rw [parse_of_read? h, made]
  rfl

theorem parse_of_faulty {s : String} {before after : Members}
    (h : Toml.read? s.toList = some (before ++ m :: after)) (hu : ∀ m ∈ before, Usable m)
    (he : Faulty s.toList m e) :
  parse s = .error (.document e)
  := by
  have fit : Members.Fit before :=
    fun m hm => Toml.fit_of_read? h m (List.mem_append_left _ hm)
  rw [parse_of_read? h, foldlM_eq_error fit hu he]
  rfl

theorem Overlaid.unique_of_read? {s : String} (h : Toml.read? s.toList = some members)
    (ho : Overlaid (GivenBy members) c c') (ho' : Overlaid (GivenBy members) c c'') :
  c' = c''
  := ho.unique ho' fun _ _ => GivenBy.unique (Toml.distinct_of_read? h)

/-- The empty document denotes the default configuration. A document has members of different names,
and denotes a configuration just if all that are fields can be used: the default one with the
values that are given. So documents that give the same values denote the same configuration,
whatever order their members have and whatever else stands there. Otherwise the error is about the
first member that cannot be used. -/
theorem overlay :
  parse "" = .ok default
    ∧ ∀ (s : String) (members : Members), Toml.read? s.toList = some members →
      members.Distinct
      ∧ (∀ c, parse s = .ok c
        ↔ (∀ m ∈ members, Usable m) ∧ Overlaid (GivenBy members) default c)
      ∧ ((∀ m ∈ members, Usable m) → ∃ c, parse s = .ok c)
      ∧ (∀ k, parse s = .error k ↔ ∃ before m after e, members = before ++ m :: after
        ∧ (∀ m ∈ before, Usable m) ∧ Faulty s.toList m e ∧ k = .document e)
      ∧ ∀ (s' : String) (members' : Members), Toml.read? s'.toList = some members' →
        (∀ m ∈ members, Usable m) → (∀ m ∈ members', Usable m) →
        (∀ g, GivenBy members g ↔ GivenBy members' g) → parse s = parse s'
  := by
  refine ⟨by cbv, ?_⟩
  intro s members h
  refine ⟨Toml.distinct_of_read? h, ?_, ?_, ?_, ?_⟩
  · intro c
    rcases usable_or_faulty s.toList (Toml.fit_of_read? h) with
      usable | ⟨before, m, after, e, rfl, usable, he⟩
    · obtain ⟨c', ok, overlaid⟩ := exists_parse h usable
      rw [ok]
      constructor
      · rintro ⟨⟩
        exact ⟨usable, overlaid⟩
      · rintro ⟨-, ho⟩
        rw [overlaid.unique_of_read? h ho]
    · rw [parse_of_faulty h usable he]
      constructor
      · intro h
        cases h
      · rintro ⟨all, -⟩
        have fits := Toml.fit_of_read? h m (by simp)
        exact absurd (all m (by simp)) ((not_usable_iff _ fits).mpr ⟨e, he⟩)
  · intro usable
    obtain ⟨c, ok, -⟩ := exists_parse h usable
    exact ⟨c, ok⟩
  · intro k
    constructor
    · intro error
      rcases usable_or_faulty s.toList (Toml.fit_of_read? h) with
        usable | ⟨before, m, after, e, rfl, usable, he⟩
      · obtain ⟨c, ok, -⟩ := exists_parse h usable
        rw [ok] at error
        cases error
      · rw [parse_of_faulty h usable he] at error
        cases error
        exact ⟨before, m, after, e, rfl, usable, he, rfl⟩
    · rintro ⟨before, m, after, e, rfl, usable, he, rfl⟩
      exact parse_of_faulty h usable he
  · intro s' members' h' usable usable' same
    obtain ⟨c, ok, overlaid⟩ := exists_parse h usable
    obtain ⟨c', ok', overlaid'⟩ := exists_parse h' usable'
    rw [ok, ok', overlaid.unique_of_read? h (overlaid'.congr fun g => (same g).symm)]

/-- A member that is no field changes nothing. -/
theorem overlay_foreign :
  parse "x = []\ncalibrate_clock = true\n" = parse "calibrate_clock = true\n"
  := by
  have foreign : Toml.read? "x = []\ncalibrate_clock = true\n".toList
      = some [(⟨"x", ⟨30, 29⟩⟩, .array [] ⟨26, 24⟩),
        (⟨"calibrate_clock", ⟨23, 8⟩⟩, .scalar (.boolean true) ⟨5, 1⟩)] := by
    cbv
  have alone : Toml.read? "calibrate_clock = true\n".toList
      = some [(⟨"calibrate_clock", ⟨23, 8⟩⟩, .scalar (.boolean true) ⟨5, 1⟩)] := by
    cbv
  have clock : Usable (⟨"calibrate_clock", ⟨23, 8⟩⟩, .scalar (.boolean true) ⟨5, 1⟩) :=
    .inr ⟨.calibrate true, rfl, _, rfl⟩
  have other : Usable (⟨"x", ⟨30, 29⟩⟩, .array [] ⟨26, 24⟩) := by
    left
    decide
  obtain ⟨-, overlaid⟩ := overlay
  obtain ⟨-, -, -, -, same⟩ := overlaid _ _ foreign
  apply same _ _ alone
  · exact List.forall_mem_cons.mpr ⟨other, List.forall_mem_singleton.mpr clock⟩
  · exact List.forall_mem_singleton.mpr clock
  · intro g
    have none : ¬ Gives (⟨"x", ⟨30, 29⟩⟩, .array [] ⟨26, 24⟩) g := fun h => by
      have known := h.mem_fieldNames
      revert known
      decide
    simp [GivenBy, none]

/-- An item names a format by a text, or by the only key of a table with an empty table behind it. -/
def NamesFormat (item : Item) (f : StatsFormat) : Prop :=
  (∃ span, item = .scalar (.text f.name) span)
    ∨ ∃ key place span, key.name = f.name ∧ item = .inline [(key, .inline [] place)] span

/-- A format is also named with an empty array behind its key, so that what is no such name can be
used. And an integer beyond 64 bits is no member at all, so that it decides the error even behind a
member that cannot be used. -/
theorem named_otherwise :
  (¬ ∀ (s : String) (members : Members), Toml.read? s.toList = some members →
      (∃ m ∈ members, m.1.name = "stats_format" ∧ ¬ ∃ f, NamesFormat m.2 f) →
      ∃ k, parse s = .error k)
    ∧ parse "calibrate_clock = 3\ncontention_threshold_cycles = 9223372036854775808\n"
      = .error (.document .malformed)
  := by
  refine ⟨?_, by cbv⟩
  intro refused
  have read : Toml.read? "stats_format = {json = []}\n".toList
      = some [(⟨"stats_format", ⟨27, 15⟩⟩,
        .inline [(⟨"json", ⟨11, 7⟩⟩, .array [] ⟨4, 2⟩)] ⟨12, 1⟩)] := by
    cbv
  have ok : parse "stats_format = {json = []}\n" = .ok { statsFormat := .json } := by
    cbv
  obtain ⟨k, error⟩ := refused _ _ read ⟨_, List.mem_singleton_self _, rfl, by
    rintro ⟨f, ⟨span, h⟩ | ⟨key, place, span, _, h⟩⟩ <;> cases h⟩
  rw [ok] at error
  cases error

end SyncLayer.Config
