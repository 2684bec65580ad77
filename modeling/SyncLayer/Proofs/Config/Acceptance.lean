import SyncLayer.Logging.Config
import SyncLayer.Proofs.Config.Precedence
import SyncLayer.Proofs.Text.Blank
import SyncLayer.Proofs.Text.LowerCase

/-!
# Which texts are accepted

A number may have blanks around it, a plus sign and zeros in front of it. A name is accepted in small
and in capital letters, and with nothing around it. The switch of calibration and the level of
logging take every text; those that are not accepted switch calibration off, and stand for the level
`info`.
-/

namespace SyncLayer

namespace Config

variable {cs : List Char} {s : String} {n : UInt64} {f : StatsFormat} {v : Nat}

/-! ### Numbers -/

/-- A text without the blanks around it denotes a number. -/
def Spelled (s : String) (v : Nat) : Prop :=
  ∃ cs, Text.Padded s.toList cs ∧ Decimal.Spells cs v

theorem not_isBlank_of_spells (h : Decimal.Spells cs v) :
  ∀ c ∈ cs, Text.isBlank c = false
  := by
  obtain ⟨ds, rfl | rfl, _, digit, _⟩ := h
  · intro c hc
    apply Text.isBlank_of_isDigit (digit c hc)
  · rw [List.forall_mem_cons]
    refine ⟨rfl, ?_⟩
    intro c hc
    apply Text.isBlank_of_isDigit (digit c hc)

/-- A number with blanks around it is one. -/
theorem spelled_of_spells {before after : List Char} (h : Decimal.Spells cs v)
    (hb : ∀ c ∈ before, Text.isBlank c = true) (ha : ∀ c ∈ after, Text.isBlank c = true) :
  Spelled (.ofList (before ++ cs ++ after)) v
  := by
  refine ⟨cs, ?_, h⟩
  rw [String.toList_ofList]
  apply Text.Padded.of_forall hb ha (not_isBlank_of_spells h)

theorem denotes_iff_spelled :
  Denotes s n ↔ Spelled s n.toNat
  := by
  simp only [Spelled, ← Text.trim_eq_iff]
  constructor
  · intro h
    exact ⟨_, rfl, h⟩
  · rintro ⟨_, rfl, h⟩
    exact h

/-! ### Names -/

theorem isSmallWord_name (f : StatsFormat) :
  Text.IsSmallWord f.name.toList
  := by
  cases f <;> decide

theorem names_iff_isVariant :
  Names s f ↔ Text.IsVariant f.name s
  := Text.lower_eq_iff (isSmallWord_name f)

theorem switchesOn_iff_isVariant :
  SwitchesOn s ↔ s = "1" ∨ Text.IsVariant "true" s
  := or_congr_right (Text.lower_eq_iff (by decide))

end Config

namespace LogLevel

variable {s : String} {level : LogLevel}

theorem isSmallWord_name (level : LogLevel) :
  Text.IsSmallWord level.name.toList
  := by
  cases level <;> decide

/-- A text names one level at most. -/
theorem eq_of_readsAs {l : LogLevel} (h : Text.readsAs level.name s = true)
    (hl : Text.readsAs l.name s = true) :
  level = l
  := by
  rw [Text.readsAs, beq_iff_eq] at h hl
  rw [h] at hl
  revert hl
  cases level <;> cases l <;> decide

/-- A text stands for the level that it names, or for `info` if it names none. -/
theorem ofText_eq_iff :
  ofText s = level
    ↔ Text.IsVariant level.name s ∨ (level = .info ∧ ∀ l : LogLevel, ¬ Text.IsVariant l.name s)
  := by
  simp only [← Text.readsAs_iff (isSmallWord_name _)]
  cases hf : all.find? (fun l => Text.readsAs l.name s) with
  | some l =>
      have reads := List.find?_some hf
      rw [ofText, hf, Option.getD_some]
      constructor
      · rintro rfl
        exact .inl reads
      · rintro (h | ⟨_, none⟩)
        · apply eq_of_readsAs reads h
        · cases none l reads
  | none =>
      have none : ∀ l : LogLevel, ¬ Text.readsAs l.name s = true := by
        intro l
        apply List.find?_eq_none.mp hf
        cases l <;> decide
      rw [ofText, hf, Option.getD_none]
      constructor
      · rintro rfl
        exact .inr ⟨rfl, none⟩
      · rintro (h | ⟨h, _⟩)
        · cases none level h
        · exact h.symm

end LogLevel

/-! ### All of them -/

/-- A number is accepted just if, without the blanks around it, it is an optional plus sign and one
or more digits, with a value of 64 bits. So the digits of every such value are accepted, with blanks
around them and zeros in front of them. A name of a format, the word that switches calibration on,
and the name of a level are accepted just if they are spelled letter by letter in small or in capital
ASCII letters. So nothing else stands in a text that is accepted for one of these. -/
theorem acceptance :
  (∀ key s n, Config.readNumber key s = .ok n
      ↔ ∃ v, Config.Spelled s v ∧ v < UInt64.size ∧ n = .ofNat v)
    ∧ (∀ key s e, Config.readNumber key s = .error e
      ↔ e = .invalidValue key s ∧ ¬ ∃ v, Config.Spelled s v ∧ v < UInt64.size)
    ∧ (∀ key before after zeros n, (∀ c ∈ before, Text.isBlank c = true) →
      (∀ c ∈ after, Text.isBlank c = true) →
      Config.readNumber key (.ofList (before
        ++ (List.replicate zeros '0' ++ Decimal.digits n.toNat) ++ after)) = .ok n)
    ∧ (∀ s f, Config.readFormat s = .ok f ↔ Text.IsVariant f.name s)
    ∧ (∀ s e, Config.readFormat s = .error e
      ↔ e = .invalidValue "stats_format" s ∧ ∀ f : StatsFormat, ¬ Text.IsVariant f.name s)
    ∧ (∀ s, Config.readSwitch s = true ↔ s = "1" ∨ Text.IsVariant "true" s)
    ∧ (∀ s level, LogLevel.ofText s = level ↔ Text.IsVariant level.name s
      ∨ (level = .info ∧ ∀ l : LogLevel, ¬ Text.IsVariant l.name s))
    ∧ ∀ s, ((∃ f, Config.readFormat s = .ok f) ∨ (Config.readSwitch s = true ∧ s ≠ "1")
      ∨ LogLevel.ofText s ≠ .info) → ∀ c ∈ s.toList, c.isAlpha = true
  := by
  have spelled {s : String} :
      (∃ n : UInt64, Config.Spelled s n.toNat) ↔ ∃ v, Config.Spelled s v ∧ v < UInt64.size := by
    constructor
    · rintro ⟨n, h⟩
      exact ⟨n.toNat, h, n.toNat_lt_size⟩
    · rintro ⟨v, h, hv⟩
      exact ⟨.ofNat v, by rwa [UInt64.toNat_ofNat_of_lt' hv]⟩
  have format {s : String} {f : StatsFormat} :
      Config.readFormat s = .ok f ↔ Text.IsVariant f.name s := by
    rw [Config.readFormat_eq_ok_iff, Config.names_iff_isVariant]
  have switch {s : String} :
      Config.readSwitch s = true ↔ s = "1" ∨ Text.IsVariant "true" s := by
    rw [Config.readSwitch_eq_true_iff, Config.switchesOn_iff_isVariant]
  refine ⟨?_, ?_, ?_, fun _ _ => format, ?_, fun _ => switch, fun _ _ => LogLevel.ofText_eq_iff, ?_⟩
  · intro key s n
    rw [Config.readNumber_eq_ok_iff, Config.denotes_iff_spelled]
    constructor
    · intro h
      exact ⟨n.toNat, h, n.toNat_lt_size, UInt64.ofNat_toNat.symm⟩
    · rintro ⟨v, h, hv, rfl⟩
      rwa [UInt64.toNat_ofNat_of_lt' hv]
  · intro key s e
    simp only [Config.readNumber_eq_error_iff, Config.denotes_iff_spelled, spelled]
  · intro key before after zeros n hb ha
    rw [Config.readNumber_eq_ok_iff, Config.denotes_iff_spelled]
    apply Config.spelled_of_spells (Decimal.spells_digits zeros n.toNat).1 hb ha
  · intro s e
    simp only [Config.readFormat_eq_error_iff, Config.names_iff_isVariant, not_exists]
  · rintro s (⟨f, h⟩ | ⟨h, hs⟩ | h)
    · exact Text.isAlpha_of_forall₂ (Config.isSmallWord_name f) (format.mp h)
    · exact Text.isAlpha_of_forall₂ (by decide) ((switch.mp h).resolve_left hs)
    · have named := (LogLevel.ofText_eq_iff.mp rfl).resolve_right (fun none => h none.1)
      exact Text.isAlpha_of_forall₂ (LogLevel.isSmallWord_name _) named

/-- Wide blanks may stand around a number, and the letters of a level may be of both kinds. -/
theorem acceptance_padded :
  Config.readNumber "cycles_per_second" (.ofList (['\u2003', ' ']
      ++ (List.replicate 2 '0' ++ Decimal.digits (7 : UInt64).toNat) ++ ['\u3000', '\n'])) = .ok 7
    ∧ LogLevel.ofText "dEbUg" ≠ .info ∧ ∀ c ∈ "dEbUg".toList, c.isAlpha = true
  := by
  obtain ⟨_, _, number, _, _, _, _, letters⟩ := acceptance
  have debug : LogLevel.ofText "dEbUg" ≠ .info := by decide
  refine ⟨?_, debug, letters _ (.inr (.inr debug))⟩
  apply number
  · exact List.all_eq_true.mp rfl
  · exact List.all_eq_true.mp rfl

end SyncLayer
