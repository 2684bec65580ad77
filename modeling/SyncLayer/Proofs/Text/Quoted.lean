import SyncLayer.Text.Quoted
import Mathlib.Tactic.SplitIfs

/-!
# Quoted literals are read back

A text is read back from its quoted literal, whatever its characters are. In the literal itself every
character is seen: none of them is hidden, and none attaches to the one before it. So there is no
control character in it.
-/

namespace SyncLayer.Text

/-- A control character, of the general category `Cc`. -/
def IsControl (c : Char) : Prop :=
  c.toNat < 0x20 ∨ (0x7f ≤ c.toNat ∧ c.toNat < 0xa0)

instance (c : Char) : Decidable (IsControl c) :=
  inferInstanceAs (Decidable (_ ∨ _))

/-- A text without control characters, which is on one line. -/
def IsClean (s : List Char) : Prop :=
  ∀ c ∈ s, ¬ IsControl c

instance (s : List Char) : Decidable (IsClean s) :=
  List.decidableBAll _ s

/-- A character that is seen, and seen by itself. -/
def IsSeen (c : Char) : Prop :=
  isGraphic c = true ∧ isExtending c = false

variable {c : Char} {n : Nat} {s : List Char}

/-! ### Characters that are seen -/

/-- The first characters that are not graphic. -/
theorem exists_hiddenRanges :
  ∃ others, hiddenRanges = (0x0, 0x1f) :: (0x7f, 0xa0) :: others
  := ⟨_, rfl⟩

/-- The first characters that are extending. -/
theorem exists_extendingRanges :
  ∃ others, extendingRanges = (0x300, 0x36f) :: others
  := ⟨_, rfl⟩

/-- The characters of ASCII are seen, but for the control characters. -/
theorem isSeen_of_lt (hc : 0x20 ≤ c.toNat) (h : c.toNat < 0x7f) :
  IsSeen c
  := by
  obtain ⟨hidden, hh⟩ := exists_hiddenRanges
  obtain ⟨extending, he⟩ := exists_extendingRanges
  constructor
  · rw [isGraphic, hh, Ranges.covers, Ranges.covers]
    simp [h, show ¬ c.toNat ≤ 0x1f by omega]
  · rw [isExtending, he, Ranges.covers, if_pos (by omega)]

/-- A character that is seen is no control character. -/
theorem IsSeen.not_isControl (h : IsSeen c) :
  ¬ IsControl c
  := by
  obtain ⟨hidden, hh⟩ := exists_hiddenRanges
  have graphic := h.1
  rw [isGraphic, hh, Ranges.covers, Ranges.covers] at graphic
  rintro (low | ⟨low, high⟩)
  · simp [show c.toNat ≤ 0x1f by omega] at graphic
  · simp [show ¬ c.toNat ≤ 0x1f by omega, show ¬ c.toNat < 0x7f by omega,
      show c.toNat ≤ 0xa0 by omega] at graphic

theorem isClean_append {t : List Char} :
  IsClean (s ++ t) ↔ IsClean s ∧ IsClean t
  := List.forall_mem_append

theorem isSeen_digitChar :
  ∀ d < 16, IsSeen d.digitChar
  := by
  have bounds : ∀ d < 16, 0x20 ≤ d.digitChar.toNat ∧ d.digitChar.toNat < 0x7f := by
    decide
  intro d hd
  apply isSeen_of_lt (bounds d hd).1 (bounds d hd).2

theorem isSeen_of_mem_toDigits {d : Char} (h : d ∈ Nat.toDigits 16 n) :
  IsSeen d
  := by
  induction n using Nat.strongRecOn with
  | ind n ih =>
      by_cases hn : n < 16
      · rw [Nat.toDigits_of_lt_base hn, List.mem_singleton] at h
        rw [h]
        apply isSeen_digitChar n hn
      · rw [Nat.toDigits_of_base_le (by decide) (by omega), List.mem_append,
          List.mem_singleton] at h
        rcases h with h | h
        · apply ih (n / 16) (by omega) h
        · rw [h]
          apply isSeen_digitChar (n % 16) (by omega)

/-- What a character is written as is seen. -/
theorem isSeen_of_mem_escapeChar {d : Char} (h : d ∈ escapeChar c) :
  IsSeen d
  := by
  have ascii {t : List Char} (ht : t.all (fun d => 0x20 ≤ d.toNat && d.toNat < 0x7f) = true)
      (hd : d ∈ t) : IsSeen d := by
    have bounds := List.all_eq_true.mp ht d hd
    rw [Bool.and_eq_true, decide_eq_true_eq, decide_eq_true_eq] at bounds
    apply isSeen_of_lt bounds.1 bounds.2
  rw [escapeChar] at h
  split_ifs at h with h1 h2 h3 h4 h5 h6 h7
  · exact ascii rfl h
  · exact ascii rfl h
  · exact ascii rfl h
  · exact ascii rfl h
  · exact ascii rfl h
  · exact ascii rfl h
  · have parts : d ∈ ['\\', 'u', '\x7b'] ++ Nat.toDigits 16 c.toNat ++ ['\x7d'] := h
    rcases List.mem_append.mp parts with h | h
    · rcases List.mem_append.mp h with h | h
      · exact ascii rfl h
      · apply isSeen_of_mem_toDigits h
    · exact ascii rfl h
  -- what is kept as it is has passed both tests
  · rw [List.mem_singleton.mp h]
    rw [Bool.or_eq_true, not_or, Bool.not_eq_true'] at h7
    exact ⟨Bool.of_not_eq_false h7.2, Bool.of_not_eq_true h7.1⟩

/-- Everything in a literal is seen. -/
theorem isSeen_of_mem_quote (h : c ∈ quote s) :
  IsSeen c
  := by
  rw [quote, List.mem_cons, List.mem_append, List.mem_flatMap, List.mem_singleton] at h
  have mark : IsSeen '"' := isSeen_of_lt (by decide) (by decide)
  rcases h with rfl | ⟨d, _, h⟩ | rfl
  · exact mark
  · apply isSeen_of_mem_escapeChar h
  · exact mark

/-! ### Reading -/

theorem hexValue?_digitChar :
  ∀ d < 16, hexValue? d.digitChar = some d
  := by
  decide

/-- A character has a code, which is its own. -/
theorem charOfCode?_toNat (c : Char) :
  charOfCode? c.toNat = some c
  := by
  have valid : c.toNat.isValidChar := c.valid
  rw [charOfCode?, if_pos valid, Char.ofNat_toNat]

/-- The next digit of a code. -/
theorem readCode?_digitChar {d : Nat} (hd : d < 16) (rest : List Char) :
  readCode? n (d.digitChar :: rest) = readCode? (16 * n + d) rest
  := by
  rw [readCode?, hexValue?_digitChar d hd]
  apply Nat.digitChar_ne
  decide

/-- The digits of a code are read as the code. -/
theorem readCode?_toDigits (n : Nat) (rest : List Char) :
  readCode? 0 (Nat.toDigits 16 n ++ rest) = readCode? n rest
  := by
  induction n using Nat.strongRecOn generalizing rest with
  | ind n ih =>
      by_cases hn : n < 16
      · rw [Nat.toDigits_of_lt_base hn, List.singleton_append, readCode?_digitChar hn,
          Nat.mul_zero, Nat.zero_add]
      · rw [Nat.toDigits_of_base_le (by decide) (by omega), List.append_assoc, ih _ (by omega),
          List.singleton_append, readCode?_digitChar (by omega), Nat.div_add_mod]

theorem unescape?_codeEscape (c : Char) (rest : List Char) :
  unescape? (codeEscape c ++ rest) = (unescape? rest).map (c :: ·)
  := by
  have read : readCode? 0 (Nat.toDigits 16 c.toNat ++ ['\x7d'] ++ rest) = some (c.toNat, rest) := by
    rw [List.append_assoc, readCode?_toDigits]
    rfl
  rw [codeEscape, List.cons_append, List.cons_append, List.cons_append, unescape?]
  split
  · next h =>
      rw [read] at h
      cases h
  · next h =>
      rw [read] at h
      cases h
      rw [charOfCode?_toNat]

/-- A character is read from what it is written as. -/
theorem unescape?_escapeChar (c : Char) (rest : List Char) :
  unescape? (escapeChar c ++ rest) = (unescape? rest).map (c :: ·)
  := by
  rw [escapeChar]
  split_ifs with h1 h2 h3 h4 h5 h6 h7
  · subst h1; simp [unescape?]
  · subst h2; simp [unescape?]
  · subst h3; simp [unescape?]
  · subst h4; simp [unescape?]
  · subst h5; simp [unescape?]
  · subst h6; simp [unescape?]
  · apply unescape?_codeEscape
  · rw [List.singleton_append, unescape?]
    all_goals simp [h5, h6]

/-- A text is read back from its literal. -/
theorem unquote?_quote (s : List Char) :
  unquote? (quote s) = some s
  := by
  rw [quote, unquote?]
  induction s with
  | nil => rw [List.flatMap_nil, List.nil_append, unescape?]
  | cons c s ih => rw [List.flatMap_cons, List.append_assoc, unescape?_escapeChar, ih, Option.map_some]

/-- Texts with the same literal are the same. -/
theorem quoted_injective :
  Function.Injective quoted
  := by
  intro s t h
  have literals := String.ofList_injective h
  have texts := congrArg unquote? literals
  rw [unquote?_quote, unquote?_quote, Option.some.injEq] at texts
  exact String.toList_inj.mp texts

end SyncLayer.Text
