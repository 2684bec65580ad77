import SyncLayer.Json.Reader
import SyncLayer.Proofs.Binary64.Shortest
import SyncLayer.Proofs.Toml.Lexeme

/-!
# What numbers are read

A natural is read from its digits, and a finite number from its shortest decimal, with an exponent
or without one.
-/

namespace SyncLayer

namespace Decimal

/-- Zeros behind digits multiply. -/
theorem value_append_zeros (i : Nat) (s : List Char) :
  value (s ++ List.replicate i '0') = 10 ^ i * value s
  := by
  rw [value, Nat.ofDigitChars_append, Nat.ofDigitChars_replicate_zero, value]

end Decimal

namespace Json

open Decimal (value)

variable {ds rest : List Char} {c : Char} {n : Nat} {negative : Bool} {x : Binary64}
  {d : Binary64.Scientific}

/-- No digit stands at the front of a text. -/
def NoDigit (s : List Char) : Prop :=
  ∀ c ∈ s.head?, c.isDigit = false

theorem digits?_append (hd : ds ≠ []) (h : ∀ c ∈ ds, c.isDigit = true) (hr : NoDigit rest) :
  digits? (ds ++ rest) = some (ds, rest)
  := by
  have taken : rest.takeWhile Char.isDigit = [] ∧ rest.dropWhile Char.isDigit = rest := by
    cases rest with
    | nil => exact ⟨rfl, rfl⟩
    | cons c rest => simp [hr c rfl]
  rw [digits?, List.takeWhile_append_of_pos h, List.dropWhile_append_of_pos h, taken.1, taken.2,
    List.append_nil]
  simp [hd]

/-- What may stand behind a value: the end of the text, a comma or a closing bracket. -/
def Ends (s : List Char) : Prop :=
  ∀ c ∈ s.head?, c = ',' ∨ c = ']' ∨ c = '\x7d'

theorem Ends.noDigit (h : Ends rest) :
  NoDigit rest
  := by
  intro c hc
  obtain rfl | rfl | rfl := h c hc <;> rfl

theorem Ends.fraction? (h : Ends rest) :
  fraction? rest = some ([], rest)
  := by
  cases rest with
  | nil => rfl
  | cons c rest => obtain rfl | rfl | rfl := h c rfl <;> rfl

theorem Ends.exponent? (h : Ends rest) :
  exponent? rest = some (none, rest)
  := by
  cases rest with
  | nil => rfl
  | cons c rest => obtain rfl | rfl | rfl := h c rfl <;> rfl

/-- Digits that do not begin with a zero. -/
theorem whole?_append (hc : c ≠ '0') (h : ∀ d ∈ c :: ds, d.isDigit = true) (hr : NoDigit rest) :
  whole? (c :: ds ++ rest) = some (c :: ds, rest)
  := by
  rw [List.cons_append, whole?, ← List.cons_append, digits?_append (by simp) h hr]
  rintro _ ⟨⟩
  exact hc rfl

theorem whole?_digits (n : Nat) (hr : NoDigit rest) :
  whole? (Decimal.digits n ++ rest) = some (Decimal.digits n, rest)
  := by
  obtain rfl | hn := Nat.eq_zero_or_pos n
  · rfl
  · obtain ⟨c, ds, hds, hc⟩ := Decimal.exists_digits_eq_cons hn
    have h : ∀ d ∈ c :: ds, d.isDigit = true := by
      intro d hd
      rw [← hds] at hd
      exact Decimal.isDigit_of_mem_digits hd
    rw [hds]
    exact whole?_append hc h hr

theorem unsigned?_digits (n : Nat) (hr : Ends rest) :
  unsigned? false (Decimal.digits n ++ rest) = some (.natural n, rest)
  := by
  rw [unsigned?, whole?_digits n hr.noDigit]
  simp [hr.fraction?, hr.exponent?, decimal?, Decimal.value_digits]

/-! ### Numbers with a point or an exponent -/

/-- Digits that are read up to the first character that is none. -/
def IsWhole (whole : List Char) : Prop :=
  ∀ rest, NoDigit rest → whole? (whole ++ rest) = some (whole, rest)

theorem isWhole_zero :
  IsWhole ['0']
  := by
  intro rest _
  rfl

theorem isWhole_cons (hc : c ≠ '0') (h : ∀ d ∈ c :: ds, d.isDigit = true) :
  IsWhole (c :: ds)
  := by
  intro rest hr
  exact whole?_append hc h hr

/-- A point and the digits behind it, if there are any. -/
def fractionChars (fraction : List Char) : List Char :=
  if fraction.isEmpty then [] else '.' :: fraction

/-- The sign and the digits of an exponent. -/
def exponentChars (k : Int) : List Char :=
  'e' :: (if k < 0 then '-' else '+') :: Decimal.digits k.natAbs

/-- Neither a digit nor a point stands at the front of a text. -/
def NoFraction (s : List Char) : Prop :=
  ∀ c ∈ s.head?, c.isDigit = false ∧ c ≠ '.'

theorem fraction?_append (hd : ∀ c ∈ ds, c.isDigit = true) (hr : NoFraction rest) :
  fraction? (fractionChars ds ++ rest) = some (ds, rest)
  := by
  cases ds with
  | nil =>
      rw [fractionChars, List.isEmpty_nil, if_pos rfl, List.nil_append, fraction?]
      rintro rest rfl
      exact (hr '.' rfl).2 rfl
  | cons c ds =>
      apply digits?_append (by simp) hd
      intro c hc
      exact (hr c hc).1

theorem noDigit_fractionChars (hr : NoFraction rest) :
  NoDigit (fractionChars ds ++ rest)
  := by
  intro c hc
  cases ds with
  | nil => exact (hr c hc).1
  | cons _ _ =>
      cases hc
      rfl

theorem exponent?_append (k : Int) (hr : Ends rest) :
  exponent? (exponentChars k ++ rest) = some (some k, rest)
  := by
  have nonempty : Decimal.digits k.natAbs ≠ [] := Nat.toDigits_ne_nil
  have read := digits?_append nonempty (fun _ => Decimal.isDigit_of_mem_digits) hr.noDigit
  by_cases hk : k < 0
  · have value : -((k.natAbs : Nat) : Int) = k := by omega
    simp only [exponentChars, hk, if_true, List.cons_append, exponent?, power?, read,
      Option.map_some, Decimal.value_digits, value]
  · have value : ((k.natAbs : Nat) : Int) = k := by omega
    simp only [exponentChars, hk, if_false, List.cons_append, exponent?, power?, read,
      Option.map_some, Decimal.value_digits, value]

/-- However a decimal is written as digits and a power of ten, it is read as a number. -/
def Denotes (negative : Bool) (d : Binary64.Scientific) (x : Binary64) : Prop :=
  ∀ (n : Nat) (k : Int), (n : ℚ) * 10 ^ k = d.value → Binary64.ofDecimal negative n k = x

/-- A number is read from digits in front of a point and behind it, and an exponent. -/
theorem unsigned?_eq_real {whole fraction tail : List Char} {exponent : Option Int}
    (hw : IsWhole whole) (hd : ∀ c ∈ fraction, c.isDigit = true) (ht : NoFraction tail)
    (he : exponent? tail = some (exponent, rest)) (hn : fraction ≠ [] ∨ exponent ≠ none)
    (hx : Denotes negative d x) (hf : x.isFinite = true)
    (hv : (value (whole ++ fraction) : ℚ) * 10 ^ (exponent.getD 0 - (fraction.length : Int))
      = d.value) :
  unsigned? negative (whole ++ (fractionChars fraction ++ tail)) = some (.real x, rest)
  := by
  have not_natural : ¬ (negative = false ∧ fraction = [] ∧ exponent = none) := by
    rintro ⟨_, h, h'⟩
    exact hn.elim (· h) (· h')
  have denoted : decimal? negative whole fraction exponent = some (.real x) := by
    simp only [decimal?, if_neg not_natural, hx _ _ hv, hf, if_true]
  rw [unsigned?, hw _ (noDigit_fractionChars ht)]
  simp [fraction?_append hd ht, he, denoted]

/-! ### The text of a decimal -/

theorem Ends.noFraction (hr : Ends rest) :
  NoFraction rest
  := by
  intro c hc
  obtain rfl | rfl | rfl := hr c hc <;> decide

theorem noFraction_exponentChars (k : Int) (s : List Char) :
  NoFraction (exponentChars k ++ s)
  := by
  rintro _ ⟨⟩
  decide

theorem isDigit_of_mem_append {s t : List Char} (hs : ∀ c ∈ s, c.isDigit = true)
    (ht : ∀ c ∈ t, c.isDigit = true) :
  ∀ c ∈ s ++ t, c.isDigit = true
  := by
  intro c hc
  rw [List.mem_append] at hc
  exact hc.elim (hs c) (ht c)

theorem isDigit_of_mem_zeros {i : Nat} :
  ∀ c ∈ List.replicate i '0', c.isDigit = true
  := by
  intro c hc
  rw [List.eq_of_mem_replicate hc]
  rfl

section Text

variable {p : Int}

/-- A decimal is read from its digits with a point among them, or in front of them or behind them
with zeros between. -/
theorem unsigned?_placePoint (hc : c ≠ '0') (hd : ∀ d ∈ c :: ds, d.isDigit = true)
    (hv : value (c :: ds) = d.digits) (hp : p = ((c :: ds).length : Int) + d.scale)
    (hr : Ends rest) (hx : Denotes negative d x) (hf : x.isFinite = true) :
  unsigned? negative (Binary64.placePoint (c :: ds) p ++ rest) = some (.real x, rest)
  := by
  have read {whole fraction : List Char} (hw : IsWhole whole) (hn : fraction ≠ [])
      (hd : ∀ c ∈ fraction, c.isDigit = true)
      (hv : (value (whole ++ fraction) : ℚ) * 10 ^ (-(fraction.length : Int)) = d.value) :
      unsigned? negative (whole ++ (fractionChars fraction ++ rest)) = some (.real x, rest) :=
    unsigned?_eq_real hw hd hr.noFraction hr.exponent? (.inl hn) hx hf (by simpa using hv)
  have length : ((c :: ds).length : Int) = p - d.scale := by omega
  rw [Binary64.placePoint]
  split_ifs with front behind
  · have number : (value (['0'] ++ (List.replicate (-p).toNat '0' ++ c :: ds)) : ℚ)
        * 10 ^ (-((List.replicate (-p).toNat '0' ++ c :: ds).length : Int)) = d.value := by
      have place : -((List.replicate (-p).toNat '0' ++ c :: ds).length : Int) = d.scale := by
        rw [List.length_append, List.length_replicate]
        omega
      rw [place, Binary64.Scientific.value, ← hv, ← Decimal.value_zeros_append (-p).toNat (c :: ds)]
      rfl
    have text := read isWhole_zero (by simp) (isDigit_of_mem_append isDigit_of_mem_zeros hd) number
    simpa [fractionChars] using text
  · have number :
        (value (c :: ds ++ List.replicate (p.toNat - (c :: ds).length) '0' ++ ['0']) : ℚ)
          * 10 ^ (-((['0'] : List Char).length : Int)) = d.value := by
      have place : d.scale = ((p.toNat - (c :: ds).length : Nat) : Int) := by omega
      rw [List.append_assoc, ← List.replicate_succ', Decimal.value_append_zeros, hv,
        Binary64.Scientific.value, place, zpow_natCast]
      push_cast
      rw [pow_succ]
      simp
      ring
    have text := read
      (isWhole_cons hc (isDigit_of_mem_append hd isDigit_of_mem_zeros)) (by simp) (by simp) number
    simpa [fractionChars] using text
  · obtain ⟨i, hi⟩ : ∃ i, p.toNat = i + 1 := ⟨p.toNat - 1, by omega⟩
    rw [hi, List.length_cons] at behind
    have number : (value (c :: ds.take i ++ ds.drop i) : ℚ) * 10 ^ (-((ds.drop i).length : Int))
        = d.value := by
      have place : -((ds.drop i).length : Int) = d.scale := by
        rw [List.length_drop]
        rw [List.length_cons] at length
        omega
      rw [List.cons_append, List.take_append_drop, hv, place, Binary64.Scientific.value]
    have digit {s : List Char} (h : s ⊆ c :: ds) : ∀ d ∈ s, d.isDigit = true :=
      fun d hs => hd d (h hs)
    have nonempty : ds.drop i ≠ [] := by
      rw [ne_eq, List.drop_eq_nil_iff]
      omega
    have text := read
      (isWhole_cons hc (digit (List.cons_subset_cons c (List.take_subset i ds)))) nonempty
      (digit (List.Subset.trans (List.drop_subset i ds) (List.subset_cons_self c ds))) number
    rw [hi, List.take_succ_cons, List.drop_succ_cons]
    simpa [fractionChars, nonempty] using text

/-- A decimal is read from its digits with an exponent behind them. -/
theorem unsigned?_placeExponent (hc : c ≠ '0') (hd : ∀ d ∈ c :: ds, d.isDigit = true)
    (hv : value (c :: ds) = d.digits) (hp : p = ((c :: ds).length : Int) + d.scale)
    (hr : Ends rest) (hx : Denotes negative d x) (hf : x.isFinite = true) :
  unsigned? negative (Binary64.placeExponent (c :: ds) p ++ rest) = some (.real x, rest)
  := by
  have first : ∀ d ∈ [c], d.isDigit = true := by
    intro d h
    rw [List.mem_singleton.mp h]
    exact hd c List.mem_cons_self
  have number : (value ([c] ++ ds) : ℚ) * 10 ^ ((some (p - 1)).getD 0 - (ds.length : Int))
      = d.value := by
    have place : (some (p - 1)).getD 0 - (ds.length : Int) = d.scale := by
      rw [List.length_cons] at hp
      simp only [Option.getD_some]
      omega
    rw [List.singleton_append, hv, place, Binary64.Scientific.value]
  have text := unsigned?_eq_real (isWhole_cons hc first)
    (fun d h => hd d (List.mem_cons_of_mem c h)) (noFraction_exponentChars (p - 1) rest)
    (exponent?_append (p - 1) hr) (.inr (by simp)) hx hf number
  cases ds <;> simpa [Binary64.placeExponent, fractionChars, exponentChars] using text

end Text

/-- The text of a decimal is read, be it written with an exponent or without one. -/
theorem unsigned?_render (layout : Binary64.Layout) (hd : 0 < d.digits) (hr : Ends rest)
    (hx : Denotes negative d x) (hf : x.isFinite = true) :
  unsigned? negative (layout.render d ++ rest) = some (.real x, rest)
  := by
  obtain ⟨c, ds, hds, hc⟩ := Decimal.exists_digits_eq_cons hd
  have digit : ∀ d ∈ c :: ds, d.isDigit = true := by
    intro d h
    rw [← hds] at h
    exact Decimal.isDigit_of_mem_digits h
  have number : value (c :: ds) = d.digits := by
    rw [← hds, Decimal.value_digits]
  simp only [Binary64.Layout.render, hds]
  split
  · exact unsigned?_placePoint hc digit number rfl hr hx hf
  · exact unsigned?_placeExponent hc digit number rfl hr hx hf

/-! ### Finite numbers -/

/-- The text of a number without its sign is read. -/
theorem unsigned?_text {m : Nat} {e : Int} (negative : Bool) (hc : Binary64.IsCanonical m e)
    (hr : Ends rest) :
  unsigned? negative
      ((if m = 0 then ['0', '.', '0'] else
        Binary64.Layout.json.render (Binary64.shortest .even m e)) ++ rest)
    = some (.real (.finite negative m e), rest)
  := by
  obtain rfl | hm := Nat.eq_zero_or_pos m
  · have least : e = Binary64.minExponent := hc.normal.resolve_right (by decide)
    have zero : Denotes negative ⟨0, 0⟩ (.finite negative 0 e) := by
      intro n k h
      have power : (10 : ℚ) ^ k ≠ 0 := by positivity
      have hn : n = 0 := by simpa [Binary64.Scientific.value, power] using h
      rw [hn, least]
      rfl
    have number : value (['0'] ++ ['0']) = 0 := rfl
    have digit : ∀ c ∈ ['0'], c.isDigit = true := by simp
    exact unsigned?_eq_real isWhole_zero digit hr.noFraction hr.exponent? (.inl (by simp)) zero rfl
      (by simp only [number, Binary64.Scientific.value, Nat.cast_zero, zero_mul])
  · have rounds := Binary64.roundsTo_shortest .even hm hc
    have positive : 0 < (Binary64.shortest .even m e).digits := by
      apply Nat.pos_of_ne_zero
      intro h
      have := rounds.pos hm
      simp [Binary64.Scientific.value, h] at this
    rw [if_neg hm.ne']
    apply unsigned?_render _ positive hr _ rfl
    intro n k h
    apply Binary64.ofDecimal_eq hm hc
    rw [h]
    exact rounds

/-- What is read as a number without a sign begins with a digit. -/
theorem exists_digit_of_unsigned? {s : List Char} {r : Json × List Char}
    (h : unsigned? negative s = some r) :
  ∃ c t, s = c :: t ∧ c.isDigit = true
  := by
  cases s with
  | nil => cases h
  | cons c t =>
      refine ⟨c, t, rfl, ?_⟩
      by_contra hc
      have none : whole? (c :: t) = none := by
        rw [whole?, digits?]
        · simp [hc]
        · rintro _ ⟨⟩
          exact hc rfl
      simp [unsigned?, none] at h

theorem number?_of_unsigned? {s : List Char} {r : Json × List Char}
    (h : unsigned? false s = some r) :
  number? s = some r
  := by
  obtain ⟨c, t, rfl, hc⟩ := exists_digit_of_unsigned? h
  rw [number?, h]
  rintro _ ⟨⟩
  exact absurd hc (by decide)

/-- The text of a finite number is read. -/
theorem number?_real {m : Nat} {e : Int} (negative : Bool) (hc : Binary64.IsCanonical m e)
    (hr : Ends rest) :
  number? (realChars (.finite negative m e) ++ rest) = some (.real (.finite negative m e), rest)
  := by
  have read := unsigned?_text negative hc hr
  cases negative with
  | true => exact read
  | false => exact number?_of_unsigned? read

/-- The digits of a natural are read. -/
theorem number?_digits (n : Nat) (hr : Ends rest) :
  number? (Decimal.digits n ++ rest) = some (.natural n, rest)
  := number?_of_unsigned? (unsigned?_digits n hr)

end Json

end SyncLayer
