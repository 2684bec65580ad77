import SyncLayer.Binary64.Basic
import Mathlib.Algebra.Order.Field.Power
import Mathlib.Algebra.Order.Field.Rat
import Mathlib.Tactic.FieldSimp
import Mathlib.Tactic.Linarith
import Mathlib.Tactic.NormNum
import Mathlib.Tactic.Positivity
import Mathlib.Tactic.Ring

/-!
# How ratios are rounded

The number that a ratio of two naturals is rounded to, in terms of the rational that the ratio
denotes. Around every finite number lie the rationals that are rounded to it; a rational of a
magnitude that is neither very large nor very small is rounded to a number of the same binary order.
-/

namespace SyncLayer.Binary64

variable {base num den n n' m a b : Nat} {e k : Int} {q : ℚ} {negative : Bool}

/-! ### Ratios -/

theorem scaleRatio_pos (hb : 0 < base) (hd : 0 < den) (num : Nat) (e : Int) :
  0 < (scaleRatio base num den e).2
  := by
  rw [scaleRatio]
  split
  · exact Nat.mul_pos hd (Nat.pow_pos hb)
  · exact hd

/-- A scaled ratio is the ratio divided by the power. -/
theorem scaleRatio_eq (hb : 0 < base) (num den : Nat) (e : Int) :
  ((scaleRatio base num den e).1 : ℚ) / (scaleRatio base num den e).2
    = (num : ℚ) / den / (base : ℚ) ^ e
  := by
  have hb : (base : ℚ) ≠ 0 := by positivity
  rw [scaleRatio]
  split
  · rename_i he
    obtain ⟨n, rfl⟩ := Int.eq_ofNat_of_zero_le he
    simp [div_div]
  · rename_i he
    obtain ⟨n, hn⟩ := Int.eq_ofNat_of_zero_le (a := -e) (by omega)
    obtain rfl : e = -(n : Int) := by omega
    simp [div_eq_mul_inv]
    ring

theorem ratio_pos (m : Nat) (e : Int) :
  0 < (ratio m e).2
  := by
  rw [ratio]
  split
  · exact Nat.one_pos
  · exact Nat.pow_pos (by decide)

/-- The magnitude of a number as a rational. -/
theorem ratio_eq (m : Nat) (e : Int) :
  ((ratio m e).1 : ℚ) / (ratio m e).2 = m * 2 ^ e
  := by
  rw [ratio]
  split
  · rename_i he
    obtain ⟨n, rfl⟩ := Int.eq_ofNat_of_zero_le he
    simp
  · rename_i he
    obtain ⟨n, hn⟩ := Int.eq_ofNat_of_zero_le (a := -e) (by omega)
    obtain rfl : e = -(n : Int) := by omega
    simp [div_eq_mul_inv]

theorem ratio_fst_pos (h : 0 < (m : ℚ) * 2 ^ e) :
  0 < (ratio m e).1
  := by
  apply Nat.pos_of_ne_zero
  intro h0
  rw [← ratio_eq, h0, Nat.cast_zero, zero_div] at h
  exact lt_irrefl _ h

/-! ### Binary and decimal orders -/

/-- A power of two that is some orders higher. -/
theorem zpow_order (i : Nat) (h : k = e + i) :
  (2 : ℚ) ^ k = 2 ^ i * 2 ^ e
  := by
  rw [h, zpow_add₀ two_ne_zero, zpow_natCast, mul_comm]

/-- The order of a ratio to a base is found from those of the numerator and the denominator. -/
theorem order_of_orders {A B : Nat} (hb : 1 < base) (hd : 0 < den)
    (hA : base ^ A ≤ num ∧ num < base ^ (A + 1)) (hB : base ^ B ≤ den ∧ den < base ^ (B + 1))
    (hk : k = (A : Int) - B)
    (he : e = if (scaleRatio base num den k).2 ≤ (scaleRatio base num den k).1 then k else k - 1) :
  (base : ℚ) ^ e ≤ (num : ℚ) / den ∧ (num : ℚ) / den < (base : ℚ) ^ (e + 1)
  := by
  have h0 : (0 : ℚ) < base := by positivity
  have hd' : (0 : ℚ) < den := by positivity
  have hs : (0 : ℚ) < (scaleRatio base num den k).2 := by
    exact_mod_cast scaleRatio_pos (by omega) hd num k
  have scaled : (scaleRatio base num den k).2 ≤ (scaleRatio base num den k).1 ↔
      (base : ℚ) ^ k ≤ (num : ℚ) / den := by
    rw [← one_le_div₀ (zpow_pos h0 k), ← scaleRatio_eq (by omega), one_le_div₀ hs, Nat.cast_le]
  have upper : (num : ℚ) / den < (base : ℚ) ^ (k + 1) := by
    have hn : (num : ℚ) < (base : ℚ) ^ (A + 1 : Int) := by exact_mod_cast hA.2
    have hden : (base : ℚ) ^ (B : Int) ≤ den := by exact_mod_cast hB.1
    rw [div_lt_iff₀ hd']
    calc (num : ℚ) < (base : ℚ) ^ (A + 1 : Int) := hn
      _ = (base : ℚ) ^ (k + 1) * (base : ℚ) ^ (B : Int) := by
        rw [← zpow_add₀ h0.ne']
        congr 1
        omega
      _ ≤ (base : ℚ) ^ (k + 1) * den := by gcongr
  have lower : (base : ℚ) ^ (k - 1) ≤ (num : ℚ) / den := by
    have hn : (base : ℚ) ^ (A : Int) ≤ num := by exact_mod_cast hA.1
    have hden : (den : ℚ) ≤ (base : ℚ) ^ (B + 1 : Int) := by exact_mod_cast hB.2.le
    rw [le_div_iff₀ hd']
    calc (base : ℚ) ^ (k - 1) * den ≤ (base : ℚ) ^ (k - 1) * (base : ℚ) ^ (B + 1 : Int) := by gcongr
      _ = (base : ℚ) ^ (A : Int) := by
        rw [← zpow_add₀ h0.ne']
        congr 1
        omega
      _ ≤ num := hn
  split at he
  · subst he
    exact ⟨scaled.mp ‹_›, upper⟩
  · subst he
    rw [scaled, not_le] at *
    exact ⟨lower, by simpa⟩

theorem floorLog2_spec (hn : 0 < num) (hd : 0 < den) :
  (2 : ℚ) ^ floorLog2 num den ≤ (num : ℚ) / den
    ∧ (num : ℚ) / den < (2 : ℚ) ^ (floorLog2 num den + 1)
  := by
  have order {n : Nat} (h : 0 < n) : 2 ^ n.log2 ≤ n ∧ n < 2 ^ (n.log2 + 1) :=
    ⟨Nat.log2_self_le h.ne', Nat.lt_log2_self⟩
  have spec := order_of_orders (by decide) hd (order hn) (order hd) rfl (e := floorLog2 num den) rfl
  simpa using spec

/-- The order of a rational to a base is the only one. -/
theorem order_unique {base : ℚ} (hb : 1 < base) {i j : Int} (hi : base ^ i ≤ q ∧ q < base ^ (i + 1))
    (hj : base ^ j ≤ q ∧ q < base ^ (j + 1)) :
  i = j
  := by
  have hij := (zpow_lt_zpow_iff_right₀ hb).mp (hi.1.trans_lt hj.2)
  have hji := (zpow_lt_zpow_iff_right₀ hb).mp (hj.1.trans_lt hi.2)
  omega

/-! ### The nearest natural -/

/-- A natural is the one nearest to a rational, or the even one of two equally near. -/
def IsNearest (n : Nat) (q : ℚ) : Prop :=
  ((n : ℚ) - 1 / 2 < q ∧ q < n + 1 / 2) ∨ (n % 2 = 0 ∧ (n : ℚ) - 1 / 2 ≤ q ∧ q ≤ n + 1 / 2)

theorem IsNearest.bounds (h : IsNearest n q) :
  (n : ℚ) - 1 / 2 ≤ q ∧ q ≤ n + 1 / 2
  := by
  obtain ⟨h, h'⟩ | ⟨_, h⟩ := h
  · exact ⟨h.le, h'.le⟩
  · exact h

/-- Of two naturals nearest to the same rational the one is not the next after the other. -/
theorem IsNearest.le (h : IsNearest n q) (h' : IsNearest n' q) :
  n ≤ n'
  := by
  by_contra hlt
  obtain rfl | hlt : n = n' + 1 ∨ n' + 2 ≤ n := by omega
  · obtain ⟨low, _⟩ := h.bounds
    obtain ⟨_, high⟩ := h'.bounds
    push_cast at low
    obtain ⟨h, _⟩ | ⟨h, _⟩ := h
    · push_cast at h
      linarith
    · obtain ⟨_, h'⟩ | ⟨h', _⟩ := h'
      · linarith
      · omega
  · have hlt : (n' : ℚ) + 2 ≤ n := by exact_mod_cast hlt
    have := h.bounds.1
    have := h'.bounds.2
    linarith

theorem IsNearest.unique (h : IsNearest n q) (h' : IsNearest n' q) :
  n = n'
  := Nat.le_antisymm (h.le h') (h'.le h)

theorem isNearest_roundDiv (num : Nat) (hd : 0 < den) :
  IsNearest (roundDiv num den) ((num : ℚ) / den)
  := by
  have hd' : (0 : ℚ) < den := by exact_mod_cast hd
  -- What is left of the division, as a part of the denominator.
  obtain ⟨r, hr⟩ : ∃ r : ℚ, r = ((num % den : Nat) : ℚ) / den := ⟨_, rfl⟩
  have split : (num : ℚ) / den = ((num / den : Nat) : ℚ) + r := by
    have h : (num : ℚ) = den * ((num / den : Nat) : ℚ) + ((num % den : Nat) : ℚ) := by
      exact_mod_cast (Nat.div_add_mod num den).symm
    rw [hr, div_eq_iff hd'.ne', h]
    field_simp
  have r0 : 0 ≤ r := by
    rw [hr]
    positivity
  have r1 : r < 1 := by
    rw [hr, div_lt_one hd']
    exact_mod_cast Nat.mod_lt num hd
  have below : 2 * (num % den) < den ↔ r < 1 / 2 := by
    rw [hr, div_lt_div_iff₀ hd' two_pos, one_mul, mul_comm]
    exact_mod_cast Iff.rfl
  have above : den < 2 * (num % den) ↔ 1 / 2 < r := by
    rw [hr, div_lt_div_iff₀ two_pos hd', one_mul, mul_comm]
    exact_mod_cast Iff.rfl
  rw [split, roundDiv, IsNearest]
  simp only [below, above]
  split_ifs with h h' even
  · left
    constructor <;> linarith
  · left
    push_cast
    constructor <;> linarith
  · right
    refine ⟨even, ?_, ?_⟩ <;> linarith
  · right
    push_cast
    refine ⟨by omega, ?_, ?_⟩ <;> linarith

/-- A ratio is rounded to the nearest natural, seen from an exponent. -/
theorem isNearest_scaled (hd : 0 < den) :
  IsNearest (roundDiv (scaleRatio 2 num den e).1 (scaleRatio 2 num den e).2)
    ((num : ℚ) / den / 2 ^ e)
  := by
  have nearest := isNearest_roundDiv (scaleRatio 2 num den e).1 (scaleRatio_pos two_pos hd num e)
  rw [scaleRatio_eq two_pos, Nat.cast_ofNat] at nearest
  exact nearest

/-! ### Finite numbers -/

/-- A mantissa and an exponent are those of a finite number in the format. -/
structure IsCanonical (m : Nat) (e : Int) : Prop where
  lt : m < 2 * leastMantissa
  least : minExponent ≤ e
  greatest : e ≤ maxExponent
  normal : e = minExponent ∨ leastMantissa ≤ m

/-- How far below a number, in units of its last place, the rationals reach that are rounded to it:
half of the way to the next number, which is nearer below a power of two. -/
def reachBelow (m : Nat) (e : Int) : ℚ :=
  if m = leastMantissa ∧ minExponent < e then 1 / 4 else 1 / 2

/-- A rational is rounded to a number. The ends count if the mantissa is even. -/
def RoundsTo (m : Nat) (e : Int) (q : ℚ) : Prop :=
  ((m - reachBelow m e) * 2 ^ e < q ∧ q < (m + 1 / 2) * 2 ^ e)
    ∨ (m % 2 = 0 ∧ (m - reachBelow m e) * 2 ^ e ≤ q ∧ q ≤ (m + 1 / 2) * 2 ^ e)

theorem leastMantissa_eq :
  (leastMantissa : ℚ) = 2 ^ 52
  := by
  norm_num [leastMantissa]

theorem reachBelow_pos :
  0 < reachBelow m e
  := by
  rw [reachBelow]
  split <;> norm_num

theorem reachBelow_le :
  reachBelow m e ≤ 1 / 2
  := by
  rw [reachBelow]
  split <;> norm_num

theorem RoundsTo.bounds (h : RoundsTo m e q) :
  (m - reachBelow m e) * 2 ^ e ≤ q ∧ q ≤ (m + 1 / 2) * 2 ^ e
  := by
  obtain ⟨h, h'⟩ | ⟨_, h⟩ := h
  · exact ⟨h.le, h'.le⟩
  · exact h

/-- Half of the last place of a number is less than what is rounded to it. -/
theorem RoundsTo.half_le (h : RoundsTo m e q) (hm : 0 < m) :
  1 / 2 * 2 ^ e ≤ q
  := by
  apply le_trans _ h.bounds.1
  have hm : (1 : ℚ) ≤ m := by exact_mod_cast hm
  have reach := reachBelow_le (m := m) (e := e)
  gcongr
  linarith

theorem RoundsTo.pos (h : RoundsTo m e q) (hm : 0 < m) :
  0 < q
  := lt_of_lt_of_le (by positivity) (h.half_le hm)

/-- Seen from the exponent of a number, its mantissa is the natural nearest to what is rounded to
it. -/
theorem RoundsTo.isNearest (h : RoundsTo m e q) :
  IsNearest m (q / 2 ^ e)
  := by
  have he : (0 : ℚ) < 2 ^ e := by positivity
  have reach := reachBelow_le (m := m) (e := e)
  obtain ⟨low, high⟩ | ⟨even, low, high⟩ := h
  · rw [← lt_div_iff₀ he] at low
    rw [← div_lt_iff₀ he] at high
    exact .inl ⟨by linarith, high⟩
  · rw [← le_div_iff₀ he] at low
    rw [← div_le_iff₀ he] at high
    exact .inr ⟨even, by linarith, high⟩

theorem ofRatio_of_pos (hn : 0 < num) (he : e = max (floorLog2 num den - 52) minExponent)
    (hm : roundDiv (scaleRatio 2 num den e).1 (scaleRatio 2 num den e).2 = m) :
  ofRatio negative num den = carried negative m e
  := by
  subst he hm
  rw [ofRatio, if_neg hn.ne']

theorem carried_of_lt (hm : m < 2 * leastMantissa) (he : e ≤ maxExponent) :
  carried negative m e = finite negative m e
  := by
  simp [carried, hm.ne, not_lt.mpr he]

theorem carried_of_eq (he : e < maxExponent) :
  carried negative (2 * leastMantissa) e = finite negative leastMantissa (e + 1)
  := by
  simp [carried, Int.not_lt.mpr he]

/-- A ratio just below a power of two, from where half of the way to the number below begins, is
rounded to the power of two. -/
theorem ofRatio_eq_of_below (hn : 0 < num) (hd : 0 < den) (hlt : minExponent < e)
    (hmax : e ≤ maxExponent) (low : (leastMantissa - 1 / 4 : ℚ) * 2 ^ e ≤ (num : ℚ) / den)
    (high : (num : ℚ) / den < leastMantissa * 2 ^ e) :
  ofRatio negative num den = finite negative leastMantissa e
  := by
  have unit : (0 : ℚ) < 2 ^ (e - 1) := by positivity
  have half : (2 : ℚ) ^ e = 2 * 2 ^ (e - 1) := by
    rw [← zpow_one_add₀ two_ne_zero, add_sub_cancel]
  rw [half, leastMantissa] at low high
  push_cast at low high
  have hk : floorLog2 num den = e + 51 := by
    apply order_unique one_lt_two (floorLog2_spec hn hd)
    rw [zpow_order (k := e + 51) (e := e - 1) 52 (by omega),
      zpow_order (k := e + 51 + 1) (e := e - 1) 53 (by omega)]
    norm_num
    constructor <;> linarith
  have nearest : IsNearest (2 * leastMantissa) ((num : ℚ) / den / 2 ^ (e - 1)) := by
    refine .inr ⟨by decide, ?_, ?_⟩
    · rw [le_div_iff₀ unit]
      norm_num [leastMantissa]
      linarith
    · rw [div_le_iff₀ unit]
      norm_num [leastMantissa]
      linarith
  have he : e - 1 = max (floorLog2 num den - 52) minExponent := by omega
  rw [ofRatio_of_pos hn he ((isNearest_scaled hd).unique nearest), carried_of_eq (by omega),
    Int.sub_add_cancel]

/-- A ratio that lies around a number is rounded to it. -/
theorem ofRatio_eq_of_roundsTo (hd : 0 < den) (hm : 0 < m) (c : IsCanonical m e)
    (h : RoundsTo m e ((num : ℚ) / den)) :
  ofRatio negative num den = finite negative m e
  := by
  have hn : 0 < num := by
    apply Nat.pos_of_ne_zero
    rintro rfl
    simpa using h.pos hm
  have log := floorLog2_spec hn hd
  have unit : (0 : ℚ) < 2 ^ e := by positivity
  obtain ⟨low, high⟩ := h.bounds
  have rounded (he : e = max (floorLog2 num den - 52) minExponent) :
      ofRatio negative num den = finite negative m e := by
    rw [ofRatio_of_pos hn he ((isNearest_scaled hd).unique h.isNearest),
      carried_of_lt c.lt c.greatest]
  by_cases hq : leastMantissa * (2 : ℚ) ^ e ≤ (num : ℚ) / den
  · apply rounded
    have top : (m : ℚ) + 1 ≤ 2 * leastMantissa := by exact_mod_cast c.lt
    have hk : floorLog2 num den = e + 52 := by
      apply order_unique one_lt_two log
      rw [zpow_order (k := e + 52) (e := e) 52 rfl,
        zpow_order (k := e + 52 + 1) (e := e) 53 (by omega)]
      norm_num [leastMantissa] at hq top ⊢
      constructor
      · exact hq
      · apply high.trans_lt
        gcongr
        linarith
    have := c.least
    omega
  · rw [not_le] at hq
    by_cases he : e = minExponent
    · apply rounded
      have hk : (2 : ℚ) ^ floorLog2 num den < 2 ^ (e + 52) := by
        rw [zpow_order (k := e + 52) (e := e) 52 rfl]
        norm_num [leastMantissa] at hq ⊢
        exact log.1.trans_lt hq
      have := (zpow_lt_zpow_iff_right₀ one_lt_two).mp hk
      omega
    · have hlt : minExponent < e := lt_of_le_of_ne c.least (Ne.symm he)
      have hm : m = leastMantissa := by
        apply le_antisymm _ (c.normal.resolve_left he)
        by_contra hgt
        have hgt : (leastMantissa : ℚ) + 1 ≤ m := by exact_mod_cast not_le.mp hgt
        have reach := reachBelow_le (m := m) (e := e)
        have := hq.trans_le' low
        rw [mul_lt_mul_iff_left₀ unit] at this
        linarith
      subst hm
      rw [reachBelow, if_pos ⟨rfl, hlt⟩] at low
      exact ofRatio_eq_of_below hn hd hlt c.greatest low hq

/-! ### Ratios of a moderate magnitude -/

/-- A ratio that is neither very large nor very small is rounded to a number between the same two
powers of two. -/
theorem exists_ofRatio_eq (negative : Bool) (hn : 0 < num) (hd : 0 < den)
    (hk : k = floorLog2 num den) (low : -1022 ≤ k) (high : k ≤ 1022) :
  ∃ m e, ofRatio negative num den = finite negative m e ∧ IsCanonical m e
    ∧ (2 : ℚ) ^ k ≤ m * 2 ^ e ∧ (m : ℚ) * 2 ^ e ≤ 2 ^ (k + 1)
  := by
  obtain ⟨lower, upper⟩ := floorLog2_spec hn hd
  rw [← hk] at lower upper
  have hmin : minExponent = -1074 := rfl
  have hmax : maxExponent = 971 := rfl
  have he : k - 52 = max (floorLog2 num den - 52) minExponent := by omega
  have unit : (0 : ℚ) < 2 ^ (k - 52) := by positivity
  have order52 : (2 : ℚ) ^ k = 2 ^ 52 * 2 ^ (k - 52) := zpow_order 52 (by omega)
  have order53 : (2 : ℚ) ^ (k + 1) = 2 ^ 53 * 2 ^ (k - 52) := zpow_order 53 (by omega)
  obtain ⟨n, hr⟩ : ∃ n, roundDiv (scaleRatio 2 num den (k - 52)).1
      (scaleRatio 2 num den (k - 52)).2 = n := ⟨_, rfl⟩
  obtain ⟨near, near'⟩ := (hr ▸ isNearest_scaled hd).bounds
  have most : n ≤ 2 * leastMantissa := by
    by_contra hgt
    have h : (num : ℚ) / den / 2 ^ (k - 52) < 2 ^ 53 := by
      rw [div_lt_iff₀ unit, ← order53]
      exact upper
    have hgt : 2 * (leastMantissa : ℚ) + 1 ≤ n := by exact_mod_cast not_le.mp hgt
    rw [leastMantissa_eq] at hgt
    linarith
  have least : leastMantissa ≤ n := by
    by_contra hlt
    have h : 2 ^ 52 ≤ (num : ℚ) / den / 2 ^ (k - 52) := by
      rw [le_div_iff₀ unit, ← order52]
      exact lower
    have hlt : (n : ℚ) + 1 ≤ leastMantissa := by exact_mod_cast not_le.mp hlt
    rw [leastMantissa_eq] at hlt
    linarith
  rw [ofRatio_of_pos hn he hr, order52, order53]
  obtain hlt | rfl := most.lt_or_eq
  · refine ⟨n, k - 52, carried_of_lt hlt (by omega), ⟨hlt, by omega, by omega, .inr least⟩, ?_⟩
    have least : (leastMantissa : ℚ) ≤ n := by exact_mod_cast least
    have most : (n : ℚ) ≤ 2 * leastMantissa := by exact_mod_cast most
    rw [leastMantissa_eq] at least most
    constructor
    · gcongr
    · gcongr
      linarith
  · refine ⟨leastMantissa, k - 52 + 1, carried_of_eq (by omega),
      ⟨by decide, by omega, by omega, .inr le_rfl⟩, ?_⟩
    rw [zpow_order (k := k - 52 + 1) (e := k - 52) 1 rfl, leastMantissa_eq]
    constructor <;> linarith

/-! ### Quotients -/

theorem isCanonical_zero :
  IsCanonical 0 minExponent
  := ⟨by decide, le_rfl, by decide, .inl rfl⟩

theorem ofRatio_zero :
  ofRatio negative 0 den = finite negative 0 minExponent
  := by
  rw [ofRatio, if_pos rfl]

/-- A positive natural of 64 bits is rounded to a number from 1 to `2 ^ 64`. -/
theorem exists_ofNat_eq (ha : 0 < a) (hs : a < UInt64.size) :
  ∃ m e, ofNat a = finite false m e ∧ 1 ≤ (m : ℚ) * 2 ^ e ∧ (m : ℚ) * 2 ^ e ≤ 2 ^ 64
  := by
  have two : (1 : ℚ) < 2 := one_lt_two
  obtain ⟨lower, upper⟩ := floorLog2_spec ha Nat.one_pos
  rw [Nat.cast_one, div_one] at lower upper
  have low : 0 ≤ floorLog2 a 1 := by
    have h : (2 : ℚ) ^ (0 : Int) < 2 ^ (floorLog2 a 1 + 1) := by
      apply lt_of_le_of_lt _ upper
      exact_mod_cast ha
    have := (zpow_lt_zpow_iff_right₀ two).mp h
    omega
  have high : floorLog2 a 1 < 64 := by
    have h : (2 : ℚ) ^ floorLog2 a 1 < 2 ^ (64 : Int) := by
      apply lower.trans_lt
      exact_mod_cast hs
    exact (zpow_lt_zpow_iff_right₀ two).mp h
  obtain ⟨m, e, hr, _, hlow, hhigh⟩ :=
    exists_ofRatio_eq false ha Nat.one_pos rfl (by omega) (by omega)
  refine ⟨m, e, hr, (one_le_zpow₀ two.le low).trans hlow, hhigh.trans ?_⟩
  exact_mod_cast zpow_le_zpow_right₀ two.le (by omega : floorLog2 a 1 + 1 ≤ 64)

/-- The quotient of two naturals of 64 bits, the second of which is not zero, is a finite number. -/
theorem exists_quotient_eq (ha : a < UInt64.size) (hb : 0 < b) (hb' : b < UInt64.size) :
  ∃ m e, quotient a b = finite false m e ∧ IsCanonical m e
  := by
  obtain ⟨m', e', hr', low', high'⟩ := exists_ofNat_eq hb hb'
  have hd' := ratio_pos m' e'
  have hn' := ratio_fst_pos (one_pos.trans_le low')
  obtain rfl | ha' := Nat.eq_zero_or_pos a
  · refine ⟨0, minExponent, ?_, isCanonical_zero⟩
    rw [quotient, hr', ofNat, ofRatio_zero]
    simp only [if_neg hn'.ne']
    rw [ratio, if_neg (by decide), Nat.zero_mul, ofRatio_zero]
  · obtain ⟨m, e, hr, low, high⟩ := exists_ofNat_eq ha' ha
    have hd := ratio_pos m e
    have hn := ratio_fst_pos (one_pos.trans_le low)
    have hq : quotient a b
        = ofRatio false ((ratio m e).1 * (ratio m' e').2) ((ratio m e).2 * (ratio m' e').1) := by
      rw [quotient, hr, hr']
      simp only [if_neg hn'.ne']
    have value : (((ratio m e).1 * (ratio m' e').2 : Nat) : ℚ)
        / ((ratio m e).2 * (ratio m' e').1 : Nat) = m * 2 ^ e / (m' * 2 ^ e') := by
      rw [Nat.cast_mul, Nat.cast_mul, mul_div_mul_comm, ratio_eq, ← ratio_eq m',
        ← one_div_div ((ratio m' e').1 : ℚ), mul_one_div]
    obtain ⟨lower, upper⟩ := floorLog2_spec (Nat.mul_pos hn hd') (Nat.mul_pos hd hn')
    rw [value] at lower upper
    have most : (m : ℚ) * 2 ^ e / (m' * 2 ^ e') ≤ 2 ^ (64 : Int) := by
      rw [div_le_iff₀ (by linarith)]
      apply high.trans
      exact le_mul_of_one_le_right (by positivity) low'
    have least : (2 : ℚ) ^ (-64 : Int) ≤ m * 2 ^ e / (m' * 2 ^ e') := by
      rw [le_div_iff₀ (by linarith), zpow_neg, inv_mul_le_iff₀ (by positivity)]
      apply high'.trans
      exact le_mul_of_one_le_right (by positivity) low
    have hk := (zpow_le_zpow_iff_right₀ one_lt_two).mp (lower.trans most)
    have hk' := (zpow_lt_zpow_iff_right₀ one_lt_two).mp (least.trans_lt upper)
    rw [hq]
    obtain ⟨m, e, hr, c, _⟩ := exists_ofRatio_eq false (Nat.mul_pos hn hd')
      (Nat.mul_pos hd hn') rfl (by omega) (by omega)
    exact ⟨m, e, hr, c⟩

end SyncLayer.Binary64
