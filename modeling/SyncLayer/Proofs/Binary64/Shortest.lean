import SyncLayer.Binary64.Shortest
import SyncLayer.Proofs.Binary64.Rounding

/-!
# Shortest decimals read back

Seventeen digits are enough for a decimal that is rounded to a given number, so the search for the
shortest one finds one; and what it finds is rounded to the number that it was found for.
-/

namespace SyncLayer.Binary64

variable {m n num den : Nat} {e k : Int} {tie : TieRule} {d : Scientific} {negative : Bool}

/-- The rational that a decimal denotes. -/
def Scientific.value (d : Scientific) : ℚ :=
  d.digits * 10 ^ d.scale

theorem scaleRatio_ten (n : Nat) (k : Int) :
  ((scaleRatio 10 n 1 (-k)).1 : ℚ) / (scaleRatio 10 n 1 (-k)).2 = n * 10 ^ k
  := by
  rw [scaleRatio_eq (by decide), zpow_neg, Nat.cast_one, div_one, div_inv_eq_mul, Nat.cast_ofNat]

/-! ### Around a number -/

/-- The ends of the rationals that are rounded to a number. -/
theorem rounding_eq (hm : 0 < m) :
  0 < (rounding m e).den
    ∧ ((rounding m e).low : ℚ) / (rounding m e).den = (m - reachBelow m e) * 2 ^ e
    ∧ ((rounding m e).high : ℚ) / (rounding m e).den = (m + 1 / 2) * 2 ^ e
    ∧ ((rounding m e).closed = true ↔ m % 2 = 0)
  := by
  have unit := ratio_eq 1 (e - 2)
  have quarter : (2 : ℚ) ^ e = 4 * 2 ^ (e - 2) := by
    rw [zpow_order (k := e) (e := e - 2) 2 (by omega)]
    norm_num
  rw [Nat.cast_one, one_mul] at unit
  refine ⟨ratio_pos 1 (e - 2), ?_, ?_, by simp [rounding]⟩
  · rw [rounding, Nat.cast_mul, mul_div_assoc, unit, quarter, reachBelow, Nat.cast_sub]
    · push_cast
      split <;> ring
    · split <;> omega
  · rw [rounding, Nat.cast_mul, mul_div_assoc, unit, quarter]
    push_cast
    ring

/-- A decimal that is found between the ends is rounded to the number. -/
theorem covers_iff (hm : 0 < m) :
  (rounding m e).covers d = true ↔ RoundsTo m e d.value
  := by
  obtain ⟨pos, low, high, closed⟩ := rounding_eq (e := e) hm
  have hd := scaleRatio_pos (show 0 < 10 by decide) Nat.one_pos d.digits (-d.scale)
  have value : d.value = _ := (scaleRatio_ten d.digits d.scale).symm
  have pos : (0 : ℚ) < (rounding m e).den := by exact_mod_cast pos
  have hd : (0 : ℚ) < (scaleRatio 10 d.digits 1 (-d.scale)).2 := by exact_mod_cast hd
  rw [RoundsTo, ← low, ← high, value, div_lt_div_iff₀ pos hd, div_lt_div_iff₀ hd pos,
    div_le_div_iff₀ pos hd, div_le_div_iff₀ hd pos, ← closed]
  norm_cast
  rw [Rounding.covers]
  cases (rounding m e).closed with
  | false => simp
  | true =>
      simp only [if_true, Bool.and_eq_true, decide_eq_true_iff, true_and]
      omega

/-! ### The search -/

theorem covers_of_onGrid? {r : Rounding} {scale : Int} (h : onGrid? tie r num den scale = some d) :
  r.covers d = true
  := by
  simp only [onGrid?] at h
  split at h <;> grind

theorem isSome_onGrid? {r : Rounding} {scale : Int} {n : Nat}
    (hn : n = (scaleRatio 10 num den scale).1 / (scaleRatio 10 num den scale).2)
    (h : r.covers { digits := n, scale } = true ∨ r.covers { digits := n + 1, scale } = true) :
  (onGrid? tie r num den scale).isSome = true
  := by
  subst hn
  simp only [onGrid?]
  split <;> simp_all

/-- The number of digits of a number. -/
theorem length_toDigits (hn : 0 < n) :
  10 ^ ((Nat.toDigits 10 n).length - 1) ≤ n ∧ n < 10 ^ (Nat.toDigits 10 n).length
  := by
  have pos : 0 < (Nat.toDigits 10 n).length := Nat.length_toDigits_pos
  constructor
  · obtain h1 | h1 := Nat.eq_zero_or_pos ((Nat.toDigits 10 n).length - 1)
    · rw [h1]
      exact hn
    · by_contra hlt
      have := (Nat.length_toDigits_le_iff (by decide) h1).mpr (not_le.mp hlt)
      omega
  · exact (Nat.length_toDigits_le_iff (by decide) pos).mp le_rfl

theorem floorLog10_spec (hn : 0 < num) (hd : 0 < den) :
  (10 : ℚ) ^ floorLog10 num den ≤ (num : ℚ) / den
    ∧ (num : ℚ) / den < (10 : ℚ) ^ (floorLog10 num den + 1)
  := by
  have order {n : Nat} (h : 0 < n) : 10 ^ ((Nat.toDigits 10 n).length - 1) ≤ n
      ∧ n < 10 ^ ((Nat.toDigits 10 n).length - 1 + 1) := by
    rw [Nat.sub_add_cancel Nat.length_toDigits_pos]
    exact length_toDigits h
  have hk : ((Nat.toDigits 10 num).length : Int) - (Nat.toDigits 10 den).length
      = ((Nat.toDigits 10 num).length - 1 : Nat) - ((Nat.toDigits 10 den).length - 1 : Nat) := by
    have : 0 < (Nat.toDigits 10 num).length := Nat.length_toDigits_pos
    have : 0 < (Nat.toDigits 10 den).length := Nat.length_toDigits_pos
    omega
  have spec := order_of_orders (by decide) hd (order hn) (order hd) hk (e := floorLog10 num den) rfl
  simpa using spec

/-- What is rounded to a number reaches over more than a grid of seventeen digits leaves out. -/
theorem lt_reach (c : IsCanonical m e) :
  (m : ℚ) < (reachBelow m e + 1 / 2) * 10 ^ 16
  := by
  have top : (m : ℚ) < 2 * leastMantissa := by exact_mod_cast c.lt
  rw [reachBelow]
  split
  · rename_i h
    rw [h.1, leastMantissa_eq]
    norm_num
  · rw [leastMantissa_eq] at top
    linarith

/-- Of the two points of a grid next to a number one is rounded to the number, if the grid is at
least as fine as that of seventeen digits. -/
theorem roundsTo_or {lower upper : ℚ} (c : IsCanonical m e) (low : lower ≤ m * 2 ^ e)
    (high : m * 2 ^ e ≤ upper) (fine : (upper - lower) * 10 ^ 16 ≤ m * 2 ^ e) :
  RoundsTo m e lower ∨ RoundsTo m e upper
  := by
  have unit : (0 : ℚ) < 2 ^ e := by positivity
  have reach := reachBelow_pos (m := m) (e := e)
  have inner : (m - reachBelow m e) * 2 ^ e < m * 2 ^ e := by
    gcongr
    linarith
  have inner' : (m : ℚ) * 2 ^ e < (m + 1 / 2) * 2 ^ e := by
    gcongr
    linarith
  by_contra hno
  rw [not_or] at hno
  have far : lower ≤ (m - reachBelow m e) * 2 ^ e := by
    by_contra hlt
    exact hno.1 (.inl ⟨not_le.mp hlt, low.trans_lt inner'⟩)
  have far' : (m + 1 / 2) * 2 ^ e ≤ upper := by
    by_contra hlt
    exact hno.2 (.inl ⟨inner.trans_le high, not_le.mp hlt⟩)
  have wide := (mul_lt_mul_iff_left₀ unit).mpr (lt_reach c)
  linarith

/-- Seventeen digits are enough. -/
theorem isSome_onGrid?_of_fine (tie : TieRule) (scale : Int) (hm : 0 < m) (c : IsCanonical m e)
    (fine : (10 : ℚ) ^ (scale + 16) ≤ m * 2 ^ e) :
  (onGrid? tie (rounding m e) (ratio m e).1 (ratio m e).2 scale).isSome = true
  := by
  have step : (0 : ℚ) < 10 ^ scale := by positivity
  have hd := scaleRatio_pos (show 0 < 10 by decide) (ratio_pos m e) (ratio m e).1 scale
  have value := scaleRatio_eq (show 0 < 10 by decide) (ratio m e).1 (ratio m e).2 scale
  rw [ratio_eq, Nat.cast_ofNat, eq_div_iff step.ne'] at value
  generalize hr : scaleRatio 10 (ratio m e).1 (ratio m e).2 scale = r at hd value
  obtain ⟨n, d⟩ := r
  have hd' : (0 : ℚ) < d := by exact_mod_cast hd
  have low : ((n / d : Nat) : ℚ) * 10 ^ scale ≤ m * 2 ^ e := by
    rw [← value]
    gcongr
    rw [le_div_iff₀ hd']
    exact_mod_cast Nat.div_mul_le_self n d
  have high : (m : ℚ) * 2 ^ e ≤ ((n / d + 1 : Nat) : ℚ) * 10 ^ scale := by
    rw [← value]
    gcongr
    rw [div_le_iff₀ hd']
    exact_mod_cast (Nat.lt_mul_of_div_lt (Nat.lt_succ_self (n / d)) hd).le
  apply isSome_onGrid? (n := n / d) (by rw [hr])
  rw [covers_iff hm, covers_iff hm]
  apply roundsTo_or c low high
  rw [zpow_add₀ (by norm_num)] at fine
  push_cast
  norm_num at fine ⊢
  linarith

/-- The decimal without zeros at the end denotes the same rational. -/
theorem Scientific.value_strip (d : Scientific) :
  d.strip.value = d.value
  := by
  fun_induction Scientific.strip d with
  | case1 d h _ ih =>
      rw [ih, value, value]
      have whole : (d.digits : ℚ) = (d.digits / 10 : Nat) * 10 := by
        exact_mod_cast (Nat.div_mul_cancel (Nat.dvd_of_mod_eq_zero h.2)).symm
      rw [whole, zpow_add_one₀ (by norm_num)]
      ring
  | case2 d h => rfl

/-- The shortest decimal of a number is rounded to it. -/
theorem roundsTo_shortest (tie : TieRule) (hm : 0 < m) (c : IsCanonical m e) :
  RoundsTo m e (shortest tie m e).value
  := by
  have hn : 0 < (ratio m e).1 := ratio_fst_pos (by positivity)
  have top := (floorLog10_spec hn (ratio_pos m e)).1
  rw [ratio_eq] at top
  simp only [shortest]
  split
  · rename_i d found
    obtain ⟨i, _, hd⟩ := List.exists_of_findSome?_eq_some found
    rw [Scientific.value_strip, ← covers_iff hm]
    exact covers_of_onGrid? hd
  · rename_i missed
    have last := List.findSome?_eq_none_iff.mp missed 16 (by decide)
    have some := isSome_onGrid?_of_fine tie (floorLog10 _ _ - 16) hm c (by simpa using top)
    simp only [Nat.cast_ofNat] at last
    rw [last] at some
    cases some

/-! ### Reading decimals -/

theorem two_zpow_bounds (i : Nat) :
  (10 : ℚ) ^ (-i : Int) ≤ 2 ^ (-(3 * i) : Int) ∧ (2 : ℚ) ^ (3 * i : Int) ≤ 10 ^ (i : Int)
  := by
  have upper : (2 : ℚ) ^ (3 * i : Int) ≤ 10 ^ (i : Int) := by
    rw [zpow_mul, zpow_natCast, zpow_natCast]
    gcongr
    norm_num
  refine ⟨?_, upper⟩
  rw [zpow_neg, zpow_neg]
  exact inv_anti₀ (by positivity) upper

/-- What is rounded to a number is neither very large nor very small. -/
theorem RoundsTo.magnitude {q : ℚ} (h : RoundsTo m e q) (hm : 0 < m) (c : IsCanonical m e) :
  (10 : ℚ) ^ (-359 : Int) ≤ q ∧ q < 10 ^ (342 : Int)
  := by
  have hmin : minExponent = -1074 := rfl
  have hmax : maxExponent = 971 := rfl
  have order {i j : Int} (h : i ≤ j) : (2 : ℚ) ^ i ≤ 2 ^ j := zpow_le_zpow_right₀ one_le_two h
  constructor
  · calc (10 : ℚ) ^ (-359 : Int) ≤ 2 ^ (-(3 * 359) : Int) := (two_zpow_bounds 359).1
      _ ≤ 2 ^ (e - 1) := by
          apply order
          have := c.least
          omega
      _ = 1 / 2 * 2 ^ e := by
          rw [zpow_sub_one₀ two_ne_zero]
          ring
      _ ≤ q := h.half_le hm
  · have top : (m : ℚ) + 1 ≤ 2 * leastMantissa := by exact_mod_cast c.lt
    rw [leastMantissa_eq] at top
    calc q ≤ (m + 1 / 2) * 2 ^ e := h.bounds.2
      _ < 2 ^ 53 * 2 ^ e := by
          gcongr
          linarith
      _ = 2 ^ (e + 53) := (zpow_order 53 rfl).symm
      _ ≤ 2 ^ (3 * 342 : Int) := by
          apply order
          have := c.greatest
          omega
      _ ≤ 10 ^ (342 : Int) := (two_zpow_bounds 342).2

/-- A decimal that is rounded to a number is read as that number. -/
theorem ofDecimal_eq (hm : 0 < m) (c : IsCanonical m e) (h : RoundsTo m e (n * 10 ^ k)) :
  ofDecimal negative n k = finite negative m e
  := by
  have hn : 0 < n := by
    apply Nat.pos_of_ne_zero
    rintro rfl
    simpa using h.pos hm
  have pos : 0 < (Nat.toDigits 10 n).length := Nat.length_toDigits_pos
  obtain ⟨least, most⟩ := length_toDigits hn
  obtain ⟨small, large⟩ := h.magnitude hm c
  have ten_ne_zero : (10 : ℚ) ≠ 0 := by norm_num
  have order {i j : Int} (h : (10 : ℚ) ^ i < 10 ^ j) : i < j :=
    (zpow_lt_zpow_iff_right₀ (by norm_num)).mp h
  have high : ((Nat.toDigits 10 n).length : Int) + k ≤ 400 := by
    have least : (10 : ℚ) ^ (((Nat.toDigits 10 n).length - 1 : Nat) : Int) ≤ n := by
      exact_mod_cast least
    have := order (calc (10 : ℚ) ^ ((((Nat.toDigits 10 n).length - 1 : Nat) : Int) + k)
        = 10 ^ (((Nat.toDigits 10 n).length - 1 : Nat) : Int) * 10 ^ k := zpow_add₀ ten_ne_zero _ _
      _ ≤ n * 10 ^ k := by gcongr
      _ < 10 ^ (342 : Int) := large)
    omega
  have low : -400 ≤ ((Nat.toDigits 10 n).length : Int) + k := by
    have most : (n : ℚ) < 10 ^ ((Nat.toDigits 10 n).length : Int) := by exact_mod_cast most
    have := order (calc (10 : ℚ) ^ (-359 : Int) ≤ n * 10 ^ k := small
      _ < 10 ^ ((Nat.toDigits 10 n).length : Int) * 10 ^ k := by gcongr
      _ = 10 ^ (((Nat.toDigits 10 n).length : Int) + k) := (zpow_add₀ ten_ne_zero _ _).symm)
    omega
  rw [ofDecimal]
  simp only [hn.ne', not_lt.mpr low, not_lt.mpr high, or_self, if_false]
  apply ofRatio_eq_of_roundsTo (scaleRatio_pos (by decide) Nat.one_pos _ _) hm c
  rw [scaleRatio_ten]
  exact h

end SyncLayer.Binary64
