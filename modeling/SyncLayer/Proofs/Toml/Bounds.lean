import SyncLayer.Proofs.Toml.Members

/-!
# The integers of a document

Wherever an integer stands in a document, it is read as one of 64 bits or not at all. So every
integer among the members of a document is one that a document can hold.
-/

namespace SyncLayer.Toml

/-- An item fits if it is no integer, or one that a document can hold. -/
def Item.Fits (item : Item) : Prop :=
  ∀ n span, item = .scalar (.integer n) span → n ≤ maxInteger

/-- The members all fit. -/
def Members.Fit (members : Members) : Prop :=
  ∀ m ∈ members, m.2.Fits

variable {n : Int} {v : Scalar} {item : Item} {s rest : List Char} {members : Members}

/-! ### Reading -/

theorem le_of_checkedInteger? {k : Int} (h : checkedInteger? k = some n) :
  n ≤ maxInteger
  := by
  simp only [checkedInteger?, Option.ite_none_right_eq_some, Option.some.injEq] at h
  obtain ⟨⟨_, bound⟩, rfl⟩ := h
  exact bound

theorem le_of_basedInteger? {base : Nat} (h : basedInteger? base s = some (n, rest)) :
  n ≤ maxInteger
  := by
  simp only [basedInteger?, Option.bind_eq_bind, Option.bind_eq_some_iff] at h
  obtain ⟨_, _, k, hk, h⟩ := h
  cases h
  apply le_of_checkedInteger? hk

theorem le_of_decimalInteger? (h : decimalInteger? s = some (n, rest)) :
  n ≤ maxInteger
  := by
  simp only [decimalInteger?, Option.bind_eq_bind, Option.bind_eq_some_iff] at h
  obtain ⟨_, _, k, hk, h⟩ := h
  cases h
  apply le_of_checkedInteger? hk

theorem le_of_integer? (h : integer? s = some (n, rest)) :
  n ≤ maxInteger
  := by
  rw [integer?.eq_def] at h
  split at h
  · apply le_of_basedInteger? h
  · apply le_of_basedInteger? h
  · apply le_of_basedInteger? h
  · apply le_of_decimalInteger? h

theorem le_of_scalar? (h : scalar? s = some (.integer n, rest)) :
  n ≤ maxInteger
  := by
  simp only [scalar?, Option.orElse_eq_orElse, Option.orElse_eq_or, Option.or_eq_some_iff,
    Option.map_eq_some_iff, Prod.mk.injEq] at h
  rcases h with ⟨_, _, ⟨⟩, _⟩ | ⟨_, ⟨_, _, ⟨⟩, _⟩ | ⟨_, ⟨_, _, ⟨⟩, _⟩ | ⟨_, ⟨_, _, ⟨⟩, _⟩ |
    ⟨_, r, hr, ⟨⟩, _⟩⟩⟩⟩
  apply le_of_integer? hr

theorem fits_scalar {span : Span} (h : scalar? s = some (v, rest)) :
  (Item.scalar v span).Fits
  := by
  rintro n span ⟨⟩
  apply le_of_scalar? h

/-- A value fits: what is no scalar is no integer. -/
theorem fits_of_value? {depth : Nat} (h : value? depth s = some (item, rest)) :
  item.Fits
  := by
  cases depth with
  | zero =>
      simp only [value?, Option.bind_eq_bind, Option.bind_eq_some_iff] at h
      obtain ⟨r, hr, h⟩ := h
      cases h
      apply fits_scalar hr
  | succ depth =>
      simp only [value?] at h
      split at h
      · simp only [Option.bind_eq_bind, Option.bind_eq_some_iff] at h
        obtain ⟨r, hr, h⟩ := h
        cases h
        nofun
      · simp only [Option.bind_eq_bind, Option.bind_eq_some_iff] at h
        obtain ⟨r, hr, _, _, h⟩ := h
        cases h
        nofun
      · simp only [Option.bind_eq_bind, Option.bind_eq_some_iff] at h
        obtain ⟨r, hr, h⟩ := h
        cases h
        apply fits_scalar hr

theorem fits_of_pair? {depth : Nat} {pair : Pair} (h : pair? (value? depth) s = some (pair, rest)) :
  pair.value.Fits
  := by
  simp only [pair?, Option.bind_eq_bind, Option.bind_eq_some_iff] at h
  obtain ⟨_, _, _, _, r, hr, h⟩ := h
  cases h
  apply fits_of_value? hr

/-- A header is no pair. -/
theorem ne_pair_of_header? {isRow : Bool} {start : Nat} {line : Line} {pair : Pair}
    (h : header? isRow start s = some (line, rest)) :
  line ≠ .pair pair
  := by
  simp only [header?, Option.bind_eq_bind, Option.bind_eq_some_iff] at h
  obtain ⟨_, _, _, _, h⟩ := h
  cases h
  nofun

/-- The value of a pair on a line fits. -/
theorem fits_of_line? {pair : Pair} (h : line? s = some (.pair pair, rest)) :
  pair.value.Fits
  := by
  simp only [line?] at h
  split at h
  · cases h
  · simp only [Option.bind_eq_bind, Option.bind_eq_some_iff] at h
    obtain ⟨⟨line, s'⟩, hc, _, _, h⟩ := h
    cases h
    rw [content?.eq_def] at hc
    split at hc
    · cases ne_pair_of_header? hc rfl
    · cases ne_pair_of_header? hc rfl
    · simp only [Option.bind_eq_bind, Option.bind_eq_some_iff] at hc
      obtain ⟨r, hr, hc⟩ := hc
      cases hc
      apply fits_of_pair? hr

/-! ### Members -/

theorem lasting_fit :
  Lasting Members.Fit Item.Fits
  where
  none := nofun
  add {members key item} h _ hi := by
    intro m hm
    rcases List.mem_append.mp hm with hm | hm
    · apply h m hm
    · obtain rfl := List.mem_singleton.mp hm
      apply hi
  replace {members name item} h hi := by
    intro m hm
    obtain ⟨m', hm', rfl⟩ := List.mem_map.mp hm
    split
    · exact hi
    · apply h m' hm'
  erase h m hm := h m (List.mem_filter.mp hm).1
  table _ _ := nofun
  tables _ := nofun

/-- Every integer among the members of a document is one that a document can hold. -/
theorem fit_of_read? (h : read? s = some members) :
  members.Fit
  := lasting_fit.of_read? h (fun _ _ _ h => fits_of_line? h)

end SyncLayer.Toml
