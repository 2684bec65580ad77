import SyncLayer.Toml.Reader
import SyncLayer.Proofs.Decimal.Numeral
import Mathlib.Data.List.TakeWhile

/-!
# What lexemes are read
-/

namespace SyncLayer

namespace Toml

variable {α : Type} {read : List Char → Option (α × List Char)} {a : α} {s s' rest : List Char}
  {p : Char → Bool} {c : Char} {ds : List Char}

/-! ### Repetition -/

theorem many_of_eq_none (h : read s = none) :
  many read s = ([], s)
  := by
  rw [many, h]

theorem many_of_eq_some (h : read s = some (a, rest)) (hl : rest.length < s.length) :
  many read s = (a :: (many read rest).1, (many read rest).2)
  := by
  rw [many.eq_def, h]
  simp only [if_pos hl]

/-- What is read repeatedly is read somewhere. -/
theorem exists_of_mem_many (h : a ∈ (many read s).1) :
  ∃ s' rest, read s' = some (a, rest)
  := by
  fun_induction many read s with
  | case1 s hr => cases h
  | case2 s b rest hr hl as last hm ih =>
      rcases List.mem_cons.mp h with rfl | h
      · exact ⟨s, rest, hr⟩
      · rw [hm] at ih
        exact ih h
  | case3 s b rest hr hl => cases h

/-- Characters that a reader takes one by one are read up to one that it does not take. -/
theorem many_of_forall {read : List Char → Option (Char × List Char)} {cs : List Char}
    (h : ∀ c ∈ cs, ∀ s, read (c :: s) = some (c, s)) (hr : read rest = none) :
  many read (cs ++ rest) = (cs, rest)
  := by
  induction cs with
  | nil => exact many_of_eq_none hr
  | cons c cs ih =>
      have hc : read (c :: (cs ++ rest)) = some (c, cs ++ rest) := h c List.mem_cons_self _
      have hcs := ih (fun c hc => h c (List.mem_cons_of_mem _ hc))
      rw [List.cons_append, many_of_eq_some hc (by simp), hcs]

/-! ### Runs of characters -/

theorem takeWhile_append_cons (h : ∀ d ∈ ds, p d = true) (hc : p c = false) :
  (ds ++ c :: rest).takeWhile p = ds
  := by
  rw [List.takeWhile_append_of_pos h]
  simp [hc]

theorem dropWhile_append_cons (h : ∀ d ∈ ds, p d = true) (hc : p c = false) :
  (ds ++ c :: rest).dropWhile p = c :: rest
  := by
  rw [List.dropWhile_append_of_pos h]
  simp [hc]

theorem skipSpaces_cons (h : isSpace c = false) :
  skipSpaces (c :: rest) = c :: rest
  := by
  simp [skipSpaces, h]

/-- More digits are read up to a character that is none. -/
theorem moreDigits_append_cons (h : ∀ d ∈ ds, p d = true) (hp : p '_' = false) (hc : p c = false)
    (hu : c ≠ '_') :
  moreDigits p (ds ++ c :: rest) = (ds, c :: rest)
  := by
  induction ds with
  | nil => simp [moreDigits, hc, hu]
  | cons d ds ih =>
      have hd : p d = true := h d List.mem_cons_self
      have hn : d ≠ '_' := by
        rintro rfl
        simp [hp] at hd
      have hds := ih (fun d hd => h d (List.mem_cons_of_mem _ hd))
      rw [List.cons_append]
      simp [moreDigits, hd, hn, hds]

theorem digits?_append_cons (hd : ds ≠ []) (h : ∀ d ∈ ds, p d = true) (hp : p '_' = false)
    (hc : p c = false) (hu : c ≠ '_') :
  digits? p (ds ++ c :: rest) = some (ds, c :: rest)
  := by
  cases ds with
  | nil => cases hd rfl
  | cons d ds =>
      have hds : moreDigits p (ds ++ c :: rest) = (ds, c :: rest) := by
        apply moreDigits_append_cons _ hp hc hu
        intro d hd
        apply h d (List.mem_cons_of_mem _ hd)
      simp [digits?, h d List.mem_cons_self, hds]

end Toml

end SyncLayer
