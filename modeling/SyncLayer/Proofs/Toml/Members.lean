import SyncLayer.Proofs.Toml.Lexeme
import Mathlib.Data.List.Nodup

/-!
# How the members of a document come to be

The members of a document are put behind each other under new names, replaced under their names,
or taken away. What all of that keeps holds of the members of every document. So no two members of
a document have the same name.
-/

namespace SyncLayer.Toml

/-- A property of members that lasts, whatever pairs and sections are added to a document, if the
values in it are of some kind to which all tables belong. -/
structure Lasting (I : Members → Prop) (P : Item → Prop) : Prop where
  none : I []
  add {members : Members} {key : Key} {item : Item} (h : I members)
    (hn : members.find? key.name = .none) (hi : P item) : I (members ++ [(key, item)])
  replace {members : Members} {name : String} {item : Item} (h : I members) (hi : P item) :
    I (members.replace name item)
  erase {members : Members} {name : String} (h : I members) : I (members.erase name)
  table (origin : Origin) (members : Members) : P (.table origin members)
  tables (rows : List (Span × Members)) : P (.tables rows)

variable {I : Members → Prop} {P : Item → Prop} {members members' : Members} {s rest : List Char}
  {origin here : Origin} {path : List Key} {name : String} {key : Key} {item : Item}

/-! ### Names -/

theorem find?_eq_none_iff :
  members.find? name = none ↔ name ∉ members.map (·.1.name)
  := by
  simp [Members.find?]

theorem map_name_replace :
  (members.replace name item).map (·.1.name) = members.map (·.1.name)
  := by
  rw [Members.replace, List.map_map]
  apply List.map_congr_left
  intro m _
  simp only [Function.comp_apply]
  split <;> rfl

theorem find?_erase :
  (members.erase name).find? name = none
  := by
  rw [find?_eq_none_iff, Members.erase]
  simp

/-! ### Pairs and sections -/

namespace Lasting

/-- A change at the end of a path makes tables on the way, and nothing else. -/
theorem of_alongPath (l : Lasting I P) {change : Origin → Members → Option Members}
    (hc : ∀ here members members', change here members = some members' → I members → I members')
    (h : alongPath origin change path here members = some members') (hm : I members) :
  I members'
  := by
  cases path with
  | nil => apply hc _ _ _ h hm
  | cons key path =>
      simp only [alongPath] at h
      split at h
      · rename_i new
        simp only [Option.bind_eq_bind, Option.bind_eq_some_iff] at h
        obtain ⟨_, _, h⟩ := h
        cases h
        apply l.add hm new (l.table _ _)
      · split at h
        · cases h
        · simp only [Option.bind_eq_bind, Option.bind_eq_some_iff] at h
          obtain ⟨_, _, h⟩ := h
          cases h
          apply l.replace hm (l.table _ _)
      · split at h
        · cases h
        · simp only [Option.bind_eq_bind, Option.bind_eq_some_iff] at h
          obtain ⟨_, _, h⟩ := h
          cases h
          apply l.replace hm (l.tables _)
      · cases h

theorem of_addPair (l : Lasting I P) {pair : Pair} (h : addPair here members pair = some members')
    (hp : P pair.value) (hm : I members) :
  I members'
  := by
  apply l.of_alongPath _ h hm
  intro there members members' h hm
  split at h
  · cases h
  · split at h
    · cases h
    · rename_i new
      cases h
      apply l.add hm _ hp
      simpa using new

/-- What every step of a loop keeps, the loop keeps. -/
theorem of_foldlM_eq_some {σ α : Type} {I : σ → Prop} {f : σ → α → Option σ} {l : List α} {a b : σ}
    (h : l.foldlM f a = some b) (hf : ∀ x ∈ l, ∀ a b, f a x = some b → I a → I b) (ha : I a) :
  I b
  := by
  induction l generalizing a with
  | nil =>
      cases h
      exact ha
  | cons x l ih =>
      rw [List.foldlM_cons] at h
      obtain ⟨c, hc, h⟩ := Option.bind_eq_some_iff.mp h
      apply ih h (fun x hx => hf x (List.mem_cons_of_mem _ hx))
      apply hf x List.mem_cons_self a c hc ha

theorem of_addPairs (l : Lasting I P) {pairs : List Pair}
    (h : addPairs members pairs = some members') (hp : ∀ pair ∈ pairs, P pair.value)
    (hm : I members) :
  I members'
  := of_foldlM_eq_some h (fun pair hx _ _ h => l.of_addPair h (hp pair hx)) hm

theorem of_addTable (l : Lasting I P) {block : Section}
    (h : addTable block members = some members') (hm : I members) :
  I members'
  := by
  simp only [addTable] at h
  split at h
  all_goals
    simp only [Option.bind_eq_bind, Option.bind_eq_some_iff] at h
    obtain ⟨_, _, _, _, h⟩ := h
    cases h
    apply l.add (l.erase hm) find?_erase (l.table _ _)

theorem of_addRow (l : Lasting I P) {block : Section} (h : addRow block members = some members')
    (hm : I members) :
  I members'
  := by
  simp only [addRow] at h
  split at h
  · rename_i new
    simp only [Option.bind_eq_bind, Option.bind_eq_some_iff] at h
    obtain ⟨_, _, h⟩ := h
    cases h
    apply l.add hm new (l.tables _)
  · simp only [Option.bind_eq_bind, Option.bind_eq_some_iff] at h
    obtain ⟨_, _, h⟩ := h
    cases h
    apply l.replace hm (l.tables _)
  · cases h

/-- A section adds tables and nothing else. -/
theorem of_addSection (l : Lasting I P) {block : Section}
    (h : addSection members block = some members') (hm : I members) :
  I members'
  := by
  apply l.of_alongPath _ h hm
  intro there members members' h hm
  split at h
  · apply l.of_addRow h hm
  · apply l.of_addTable h hm

end Lasting

/-- The pairs in front of the first header are pairs of lines. -/
theorem mem_of_mem_sections {lines : List Line} {pair : Pair} (h : pair ∈ (sections lines).1) :
  .pair pair ∈ lines
  := by
  induction lines with
  | nil => cases h
  | cons line lines ih =>
      cases line with
      | empty => exact List.mem_cons_of_mem _ (ih h)
      | pair pair' =>
          rcases List.mem_cons.mp h with rfl | h
          · exact List.mem_cons_self
          · exact List.mem_cons_of_mem _ (ih h)
      | header path key isRow span => cases h

/-- What lasts holds of the members of a document, if the values of its lines are of that kind. -/
theorem Lasting.of_read? (l : Lasting I P) (h : read? s = some members)
    (hp : ∀ s pair rest, line? s = some (.pair pair, rest) → P pair.value) :
  I members
  := by
  simp only [read?, Option.ite_none_right_eq_some] at h
  obtain ⟨_, h⟩ := h
  simp only [document?, Option.bind_eq_bind, Option.bind_eq_some_iff] at h
  obtain ⟨kept, hk, h⟩ := h
  apply of_foldlM_eq_some h (fun block _ _ _ h => l.of_addSection h)
  apply l.of_addPairs hk _ l.none
  intro pair hp'
  obtain ⟨_, _, line⟩ := exists_of_mem_many (mem_of_mem_sections hp')
  apply hp _ _ _ line

/-! ### Members of different names -/

/-- No two members have the same name. -/
def Members.Distinct (members : Members) : Prop :=
  (members.map (·.1.name)).Nodup

theorem lasting_distinct :
  Lasting Members.Distinct (fun _ => True)
  where
  none := List.nodup_nil
  add {members key item} h hn _ := by
    rw [Members.Distinct, List.map_append, List.map_singleton, List.nodup_append]
    refine ⟨h, List.nodup_singleton _, ?_⟩
    rintro name hm name' hn' rfl
    obtain rfl := List.mem_singleton.mp hn'
    exact find?_eq_none_iff.mp hn hm
  replace h _ := by
    rw [Members.Distinct, map_name_replace]
    exact h
  erase h := h.sublist (List.filter_sublist.map _)
  table _ _ := trivial
  tables _ := trivial

/-- The members of a document have different names. -/
theorem distinct_of_read? (h : read? s = some members) :
  members.Distinct
  := lasting_distinct.of_read? h (fun _ _ _ _ => trivial)

/-- A name leads to one member at most. -/
theorem Members.Distinct.eq_of_name {m m' : Key × Item} (h : members.Distinct) (hm : m ∈ members)
    (hm' : m' ∈ members) (hn : m.1.name = m'.1.name) :
  m = m'
  := List.inj_on_of_nodup_map h hm hm' hn

end SyncLayer.Toml
