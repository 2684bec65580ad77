import SyncLayer.Config.Source
import SyncLayer.Proofs.Config.Overrides
import SyncLayer.Proofs.Toml.Bounds
import SyncLayer.Proofs.Toml.Entry
import Mathlib.Algebra.Group.Nat.Defs

/-!
# Configurations that are written and read back

A document can hold a configuration just if it can hold its numbers. What is written of such a
configuration denotes that configuration and no other. Every configuration that a document denotes
is one of these, because a document cannot hold greater numbers in the first place.
-/

namespace SyncLayer.Config

open Toml (Scalar Members Item Key Says entryLine PlainEntry)

variable {c c' : Config} {n : UInt64} {source : List Char} {members : Members} {item : Item}

/-- The numbers of a configuration are those that a document can hold. -/
structure Writable (c : Config) : Prop where
  threshold : c.contentionThreshold.toNat < 2 ^ 63
  rate : ∀ r, c.cyclesPerSecond = some r → r.toNat < 2 ^ 63
  interval : c.flushInterval.toNat < 2 ^ 63

/-- What is written of a configuration. -/
def entries (c : Config) : List (String × Scalar) :=
  ("contention_threshold_cycles", .integer c.contentionThreshold.toNat)
    :: (c.cyclesPerSecond.toList.map (fun r => ("cycles_per_second", .integer r.toNat))
      ++ [("calibrate_clock", .boolean c.calibrateClock),
        ("refcount_flush_interval", .integer c.flushInterval.toNat),
        ("stats_format", .text c.statsFormat.name)])

/-! ### Writing -/

theorem le_maxInteger_iff :
  (n.toNat : Int) ≤ Toml.maxInteger ↔ n.toNat < 2 ^ 63
  := by
  rw [Toml.maxInteger]
  omega

/-- The line of a number that a document can hold. -/
theorem numberLine?_of_lt {key : String} (h : n.toNat < 2 ^ 63) :
  numberLine? key n = some (String.ofList (entryLine (key, .integer n.toNat)))
  := by
  rw [numberLine?, if_pos (le_maxInteger_iff.mpr h)]
  congr 1
  apply String.toList_injective
  simp [entryLine, Scalar.written, Decimal.text]

theorem lt_of_numberLine? {key text : String} (h : numberLine? key n = some text) :
  n.toNat < 2 ^ 63
  := by
  rw [numberLine?, Option.ite_none_right_eq_some] at h
  apply le_maxInteger_iff.mp h.1

theorem calibrateLine_eq (b : Bool) :
  "calibrate_clock = " ++ (if b then "true" else "false") ++ "\n"
    = String.ofList (entryLine ("calibrate_clock", .boolean b))
  := by
  cases b <;> rfl

theorem formatLine_eq (f : StatsFormat) :
  "stats_format = \"" ++ f.name ++ "\"\n"
    = String.ofList (entryLine ("stats_format", .text f.name))
  := by
  cases f <;> rfl

/-- What can be written of a configuration is written entry by entry. -/
theorem document?_of_writable (h : c.Writable) :
  c.document? = some (String.ofList (c.entries.flatMap entryLine))
  := by
  rw [document?, numberLine?_of_lt h.threshold, numberLine?_of_lt h.interval, calibrateLine_eq,
    formatLine_eq]
  cases hr : c.cyclesPerSecond with
  | none => simp [entries, hr, String.append_assoc]
  | some r => simp [entries, hr, numberLine?_of_lt (h.rate r hr), String.append_assoc]

theorem writable_of_document? {text : String} (h : c.document? = some text) :
  c.Writable
  := by
  simp only [document?, Option.bind_eq_bind, Option.bind_eq_some_iff] at h
  obtain ⟨_, threshold, h⟩ := h
  constructor
  · apply lt_of_numberLine? threshold
  · intro r hr
    rw [hr] at h
    obtain ⟨_, rate, _⟩ := Option.bind_eq_some_iff.mp h
    apply lt_of_numberLine? rate
  · split at h
    all_goals
      obtain ⟨_, _, h⟩ := Option.bind_eq_some_iff.mp h
      obtain ⟨_, interval, _⟩ := Option.bind_eq_some_iff.mp h
      apply lt_of_numberLine? interval

theorem document?_eq_none_iff :
  c.document? = none ↔ ¬ c.Writable
  := by
  constructor
  · intro h writable
    rw [document?_of_writable writable] at h
    cases h
  · intro h
    apply Option.eq_none_iff_forall_ne_some.mpr
    intro text ht
    apply h (writable_of_document? ht)

theorem not_writable_iff :
  ¬ c.Writable ↔ 2 ^ 63 ≤ c.contentionThreshold.toNat ∨ 2 ^ 63 ≤ c.flushInterval.toNat
    ∨ ∃ r, c.cyclesPerSecond = some r ∧ 2 ^ 63 ≤ r.toNat
  := by
  constructor
  · intro h
    by_contra hn
    push Not at hn
    obtain ⟨threshold, interval, rate⟩ := hn
    exact h ⟨threshold, rate, interval⟩
  · rintro (h | h | ⟨r, hr, h⟩) writable
    · exact absurd writable.threshold (not_lt.mpr h)
    · exact absurd writable.interval (not_lt.mpr h)
    · exact absurd (writable.rate r hr) (not_lt.mpr h)

/-! ### Reading back -/

theorem plain_entries (h : c.Writable) :
  ∀ e ∈ c.entries, PlainEntry e
  := by
  have plain {key : String} {v : Scalar}
      (hk : key.toList ≠ [] ∧ key.toList.all Toml.isKeyChar = true) (hv : v.Plain) :
      PlainEntry (key, v) := ⟨hk.1, List.all_eq_true.mp hk.2, hv⟩
  intro e he
  simp only [entries, List.mem_cons, List.mem_append, List.mem_map, Option.mem_toList,
    List.not_mem_nil, or_false] at he
  rcases he with rfl | ⟨r, hr, rfl⟩ | rfl | rfl | rfl
  · exact plain (by decide) (.integer (le_maxInteger_iff.mpr h.threshold))
  · exact plain (by decide) (.integer (le_maxInteger_iff.mpr (h.rate r hr)))
  · exact plain (by decide) (.boolean _)
  · exact plain (by decide) (.integer (le_maxInteger_iff.mpr h.interval))
  · apply plain (by decide)
    apply Scalar.Plain.text
    have all : c.statsFormat.name.toList.all
        (fun d => decide (Toml.isTextChar d = true ∧ d ≠ '"' ∧ d ≠ '\\')) = true := by
      cases c.statsFormat <;> decide
    intro d hd
    exact of_decide_eq_true (List.all_eq_true.mp all d hd)

theorem nodup_entries (c : Config) :
  (c.entries.map Prod.fst).Nodup
  := by
  rw [entries]
  cases c.cyclesPerSecond <;> simp

/-- What an entry makes of a configuration. -/
inductive Sets : String × Scalar → Config → Config → Prop
  | threshold (n : UInt64) (c : Config) :
      Sets ("contention_threshold_cycles", .integer n.toNat) c { c with contentionThreshold := n }
  | rate (n : UInt64) (c : Config) :
      Sets ("cycles_per_second", .integer n.toNat) c { c with cyclesPerSecond := some n }
  | calibrate (b : Bool) (c : Config) :
      Sets ("calibrate_clock", .boolean b) c { c with calibrateClock := b }
  | interval (n : UInt64) (c : Config) :
      Sets ("refcount_flush_interval", .integer n.toNat) c { c with flushInterval := n }
  | format (f : StatsFormat) (c : Config) :
      Sets ("stats_format", .text f.name) c { c with statsFormat := f }

theorem number_integer (n : UInt64) (span : Toml.Span) :
  number (.scalar (.integer n.toNat) span) = .ok n
  := by
  simp [number]

theorem ofName?_name (f : StatsFormat) :
  StatsFormat.ofName? f.name = some f
  := by
  cases f <;> rfl

/-- A member makes of a configuration what its entry does. -/
theorem setMember_of_sets {m : Key × Item} {e : String × Scalar} (hm : Says m e)
    (h : Sets e c c') :
  setMember source c m = .ok c'
  := by
  obtain ⟨hk, span, hi⟩ := hm
  cases h with
  | threshold n => simp [setMember, hk, hi, number_integer, located, Except.mapError]
  | rate n => simp [setMember, hk, hi, number_integer, located, Except.mapError]
  | calibrate b => simp [setMember, hk, hi, boolean, located, Except.mapError]
  | interval n => simp [setMember, hk, hi, number_integer, located, Except.mapError]
  | format f => simp [setMember, hk, hi, format, ofName?_name]

/-- What entries make of a configuration, one after the other. -/
inductive SetsAll : List (String × Scalar) → Config → Config → Prop
  | nil (c : Config) : SetsAll [] c c
  | cons {e : String × Scalar} {es : List (String × Scalar)} {c₁ c₂ c₃ : Config}
      (h : Sets e c₁ c₂) (hs : SetsAll es c₂ c₃) : SetsAll (e :: es) c₁ c₃

/-- Members make of a configuration what their entries do. -/
theorem foldlM_setMember {es : List (String × Scalar)} (hm : members.Hold es)
    (h : SetsAll es c c') :
  members.foldlM (setMember source) c = .ok c'
  := by
  induction h generalizing members with
  | nil c =>
      cases hm
      rfl
  | cons h hs ih =>
      cases hm with
      | cons hm hms =>
          rw [List.foldlM_cons, setMember_of_sets hm h]
          apply ih hms

/-- What is written of a configuration makes it of the default one. -/
theorem setsAll_entries (c : Config) :
  SetsAll c.entries default c
  := by
  obtain ⟨t, r, b, i, f⟩ := c
  have last (c : Config) := SetsAll.cons (.calibrate b c) (.cons (.interval i _)
    (.cons (.format f _) (.nil _)))
  cases r with
  | none => exact .cons (.threshold t default) (last _)
  | some r => exact .cons (.threshold t default) (.cons (.rate r _) (last _))

/-- What is written of a configuration denotes it. -/
theorem parse_entries (h : c.Writable) :
  parse (String.ofList (c.entries.flatMap entryLine)) = .ok c
  := by
  obtain ⟨members, read, hold⟩ := Toml.read?_entries (plain_entries h) (nodup_entries c)
  have made : ofMembers (c.entries.flatMap entryLine) members = .ok c :=
    foldlM_setMember hold (setsAll_entries c)
  rw [parse, ofDocument, String.toList_ofList, read]
  simp only [made]
  rfl

/-! ### What documents denote -/

theorem lt_of_number (h : number item = .ok n) (hi : item.Fits) :
  n.toNat < 2 ^ 63
  := by
  rw [number.eq_def] at h
  split at h
  · rename_i k span
    have bound := hi k span rfl
    rw [Toml.maxInteger] at bound
    split at h
    · cases h
    · cases h
      rw [UInt64.toNat_ofNat']
      omega
  · cases h

theorem located_eq_ok_iff {α : Type} {span : Toml.Span} {r : Except Rejection α} {a : α} :
  located source span r = .ok a ↔ r = .ok a
  := by
  cases r <;> simp [located, Except.mapError]

/-- Members with numbers that a document can hold set such numbers. -/
theorem writable_of_setMember {m : Key × Item} (h : setMember source c m = .ok c')
    (hm : m.2.Fits) (hc : c.Writable) :
  c'.Writable
  := by
  simp only [setMember] at h
  split at h
  · obtain ⟨n, hn, h⟩ := bind_eq_ok.mp h
    cases h
    exact ⟨lt_of_number (located_eq_ok_iff.mp hn) hm, hc.rate, hc.interval⟩
  · obtain ⟨n, hn, h⟩ := bind_eq_ok.mp h
    cases h
    refine ⟨hc.threshold, ?_, hc.interval⟩
    rintro r ⟨⟩
    exact lt_of_number (located_eq_ok_iff.mp hn) hm
  · obtain ⟨b, _, h⟩ := bind_eq_ok.mp h
    cases h
    exact ⟨hc.threshold, hc.rate, hc.interval⟩
  · obtain ⟨n, hn, h⟩ := bind_eq_ok.mp h
    cases h
    exact ⟨hc.threshold, hc.rate, lt_of_number (located_eq_ok_iff.mp hn) hm⟩
  · obtain ⟨f, _, h⟩ := bind_eq_ok.mp h
    cases h
    exact ⟨hc.threshold, hc.rate, hc.interval⟩
  · cases h
    exact hc

theorem writable_of_foldlM (h : members.foldlM (setMember source) c = .ok c') (hm : members.Fit)
    (hc : c.Writable) :
  c'.Writable
  := by
  induction members generalizing c with
  | nil =>
      cases h
      exact hc
  | cons m members ih =>
      rw [List.foldlM_cons] at h
      obtain ⟨c₁, h₁, h⟩ := bind_eq_ok.mp h
      apply ih h (fun m hm' => hm m (List.mem_cons_of_mem _ hm'))
      apply writable_of_setMember h₁ (hm m List.mem_cons_self) hc

theorem writable_default :
  default.Writable
  := ⟨by decide, nofun, by decide⟩

theorem writable_of_parse {s : String} (h : parse s = .ok c) :
  c.Writable
  := by
  rw [parse, ofDocument] at h
  cases hr : Toml.read? s.toList with
  | none =>
      rw [hr] at h
      cases h
  | some members =>
      rw [hr] at h
      cases hm : ofMembers s.toList members with
      | error e =>
          simp only [hm] at h
          cases h
      | ok c' =>
          simp only [hm] at h
          cases h
          apply writable_of_foldlM hm (Toml.fit_of_read? hr) writable_default

/-- A configuration cannot be written just if one of its numbers takes more than 63 bits. What is
written denotes that configuration. And any configuration that a text denotes can be written, and
then read back. -/
theorem round_trip :
  (∀ c : Config, c.document? = none ↔ 2 ^ 63 ≤ c.contentionThreshold.toNat
      ∨ 2 ^ 63 ≤ c.flushInterval.toNat ∨ ∃ r, c.cyclesPerSecond = some r ∧ 2 ^ 63 ≤ r.toNat)
    ∧ (∀ (c : Config) (text : String), c.document? = some text → parse text = .ok c)
    ∧ ∀ (s : String) (c : Config), parse s = .ok c →
      ∃ text, c.document? = some text ∧ parse text = .ok c
  := by
  refine ⟨?_, ?_, ?_⟩
  · intro c
    rw [← not_writable_iff, ← document?_eq_none_iff]
  · intro c text h
    have writable := writable_of_document? h
    rw [document?_of_writable writable] at h
    cases h
    apply parse_entries writable
  · intro s c h
    have writable := writable_of_parse h
    exact ⟨_, document?_of_writable writable, parse_entries writable⟩

/-- A rate of zero is written and read back, and does not become none. -/
theorem round_trip_zero :
  ∃ text, document? { cyclesPerSecond := some 0 } = some text
    ∧ parse text = .ok { cyclesPerSecond := some 0 }
  := by
  obtain ⟨none_iff, back, _⟩ := round_trip
  cases h : document? { cyclesPerSecond := some 0 } with
  | none => rcases (none_iff _).mp h with h | h | ⟨r, ⟨⟩, h⟩ <;> exact absurd h (by decide)
  | some text => exact ⟨text, rfl, back _ _ h⟩

end SyncLayer.Config
