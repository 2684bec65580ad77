import SyncLayer.Proofs.Json.RoundTrip
import SyncLayer.Proofs.Registry
import SyncLayer.Reading

/-!
# Reports are read back without loss

Whatever the description of a lock is, its JSON report is a JSON text on one line from which the
description and all figures are recovered; and if there is no line end in the description, then the
counters are recovered from the lines of its other report.
-/

namespace SyncLayer

variable {s : Settings} {d : String} {c : Counters} {n : UInt64} {t : Tally}

/-! ### Real numbers in reports -/

namespace Json

/-- The quotient of two numbers of 64 bits is readable, unless it is one by zero. -/
theorem isReadable_quotient {a b : UInt64} (hb : b ≠ 0) :
  IsReadable (.real (.quotient a.toNat b.toNat))
  := by
  have pos : 0 < b.toNat := by
    apply Nat.pos_of_ne_zero
    intro h
    exact hb (UInt64.toNat_inj.mp h)
  obtain ⟨m, e, hq, hc⟩ := Binary64.exists_quotient_eq a.toNat_lt pos b.toNat_lt
  rw [hq]
  exact .real false hc

theorem isReadable_zero :
  IsReadable (.real .zero)
  := .real false Binary64.isCanonical_zero

theorem isFinite_of_isReadable {x : Binary64} (h : IsReadable (.real x)) :
  x.isFinite = true
  := by
  cases h
  rfl

theorem asUInt64?_natural (n : UInt64) :
  asUInt64? (.natural n.toNat) = some n
  := by
  rw [asUInt64?, if_pos n.toNat_lt, UInt64.ofNat_toNat]

end Json

theorem isReadable_seconds (s : Settings) (n : UInt64) :
  (Json.real (s.seconds n)).IsReadable
  := by
  apply Json.isReadable_quotient
  rw [Settings.cyclesPerSecond]
  split
  · decide
  · assumption

theorem Counters.isReadable_averageDelay (c : Counters) :
  (Json.real c.averageDelay).IsReadable
  := by
  rw [averageDelay]
  split
  · exact Json.isReadable_zero
  · exact Json.isReadable_quotient ‹_›

theorem Tally.isReadable_averageCycles (t : Tally) :
  (Json.real t.averageCycles).IsReadable
  := by
  rw [averageCycles]
  split
  · exact Json.isReadable_zero
  · exact Json.isReadable_quotient ‹_›

/-! ### JSON reports -/

theorem Counters.isReadable_json (c : Counters) :
  c.json.IsReadable
  := by
  apply Json.IsReadable.object
  simp only [List.forall_mem_cons]
  exact ⟨.natural _, .natural _, .natural _, .natural _, List.forall_mem_nil _⟩

theorem Counters.ofJson?_json (c : Counters) :
  ofJson? c.json = some c
  := by
  change (Json.asUInt64? (.natural c.uncontended.toNat)).bind (fun uncontended =>
    (Json.asUInt64? (.natural c.contended.toNat)).bind (fun contended =>
      (Json.asUInt64? (.natural c.totalDelay.toNat)).bind (fun totalDelay =>
        (Json.asUInt64? (.natural c.maxDelay.toNat)).bind (fun maxDelay =>
          some { uncontended, contended, totalDelay, maxDelay })))) = some c
  simp only [Json.asUInt64?_natural, Option.bind_some]

theorem Tally.ofJson?_object (t : Tally) :
  ofJson? (.object
      [("total_refcount_ops", .natural t.operations.toNat),
        ("total_refcount_time", .natural t.cycles.toNat)])
    = some t
  := by
  have operations := Json.asUInt64?_natural t.operations
  have cycles := Json.asUInt64?_natural t.cycles
  change (Json.asUInt64? (.natural t.operations.toNat)).bind (fun operations =>
    (Json.asUInt64? (.natural t.cycles.toNat)).bind (fun cycles =>
      some { operations, cycles })) = some t
  rw [operations, cycles]
  rfl

/-- What a JSON report of the counters says. -/
def Counters.toLockReport (s : Settings) (d : String) (n : UInt64) (c : Counters) : LockReport where
  description := d
  total := n
  counters := c
  averageDelay := c.averageDelay
  totalSeconds := s.seconds c.totalDelay

/-- What a JSON report of a tally says. -/
def Tally.toTallyReport (s : Settings) (t : Tally) : TallyReport where
  tally := t
  averageCycles := t.averageCycles
  totalSeconds := t.seconds s

namespace LockReport

/-- The JSON report of a lock with a number of acquisitions. -/
theorem exists_jsonReport (s : Settings) (d : String) (h : c.total = .ok n) :
  ∃ v, c.jsonReport s d = .ok v ∧ v.IsReadable ∧ ofJson? v = some (c.toLockReport s d n)
  := by
  rw [Counters.jsonReport, h]
  refine ⟨_, rfl, .object ?_, ?_⟩
  · simp only [List.forall_mem_cons]
    exact ⟨c.isReadable_averageDelay, isReadable_seconds s c.totalDelay, .text d,
      c.isReadable_json, .natural _, List.forall_mem_nil _⟩
  · change (Json.asUInt64? (.natural n.toNat)).bind (fun total =>
      (Counters.ofJson? c.json).bind (fun counters =>
        some (LockReport.mk d total counters c.averageDelay (s.seconds c.totalDelay)))) = _
    rw [Json.asUInt64?_natural, Counters.ofJson?_json]
    rfl

end LockReport

namespace TallyReport

theorem isReadable_jsonReport (s : Settings) (t : Tally) :
  (t.jsonReport s).IsReadable
  := by
  apply Json.IsReadable.object
  simp only [List.forall_mem_cons]
  refine ⟨t.isReadable_averageCycles, .object ?_, isReadable_seconds s t.cycles,
    List.forall_mem_nil _⟩
  simp only [List.forall_mem_cons]
  exact ⟨.natural _, .natural _, List.forall_mem_nil _⟩

theorem ofJson?_jsonReport (s : Settings) (t : Tally) :
  ofJson? (t.jsonReport s) = some (t.toTallyReport s)
  := by
  change (Tally.ofJson? (.object
      [("total_refcount_ops", .natural t.operations.toNat),
        ("total_refcount_time", .natural t.cycles.toNat)])).bind
    (fun tally => some (TallyReport.mk tally t.averageCycles (t.seconds s))) = _
  rw [t.ofJson?_object]
  rfl

end TallyReport

/-! ### Reports in lines -/

/-- A line of a report. -/
def reportLine (d figure : String) : String :=
  "[" ++ d ++ "] " ++ figure

theorem toList_reportLine (d figure : String) :
  (reportLine d figure).toList = '[' :: d.toList ++ ']' :: ' ' :: figure.toList
  := by
  simp [reportLine]

theorem prefix_reportLine (d figure : String) :
  ("[" ++ d ++ "] ").toList <+: (reportLine d figure).toList
  := ⟨figure.toList, String.toList_append.symm⟩

namespace Figures

/-- What stands behind the last bracket. -/
theorem said_append {p q : List Char} (h : ']' ∉ q) :
  said (p ++ ']' :: q) = q
  := by
  have kept : ∀ c ∈ q.reverse, decide (c ≠ ']') = true := by
    intro c hc
    rw [decide_eq_true_iff]
    rintro rfl
    exact h (List.mem_reverse.mp hc)
  rw [said, List.reverse_append, List.reverse_cons, List.append_assoc, List.singleton_append,
    Toml.takeWhile_append_cons kept rfl, List.reverse_reverse]

/-- A figure is read in front of its label, whatever the description is. -/
theorem figure?_reportLine (d : String) (n : Nat) {label : String} (hl : ']' ∉ label.toList) :
  figure? label (reportLine d (Decimal.text n ++ " " ++ label)).toList = some n
  := by
  have digit : ∀ c ∈ Decimal.digits n, c.isDigit = true := fun _ => Decimal.isDigit_of_mem_digits
  have nonempty : Decimal.digits n ≠ [] := Nat.toDigits_ne_nil
  have blank : Char.isDigit ' ' = false := rfl
  have figure : (Decimal.text n ++ " " ++ label).toList
      = Decimal.digits n ++ ' ' :: label.toList := by
    simp [Decimal.text]
  have free : ']' ∉ ' ' :: (Decimal.digits n ++ ' ' :: label.toList) := by
    have none : ']' ∉ Decimal.digits n := fun h => absurd (digit _ h) (by decide)
    simp [none, hl]
  have behind : said (reportLine d (Decimal.text n ++ " " ++ label)).toList
      = ' ' :: (Decimal.digits n ++ ' ' :: label.toList) := by
    rw [toList_reportLine, figure, ← List.cons_append]
    exact said_append free
  rw [figure?, behind]
  simp only [Toml.takeWhile_append_cons digit blank, Toml.dropWhile_append_cons digit blank,
    nonempty, ne_eq, not_false_eq_true, and_self, if_true, Decimal.value_digits]

end Figures

namespace Counters

/-- The lines of a report on counts. -/
def countLines (n : UInt64) (c : Counters) : List String :=
  [Decimal.text n.toNat ++ " " ++ "total locks",
    Decimal.text c.uncontended.toNat ++ " " ++ "locks without contention",
    Decimal.text c.contended.toNat ++ " " ++ "locks with contention"]

/-- The lines of a report on delays. -/
def delayLines (s : Settings) (c : Counters) : List String :=
  [Decimal.text c.totalDelay.toNat ++ " " ++ "contention total delay in cycles",
    String.ofList ((s.seconds c.totalDelay).fixed 6) ++ " contention total delay in cpu-seconds",
    String.ofList (c.averageDelay.fixed 2) ++ " contention average delay in cycles",
    Decimal.text c.maxDelay.toNat ++ " " ++ "contention max delay in cycles"]

theorem figures_eq (s : Settings) (n : UInt64) (c : Counters) :
  c.figures s n = if c.contended = 0 then countLines n c else countLines n c ++ delayLines s c
  := by
  have figures : c.figures s n
      = if 0 < c.contended then countLines n c ++ delayLines s c else countLines n c := by
    simp only [countLines, delayLines, String.append_assoc]
    rfl
  rw [figures]
  by_cases h : c.contended = 0
  · rw [if_pos h, if_neg (by simp [h])]
  · rw [if_neg h, if_pos (UInt64.pos_iff_ne_zero.mpr h)]

theorem not_mem_figures (s : Settings) (n : UInt64) (c : Counters) :
  ∀ figure ∈ c.figures s n, '\n' ∉ figure.toList
  := by
  have number (n : UInt64) {label : String} (h : Text.IsPlain label.toList) :
      '\n' ∉ (Decimal.text n.toNat ++ " " ++ label).toList := by
    apply Text.IsPlain.not_mem_newline
    rw [Decimal.text, String.toList_append, String.toList_append, String.toList_ofList]
    exact ((Text.isPlain_digits n.toNat).append (by decide)).append h
  have real (places : Nat) (x : Binary64) {label : String} (h : Text.IsPlain label.toList) :
      '\n' ∉ (String.ofList (x.fixed places) ++ label).toList := by
    apply Text.IsPlain.not_mem_newline
    rw [String.toList_append, String.toList_ofList]
    exact (Text.isPlain_fixed places x).append h
  have counts : ∀ figure ∈ countLines n c, '\n' ∉ figure.toList := by
    simp only [countLines, List.forall_mem_cons]
    exact ⟨number _ (by decide), number _ (by decide), number _ (by decide), List.forall_mem_nil _⟩
  have delays : ∀ figure ∈ delayLines s c, '\n' ∉ figure.toList := by
    simp only [delayLines, List.forall_mem_cons]
    exact ⟨number _ (by decide), real _ _ (by decide), real _ _ (by decide),
      number _ (by decide), List.forall_mem_nil _⟩
  rw [figures_eq]
  split
  · exact counts
  · intro figure h
    exact (List.mem_append.mp h).elim (counts figure) (delays figure)

theorem report_eq (s : Settings) (d : String) (h : c.total = .ok n) :
  c.report s d = .ok (Text.joinLines ((c.figures s n).map (reportLine d)))
  := by
  rw [report, h]
  rfl

/-- The lines of a report, if there is no line end in the description. -/
theorem pieces_report (s : Settings) (n : UInt64) (c : Counters) (hd : '\n' ∉ d.toList) :
  Text.pieces '\n' (Text.joinLines ((c.figures s n).map (reportLine d))).toList
    = (c.figures s n).map (fun figure => (reportLine d figure).toList)
  := by
  have nonempty : (c.figures s n).map (reportLine d) ≠ [] := by
    rw [figures_eq]
    split <;> exact List.cons_ne_nil _ _
  have lines : ∀ line ∈ (c.figures s n).map (reportLine d), '\n' ∉ line.toList := by
    intro line h
    obtain ⟨figure, hf, rfl⟩ := List.mem_map.mp h
    rw [toList_reportLine]
    simp [hd, not_mem_figures s n c figure hf]
  rw [Text.pieces_joinLines nonempty lines, List.map_map]
  rfl

theorem length_figures (s : Settings) (n : UInt64) (c : Counters) :
  (c.figures s n).length = if c.contended = 0 then 3 else 7
  := by
  rw [figures_eq]
  split <;> rfl

/-- What the lines of a report of the counters say. -/
def toFigures (n : UInt64) (c : Counters) : Figures where
  total := n.toNat
  uncontended := c.uncontended.toNat
  contended := c.contended.toNat
  delays := if c.contended = 0 then none else some (c.totalDelay.toNat, c.maxDelay.toNat)

/-- The counters are read in the lines of their report. -/
theorem read?_report (s : Settings) (n : UInt64) (c : Counters) (hd : '\n' ∉ d.toList) :
  Figures.read? (Text.joinLines ((c.figures s n).map (reportLine d))) = some (c.toFigures n)
  := by
  have total := Figures.figure?_reportLine d n.toNat (show ']' ∉ "total locks".toList by decide)
  have uncontended := Figures.figure?_reportLine d c.uncontended.toNat
    (show ']' ∉ "locks without contention".toList by decide)
  have contended := Figures.figure?_reportLine d c.contended.toNat
    (show ']' ∉ "locks with contention".toList by decide)
  have totalDelay := Figures.figure?_reportLine d c.totalDelay.toNat
    (show ']' ∉ "contention total delay in cycles".toList by decide)
  have maxDelay := Figures.figure?_reportLine d c.maxDelay.toNat
    (show ']' ∉ "contention max delay in cycles".toList by decide)
  rw [Figures.read?, pieces_report s n c hd, figures_eq, toFigures]
  by_cases h : c.contended = 0
  · rw [if_pos h, if_pos h]
    simp only [countLines, List.map_cons, List.map_nil, total, uncontended, contended,
      Figures.delays?, Option.bind_eq_bind, Option.bind_some]
  · rw [if_neg h, if_neg h]
    simp only [countLines, delayLines, List.cons_append, List.nil_append, List.map_cons,
      List.map_nil, total, uncontended, contended, totalDelay, maxDelay, Figures.delays?,
      Option.bind_eq_bind, Option.bind_some]

/-- Counters of which the lines say the same are the same, as far as the lines say it. -/
theorem eq_of_toFigures_eq {c' : Counters} {n' : UInt64} (h : c.toFigures n = c'.toFigures n') :
  c.uncontended = c'.uncontended ∧ c.contended = c'.contended
    ∧ (0 < c.contended → c.totalDelay = c'.totalDelay ∧ c.maxDelay = c'.maxDelay)
  := by
  simp only [toFigures, Figures.mk.injEq, UInt64.toNat_inj] at h
  obtain ⟨_, uncontended, contended, delays⟩ := h
  refine ⟨uncontended, contended, ?_⟩
  intro pos
  have some := UInt64.pos_iff_ne_zero.mp pos
  rw [if_neg some, if_neg (contended ▸ some)] at delays
  simpa [UInt64.toNat_inj] using delays

end Counters

/-! ### What can be read back -/

/-- A readable value is on one line, and it is read there. -/
theorem Json.legible_compact {v : Json} (h : v.IsReadable) :
  Text.IsPlain v.compact.toList ∧ read? v.compact = some v
  := by
  refine ⟨?_, read?_compact h⟩
  rw [compact, String.toList_ofList]
  exact h.isPlain

namespace Counters

theorem fits_of_total (h : c.total = .ok n) :
  c.Fits
  := by
  by_contra hc
  rw [show c.total = .error .additionOverflow from if_neg hc] at h
  cases h

/-- In the JSON format a report is written with one line end behind it. -/
theorem exists_write_json {v : Json} (hf : s.format = .json) (h : c.total = .ok n)
    (hv : c.jsonReport s d = .ok v) (sink : Sink) :
  ∃ r sink', (c.write s d).on sink = (.ok r, sink')
    ∧ sink.Wrote (v.compact ++ "\n").toUTF8.data.toList r sink'
  := by
  have formatted : c.formatted s d = .ok v.compact := by
    rw [formatted, hf, hv]
    rfl
  have bytes : LockEntry.bytes s ⟨d, c⟩ = (v.compact ++ "\n").toUTF8.data.toList := by
    rw [LockEntry.bytes_of_formatted formatted]
    simp
  have wrote := LockEntry.wrote_bytes (e := ⟨d, c⟩) s sink (fits_of_total h)
  rw [bytes] at wrote
  exact wrote

/-- If there is a report, then it holds the figures of a total. -/
theorem exists_total_of_report {report : String} (h : c.report s d = .ok report) :
  ∃ n, c.total = .ok n ∧ report = Text.joinLines ((c.figures s n).map (reportLine d))
  := by
  cases ht : c.total with
  | error fault =>
      rw [Counters.report, ht] at h
      cases h
  | ok n =>
      rw [report_eq s d ht] at h
      cases h
      exact ⟨n, rfl, rfl⟩

end Counters

/-- Reports are read back without loss, whatever the rate of the process is. The JSON report of a
lock is a JSON text without a control character; from its value the description, the total and the
counters are recovered, and the mean delay and the seconds, which are finite numbers. In that format
it is written with one line end behind it. The same holds of the JSON report of a tally. If there is
no line end in the description, then the other report of a lock has three lines, or seven if any
acquisition was contended; each begins with the description in brackets, and the total, both counts
and, if there are any, the sum of the delays and the longest of them are read in them. So reports
that are equal are reports of the same figures. -/
theorem legibility (s : Settings) (d : String) :
  (∀ c n, Counters.total c = .ok n → ∃ v, c.jsonReport s d = .ok v
      ∧ Text.IsPlain v.compact.toList
      ∧ (Json.read? v.compact).bind LockReport.ofJson? = some (c.toLockReport s d n)
      ∧ c.averageDelay.isFinite = true ∧ (s.seconds c.totalDelay).isFinite = true
      ∧ (s.format = .json → ∀ sink, ∃ r sink', (c.write s d).on sink = (.ok r, sink')
          ∧ sink.Wrote (v.compact ++ "\n").toUTF8.data.toList r sink'))
    ∧ (∀ t, Text.IsPlain (Tally.jsonReport s t).compact.toList
      ∧ (Json.read? (t.jsonReport s).compact).bind TallyReport.ofJson? = some (t.toTallyReport s)
      ∧ t.averageCycles.isFinite = true ∧ (t.seconds s).isFinite = true)
    ∧ ('\n' ∉ d.toList → ∀ c n, Counters.total c = .ok n → ∃ report, c.report s d = .ok report
      ∧ (Text.pieces '\n' report.toList).length = (if c.contended = 0 then 3 else 7)
      ∧ (∀ line ∈ Text.pieces '\n' report.toList, ("[" ++ d ++ "] ").toList <+: line)
      ∧ Figures.read? report = some (c.toFigures n))
    ∧ ('\n' ∉ d.toList → ∀ s' d' c c' report, '\n' ∉ String.toList d' →
      Counters.report s d c = .ok report → Counters.report s' d' c' = .ok report →
      c.uncontended = c'.uncontended ∧ c.contended = c'.contended
        ∧ (0 < c.contended → c.totalDelay = c'.totalDelay ∧ c.maxDelay = c'.maxDelay))
  := by
  refine ⟨?_, ?_, ?_, ?_⟩
  · intro c n h
    obtain ⟨v, hv, readable, read⟩ := LockReport.exists_jsonReport s d h
    obtain ⟨plain, parsed⟩ := Json.legible_compact readable
    refine ⟨v, hv, plain, ?_, Json.isFinite_of_isReadable c.isReadable_averageDelay,
      Json.isFinite_of_isReadable (isReadable_seconds s c.totalDelay),
      fun hf => Counters.exists_write_json hf h hv⟩
    rw [parsed, Option.bind_some, read]
  · intro t
    obtain ⟨plain, parsed⟩ := Json.legible_compact (TallyReport.isReadable_jsonReport s t)
    refine ⟨plain, ?_, Json.isFinite_of_isReadable t.isReadable_averageCycles,
      Json.isFinite_of_isReadable (isReadable_seconds s t.cycles)⟩
    rw [parsed, Option.bind_some, TallyReport.ofJson?_jsonReport]
  · intro hd c n h
    refine ⟨_, Counters.report_eq s d h, ?_, ?_, Counters.read?_report s n c hd⟩
    · rw [Counters.pieces_report s n c hd, List.length_map, Counters.length_figures]
    · intro line hl
      rw [Counters.pieces_report s n c hd] at hl
      obtain ⟨figure, _, rfl⟩ := List.mem_map.mp hl
      exact prefix_reportLine d figure
  · intro hd s' d' c c' report hd' h h'
    obtain ⟨n, _, rfl⟩ := Counters.exists_total_of_report h
    obtain ⟨n', _, same⟩ := Counters.exists_total_of_report h'
    have read := Counters.read?_report s n c hd
    rw [same, Counters.read?_report s' n' c' hd', Option.some.injEq] at read
    exact Counters.eq_of_toFigures_eq read.symm

/-- Neither a quote and a line end in a description nor a bracket and a figure mislead a reader. -/
theorem legibility_misleading :
  (∃ v, Counters.jsonReport { format := .json } "a\n\"b\"" ⟨2, 1, 5, 5⟩ = .ok v
    ∧ (Json.read? v.compact).bind LockReport.ofJson?
      = some {
          description := "a\n\"b\""
          total := 3
          counters := ⟨2, 1, 5, 5⟩
          averageDelay := .quotient 5 1
          totalSeconds := .quotient 5 2600000000 }
    ∧ ∃ r sink', (Counters.write { format := .json } "a\n\"b\"" ⟨2, 1, 5, 5⟩).on {} = (.ok r, sink')
      ∧ Sink.Wrote {} (v.compact ++ "\n").toUTF8.data.toList r sink')
  ∧ ∃ report, Counters.report {} "a] 7 total locks" ⟨2, 1, 5, 5⟩ = .ok report
    ∧ (Text.pieces '\n' report.toList).length = 7
    ∧ Figures.read? report = some ⟨3, 2, 1, some (5, 5)⟩
    ∧ ∀ c, Counters.report {} "a] 7 total locks" c = .ok report → c = ⟨2, 1, 5, 5⟩
  := by
  obtain ⟨json, _, _, _⟩ := legibility { format := .json } "a\n\"b\""
  obtain ⟨_, _, lines, same⟩ := legibility {} "a] 7 total locks"
  obtain ⟨v, hv, _, read, _, _, write⟩ := json ⟨2, 1, 5, 5⟩ 3 rfl
  obtain ⟨report, hr, count, _, figures⟩ := lines (by decide) ⟨2, 1, 5, 5⟩ 3 rfl
  refine ⟨⟨v, hv, read, write rfl {}⟩, report, hr, count, figures, ?_⟩
  intro c h
  obtain ⟨uncontended, contended, delays⟩ := same (by decide) {} _ _ c report (by decide) hr h
  obtain ⟨totalDelay, maxDelay⟩ := delays (by decide)
  cases c
  simp_all

end SyncLayer
