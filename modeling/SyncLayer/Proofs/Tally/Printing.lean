import SyncLayer.Session.Process
import SyncLayer.Tally.Summary
import SyncLayer.Proofs.Output.Sink
import SyncLayer.Proofs.Tally.Conservation

/-!
# Operations that a summary loses

Threads count operations and merge them while some of them print summaries of the totals. What a
thread takes for a summary is in no shadow and not in the totals any more. If the summary is
written it stands there whole. If the write fails, or if the totals have cycles without operations,
then what was taken is lost. Nothing else is: whatever was in the totals and the shadows at first,
and whatever was counted since, is there, in a summary, taken by somebody else, or lost like that.
-/

namespace SyncLayer

/-! ### A print that nobody interrupts -/

namespace Session

variable {ρ α : Type}

theorem lookup_assign {κ : Type} [BEq κ] [LawfulBEq κ] (key : κ) (a : α) (l : List (κ × α)) :
  (assign key a l).lookup key = some a
  := by
  induction l with
  | nil => simp [assign]
  | cons x l ih =>
      obtain ⟨k, b⟩ := x
      by_cases hk : k = key
      · simp [assign, hk]
      · have hk' : (key == k) = false := by simp [Ne.symm hk]
        simp [assign, hk, List.lookup_cons, hk', ih]

/-- A print merges the thread's shadow into the totals, resets them, and writes what was there
unless that has no operations. -/
theorem printSummary_run (w : World Outcome) (t : ThreadId) (stdout : Sink) :
  ∃ r w', (printSummary t stdout).run.run w
      = (.ok (r, if (w.merging t).flush.totals.operations = 0 then stdout
          else (SummaryPhase.write w.settings (w.merging t).flush.totals stdout).2), w')
    ∧ w'.merging t = {}
  := by
  have merging : World.merging t { w.setMerging t (w.merging t).flush with totals := .zero }
      = {} := by
    simp [World.merging, World.setMerging, World.thread, World.setThread, lookup_assign,
      Merging.flush]
  obtain ⟨p, unfolded, prints⟩ : ∃ p : Deed Outcome (Except Fault Unit × Sink),
      (printSummary t stdout).run.run w
        = (if (w.merging t).flush.totals.operations = 0 then pure (.ok (), stdout) else p).run.run
          { w.setMerging t (w.merging t).flush with totals := .zero }
      ∧ ∀ w', ∃ r, p.run.run w'
        = (.ok (r, (SummaryPhase.write w.settings (w.merging t).flush.totals stdout).2), w') := by
    refine ⟨_, rfl, ?_⟩
    intro w'
    have settings : (w.setMerging t (w.merging t).flush).settings = w.settings := rfl
    have totals : (w.setMerging t (w.merging t).flush).totals = (w.merging t).flush.totals := rfl
    beta_reduce
    rw [settings, totals, SummaryPhase.write, Tally.summary]
    generalize stdout.writeText ((w.merging t).flush.totals.formatted w.settings ++ "\n") = r
    obtain ⟨(_ | _ | _ | _) | _, out⟩ := r <;> exact ⟨_, rfl⟩
  rw [unfolded]
  by_cases hz : (w.merging t).flush.totals.operations = 0
  · rw [if_pos hz, if_pos hz]
    exact ⟨.ok (), _, rfl, merging⟩
  · rw [if_neg hz, if_neg hz]
    obtain ⟨r, hr⟩ := prints { w.setMerging t (w.merging t).flush with totals := .zero }
    exact ⟨r, _, hr, merging⟩

end Session

/-- Threads that keep tallies, what they print to, and where each of them stands with a summary. -/
structure SummaryState where
  base : TallyState
  stdout : Sink := {}
  prints : ThreadId → SummaryPhase := fun _ => .idle

namespace SummaryEvent

/-- What a step does to tallies, if it is not one by which a summary takes the totals. -/
def tallies? : SummaryEvent → Option TallyEvent
  | tallies e => some e
  | _ => none

/-- The totals of a summary that has been written. -/
def written? : SummaryEvent → Option Tally
  | writes _ u => some u
  | _ => none

/-- What has been taken for a summary that is not written. -/
def lost? : SummaryEvent → Option Tally
  | skips u | fails _ u => some u
  | _ => none

/-- What a step counts. -/
def counted (e : SummaryEvent) : Tally :=
  (e.tallies?.map TallyEvent.counted).getD .zero

/-- What a step has taken from the totals, if not for a summary. -/
def taken (e : SummaryEvent) : Tally :=
  (e.tallies?.map TallyEvent.taken).getD .zero

end SummaryEvent

namespace SummaryPhase

variable {s : Settings} {u : Tally} {stdout : Sink}

/-- What has been taken for a summary that is to be written. -/
def pending : SummaryPhase → Tally
  | writing u => u
  | _ => .zero

theorem taken_of_eq_zero (h : u.operations = 0) :
  taken u = (.skips u, idle)
  := if_pos h

theorem taken_of_ne_zero (h : u.operations ≠ 0) :
  taken u = (.picks u, writing u)
  := if_neg h

/-- A summary is written whole, or it is not. -/
theorem write_cases (s : Settings) (u : Tally) (stdout : Sink) :
  (write s u stdout).1 = .writes s u
      ∧ (write s u stdout).2.written = stdout.written ++ (u.summary s).toUTF8.data.toList
    ∨ (write s u stdout).1 = .fails s u
  := by
  have wrote : stdout.Wrote (u.summary s).toUTF8.data.toList _ _ := Sink.wrote_write
  rw [write, Sink.writeText]
  generalize stdout.write (u.summary s).toUTF8.data.toList = r at wrote
  obtain ⟨_ | _, out⟩ := r
  · right
    rfl
  · left
    obtain ⟨_, took⟩ := wrote.of_ok
    use rfl, took.written

/-- A summary cannot be written to a full device. -/
theorem write_full (s : Settings) (u : Tally) :
  (write s u .full).1 = .fails s u
  := by
  have hb : 0 < (u.summary s).toUTF8.data.toList.length := by
    rw [Tally.summary]
    simp only [String.toUTF8, Array.length_toList, ByteArray.size_data, String.size_toByteArray,
      String.utf8ByteSize_append]
    apply Nat.add_pos_right
    decide
  have wrote : Sink.full.Wrote (u.summary s).toUTF8.data.toList _ _ := Sink.wrote_write
  obtain ⟨hr, _⟩ := wrote.of_lt (b := 0) rfl hb
  rw [write, Sink.writeText]
  generalize Sink.full.write (u.summary s).toUTF8.data.toList = r at hr
  obtain ⟨_, out⟩ := r
  cases hr
  rfl

/-- What was printed before stays printed. -/
theorem written_write (s : Settings) (u : Tally) (stdout : Sink) :
  stdout.written <+: (write s u stdout).2.written
  := by
  have wrote : stdout.Wrote (u.summary s).toUTF8.data.toList _ _ := Sink.wrote_write
  have written : (write s u stdout).2 = (stdout.writeText (u.summary s)).2 := by
    rw [write]
    split
    · rename_i h
      rw [h]
    · rename_i h
      rw [h]
  rw [written, Sink.writeText, wrote.took.written]
  apply List.prefix_append

end SummaryPhase

/-- What happened to tallies, but for what was taken for summaries. -/
def tallied (h : History SummaryEvent) : History TallyEvent :=
  h.through SummaryEvent.tallies?

/-- The totals of the summaries that were written. -/
def summaries (h : History SummaryEvent) : List Tally :=
  h.filterMap (fun x => x.2.written?)

/-- What was taken for summaries that were not written. -/
def losses (h : History SummaryEvent) : List Tally :=
  h.filterMap (fun x => x.2.lost?)

theorem summaries_concat (h : History SummaryEvent) (t : ThreadId) (e : SummaryEvent) :
  summaries (h ++ [(t, e)]) = summaries h ++ e.written?.toList
  := by
  rw [summaries, List.filterMap_append, summaries]
  cases he : e.written? <;> simp [he]

theorem losses_concat (h : History SummaryEvent) (t : ThreadId) (e : SummaryEvent) :
  losses (h ++ [(t, e)]) = losses h ++ e.lost?.toList
  := by
  rw [losses, List.filterMap_append, losses]
  cases he : e.lost? <;> simp [he]

/-- What tallies are worth that a step may show. -/
theorem sum_toList (o : Option Tally) :
  (o.toList.map Tally.value).sum = (o.getD .zero).value
  := by
  cases o with
  | none => simp
  | some u => simp

/-- What happened to tallies goes on with what a step does to them. -/
theorem sum_tallied_concat (f : TallyEvent → Tally) (h : History SummaryEvent) (t : ThreadId)
    (e : SummaryEvent) :
  ((tallied (h ++ [(t, e)])).map (fun x => (f x.2).value)).sum
    = ((tallied h).map (fun x => (f x.2).value)).sum + ((e.tallies?.map f).getD .zero).value
  := by
  rw [tallied, tallied]
  cases he : e.tallies? with
  | none =>
      rw [History.through_concat_none he]
      simp
  | some e' =>
      rw [History.through_concat_some he]
      simp

namespace SummaryState

/-- The state in which a thread has done something to tallies, and stands somewhere else with its
summary. -/
def go (d : SummaryState) (t : ThreadId) (b : TallyState) (p : SummaryPhase) : SummaryState :=
  { d with base := b, prints := Function.update d.prints t p }

/-- The steps of a thread: what it does to tallies while it prints no summary; and, of a summary,
that it starts to merge its own shadow, goes on with that, starts to take the totals behind it, has
taken them, and writes them. -/
inductive Step : SummaryState → ThreadId → SummaryEvent → SummaryState → Prop
  | use {d : SummaryState} {t : ThreadId} {e : TallyEvent} {b : TallyState}
      (hp : d.prints t = .idle) (k : TallyState.Step d.base t e b) :
      Step d t (.tallies e) { d with base := b }
  | start {d : SummaryState} {t : ThreadId} {e : TallyEvent} {b : TallyBoard} {x : Recorder}
      (hp : d.prints t = .idle) (hb : d.base.phase t = .outside)
      (h : (d.base.threads t).call d.base.board .flush = some (e, b, x)) :
      Step d t (.tallies e) (d.go t (d.base.set t b x) .merging)
  | merge {d : SummaryState} {t : ThreadId} {e : TallyEvent} {b : TallyBoard} {x : Recorder}
      (hp : d.prints t = .merging) (h : (d.base.threads t).access d.base.board = some (e, b, x)) :
      Step d t (.tallies e) (d.go t (d.base.set t b x) .merging)
  | swap {d : SummaryState} {t : ThreadId} {e : TallyEvent} {b : TallyBoard} {x : Recorder}
      (hp : d.prints t = .merging) (hb : d.base.phase t = .outside)
      (h : (d.base.threads t).call d.base.board (.take true) = some (e, b, x)) :
      Step d t (.tallies e) (d.go t (d.base.set t b x) .taking)
  | take {d : SummaryState} {t : ThreadId} {u : Tally} {b : TallyBoard} {x : Recorder}
      (hp : d.prints t = .taking)
      (h : (d.base.threads t).access d.base.board = some (.takes true u, b, x)) :
      Step d t (SummaryPhase.taken u).1 (d.go t (d.base.set t b x) (SummaryPhase.taken u).2)
  | write {d : SummaryState} {t : ThreadId} {u : Tally} (s : Settings)
      (hp : d.prints t = .writing u) :
      Step d t (SummaryPhase.write s u d.stdout).1
        { d with
          stdout := (SummaryPhase.write s u d.stdout).2
          prints := Function.update d.prints t .idle }

/-- No thread is in a call, and none prints a summary. -/
def IsQuiet (d : SummaryState) : Prop :=
  ∀ t, d.base.phase t = .outside ∧ d.prints t = .idle

/-- Threads that are in no call, around any totals, with anything in their shadows and anything to
print to. -/
def system : System SummaryState SummaryEvent where
  Starts := IsQuiet
  Step := Step

variable {d d' d₀ : SummaryState} {t : ThreadId} {e : SummaryEvent} {h : History SummaryEvent}
  {T : Finset ThreadId}

/-! ### What summaries are worth -/

/-- What the totals, some threads and the summaries that they are to write are worth. -/
def worth (d : SummaryState) (T : Finset ThreadId) : ZMod UInt64.size × ZMod UInt64.size :=
  d.base.worth T + ∑ t ∈ T, (d.prints t).pending.value

/-- A thread that stands somewhere else with its summary has another one to write. -/
theorem sum_pending (p : ThreadId → SummaryPhase) (q : SummaryPhase) (ht : t ∈ T) :
  ∑ u ∈ T, (Function.update p t q u).pending.value + (p t).pending.value
    = ∑ u ∈ T, (p u).pending.value + q.pending.value
  := by
  have change := sum_change (f := fun u => (p u).pending.value)
    (g := fun u => (Function.update p t q u).pending.value) ht
    (fun u hu => by rw [Function.update_of_ne hu])
  rw [Function.update_self] at change
  exact change

/-- A thread that has nothing to write, and does something to tallies, changes what all are worth by
what it counts and takes, and by what it has to write then. -/
theorem worth_go {e : TallyEvent} {b : TallyState} {p : SummaryPhase}
    (k : TallyState.Step d.base t e b) (hf : ∀ f, e ≠ .faults f) (ht : t ∈ T)
    (hd : (d.prints t).pending = .zero) :
  (d.go t b p).worth T + e.taken.value = d.worth T + e.counted.value + p.pending.value
  := by
  have hk := k.conserves hf ht
  have hs := sum_pending d.prints p ht
  rw [hd, Tally.value_zero, add_zero] at hs
  simp only [worth, go, hs]
  calc b.worth T + (∑ u ∈ T, (d.prints u).pending.value + p.pending.value) + e.taken.value
      = b.worth T + e.taken.value + ∑ u ∈ T, (d.prints u).pending.value + p.pending.value := by
        abel
    _ = _ := by
      rw [hk]
      abel

/-- A thread that stays where it is with its summary. -/
theorem go_of_eq {b : TallyState} {p : SummaryPhase} (hp : d.prints t = p) :
  d.go t b p = { d with base := b }
  := by
  rw [go, ← hp, Function.update_eq_self]

/-- Whoever has written a summary, or has failed to, has none to write. -/
theorem worth_write {u : Tally} (hp : d.prints t = .writing u) (ht : t ∈ T) (out : Sink) :
  worth { d with stdout := out, prints := Function.update d.prints t .idle } T + u.value
    = d.worth T
  := by
  have hs := sum_pending d.prints .idle ht
  rw [hp, show SummaryPhase.idle.pending = .zero from rfl, Tally.value_zero, add_zero] at hs
  rw [worth, worth, ← hs, add_assoc]
  rfl

/-- A step of one of the threads changes what all are worth by what it counts, what it takes, and
what it writes or loses of a summary. -/
theorem Step.conserves (k : Step d t e d') (hf : ∀ f, e ≠ .tallies (.faults f)) (ht : t ∈ T) :
  d'.worth T + e.taken.value + (e.written?.getD .zero).value + (e.lost?.getD .zero).value
    = d.worth T + e.counted.value
  := by
  -- Of what a step does to tallies nothing is written or lost.
  have go : ∀ {e : TallyEvent} {b : TallyState} {p : SummaryPhase}, TallyState.Step d.base t e b →
      (∀ f, SummaryEvent.tallies e ≠ .tallies (.faults f)) → (d.prints t).pending = .zero →
      p.pending = .zero →
      (d.go t b p).worth T + e.taken.value + Tally.zero.value + Tally.zero.value
        = d.worth T + e.counted.value := by
    intro e b p k hf hd hp
    have hk := worth_go (p := p) k (fun f he => hf f (congrArg _ he)) ht hd
    rw [hp] at hk
    simpa using hk
  cases k with
  | use hp k =>
      rw [← go_of_eq hp]
      apply go k hf
      · rw [hp]
        rfl
      · rfl
  | start hp hb h =>
      apply go (.call hb h) hf
      · rw [hp]
        rfl
      · rfl
  | merge hp h =>
      apply go (.access h) hf
      · rw [hp]
        rfl
      · rfl
  | swap hp hb h =>
      apply go (.call hb h) hf
      · rw [hp]
        rfl
      · rfl
  | @take u b x hp h =>
      have hk := worth_go (p := (SummaryPhase.taken u).2) (.access h) (by simp) ht
        (by rw [hp]; rfl)
      by_cases hz : u.operations = 0
      · rw [SummaryPhase.taken_of_eq_zero hz] at hk ⊢
        simpa [SummaryEvent.taken, SummaryEvent.counted, SummaryEvent.tallies?,
          SummaryEvent.written?, SummaryEvent.lost?, TallyEvent.taken, TallyEvent.counted,
          SummaryPhase.pending] using hk
      · rw [SummaryPhase.taken_of_ne_zero hz] at hk ⊢
        have hc : u.value + (d.go t (d.base.set t b x) (.writing u)).worth T
            = u.value + d.worth T := by
          rw [add_comm, add_comm u.value]
          simpa [TallyEvent.taken, TallyEvent.counted, SummaryPhase.pending] using hk
        simpa [SummaryEvent.taken, SummaryEvent.counted, SummaryEvent.tallies?,
          SummaryEvent.written?, SummaryEvent.lost?] using add_left_cancel hc
  | @write u s hp =>
      have hw := worth_write hp ht (SummaryPhase.write s u d.stdout).2
      rcases SummaryPhase.write_cases s u d.stdout with ⟨he, _⟩ | he
      · rw [he]
        simpa [SummaryEvent.taken, SummaryEvent.counted, SummaryEvent.tallies?,
          SummaryEvent.written?, SummaryEvent.lost?] using hw
      · rw [he]
        simpa [SummaryEvent.taken, SummaryEvent.counted, SummaryEvent.tallies?,
          SummaryEvent.written?, SummaryEvent.lost?] using hw

/-- Everything that was there, or was counted, is in the totals, in shadows, in summaries or on the
way between them, was taken by somebody else, or is lost. -/
theorem worth_of_path (p : system.Path d₀ h d) (hf : ∀ t f, (t, .tallies (.faults f)) ∉ h)
    (hT : ∀ t e, (t, e) ∈ h → t ∈ T) :
  d.worth T + ((tallied h).map (fun x => x.2.taken.value)).sum
      + ((summaries h).map Tally.value).sum + ((losses h).map Tally.value).sum
    = d₀.worth T + ((tallied h).map (fun x => x.2.counted.value)).sum
  := by
  induction p with
  | refl => simp [tallied, History.through, summaries, losses]
  | @step h d d' t e _ k ih =>
      have ih := ih (fun u f hu => hf u f (List.mem_append_left _ hu))
        (fun u g hu => hT u g (List.mem_append_left _ hu))
      have hk := k.conserves (T := T) (fun f he => hf t f (by simp [he])) (hT t e (by simp))
      rw [sum_tallied_concat, sum_tallied_concat, summaries_concat, losses_concat,
        List.map_append, List.map_append, List.sum_append, List.sum_append, sum_toList, sum_toList]
      rw [SummaryEvent.taken, SummaryEvent.counted] at hk
      generalize ((tallied h).map (fun x => x.2.taken.value)).sum = takings at ih ⊢
      generalize ((summaries h).map Tally.value).sum = summaries at ih ⊢
      generalize ((losses h).map Tally.value).sum = losses at ih ⊢
      calc d'.worth T + (takings + ((e.tallies?.map TallyEvent.taken).getD .zero).value)
            + (summaries + (e.written?.getD .zero).value) + (losses + (e.lost?.getD .zero).value)
          = d'.worth T + ((e.tallies?.map TallyEvent.taken).getD .zero).value
              + (e.written?.getD .zero).value + (e.lost?.getD .zero).value
              + (takings + summaries + losses) := by abel
        _ = d.worth T + takings + summaries + losses
              + ((e.tallies?.map TallyEvent.counted).getD .zero).value := by
          rw [hk]
          abel
        _ = _ := by
          rw [ih]
          abel

/-- The number of the operations in the totals and in the shadows of some threads. -/
def operations (d : SummaryState) (T : Finset ThreadId) : Nat :=
  d.base.board.totals.operations.toNat + ∑ t ∈ T, operationsOf (d.base.threads t).shadows

/-- The number of the cycles in the totals and in the shadows of some threads. -/
def cycles (d : SummaryState) (T : Finset ThreadId) : Nat :=
  d.base.board.totals.cycles.toNat + ∑ t ∈ T, cyclesOf (d.base.threads t).shadows

/-- Where no thread is in a call, and none prints a summary, all are worth what the totals and the
shadows hold. -/
theorem worth_of_isQuiet (hd : d.IsQuiet) (T : Finset ThreadId) :
  d.worth T = ((d.operations T : ZMod UInt64.size), (d.cycles T : ZMod UInt64.size))
  := by
  have shadows : ∀ t, (d.base.threads t).worth
      = (((operationsOf (d.base.threads t).shadows : Nat) : ZMod UInt64.size),
        ((cyclesOf (d.base.threads t).shadows : Nat) : ZMod UInt64.size)) := by
    intro t
    rw [Recorder.worth_of_outside (hd t).1, Recorder.stored, sum_value]
  have pending : ∑ t ∈ T, (d.prints t).pending.value = 0 := by
    apply Finset.sum_eq_zero
    intro t _
    rw [(hd t).2]
    apply Tally.value_zero
  rw [worth, pending, add_zero, TallyState.worth, Finset.sum_congr rfl (fun t _ => shadows t),
    ← prod_mk_sum, operations, cycles]
  simp [Tally.value]

/-- Only what has no operations, or could not be written, is lost. -/
theorem eq_zero_or_fails {u : Tally} (p : system.Path d₀ h d) (hu : u ∈ losses h) :
  u.operations = 0 ∨ ∃ t s, (t, .fails s u) ∈ h
  := by
  induction p with
  | refl => cases hu
  | @step h d d' t e _ k ih =>
      rw [losses_concat, List.mem_append] at hu
      rcases hu with hu | hu
      · rcases ih hu with hz | ⟨v, s, hm⟩
        · apply Or.inl hz
        · apply Or.inr
          use v, s, List.mem_append_left _ hm
      · cases k with
        | use _ _ | start _ _ _ | merge _ _ | swap _ _ _ => cases hu
        | @take v b x _ _ =>
            by_cases hz : v.operations = 0
            · rw [SummaryPhase.taken_of_eq_zero hz] at hu
              obtain rfl := List.mem_singleton.mp hu
              apply Or.inl hz
            · rw [SummaryPhase.taken_of_ne_zero hz] at hu
              cases hu
        | @write v s _ =>
            rcases SummaryPhase.write_cases s v d.stdout with ⟨he, _⟩ | he
            · rw [he] at hu
              cases hu
            · rw [he] at hu ⊢
              obtain rfl := List.mem_singleton.mp hu
              apply Or.inr
              use t, s, List.mem_append_right _ (List.mem_singleton_self _)

/-- What has been printed stays printed. -/
theorem printed_of_path (p : system.Path d₀ h d) :
  d₀.stdout.written <+: d.stdout.written
  := by
  apply p.keeps (I := fun d => d₀.stdout.written <+: d.stdout.written)
  · intro d t e d' i k
    cases k with
    | write s _ => apply i.trans (SummaryPhase.written_write _ _ _)
    | _ => apply i
  · apply List.prefix_rfl

/-- A summary that has been written is printed whole, behind what was printed before. -/
theorem exists_printed {s : Settings} {u : Tally} {h' : History SummaryEvent}
    (p : system.Path d₀ (h ++ (t, .writes s u) :: h') d) :
  ∃ d₁, system.Path d₀ h d₁
    ∧ d₁.stdout.written ++ (u.summary s).toUTF8.data.toList <+: d.stdout.written
  := by
  rw [List.append_cons] at p
  obtain ⟨d₂, p, q⟩ := p.split
  obtain ⟨d₁, p, k⟩ := p.of_concat
  use d₁, p
  have written : d₂.stdout.written = d₁.stdout.written ++ (u.summary s).toUTF8.data.toList := by
    generalize he : SummaryEvent.writes s u = e at k
    cases k with
    | use _ _ | start _ _ _ | merge _ _ | swap _ _ _ => cases he
    | @take v b x _ _ =>
        by_cases hz : v.operations = 0
        · rw [SummaryPhase.taken_of_eq_zero hz] at he
          cases he
        · rw [SummaryPhase.taken_of_ne_zero hz] at he
          cases he
    | @write v s' _ =>
        rcases SummaryPhase.write_cases s' v d₁.stdout with ⟨hw, written⟩ | hw
        · rw [hw] at he
          cases he
          apply written
        · rw [hw] at he
          cases he
  rw [← written]
  apply printed_of_path q

/-! ### A print that nobody interrupts, step by step -/

theorem go_go {b b' : TallyState} {p p' : SummaryPhase} :
  (d.go t b p).go t b' p' = d.go t b' p'
  := by
  simp [go]

/-- A thread goes on to merge its own shadow. -/
theorem step_go {b b' : TallyBoard} {x x' : Recorder} {e : TallyEvent}
    (h : x.access b = some (e, b', x')) :
  Step (d.go t (d.base.set t b x) .merging) t (.tallies e)
    (d.go t (d.base.set t b' x') .merging)
  := by
  have k := Step.merge (d := d.go t (d.base.set t b x) .merging) (t := t) (e := e) (b := b')
    (x := x') (by simp [go]) (by simpa [go, TallyState.threads_set] using h)
  rw [go_go] at k
  simpa [go, TallyState.set_set] using k

/-- A merge for a summary adds the shadow to the totals and empties it. -/
theorem path_merge {b : TallyBoard} {x : Recorder} {v : Tally} :
  ∃ h, system.Path (d.go t (d.base.set t b (x.merging (.shadow .own) v)) .merging) h
    (d.go t
      (d.base.set t { b with totals := (Merging.flush { shadow := v, totals := b.totals }).totals }
        ((x.put .zero .own).enter .outside)) .merging)
  := by
  have close : ∀ b, Step (d.go t (d.base.set t b (x.enter (.closing (.shadow .own)))) .merging) t
      (.tallies (.closes (.shadow .own)))
      (d.go t (d.base.set t b ((x.put .zero .own).enter .outside)) .merging) := by
    intro b
    apply step_go
    rfl
  by_cases hv : v.isEmpty = true
  · rw [Recorder.merging, Merging.flush, if_pos hv, if_pos hv]
    exact ⟨_, .single (close b)⟩
  · rw [Recorder.merging, Merging.flush, if_neg hv, if_neg hv]
    have add : Step (d.go t (d.base.set t b (x.enter (.adding (.shadow .own) v))) .merging) t
        (.tallies .adds)
        (d.go t (d.base.set t
          { b with totals := { b.totals with cycles := b.totals.cycles + v.cycles } }
          (x.enter (.counting (.shadow .own) v.operations))) .merging) := step_go rfl
    have count : Step
        (d.go t (d.base.set t
          { b with totals := { b.totals with cycles := b.totals.cycles + v.cycles } }
          (x.enter (.counting (.shadow .own) v.operations))) .merging) t (.tallies .adds)
        (d.go t (d.base.set t { b with totals := b.totals.add v }
          (x.enter (.closing (.shadow .own)))) .merging) := step_go rfl
    exact ⟨_, ((System.Path.single add).step count).step (close _)⟩

/-- A thread that has merged its own shadow takes the totals. -/
theorem path_take {b : TallyBoard} {x : Recorder} (hx : x.phase = .outside) :
  ∃ h, system.Path (d.go t (d.base.set t b x) .merging) h
    (d.go t (d.base.set t { b with totals := .zero } x) (SummaryPhase.taken b.totals).2)
  := by
  have swap := Step.swap (d := d.go t (d.base.set t b x) .merging) (t := t) (e := .swaps)
    (b := { b with totals := { b.totals with operations := 0 } })
    (x := x.enter (.taking true b.totals.operations)) (by simp [go])
    (by simpa [go, TallyState.phase, TallyState.threads_set] using hx)
    (by simp [go, TallyState.threads_set, Recorder.call])
  rw [go_go] at swap
  have take := Step.take (d := d.go t (d.base.set t
      { b with totals := { b.totals with operations := 0 } }
      (x.enter (.taking true b.totals.operations))) .taking) (t := t) (u := b.totals)
    (b := { b with totals := .zero }) (x := x.enter .outside) (by simp [go])
    (by simp [go, TallyState.threads_set, Recorder.access, Recorder.enter, Tally.zero])
  rw [go_go] at take
  simp only [go, TallyState.set_set] at swap take
  have hx' : x.enter .outside = x := by
    cases x
    cases hx
    rfl
  rw [hx'] at take
  exact ⟨_, (System.Path.single swap).step take⟩

/-- A thread that has taken totals writes a summary of them, unless there is none. -/
theorem path_write (s : Settings) (u : Tally) (b : TallyState) :
  ∃ h d', system.Path (d.go t b (SummaryPhase.taken u).2) h d' ∧ d'.base = b ∧ d'.prints t = .idle
    ∧ d'.stdout = if u.operations = 0 then d.stdout else (SummaryPhase.write s u d.stdout).2
  := by
  by_cases hz : u.operations = 0
  · rw [SummaryPhase.taken_of_eq_zero hz, if_pos hz]
    exact ⟨_, _, .refl, rfl, Function.update_self .., rfl⟩
  · rw [SummaryPhase.taken_of_ne_zero hz, if_neg hz]
    have k := Step.write (d := d.go t b (.writing u)) (t := t) s (Function.update_self ..)
    exact ⟨_, _, .single k, rfl, Function.update_self .., rfl⟩

/-- A print that nobody interrupts leaves what the print as a whole leaves. -/
theorem path_print {w : Session.World Session.Outcome} (hp : d.base.phase t = .outside)
    (hi : d.prints t = .idle) (ho : (d.base.threads t).own ≠ none)
    (hw : w.merging t = d.base.merging t) :
  ∃ h d' r w', system.Path d h d' ∧ d'.base.phase t = .outside ∧ d'.prints t = .idle
    ∧ (Session.printSummary t d.stdout).run.run w = (.ok (r, d'.stdout), w')
    ∧ w'.merging t = d'.base.merging t
  := by
  obtain ⟨v, hv⟩ := Option.ne_none_iff_exists'.mp ho
  obtain ⟨r, w', hr, hm'⟩ := Session.printSummary_run w t d.stdout
  have hm : d.base.merging t = { shadow := v, totals := d.base.board.totals } := by
    rw [TallyState.merging, hv]
    rfl
  rw [hw, hm] at hr
  generalize hn : (Merging.flush { shadow := v, totals := d.base.board.totals }).totals = n at hr
  have start : Step d t (.tallies (.merges (.shadow .own)))
      (d.go t (d.base.set t d.base.board ((d.base.threads t).merging (.shadow .own) v)) .merging) := by
    apply Step.start hi hp
    rw [Recorder.call, hv]
  obtain ⟨_, merge⟩ := path_merge (d := d) (t := t) (b := d.base.board) (x := d.base.threads t)
    (v := v)
  obtain ⟨_, take⟩ := path_take (d := d) (t := t) (b := { d.base.board with totals := n })
    (x := ((d.base.threads t).put .zero .own).enter .outside) rfl
  obtain ⟨_, d', write, hb, hd, hs⟩ := path_write (d := d) (t := t) w.settings n
    (d.base.set t { d.base.board with totals := .zero }
      (((d.base.threads t).put .zero .own).enter .outside))
  rw [hn] at merge
  refine ⟨_, d', r, w', (((System.Path.single start).trans merge).trans take).trans write, ?_, hd,
    ?_, ?_⟩
  · rw [hb, TallyState.phase, TallyState.threads_set, if_pos rfl]
    rfl
  · rw [hs]
    exact hr
  · rw [hm', hb, TallyState.merging, TallyState.threads_set, if_pos rfl]
    rfl

/-- What is in the totals and the shadows at first, and what is counted since, is there whenever no
thread is in a call and none prints, or it stands in a summary that was printed whole, or somebody
else has taken it, or it was taken for a summary that was not written: as many operations, and as
many cycles, modulo what a number holds. Only totals without operations, and those that could not
be printed, are lost like that. So no operation is lost if everything can be printed. -/
theorem whereabouts (p : system.Path d₀ h d) (h₀ : system.Starts d₀) (hd : d.IsQuiet)
    (hf : ∀ t f, (t, .tallies (.faults f)) ∉ h) (hT : ∀ t e, (t, e) ∈ h → t ∈ T) :
  d.operations T + operationsOf (summaries h) + operationsOf (takings (tallied h))
      + operationsOf (losses h)
      ≡ d₀.operations T + (records (tallied h)).length [MOD UInt64.size]
    ∧ d.cycles T + cyclesOf (summaries h) + cyclesOf (takings (tallied h)) + cyclesOf (losses h)
      ≡ d₀.cycles T + ((records (tallied h)).map (fun x => x.2.toNat)).sum [MOD UInt64.size]
    ∧ (∀ u ∈ losses h, u.operations = 0 ∨ ∃ t s, (t, .fails s u) ∈ h)
    ∧ ((∀ t s u, (t, .fails s u) ∉ h) → operationsOf (losses h) = 0)
    ∧ ∀ h₁ h₂ t s u, h = h₁ ++ (t, .writes s u) :: h₂ → ∃ d₁, system.Path d₀ h₁ d₁
      ∧ d₁.stdout.written ++ (u.summary s).toUTF8.data.toList <+: d.stdout.written
  := by
  have worth := worth_of_path p hf hT
  rw [sum_taken, sum_counted, sum_value, sum_value, sum_value, worth_of_isQuiet hd,
    worth_of_isQuiet h₀] at worth
  have lost : ∀ u ∈ losses h, u.operations = 0 ∨ ∃ t s, (t, .fails s u) ∈ h :=
    fun u hu => eq_zero_or_fails p hu
  refine ⟨?_, ?_, lost, ?_, ?_⟩
  · have operations := congrArg Prod.fst worth
    simp only [Prod.fst_add] at operations
    apply (ZMod.natCast_eq_natCast_iff _ _ _).mp
    push_cast
    rw [← operations]
    abel
  · have cycles := congrArg Prod.snd worth
    simp only [Prod.snd_add] at cycles
    apply (ZMod.natCast_eq_natCast_iff _ _ _).mp
    push_cast at cycles ⊢
    rw [← cycles]
    abel
  · intro hn
    apply List.sum_eq_zero
    intro n hn'
    obtain ⟨u, hu, rfl⟩ := List.mem_map.mp hn'
    rcases lost u hu with hz | ⟨t, s, hm⟩
    · rw [hz]
      rfl
    · apply absurd hm (hn t s u)
  · rintro h₁ h₂ t s u rfl
    apply exists_printed p

/-- On a full device a thread fails to write its summary. -/
theorem path_fail (s : Settings) {u : Tally} (p : system.Path d₀ h d)
    (hp : d.prints t = .writing u) (hs : d.stdout = .full) :
  ∃ out, system.Path d₀ (h ++ [(t, .fails s u)])
    { d with stdout := out, prints := Function.update d.prints t .idle }
  := by
  have k := Step.write s hp
  rw [hs, SummaryPhase.write_full] at k
  exact ⟨_, p.step k⟩

/-- A thread takes totals for a summary that it cannot print. -/
theorem exists_path_unprinted (s : Settings) :
  ∃ d₀ h d, system.Path d₀ h d ∧ d₀.IsQuiet ∧ d.IsQuiet
    ∧ (∀ t f, (t, .tallies (.faults f)) ∉ h)
    ∧ (∀ t e, (t, e) ∈ h → t ∈ ({1} : Finset ThreadId)) ∧ records (tallied h) = []
    ∧ takings (tallied h) = [] ∧ summaries h = [] ∧ d₀.operations {1} = 2 ∧ d.operations {1} = 0
  := by
  let d₀ : SummaryState := { base := { board := { totals := ⟨2, 10⟩ } }, stdout := .full }
  have p : system.Path d₀ [] d₀ := .refl
  have p := p.step (Step.start (t := 1) (b := { totals := ⟨2, 10⟩ })
    (x := { phase := .closing (.shadow .own) }) rfl rfl rfl)
  have p := p.step (Step.merge (t := 1) (b := { totals := ⟨2, 10⟩ }) (x := {}) rfl rfl)
  have p := p.step (Step.swap (t := 1) (b := { totals := ⟨0, 10⟩ })
    (x := { phase := .taking true 2 }) rfl rfl rfl)
  have p := p.step (Step.take (t := 1) (u := ⟨2, 10⟩) (b := {}) (x := {}) rfl rfl)
  obtain ⟨out, p⟩ := path_fail (t := 1) (u := ⟨2, 10⟩) s p rfl rfl
  refine ⟨d₀, _, _, p, fun t => ⟨rfl, rfl⟩, ?_, by simp [SummaryPhase.taken], ?_, rfl, rfl, rfl,
    rfl, rfl⟩
  · intro t
    by_cases ht : t = 1
    · subst ht
      exact ⟨rfl, rfl⟩
    · constructor
      · simp [go, TallyState.phase, TallyState.threads_set, ht, d₀]
      · simp [go, Function.update_of_ne ht, SummaryPhase.taken, d₀]
  · intro t e hm
    simp only [List.nil_append, List.mem_append, List.mem_singleton, Prod.mk.injEq] at hm
    grind

/-- The operations are in no summary and not there any more. -/
theorem whereabouts_unprinted :
  ∃ d₀ h d, system.Path d₀ h d ∧ system.Starts d₀ ∧ d.IsQuiet ∧ summaries h = []
    ∧ operationsOf (losses h) ≡ 2 [MOD UInt64.size]
  := by
  obtain ⟨d₀, h, d, p, h₀, hd, hf, hT, hr, ht, hs, before, behind⟩ := exists_path_unprinted {}
  obtain ⟨operations, _⟩ := whereabouts p h₀ hd hf hT
  use d₀, h, d, p, h₀, hd, hs
  rw [hr, ht, hs, before, behind] at operations
  simpa [operationsOf] using operations

/-- So it is not true that every operation is there or in a summary. -/
theorem not_retained :
  ¬ ∀ d₀ h d T, system.Path d₀ h d → system.Starts d₀ → d.IsQuiet →
    (∀ t f, (t, .tallies (.faults f)) ∉ h) → (∀ t e, (t, e) ∈ h → t ∈ T) →
    d.operations T + operationsOf (summaries h) + operationsOf (takings (tallied h))
      ≡ d₀.operations T + (records (tallied h)).length [MOD UInt64.size]
  := by
  intro retained
  obtain ⟨d₀, h, d, p, h₀, hd, hf, hT, hr, ht, hs, before, behind⟩ := exists_path_unprinted {}
  have operations := retained d₀ h d {1} p h₀ hd hf hT
  rw [hr, ht, hs, before, behind] at operations
  cases operations

end SummaryState

end SyncLayer
