import SyncLayer.Fib.Program
import SyncLayer.Proofs.Decimal.Numeral

/-!
# What the arguments of the contention driver mean

Arguments are requests, written one after the other, up to the end or to a place where they decline
the run. A request takes one argument or two, so that what an argument means depends on those before
it. Of the requests of a kind the last counts. A run that is declined tells how the program is used,
and in front of that what is wrong, so that every reason has a message of its own.
-/

namespace SyncLayer.Fib

open Decimal (Spells)

/-! ### Requests -/

/-- What one argument or two ask for. -/
inductive Request where
  | serial
  | depth (n : UInt32)
  | workers (n : UInt64)
deriving DecidableEq

namespace Request

/-- The arguments that make a request. -/
inductive Written : Request → List String → Prop
  | serial : Written serial ["--serial"]
  | depth {s : String} {n : UInt32} (h : Spells s.toList n.toNat) :
      Written (depth n) ["--depth", s]
  | workers {s : String} {n : UInt64} (h : Spells s.toList n.toNat) : Written (workers n) [s]

/-- The depth that is asked for. -/
def depth? : Request → Option UInt32
  | depth n => some n
  | _ => none

/-- The number of workers that is asked for. -/
def workers? : Request → Option UInt64
  | workers n => some n
  | _ => none

end Request

/-- Arguments make requests, one after the other. -/
inductive Requested : List Request → List String → Prop
  | none : Requested [] []
  | next {r : Request} {rs : List Request} {front back : List String} (h : r.Written front)
      (hs : Requested rs back) : Requested (r :: rs) (front ++ back)

/-- Options with some requests: the last depth and the last number of workers are taken, and the
workers come one after another if that is asked for at all. -/
def Options.grant (options : Options) (rs : List Request) : Options where
  workers := (rs.filterMap Request.workers?).getLastD options.workers
  depth := (rs.filterMap Request.depth?).getLastD options.depth
  serial := options.serial || decide (Request.serial ∈ rs)

/-- Whether an argument has the form of an option. -/
def Dashed (argument : String) : Prop :=
  ['-', '-'] <+: argument.toList

/-- The arguments that decline a run by the first of them, and why. -/
inductive Declines : List String → Decline → Prop
  | help {s : String} {rest : List String} (h : s = "--help" ∨ s = "-h") :
      Declines (s :: rest) .help
  | depthMissing : Declines ["--depth"] .depthWanted
  | depthWrong {s : String} {rest : List String} (h : ¬ ∃ n : UInt32, Spells s.toList n.toNat) :
      Declines ("--depth" :: s :: rest) .depthWanted
  | unknownOption {s : String} {rest : List String} (h : Dashed s)
      (hs : s ∉ ["--help", "--serial", "--depth"]) : Declines (s :: rest) (.unknownOption s)
  | notWorkers {s : String} {rest : List String} (h : ¬ Dashed s) (hs : s ≠ "-h")
      (hn : ¬ ∃ n : UInt64, Spells s.toList n.toNat) : Declines (s :: rest) (.notWorkers s)

variable {r : Request} {rs : List Request} {args front back : List String} {s : String}
  {o o' : Options} {e : Decline}

/-! ### The forms of an argument -/

theorem isOption_eq_true_iff :
  isOption s = true ↔ Dashed s
  := List.isPrefixOf_iff_prefix

/-- The options that are known have the form of one, which a request for help by a letter has
not. -/
theorem dashed_of_known (hs : s ∈ ["--help", "--serial", "--depth"]) :
  Dashed s
  := by
  have known : ∀ s ∈ ["--help", "--serial", "--depth"], isOption s = true := by decide
  exact isOption_eq_true_iff.mp (known s hs)

theorem Dashed.ne_letter (h : Dashed s) :
  s ≠ "-h"
  := by
  rintro rfl
  revert h
  rw [← isOption_eq_true_iff]
  decide

/-- A text that denotes a number does not start with a dash. -/
theorem not_dashed_of_spells {n : Nat} (h : Spells s.toList n) :
  ¬ Dashed s ∧ s ≠ "-h"
  := by
  obtain ⟨c, rest, hs, hc⟩ := h.head
  have dash : c ≠ '-' := by
    rintro rfl
    revert hc
    decide
  constructor
  · rw [Dashed, hs]
    rintro ⟨_, h⟩
    exact dash (List.cons.inj h).1.symm
  · rintro rfl
    exact dash (List.cons.inj hs).1.symm

/-- An argument with the form of an option that is not known declines the run, and any other is the
number of workers. -/
theorem read_cons_of_not_known (hs : s ∉ ["--help", "--serial", "--depth"]) (h : s ≠ "-h") :
  o.read (s :: args)
    = if isOption s then .error (.unknownOption s)
      else
        match Decimal.readUInt64? s.toList with
        | some workers => Options.read { o with workers } args
        | none => .error (.notWorkers s)
  := by
  rw [Options.read.eq_def]
  split
  case h_7 he =>
    cases he
    rfl
  all_goals simp_all

/-! ### One request, or none -/

/-- A request at the front is granted before the rest is read. -/
theorem Request.Written.read (h : r.Written front) :
  o.read (front ++ back) = (o.grant [r]).read back
  := by
  cases h with
  | serial =>
      rw [List.singleton_append, Options.read]
      simp [Options.grant, workers?, depth?]
  | depth h =>
      rw [List.cons_append, List.singleton_append, Options.read,
        Decimal.readUInt32?_eq_some_iff.mpr h]
      simp [Options.grant, workers?, depth?]
  | workers h =>
      obtain ⟨plain, help⟩ := not_dashed_of_spells h
      rw [List.singleton_append, read_cons_of_not_known (mt dashed_of_known plain) help,
        if_neg (mt isOption_eq_true_iff.mp plain), Decimal.readUInt64?_eq_some_iff.mpr h]
      simp [Options.grant, workers?, depth?]

/-- Arguments that decline a run do so whatever the options are. -/
theorem Declines.read (h : Declines args e) :
  o.read args = .error e
  := by
  cases h with
  | help h => rcases h with rfl | rfl <;> rw [Options.read]
  | depthMissing => rw [Options.read]
  | depthWrong h => rw [Options.read, Decimal.readUInt32?_eq_none_iff.mpr h]
  | unknownOption h hs =>
      rw [read_cons_of_not_known hs h.ne_letter, if_pos (isOption_eq_true_iff.mpr h)]
  | notWorkers h hs hn =>
      rw [read_cons_of_not_known (mt dashed_of_known h) hs, if_neg (mt isOption_eq_true_iff.mp h),
        Decimal.readUInt64?_eq_none_iff.mpr hn]

/-- Arguments begin with a request or decline the run, if there are any. -/
theorem written_or_declines (s : String) (rest : List String) :
  (∃ r front back, s :: rest = front ++ back ∧ front ≠ [] ∧ Request.Written r front)
    ∨ ∃ e, Declines (s :: rest) e
  := by
  by_cases hs : s ∈ ["--help", "--serial", "--depth"]
  · simp only [List.mem_cons, List.not_mem_nil, or_false] at hs
    rcases hs with rfl | rfl | rfl
    · exact .inr ⟨_, .help (.inl rfl)⟩
    · exact .inl ⟨_, ["--serial"], rest, rfl, List.cons_ne_nil _ _, .serial⟩
    · cases rest with
      | nil => exact .inr ⟨_, .depthMissing⟩
      | cons s rest =>
          by_cases hn : ∃ n : UInt32, Spells s.toList n.toNat
          · obtain ⟨n, hn⟩ := hn
            exact .inl ⟨_, ["--depth", s], rest, rfl, List.cons_ne_nil _ _, .depth hn⟩
          · exact .inr ⟨_, .depthWrong hn⟩
  · by_cases dashed : Dashed s
    · exact .inr ⟨_, .unknownOption dashed hs⟩
    · by_cases help : s = "-h"
      · exact .inr ⟨_, .help (.inr help)⟩
      · by_cases hn : ∃ n : UInt64, Spells s.toList n.toNat
        · obtain ⟨n, hn⟩ := hn
          exact .inl ⟨_, [s], rest, rfl, List.cons_ne_nil _ _, .workers hn⟩
        · exact .inr ⟨_, .notWorkers dashed help hn⟩

/-! ### All requests -/

theorem Options.grant_nil :
  o.grant [] = o
  := by
  simp [Options.grant]

theorem Options.grant_append (rs rs' : List Request) :
  o.grant (rs ++ rs') = (o.grant rs).grant rs'
  := by
  simp [Options.grant, Bool.or_assoc]

/-- Requests at the front are granted before the rest is read. -/
theorem Requested.read (h : Requested rs front) :
  o.read (front ++ back) = (o.grant rs).read back
  := by
  induction h generalizing o with
  | none => rw [Options.grant_nil, List.nil_append]
  | @next r rs front rest h hs ih =>
      rw [List.append_assoc, h.read, ih, ← Options.grant_append, List.singleton_append]

/-- Arguments are requests up to the end or to a place where they decline the run. -/
theorem requested_or_declines (args : List String) :
  ∃ rs front back, args = front ++ back ∧ Requested rs front ∧ (back = [] ∨ ∃ e, Declines back e)
  := by
  -- A request takes one argument or two, so the induction is on their number.
  induction hn : args.length using Nat.strongRecOn generalizing args with
  | ind n ih =>
      cases args with
      | nil => exact ⟨[], [], [], rfl, .none, .inl rfl⟩
      | cons s rest =>
          rcases written_or_declines s rest with ⟨r, front, back, hs, nonempty, hr⟩ | he
          · have shorter : back.length < n := by
              have some := List.length_pos_iff.mpr nonempty
              rw [← hn, hs, List.length_append]
              omega
            obtain ⟨rs, middle, back', rfl, hrs, hb⟩ := ih _ shorter back rfl
            refine ⟨r :: rs, front ++ middle, back', ?_, .next hr hrs, hb⟩
            rw [hs, List.append_assoc]
          · exact ⟨[], [], s :: rest, rfl, .none, .inr he⟩

theorem read_eq_ok_iff :
  o.read args = .ok o' ↔ ∃ rs, Requested rs args ∧ o' = o.grant rs
  := by
  constructor
  · intro h
    obtain ⟨rs, front, back, rfl, hrs, rfl | ⟨e, he⟩⟩ := requested_or_declines args
    · rw [hrs.read, Options.read] at h
      rw [List.append_nil]
      exact ⟨rs, hrs, (Except.ok.inj h).symm⟩
    · rw [hrs.read, he.read] at h
      cases h
  · rintro ⟨rs, hrs, rfl⟩
    rw [← List.append_nil args, hrs.read, Options.read]

theorem read_eq_error_iff :
  o.read args = .error e
    ↔ ∃ rs front back, args = front ++ back ∧ Requested rs front ∧ Declines back e
  := by
  constructor
  · intro h
    obtain ⟨rs, front, back, rfl, hrs, rfl | ⟨e', he⟩⟩ := requested_or_declines args
    · rw [hrs.read, Options.read] at h
      cases h
    · rw [hrs.read, he.read] at h
      cases h
      exact ⟨rs, front, back, rfl, hrs, he⟩
  · rintro ⟨rs, front, back, rfl, hrs, he⟩
    rw [hrs.read, he.read]

/-! ### What is said -/

namespace Decline

/-- The character that tells the kind of a decline. -/
def initial : Decline → Char
  | help => 'f'
  | depthWanted => '-'
  | notWorkers _ => 'I'
  | unknownOption _ => 'U'

/-- A message begins with the character of its kind. -/
theorem head?_message (program : String) (e : Decline) :
  (e.message program).toList.head? = some e.initial
  := by
  cases e with
  | help =>
      unfold message usage
      simp only [String.toList_append, List.append_assoc]
      rfl
  | _ =>
      unfold message
      simp only [String.toList_append, List.append_assoc]
      rfl

/-- No two declines have the same message. -/
theorem message_injective (program : String) :
  Function.Injective (message program)
  := by
  intro e e' h
  have kind : some e.initial = some e'.initial := by
    rw [← head?_message program, h, head?_message]
  have named {words s t : String}
      (h : words ++ s ++ "\n\n" ++ usage program = words ++ t ++ "\n\n" ++ usage program) :
      s = t := by
    have front := (String.append_left_inj _).mp ((String.append_left_inj _).mp h)
    exact (String.append_right_inj _).mp front
  cases e <;> cases e' <;> simp only [initial, Option.some.injEq, Char.reduceEq] at kind
  case help.help => rfl
  case depthWanted.depthWanted => rfl
  case notWorkers.notWorkers => rw [named h]
  case unknownOption.unknownOption => rw [named h]

end Decline

/-! ### All of it -/

/-- Arguments give options just if they are requests, and the last request of a kind counts. Else
what declines the run is behind some requests, which tells what it means: the run says so and
does nothing. Arguments behind others that give options are read as if those options were there
from the start. What a run says is how the program is used, and in front of that what is wrong, with
the argument that is no number of workers or no option. So the message tells why it is declined. -/
theorem arguments_decide (args : List String) :
  (∀ o, Options.ofArguments args = .ok o
      ↔ ∃ rs, Requested rs args
        ∧ o = Options.grant { workers := 7, depth := 30, serial := false } rs)
    ∧ (∀ e, Options.ofArguments args = .error e
      ↔ ∃ rs front back, args = front ++ back ∧ Requested rs front ∧ Declines back e)
    ∧ (∀ o o' rest, Options.read o args = .ok o' → Options.read o (args ++ rest) = o'.read rest)
    ∧ (∀ program env files isLogOpen e, Options.ofArguments args = .error e →
      invoke program args env files isLogOpen
        = { code := 2, stdout := "", stderr := e.message program ++ "\n", log := none
            events := [] })
    ∧ ∀ program,
      Decline.message program .help
          = "fib_contention - refcount and lock contention driver\n\n"
            ++ "USAGE:\n    " ++ program ++ " [OPTIONS] [WORKERS]\n\n"
            ++ "OPTIONS:\n"
            ++ "    -h, --help      Print help information\n"
            ++ "    --serial        Run WORKERS fib computations one after another\n"
            ++ "    --depth N       fib argument (default 30)\n\n"
            ++ "EXAMPLES:\n    " ++ program ++ " 7\n    " ++ program ++ " --serial 7"
        ∧ Decline.message program .depthWanted
          = "--depth needs a number\n\n" ++ Decline.message program .help
        ∧ (∀ s, Decline.message program (.notWorkers s)
          = "Invalid worker count: " ++ s ++ "\n\n" ++ Decline.message program .help)
        ∧ (∀ s, Decline.message program (.unknownOption s)
          = "Unknown option: " ++ s ++ "\n\n" ++ Decline.message program .help)
        ∧ Function.Injective (Decline.message program)
  := by
  refine ⟨fun _ => read_eq_ok_iff, fun _ => read_eq_error_iff, ?_, ?_, ?_⟩
  · intro o o' rest h
    obtain ⟨rs, hrs, rfl⟩ := read_eq_ok_iff.mp h
    exact hrs.read
  · intro program env files isLogOpen e h
    rw [invoke, h]
    rfl
  · intro program
    refine ⟨?_, rfl, fun _ => rfl, fun _ => rfl, Decline.message_injective program⟩
    unfold Decline.message usage
    simp only [String.append_assoc, String.reduceAppend]

/-- A depth takes the argument behind it, whatever that is: a number, so that the rest goes on from
it, or what else would ask for help. No count is below zero: what looks like one is told in the
message. -/
theorem arguments_decide_depth :
  Options.read {} (["--depth", "+05", "3"] ++ ["--serial"])
      = Options.read { workers := 3, depth := 5 } ["--serial"]
    ∧ ∃ text, text = "fib_contention - refcount and lock contention driver\n\n"
          ++ "USAGE:\n    fib [OPTIONS] [WORKERS]\n\n"
          ++ "OPTIONS:\n"
          ++ "    -h, --help      Print help information\n"
          ++ "    --serial        Run WORKERS fib computations one after another\n"
          ++ "    --depth N       fib argument (default 30)\n\n"
          ++ "EXAMPLES:\n    fib 7\n    fib --serial 7\n"
      ∧ invoke "fib" ["--depth", "9", "-h", "-7"] { bindings := [] } (fun _ => .ok .empty) true
        = { code := 2, stderr := text }
      ∧ invoke "fib" ["--serial", "--depth", "--help"] { bindings := [] } (fun _ => .ok .empty) true
        = { code := 2, stderr := "--depth needs a number\n\n" ++ text }
      ∧ invoke "fib" ["4", "-7", "--help"] { bindings := [] } (fun _ => .ok .empty) true
        = { code := 2, stderr := "Invalid worker count: -7\n\n" ++ text }
      ∧ invoke "fib" ["--parallel", "--help"] { bindings := [] } (fun _ => .ok .empty) true
        = { code := 2, stderr := "Unknown option: --parallel\n\n" ++ text }
  := by
  have declined {args : List String} {e : Decline} (h : Options.ofArguments args = .error e) :
      invoke "fib" args { bindings := [] } (fun _ => .ok .empty) true
        = { code := 2, stderr := e.message "fib" ++ "\n" } := by
    obtain ⟨-, -, -, declined, -⟩ := arguments_decide args
    apply declined _ _ _ _ _ h
  obtain ⟨-, -, continues, -, texts⟩ := arguments_decide ["--depth", "+05", "3"]
  obtain ⟨help, depthWanted, notWorkers, unknownOption, -⟩ := texts "fib"
  refine ⟨?_, Decline.message "fib" .help ++ "\n", ?_, ?_, ?_, ?_, ?_⟩
  · apply continues
    rfl
  · rw [help]
    simp only [String.reduceAppend]
  · apply declined
    rfl
  · rw [← String.append_assoc, ← depthWanted]
    apply declined
    rfl
  · rw [← String.append_assoc]
    apply (declined rfl).trans
    rw [notWorkers]
    rfl
  · rw [← String.append_assoc]
    apply (declined rfl).trans
    rw [unknownOption]
    rfl

end SyncLayer.Fib
