import SyncLayer.Lock.Statistics
import SyncLayer.Lock.Word

/-!
# Instrumented locks

A lock with a description, the site of its current or latest acquisition, a note whether it is
held, and statistics. The word alone decides who holds the lock; the rest is for reports.
-/

namespace SyncLayer

/-- A place in a program from which a lock is acquired. -/
structure Site where
  name : String
  file : String
  line : Nat
  column : Nat
deriving DecidableEq, Repr

namespace Site

/-- A site as its name. -/
def word (site : Site) : Text.Shown :=
  .word site.name

/-- A site as a place in a file. -/
def location (site : Site) : Text.Shown :=
  .record "Location"
    [("file", .text site.file), ("line", .number site.line), ("column", .number site.column)]

end Site

/-- A lock with what is kept about it. -/
structure Lock where
  word : LockWord := .free
  description : String := "anonymous lock"
  site : Option Site := none
  held : Bool := false
  stats : LockStats := .off
deriving DecidableEq, Repr

namespace Lock

/-- A lock that nobody has acquired. -/
def fresh (description : String) (stats : LockStats) : Lock :=
  { description, stats }

/-- Note the holder's site. -/
def noteHeld (site : Site) (l : Lock) : Lock :=
  { l with site := some site, held := true }

/-- Acquire a free lock after a delay. -/
def acquire (s : Settings) (delay : UInt64) (site : Site) (l : Lock) : Lock :=
  { l with word := l.word.tryTake.2, stats := l.stats.record s delay }.noteHeld site

/-- Acquire a lock that was given back while its new holder slept, after a delay. -/
def acquireWoken (s : Settings) (delay : UInt64) (site : Site) (l : Lock) : Lock :=
  { l with word := l.word.mark, stats := l.stats.record s delay }.noteHeld site

/-- Acquire a lock if it is free, which counts as an acquisition without delay. -/
def tryAcquire (s : Settings) (site : Site) (l : Lock) : Bool × Lock :=
  match l.word.tryTake with
  | (true, word) => (true, { l with word, stats := l.stats.record s 0 }.noteHeld site)
  | (false, _) => (false, l)

/-- Give a lock back. -/
def release (l : Lock) : Lock :=
  { l with held := false, word := l.word.giveBack.2 }

/-- Make a lock that nobody holds a fresh one with another description. -/
def reinitialize (description : String) (l : Lock) : Lock :=
  { description, stats := l.stats.reset }

/-- Set the counters of a lock to zero. -/
def resetStats (l : Lock) : Lock :=
  { l with stats := l.stats.reset }

/-- The name of the state of a lock. -/
def heldState (l : Lock) : String :=
  if l.held then "Locked" else "Unlocked"

/-- A lock as it is shown. -/
def shown (site : Site → Text.Shown) (l : Lock) : Text.Shown :=
  .record "Lock"
    [("description", .text l.description), ("held", .word l.heldState),
      ("site", .option site l.site)]

end Lock

end SyncLayer
