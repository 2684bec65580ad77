import SyncLayer.Pattern.Basic

/-!
# Patterns that can be searched for

A search runs over the bytes of a text and knows no properties of characters. With that a pattern
in the mode for Unicode can have no case ignored, no word boundary, and no set that only a
property gives; a pattern out of that mode cannot reach for anything but ASCII, lest it find a
part of a character.
-/

namespace SyncLayer

/-- The modes that decide what a search can do. -/
structure Modes where
  ignoresCase : Bool := false
  isUnicode : Bool := true
deriving DecidableEq, Repr

/-- The modes behind a change. -/
def Modes.change (m : Modes) (change : ModeChange) : Modes :=
  { ignoresCase := change.apply 'i' m.ignoresCase, isUnicode := change.apply 'u' m.isUnicode }

/-- Whether a character is one of ASCII. -/
def PatternLiteral.isAscii (l : PatternLiteral) : Bool :=
  l.char < '\x80'

namespace CharSet

mutual

/-- Whether a set can be searched for in some modes. -/
def isSupported (m : Modes) : CharSet → Bool
  | literal l => if m.isUnicode then !m.ignoresCase else l.isAscii
  | range first last =>
    if m.isUnicode then !m.ignoresCase else first.isAscii && last.isAscii
  | named isNegated => if m.isUnicode then !m.ignoresCase else !isNegated
  | shorthand isNegated => !m.isUnicode && !isNegated
  | bracketed isNegated inner => (m.isUnicode || !isNegated) && inner.isSupported m
  | union sets => areSupported m sets
  | combined left right => left.isSupported m && right.isSupported m

/-- Whether all of some sets can be searched for. -/
def areSupported (m : Modes) : List CharSet → Bool
  | [] => true
  | set :: sets => set.isSupported m && areSupported m sets

end

end CharSet

/-- Whether a literal can be searched for in some modes. -/
def PatternLiteral.isSupported (m : Modes) (l : PatternLiteral) : Bool :=
  if m.isUnicode then !m.ignoresCase else l.isAscii || !l.isByte

namespace Pattern

mutual

/-- The modes behind a pattern that is met in some modes, if it can be searched for in them. -/
def modesBehind? (m : Modes) : Pattern → Option Modes
  | modes change => some (m.change change)
  | literal l => if l.isSupported m then some m else none
  | anyChar => if m.isUnicode then some m else none
  | oneOf set => if set.isSupported m then some m else none
  | anchor => some m
  | wordBoundary => if m.isUnicode then none else some m
  | repeated p => p.modesBehind? m
  | group change p => (p.modesBehind? (m.change change)).map (fun _ => m)
  | sequence ps => modesBehindAll? m ps
  | choice ps => modesBehindAll? m ps

/-- The modes behind patterns that are met one after another. Modes that one branch of a choice
changes stay changed in the next. -/
def modesBehindAll? (m : Modes) : List Pattern → Option Modes
  | [] => some m
  | p :: ps => (p.modesBehind? m).bind (fun m => modesBehindAll? m ps)

end

/-- Whether a pattern can be searched for. -/
def isSupported (p : Pattern) : Bool :=
  (p.modesBehind? {}).isSome

end Pattern

end SyncLayer
