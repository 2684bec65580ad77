/-!
# Patterns

A pattern describes the texts that are searched for. It is kept as far as it matters for whether
a search can be made for it: a repetition does not say how often, and a group not what it is
called.

Modes say how a pattern is meant. A pattern may change them for what stands behind the change in
the same group, or for one group.
-/

namespace SyncLayer

/-- A character that stands for itself. It may be written as the byte that it is. -/
structure PatternLiteral where
  char : Char
  isByte : Bool := false
deriving DecidableEq, Repr

/-- A change of modes: the letters of those that are switched on, and of those that are switched
off. -/
structure ModeChange where
  on : List Char := []
  off : List Char := []
deriving DecidableEq, Repr

/-- What a change makes of the mode with a letter. -/
def ModeChange.apply (change : ModeChange) (letter : Char) (isOn : Bool) : Bool :=
  if letter ∈ change.on then true else if letter ∈ change.off then false else isOn

/-- The characters that may stand at one place. -/
inductive CharSet where
  | literal (l : PatternLiteral)
  | range (first last : PatternLiteral)
  | named (isNegated : Bool)
  | shorthand (isNegated : Bool)
  | bracketed (isNegated : Bool) (inner : CharSet)
  | union (sets : List CharSet)
  | combined (left right : CharSet)

/-- A pattern. -/
inductive Pattern where
  | modes (change : ModeChange)
  | literal (l : PatternLiteral)
  | anyChar
  | oneOf (set : CharSet)
  | anchor
  | wordBoundary
  | repeated (p : Pattern)
  | group (change : ModeChange) (p : Pattern)
  | sequence (ps : List Pattern)
  | choice (ps : List Pattern)

namespace CharSet

/-- The union of sets. One set is its own union. -/
def ofList : List CharSet → CharSet
  | [set] => set
  | sets => union sets

mutual

/-- How many brackets, unions and combinations are nested in a set. -/
def depth : CharSet → Nat
  | literal _ | range _ _ | named _ | shorthand _ | union [] => 0
  | bracketed _ inner => inner.depth + 1
  | union (set :: sets) => max set.depth (maxDepth sets) + 1
  | combined left right => max left.depth right.depth + 1

/-- The greatest depth of sets. -/
def maxDepth : List CharSet → Nat
  | [] => 0
  | set :: sets => max set.depth (maxDepth sets)

end

end CharSet

namespace Pattern

/-- The sequence of patterns. One pattern is its own sequence. -/
def ofList : List Pattern → Pattern
  | [p] => p
  | ps => sequence ps

mutual

/-- How many parts with parts of their own are nested in a pattern. -/
def depth : Pattern → Nat
  | modes _ | literal _ | anyChar | anchor | wordBoundary | sequence [] => 0
  | oneOf set => set.depth
  | repeated p | group _ p => p.depth + 1
  | sequence (p :: ps) => max p.depth (maxDepth ps) + 1
  | choice ps => maxDepth ps + 1

/-- The greatest depth of patterns. -/
def maxDepth : List Pattern → Nat
  | [] => 0
  | p :: ps => max p.depth (maxDepth ps)

end

end Pattern

end SyncLayer
