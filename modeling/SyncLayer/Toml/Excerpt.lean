import SyncLayer.Decimal.Numeral
import SyncLayer.Toml.Item

/-!
# Excerpts

An error in a document is shown with its line, and with carets under the place where it is.
-/

namespace SyncLayer.Toml

/-- A place in a text, found by its characters from the front: the number of its line and of
its column from zero, the text of the line, and the bytes the place takes. -/
structure Position where
  line : Nat
  column : Nat
  text : List Char
  size : Nat

/-- The number of bytes of a text in its encoding. -/
def byteCount : List Char → Nat
  | [] => 0
  | c :: rest => c.utf8Size + byteCount rest

/-- The position of a place in a text. -/
def Span.position (span : Span) (source : List Char) : Position :=
  let before := source.take (source.length - span.start)
  let here := source.drop (source.length - span.start)
  let head := (before.reverse.takeWhile (· != '\n')).reverse
  { line := before.count '\n'
    column := head.length
    text := head ++ here.takeWhile (· != '\n')
    size := byteCount (here.take (span.start - span.stop)) }

/-- The number of carets under a place: as many as it has bytes, within its line and at least
one. -/
def Position.carets (p : Position) : Nat :=
  max 1 (min p.size (byteCount p.text - p.column))

/-- An error's reason behind the excerpt of the place it is about. -/
def excerpt (source : List Char) (span : Span) (reason : List Char) : List Char :=
  let p := span.position source
  let number := Decimal.digits (p.line + 1)
  let gutter := List.replicate (number.length + 1) ' ' ++ ['|']
  "TOML parse error at line ".toList ++ number
    ++ ", column ".toList ++ Decimal.digits (p.column + 1) ++ ['\n']
    ++ gutter ++ ['\n']
    ++ number ++ " | ".toList ++ p.text ++ ['\n']
    ++ gutter ++ List.replicate (p.column + 1) ' ' ++ List.replicate p.carets '^' ++ ['\n']
    ++ reason ++ ['\n']

end SyncLayer.Toml
