/-!
# Lexemes

The smallest parts of a document: blanks, line ends, comments, runs of digits. A reader takes
the text still to come and returns what it read with the rest, or nothing where the text has
another form.

`many` repeats a reader for as long as it succeeds and consumes something.
-/

namespace SyncLayer.Toml

/-- Read one given character. -/
def expect (c : Char) : List Char → Option (List Char)
  | d :: rest => if c = d then some rest else none
  | [] => none

/-- Read a given text. -/
def expectText : List Char → List Char → Option (List Char)
  | [], s => some s
  | c :: cs, s => (expect c s).bind (expectText cs)

/-- Read for as long as a reader succeeds and consumes something. -/
def many {α : Type} (read : List Char → Option (α × List Char)) (s : List Char) : List α × List Char :=
  match read s with
  | none => ([], s)
  | some (a, rest) =>
    if rest.length < s.length then
      let (as, last) := many read rest
      (a :: as, last)
    else ([], s)
termination_by s.length

/-! ### Blanks, line ends and comments -/

/-- Whether a character is a space or a tabulator. -/
def isSpace (c : Char) : Bool :=
  c == ' ' || c == '\t'

/-- The text behind the spaces at its front. -/
def skipSpaces (s : List Char) : List Char :=
  s.dropWhile isSpace

/-- Read one line end. -/
def newline? : List Char → Option (List Char)
  | '\n' :: rest => some rest
  | '\r' :: '\n' :: rest => some rest
  | _ => none

/-- Whether a character may stand in a comment. -/
def isCommentChar (c : Char) : Bool :=
  c == '\t' || (' ' ≤ c && c ≤ '~') || '\x80' ≤ c

/-- The text behind a comment, if one stands here. -/
def skipComment : List Char → List Char
  | '#' :: rest => rest.dropWhile isCommentChar
  | s => s

/-- Read spaces, a comment if there is one, and the end of the line or of the document. -/
def lineEnd? (s : List Char) : Option (List Char) :=
  match skipComment (skipSpaces s) with
  | [] => some []
  | rest => newline? rest

/-- Read one space or one line end. -/
def blank? : List Char → Option (Unit × List Char)
  | [] => none
  | c :: rest => if isSpace c then some ((), rest) else (newline? (c :: rest)).map (((), ·))

/-- The text behind the spaces and line ends at its front. -/
def skipBlanks (s : List Char) : List Char :=
  (many blank? s).2

/-- Read one piece of what may stand between the values of an array: a space, a line end, or a
comment with its line end. -/
def gapPiece? : List Char → Option (Unit × List Char)
  | '#' :: rest => (newline? (skipComment ('#' :: rest))).map (((), ·))
  | s => blank? s

/-- The text behind the spaces, line ends and comments at its front. -/
def skipGap (s : List Char) : List Char :=
  (many gapPiece? s).2

/-! ### Digits -/

/-- The digits at the front of a text, each of which may have an underscore in front of it. The
underscores are left out of the result. -/
def moreDigits (isDigit : Char → Bool) : List Char → List Char × List Char
  | '_' :: c :: rest =>
    if isDigit c then
      let (ds, last) := moreDigits isDigit rest
      (c :: ds, last)
    else ([], '_' :: c :: rest)
  | c :: rest =>
    if isDigit c then
      let (ds, last) := moreDigits isDigit rest
      (c :: ds, last)
    else ([], c :: rest)
  | [] => ([], [])

/-- Read one or more digits, with single underscores between them. -/
def digits? (isDigit : Char → Bool) : List Char → Option (List Char × List Char)
  | c :: rest =>
    if isDigit c then
      let (ds, last) := moreDigits isDigit rest
      some (c :: ds, last)
    else none
  | [] => none

/-- Read exactly `n` decimal digits. -/
def exactDigits? (n : Nat) (s : List Char) : Option (List Char × List Char) :=
  let ds := s.take n
  if ds.length = n ∧ ds.all Char.isDigit then some (ds, s.drop n) else none

end SyncLayer.Toml
