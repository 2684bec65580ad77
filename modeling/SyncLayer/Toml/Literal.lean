import SyncLayer.Text.Quoted
import SyncLayer.Toml.Lexeme

/-!
# Text literals

A text stands between double quotes, where a backslash begins an escape, or between
apostrophes, where every character stands for itself. Between three quotes or three apostrophes
it may run over several lines; a line end right behind the opening ones is dropped, every other
one is a line feed, and up to two more quotes may stand in front of the closing ones.
-/

namespace SyncLayer.Toml

/-- Whether a character may stand in a text other than as part of a line end. -/
def isTextChar (c : Char) : Bool :=
  c == '\t' || (' ' ≤ c && c ≤ '~') || '\x80' ≤ c

/-- Read the character whose code point stands in exactly `n` hexadecimal digits. -/
def codePoint? (n : Nat) (s : List Char) : Option (Char × List Char) :=
  let ds := s.take n
  if ds.length = n then do
    let code ← ds.foldlM (fun acc d => (Text.hexValue? d).map (16 * acc + ·)) 0
    let c ← Text.charOfCode? code
    some (c, s.drop n)
  else none

/-- Read what stands behind the backslash of an escape. -/
def escape? : List Char → Option (Char × List Char)
  | 'b' :: rest => some ('\x08', rest)
  | 'f' :: rest => some ('\x0c', rest)
  | 'n' :: rest => some ('\n', rest)
  | 'r' :: rest => some ('\r', rest)
  | 't' :: rest => some ('\t', rest)
  | '"' :: rest => some ('"', rest)
  | '\\' :: rest => some ('\\', rest)
  | 'u' :: rest => codePoint? 4 rest
  | 'U' :: rest => codePoint? 8 rest
  | _ => none

/-! ### Texts on one line -/

/-- Read one character between double quotes. -/
def basicChar? : List Char → Option (Char × List Char)
  | '"' :: _ => none
  | '\\' :: rest => escape? rest
  | c :: rest => if isTextChar c then some (c, rest) else none
  | [] => none

/-- Read one character between apostrophes. -/
def rawChar? : List Char → Option (Char × List Char)
  | '\'' :: _ => none
  | c :: rest => if isTextChar c then some (c, rest) else none
  | [] => none

/-- Read a text on one line, with the quotes around it. -/
def lineText? : List Char → Option (List Char × List Char)
  | '"' :: rest => do
    let (cs, rest) := many basicChar? rest
    let rest ← expect '"' rest
    some (cs, rest)
  | '\'' :: rest => do
    let (cs, rest) := many rawChar? rest
    let rest ← expect '\'' rest
    some (cs, rest)
  | _ => none

/-! ### Texts over several lines -/

/-- Read one line end of a text, which stands for a line feed. -/
def innerNewline? (s : List Char) : Option (List Char × List Char) :=
  (newline? s).map (['\n'], ·)

/-- Read the rest of a line that ends in a backslash, with the blank lines behind it. It stands
for nothing. -/
def joinedLine? (s : List Char) : Option (List Char × List Char) := do
  let rest ← newline? (skipSpaces s)
  some ([], skipBlanks rest)

/-- Read at most two quotes that another character follows. -/
def innerQuotes? (quote : Char) (s : List Char) : Option (List Char × List Char) :=
  let quotes := s.takeWhile (· == quote)
  if quotes.length = 1 ∨ quotes.length = 2 then some (quotes, s.drop quotes.length) else none

/-- Read one piece of a text between three double quotes. -/
def basicPiece? : List Char → Option (List Char × List Char)
  | '"' :: rest => innerQuotes? '"' ('"' :: rest)
  | '\\' :: rest =>
    match joinedLine? rest with
    | some piece => some piece
    | none => (escape? rest).map (fun r => ([r.1], r.2))
  | c :: rest => if isTextChar c then some ([c], rest) else innerNewline? (c :: rest)
  | [] => none

/-- Read one piece of a text between three apostrophes. -/
def rawPiece? : List Char → Option (List Char × List Char)
  | '\'' :: rest => innerQuotes? '\'' ('\'' :: rest)
  | c :: rest => if isTextChar c then some ([c], rest) else innerNewline? (c :: rest)
  | [] => none

/-- Read the pieces of a text and the three quotes behind it, of which up to two more belong to
the text. -/
def piecesUpTo? (quote : Char) (piece? : List Char → Option (List Char × List Char)) (s : List Char) :
  Option (List Char × List Char)
  := do
  let s := (newline? s).getD s
  let (pieces, rest) := many piece? s
  let extra := min ((rest.takeWhile (· == quote)).length - 3) 2
  let rest ← expectText [quote, quote, quote] (rest.drop extra)
  some (pieces.flatten ++ List.replicate extra quote, rest)

/-- Read a text in any of its forms. -/
def text? : List Char → Option (List Char × List Char)
  | '"' :: '"' :: '"' :: rest => piecesUpTo? '"' basicPiece? rest
  | '\'' :: '\'' :: '\'' :: rest => piecesUpTo? '\'' rawPiece? rest
  | s => lineText? s

end SyncLayer.Toml
