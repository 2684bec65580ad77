import SyncLayer.Toml.Literal
import SyncLayer.Toml.Moment
import SyncLayer.Toml.Number
import SyncLayer.Toml.Table

/-!
# Reading documents

`read?` is the document that a text denotes, or nothing where the text is not well formed. Arrays
and inline tables nest up to a fixed depth, and a dotted key has a bounded number of parts.
-/

namespace SyncLayer.Toml

/-- The number of parts at which a dotted key, and of levels at which nesting, is too deep. -/
def depthLimit : Nat := 80

/-! ### Keys -/

/-- Whether a character may stand in a key without quotes. -/
def isKeyChar (c : Char) : Bool :=
  c.isAlphanum || c == '_' || c == '-'

/-- Read one part of a key: bare, or a text on one line. -/
def keyPart? (s : List Char) : Option (Key × List Char) := do
  let (name, rest) ←
    match s.takeWhile isKeyChar with
    | [] => lineText? s
    | name => some (name, s.dropWhile isKeyChar)
  some ({ name := String.ofList name, span := { start := s.length, stop := rest.length } }, rest)

/-- Read one part of a key with the spaces around it. -/
def spacedPart? (s : List Char) : Option (Key × List Char) := do
  let (key, rest) ← keyPart? (skipSpaces s)
  some (key, skipSpaces rest)

/-- Read a key: parts with dots between them. The last part is given apart from those in front
of it. -/
def key? (s : List Char) : Option ((List Key × Key) × List Char) := do
  let (first, rest) ← spacedPart? s
  let (others, rest) := many (fun s => (expect '.' s).bind spacedPart?) rest
  let parts := first :: others
  if parts.length < depthLimit then some ((parts.dropLast, others.getLastD first), rest) else none

/-! ### Values -/

/-- Read `true` or `false`. -/
def boolean? (s : List Char) : Option (Bool × List Char) :=
  match expectText ['t', 'r', 'u', 'e'] s with
  | some rest => some (true, rest)
  | none => (expectText ['f', 'a', 'l', 's', 'e'] s).map (false, ·)

/-- Read a value without parts. -/
def scalar? (s : List Char) : Option (Scalar × List Char) :=
  (text? s).map (fun r => (.text (String.ofList r.1), r.2))
    <|> (boolean? s).map (fun r => (.boolean r.1, r.2))
    <|> (moment? s).map (fun rest => (.moment, rest))
    <|> (real? s).map (fun r => (.real r.1, r.2))
    <|> (integer? s).map (fun r => (.integer r.1, r.2))

/-- Read values with commas between them up to a closing bracket. A comma may stand behind the
last one, and spaces, comments and line ends anywhere. -/
def elements? (value? : List Char → Option (Item × List Char)) (s : List Char) :
  Option (List Item × List Char)
  :=
  match value? (skipGap s) with
  | none => (expect ']' (skipGap s)).map ([], ·)
  | some (first, rest) => do
    let next? s := (expect ',' (skipGap s)).bind (fun s => value? (skipGap s))
    let (others, rest) := many next? rest
    let rest := skipGap rest
    let rest ← expect ']' (skipGap ((expect ',' rest).getD rest))
    some (first :: others, rest)

/-- Read a key, an equals sign and a value, with the spaces between them. -/
def pair? (value? : List Char → Option (Item × List Char)) (s : List Char) :
  Option (Pair × List Char)
  := do
  let ((path, key), rest) ← key? s
  let rest ← expect '=' rest
  let (value, rest) ← value? (skipSpaces rest)
  some ({ path, key, value }, skipSpaces rest)

/-- Read pairs with commas between them up to a closing brace, on one line. -/
def inlinePairs? (value? : List Char → Option (Item × List Char)) (s : List Char) :
  Option (List Pair × List Char)
  :=
  match pair? value? s with
  | none => (expect '\x7d' (skipSpaces s)).map ([], ·)
  | some (first, rest) => do
    let (others, rest) := many (fun s => (expect ',' s).bind (pair? value?)) rest
    let rest ← expect '\x7d' rest
    some (first :: others, rest)

/-- Read a value with at most `depth` levels of arrays and inline tables. -/
def value? : Nat → List Char → Option (Item × List Char)
  | 0 => fun s => do
    let (v, rest) ← scalar? s
    some (.scalar v { start := s.length, stop := rest.length }, rest)
  | depth + 1 => fun s =>
    match s with
    | '[' :: inner => do
      let (items, rest) ← elements? (value? depth) inner
      some (.array items { start := s.length, stop := rest.length }, rest)
    | '\x7b' :: inner => do
      let (pairs, rest) ← inlinePairs? (value? depth) inner
      let members ← addPairs [] pairs
      some (.inline members { start := s.length, stop := rest.length }, rest)
    | _ => do
      let (v, rest) ← scalar? s
      some (.scalar v { start := s.length, stop := rest.length }, rest)

/-! ### Lines -/

/-- What a line of a document holds. -/
inductive Line where
  | empty
  | pair (pair : Pair)
  | header (path : List Key) (key : Key) (isRow : Bool) (span : Span)

/-- Read the inside of a header up to its closing brackets. -/
def header? (isRow : Bool) (start : Nat) (s : List Char) : Option (Line × List Char) := do
  let ((path, key), rest) ← key? s
  let rest ← expectText (if isRow then [']', ']'] else [']']) rest
  some (.header path key isRow { start, stop := rest.length }, rest)

/-- Read what stands on a line, without its end. -/
def content? (s : List Char) : Option (Line × List Char) :=
  match s with
  | '[' :: '[' :: rest => header? true s.length rest
  | '[' :: rest => header? false s.length rest
  | _ => do
    let (pair, rest) ← pair? (value? (depthLimit - 1)) s
    some (.pair pair, rest)

/-- Read a line with its end. -/
def line? (s : List Char) : Option (Line × List Char) :=
  match lineEnd? s with
  | some rest => some (.empty, rest)
  | none => do
    let (line, rest) ← content? (skipSpaces s)
    let rest ← lineEnd? rest
    some (line, rest)

/-- The pairs in front of the first header, and the sections. -/
def sections : List Line → List Pair × List Section
  | [] => ([], [])
  | .empty :: lines => sections lines
  | .pair pair :: lines =>
    let (pairs, blocks) := sections lines
    (pair :: pairs, blocks)
  | .header path key isRow header :: lines =>
    let (pairs, blocks) := sections lines
    ([], { path, key, isRow, header, pairs } :: blocks)

/-- The text without a byte order mark at its front. -/
def dropMark : List Char → List Char
  | '\ufeff' :: rest => rest
  | s => s

/-- The document that a text denotes. -/
def read? (s : List Char) : Option Members :=
  let (lines, rest) := many line? (dropMark s)
  if rest.isEmpty then
    let (pairs, blocks) := sections lines
    document? pairs blocks
  else none

end SyncLayer.Toml
