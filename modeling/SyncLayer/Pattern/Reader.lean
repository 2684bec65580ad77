import SyncLayer.Pattern.Support
import SyncLayer.Text.Blank
import SyncLayer.Text.Letter
import SyncLayer.Text.Quoted

/-!
# Reading patterns

`Pattern.read?` is the pattern that a text denotes, or nothing where the text is not well formed.
Counted repetitions and properties of characters, which are written with braces, are not read.

In the verbose mode blanks and comments between the parts of a pattern are ignored.
-/

namespace SyncLayer

namespace Pattern

/-- How deep the parts of a pattern may be nested. -/
def depthLimit : Nat := 250

/-! ### What is ignored -/

/-- The text behind the blanks and comments at its front. A comment runs to the end of the
line. -/
def skipComments (isInside : Bool) : List Char → List Char
  | [] => []
  | c :: rest =>
    if isInside then skipComments (c != '\n') rest
    else if Text.isBlank c then skipComments false rest
    else if c = '#' then skipComments true rest
    else c :: rest

/-- The text behind what is ignored at its front. -/
def skip (isVerbose : Bool) (s : List Char) : List Char :=
  if isVerbose then skipComments false s else s

/-- The character that decides whether a dash stands for a range: the first one behind blanks and
the sign of a comment. -/
def peek (isVerbose : Bool) (s : List Char) : Option Char :=
  if isVerbose then
    match s.dropWhile Text.isBlank with
    | '#' :: rest => (rest.dropWhile Text.isBlank).head?
    | rest => rest.head?
  else s.head?

/-- Repeat a step, which consumes something, up to the end that a text shows. -/
def repeatUntil {α : Type} (isEnd : List Char → Bool)
    (step : α → List Char → Option (α × List Char)) (a : α) (s : List Char) :
  Option (α × List Char)
  :=
  if isEnd s then some (a, s)
  else
    match step a s with
    | none => none
    | some (b, rest) => if rest.length < s.length then repeatUntil isEnd step b rest else none
termination_by s.length

/-! ### Escapes -/

/-- Read as many hexadecimal digits behind a number. -/
def hexDigits? (isVerbose : Bool) : Nat → Nat → List Char → Option (Nat × List Char)
  | 0, value, s => some (value, s)
  | n + 1, value, s =>
    match skip isVerbose s with
    | [] => none
    | c :: rest => (Text.hexValue? c).bind (fun d => hexDigits? isVerbose n (16 * value + d) rest)

/-- The escapes that stand for one character. -/
def charEscapes : List (Char × Char) :=
  [('a', '\x07'), ('f', '\x0c'), ('t', '\t'), ('n', '\n'), ('r', '\r'), ('v', '\x0b')]

/-- The numbers of hexadecimal digits behind the letters that announce them. -/
def codeEscapes : List (Char × Nat) :=
  [('x', 2), ('u', 4), ('U', 8)]

/-- Whether a character stands for itself behind a backslash. -/
def standsForItself (c : Char) : Bool :=
  c < '\x80' && !c.isAlphanum && c != '<' && c != '>'

/-- Read what stands behind a backslash. -/
def escape? (isVerbose : Bool) : List Char → Option (Pattern × List Char)
  | [] => none
  | c :: rest =>
    match codeEscapes.lookup c with
    | some n => do
      let (code, rest) ← hexDigits? isVerbose n 0 rest
      let char ← Text.charOfCode? code
      some (literal { char, isByte := c == 'x' }, rest)
    | none =>
      match charEscapes.lookup c with
      | some char => some (literal { char }, rest)
      | none =>
        if standsForItself c then some (literal { char := c }, rest)
        else if c ∈ ['d', 's', 'w'] then some (oneOf (.shorthand false), rest)
        else if c ∈ ['D', 'S', 'W'] then some (oneOf (.shorthand true), rest)
        else if c ∈ ['A', 'z'] then some (anchor, rest)
        else if c ∈ ['b', 'B', '<', '>'] then some (wordBoundary, rest)
        else none

end Pattern

/-! ### Sets -/

namespace CharSet

open Pattern (skip peek repeatUntil escape?)

/-- The names of the sets that have one. -/
def names : List String :=
  ["alnum", "alpha", "ascii", "blank", "cntrl", "digit", "graph", "lower", "print", "punct",
    "space", "upper", "word", "xdigit"]

/-- Read the inside of a named set and its closing bracket. -/
def named? : List Char → Option (CharSet × List Char)
  | ':' :: rest =>
    let (isNegated, rest) :=
      match rest with
      | '^' :: rest => (true, rest)
      | _ => (false, rest)
    match rest.dropWhile (· != ':') with
    | ':' :: ']' :: behind =>
      if String.ofList (rest.takeWhile (· != ':')) ∈ names then some (named isNegated, behind)
      else none
    | _ => none
  | _ => none

/-- Read a character of a set, or a set that an escape stands for. -/
def atom? (isVerbose : Bool) : List Char → Option (CharSet × List Char)
  | [] => none
  | '\\' :: rest =>
    match escape? isVerbose rest with
    | some (.literal l, rest) => some (literal l, rest)
    | some (.oneOf set, rest) => some (set, rest)
    | _ => none
  | c :: rest => some (literal { char := c }, rest)

/-- The range between two characters, if it is not empty. -/
def range? : CharSet → CharSet → Option CharSet
  | literal first, literal last =>
    if first.char ≤ last.char then some (range first last) else none
  | _, _ => none

/-- Read a character or a range. A dash in front of the end, or of another dash, makes no
range. -/
def element? (isVerbose : Bool) (s : List Char) : Option (CharSet × List Char) := do
  let (first, rest) ← atom? isVerbose s
  match skip isVerbose rest with
  | [] => none
  | '-' :: behind =>
    if peek isVerbose behind = some ']' ∨ peek isVerbose behind = some '-' then
      some (first, '-' :: behind)
    else do
      let (last, rest) ← atom? isVerbose (skip isVerbose behind)
      some (← range? first last, rest)
  | rest => some (first, rest)

/-- What was read of a set: the combination to the left of the last operator, and the sets behind
it, the newest first. -/
structure Progress where
  left : Option CharSet := none
  sets : List CharSet := []

namespace Progress

/-- What was read as one set. -/
def close (p : Progress) : CharSet :=
  let right := CharSet.ofList p.sets.reverse
  match p.left with
  | none => right
  | some left => combined left right

/-- What was read with another set. -/
def add (p : Progress) (set : CharSet) : Progress :=
  { p with sets := set :: p.sets }

end Progress

/-- Read one part of the inside of brackets. -/
def part? (isVerbose : Bool) (inner : List Char → Option (CharSet × List Char)) (p : Progress)
    (s : List Char) :
  Option (Progress × List Char)
  :=
  match s with
  | '[' :: rest => do
    let (set, rest) ← named? rest <|> inner rest
    some (p.add set, skip isVerbose rest)
  | '&' :: '&' :: rest | '-' :: '-' :: rest | '~' :: '~' :: rest =>
    some ({ left := some p.close }, skip isVerbose rest)
  | _ => do
    let (set, rest) ← element? isVerbose s
    some (p.add set, skip isVerbose rest)

/-- Read what may stand at the front of brackets only: dashes and, if there is none, a closing
bracket, which stand for themselves. -/
def front? (isVerbose : Bool) (s : List Char) : Option (Progress × List Char) := do
  let step (p : Progress) (s : List Char) :=
    some (p.add (literal { char := '-' }), skip isVerbose (s.drop 1))
  let (p, rest) ← repeatUntil (fun s => s.head? != some '-') step {} s
  match p.sets, rest with
  | [], ']' :: rest => some (p.add (literal { char := ']' }), skip isVerbose rest)
  | _, rest => some (p, rest)

/-- Whether a text shows the end of brackets. -/
def isEnd : List Char → Bool
  | [] => true
  | c :: _ => c == ']'

/-- Read the inside of brackets and the closing bracket. Brackets nest up to a depth. -/
def bracketed? (isVerbose : Bool) : Nat → List Char → Option (CharSet × List Char)
  | 0 => fun _ => none
  | depth + 1 => fun s => do
    let s := skip isVerbose s
    let isNegated := s.head? == some '^'
    let s := if isNegated then skip isVerbose (s.drop 1) else s
    let (p, rest) ← front? isVerbose s
    let (p, rest) ← repeatUntil isEnd (part? isVerbose (bracketed? isVerbose depth)) p rest
    match rest with
    | ']' :: rest => some (bracketed isNegated p.close, rest)
    | _ => none

end CharSet

namespace Pattern

/-! ### Groups -/

/-- The letters of the modes. -/
def modeLetters : List Char :=
  ['i', 'm', 's', 'U', 'u', 'R', 'x']

/-- The change of modes that a text denotes: letters, each at most once, and a dash in front of
those of the modes that are switched off. -/
def modeChange? (s : List Char) : Option ModeChange :=
  if s.all (fun c => c == '-' || modeLetters.contains c) ∧ s.Nodup ∧ s.getLast? ≠ some '-' then
    some { on := s.takeWhile (· != '-'), off := (s.dropWhile (· != '-')).drop 1 }
  else none

/-- Whether a text is the name of a group. -/
def isGroupName : List Char → Bool
  | [] => false
  | c :: rest =>
    (c == '_' || Text.isLetter c)
      && rest.all (fun c => ['_', '.', '[', ']'].contains c || Text.isLetterOrNumber c)

/-- What stands behind the opening parenthesis of a group: a name, a change of modes for the
group or, where the parenthesis closes at once, for what is behind it, or nothing. -/
inductive Opening where
  | name (name : List Char)
  | change (change : ModeChange)
  | changeBehind (change : ModeChange)
  | nothing

/-- Read what stands behind an opening parenthesis. -/
def opening? : List Char → Option (Opening × List Char)
  | '?' :: 'P' :: '<' :: rest => name? rest
  | '?' :: '<' :: rest => name? rest
  | '?' :: rest => do
    let isEnd (c : Char) : Bool := c == ':' || c == ')'
    let letters := rest.takeWhile (!isEnd ·)
    let change ← modeChange? letters
    match rest.dropWhile (!isEnd ·) with
    | ':' :: rest => some (.change change, rest)
    | ')' :: rest => if letters.isEmpty then none else some (.changeBehind change, rest)
    | _ => none
  | rest => some (.nothing, rest)
where
  /-- Read the name of a group. -/
  name? (s : List Char) : Option (Opening × List Char) :=
    let name := s.takeWhile (· != '>')
    match s.dropWhile (· != '>') with
    | '>' :: rest => if isGroupName name then some (.name name, rest) else none
    | _ => none

/-- What was read of a group: the branches in front of the last bar and the patterns behind it,
the newest first, the names that were given, and whether the verbose mode is on. -/
structure Progress where
  branches : List Pattern := []
  patterns : List Pattern := []
  names : List (List Char) := []
  isVerbose : Bool := false

namespace Progress

/-- What was read with another pattern. -/
def add (p : Progress) (pattern : Pattern) : Progress :=
  { p with patterns := pattern :: p.patterns }

/-- What was read with a bar behind it. -/
def bar (p : Progress) : Progress :=
  { p with branches := ofList p.patterns.reverse :: p.branches, patterns := [] }

/-- What was read as one pattern. -/
def close (p : Progress) : Pattern :=
  let last := ofList p.patterns.reverse
  if p.branches.isEmpty then last else choice (last :: p.branches).reverse

/-- What was read with the last pattern repeated, if there is one that can be. -/
def repeatLast? (p : Progress) : Option Progress :=
  match p.patterns with
  | [] | .modes _ :: _ => none
  | pattern :: patterns => some { p with patterns := repeated pattern :: patterns }

end Progress

/-- Read a group behind its opening parenthesis. -/
def group? (inner : Progress → List Char → Option (Progress × List Char)) (p : Progress)
    (s : List Char) :
  Option (Progress × List Char)
  := do
  let (opening, rest) ← opening? (skip p.isVerbose s)
  let inside (change : ModeChange) (names : List (List Char)) := do
    let (q, rest) ← inner { names, isVerbose := change.apply 'x' p.isVerbose } rest
    match rest with
    | ')' :: rest => some ({ p.add (group change q.close) with names := q.names }, rest)
    | _ => none
  match opening with
  | .nothing => inside {} p.names
  | .change change => inside change p.names
  | .name name => if p.names.contains name then none else inside {} (name :: p.names)
  | .changeBehind change =>
    some ({ p.add (modes change) with isVerbose := change.apply 'x' p.isVerbose }, rest)

/-- Read one part of a group. -/
def part? (inner : Progress → List Char → Option (Progress × List Char)) (p : Progress)
    (s : List Char) :
  Option (Progress × List Char)
  :=
  match s with
  | [] | '\x7b' :: _ => none
  | '(' :: rest => group? inner p rest
  | '|' :: rest => some (p.bar, rest)
  | '[' :: rest => do
    let (set, rest) ← CharSet.bracketed? p.isVerbose depthLimit rest
    some (p.add (oneOf set), rest)
  | '?' :: '?' :: rest | '*' :: '?' :: rest | '+' :: '?' :: rest
  | '?' :: rest | '*' :: rest | '+' :: rest => p.repeatLast?.map (·, rest)
  | '\\' :: rest => do
    let (pattern, rest) ← escape? p.isVerbose rest
    some (p.add pattern, rest)
  | '.' :: rest => some (p.add anyChar, rest)
  | '^' :: rest | '$' :: rest => some (p.add anchor, rest)
  | c :: rest => some (p.add (literal { char := c }), rest)

/-- Whether a text shows the end of a group. -/
def isEnd : List Char → Bool
  | [] => true
  | c :: _ => c == ')'

/-- Read the inside of a group. Groups nest up to a depth. -/
def inside? : Nat → Progress → List Char → Option (Progress × List Char)
  | 0 => fun _ _ => none
  | depth + 1 => fun p s =>
    let step (p : Progress) (s : List Char) :=
      (part? (inside? depth) p s).map (fun (p, rest) => (p, skip p.isVerbose rest))
    repeatUntil isEnd step p (skip p.isVerbose s)

/-- The pattern that a text denotes. -/
def read? (s : List Char) : Option Pattern :=
  match inside? (depthLimit + 1) {} s with
  | some (p, []) => if p.close.depth ≤ depthLimit then some p.close else none
  | _ => none

end Pattern

end SyncLayer
