import SyncLayer.Json.Value
import SyncLayer.Text.Quoted
import SyncLayer.Toml.Lexeme

/-!
# Reading Json

The reader of the JSON data format. White space may stand between any two parts of a text. Inside a
text every character that is no control character, no quote and no backslash stands for itself, and
a backslash begins an escape. A number that is written with digits only is a natural; any other is
the binary number nearest to it, and there is none if it is beyond their range.
-/

namespace SyncLayer.Json

open Toml (expect expectText many)

/-- Whether a character is white space. -/
def isBlank (c : Char) : Bool :=
  c == ' ' || c == '\t' || c == '\n' || c == '\r'

/-- The text behind the white space at its front. -/
def skipBlanks (s : List Char) : List Char :=
  s.dropWhile isBlank

/-! ### Numbers -/

/-- Read one or more digits. -/
def digits? (s : List Char) : Option (List Char × List Char) :=
  let ds := s.takeWhile Char.isDigit
  if ds.isEmpty then none else some (ds, s.dropWhile Char.isDigit)

/-- Read the digits in front of the point: a zero, or digits that do not begin with one. -/
def whole? : List Char → Option (List Char × List Char)
  | '0' :: rest => some (['0'], rest)
  | s => digits? s

/-- Read the digits behind the point, which are none if there is no point. -/
def fraction? : List Char → Option (List Char × List Char)
  | '.' :: rest => digits? rest
  | s => some ([], s)

/-- Read the sign and the digits of an exponent. -/
def power? : List Char → Option (Int × List Char)
  | '-' :: rest => (digits? rest).map (fun (ds, rest) => (-(Decimal.value ds : Int), rest))
  | '+' :: rest => (digits? rest).map (fun (ds, rest) => ((Decimal.value ds : Int), rest))
  | s => (digits? s).map (fun (ds, rest) => ((Decimal.value ds : Int), rest))

/-- Read an exponent, if there is one. -/
def exponent? : List Char → Option (Option Int × List Char)
  | 'e' :: rest => (power? rest).map (fun (k, rest) => (some k, rest))
  | 'E' :: rest => (power? rest).map (fun (k, rest) => (some k, rest))
  | s => some (none, s)

/-- The number with the given digits in front of the point and behind it, and with an exponent. -/
def decimal? (negative : Bool) (whole fraction : List Char) (exponent : Option Int) : Option Json :=
  if negative = false ∧ fraction = [] ∧ exponent = none then some (.natural (Decimal.value whole))
  else
    let k := exponent.getD 0 - (fraction.length : Int)
    let x := Binary64.ofDecimal negative (Decimal.value (whole ++ fraction)) k
    if x.isFinite then some (.real x) else none

/-- Read a number behind its sign. -/
def unsigned? (negative : Bool) (s : List Char) : Option (Json × List Char) := do
  let (whole, rest) ← whole? s
  let (fraction, rest) ← fraction? rest
  let (exponent, rest) ← exponent? rest
  let v ← decimal? negative whole fraction exponent
  some (v, rest)

/-- Read a number. -/
def number? : List Char → Option (Json × List Char)
  | '-' :: rest => unsigned? true rest
  | s => unsigned? false s

/-! ### Texts -/

/-- Read four hexadecimal digits. -/
def codeUnit? : List Char → Option (Nat × List Char)
  | a :: b :: c :: d :: rest => do
    let a ← Text.hexValue? a
    let b ← Text.hexValue? b
    let c ← Text.hexValue? c
    let d ← Text.hexValue? d
    some (16 * (16 * (16 * a + b) + c) + d, rest)
  | _ => none

/-- Read a character by its code, in two halves if it is beyond the first `2 ^ 16`. -/
def codePoint? (s : List Char) : Option (Char × List Char) := do
  let (code, rest) ← codeUnit? s
  if 0xd800 ≤ code ∧ code < 0xdc00 then
    let rest ← expectText ['\\', 'u'] rest
    let (low, rest) ← codeUnit? rest
    if 0xdc00 ≤ low ∧ low < 0xe000 then
      let c ← Text.charOfCode? (0x10000 + 0x400 * (code - 0xd800) + (low - 0xdc00))
      some (c, rest)
    else none
  else
    let c ← Text.charOfCode? code
    some (c, rest)

/-- Read what stands behind the backslash of an escape. -/
def escape? : List Char → Option (Char × List Char)
  | '"' :: rest => some ('"', rest)
  | '\\' :: rest => some ('\\', rest)
  | '/' :: rest => some ('/', rest)
  | 'b' :: rest => some ('\x08', rest)
  | 'f' :: rest => some ('\x0c', rest)
  | 'n' :: rest => some ('\n', rest)
  | 'r' :: rest => some ('\r', rest)
  | 't' :: rest => some ('\t', rest)
  | 'u' :: rest => codePoint? rest
  | _ => none

/-- Read a character of a text. -/
def character? : List Char → Option (Char × List Char)
  | '"' :: _ => none
  | '\\' :: rest => escape? rest
  | c :: rest => if c < ' ' then none else some (c, rest)
  | [] => none

/-- Read a text with the quotes around it. -/
def text? (s : List Char) : Option (String × List Char) := do
  let (cs, rest) := many character? (← expect '"' s)
  let rest ← expect '"' rest
  some (String.ofList cs, rest)

/-! ### Values -/

/-- Read a comma and what stands behind it. -/
def next? {α : Type} (read? : List Char → Option (α × List Char)) (s : List Char) :
  Option (α × List Char)
  :=
  (expect ',' (skipBlanks s)).bind (fun rest => read? (skipBlanks rest))

/-- Read parts with commas between them up to a closing bracket. -/
def parts? {α : Type} (read? : List Char → Option (α × List Char)) (close : Char) (s : List Char) :
  Option (List α × List Char)
  :=
  match expect close (skipBlanks s) with
  | some rest => some ([], rest)
  | none => do
    let (first, rest) ← read? (skipBlanks s)
    let (others, rest) := many (next? read?) rest
    let rest ← expect close (skipBlanks rest)
    some (first :: others, rest)

/-- Read a name, a colon and a value. -/
def member? (value? : List Char → Option (Json × List Char)) (s : List Char) :
  Option ((String × Json) × List Char)
  := do
  let (name, rest) ← text? s
  let rest ← expect ':' (skipBlanks rest)
  let (v, rest) ← value? (skipBlanks rest)
  some ((name, v), rest)

/-- Read a value that is neither an array nor an object. -/
def scalar? (s : List Char) : Option (Json × List Char) :=
  match s with
  | 'n' :: _ => (expectText "null".toList s).map (fun rest => (.null, rest))
  | 't' :: _ => (expectText "true".toList s).map (fun rest => (.boolean true, rest))
  | 'f' :: _ => (expectText "false".toList s).map (fun rest => (.boolean false, rest))
  | '"' :: _ => (text? s).map (fun (t, rest) => (.text t, rest))
  | _ => number? s

/-- Read a value with at most `depth` levels of arrays and objects. -/
def value? : Nat → List Char → Option (Json × List Char)
  | 0 => scalar?
  | depth + 1 => fun s =>
    match s with
    | '[' :: rest =>
      (parts? (value? depth) ']' rest).map (fun (items, rest) => (.array items, rest))
    | '\x7b' :: rest =>
      (parts? (member? (value? depth)) '\x7d' rest).map
        (fun (members, rest) => (.object members, rest))
    | _ => scalar? s

/-- The value that a text denotes. It has no more levels than the text has characters. -/
def read? (s : String) : Option Json :=
  match value? s.toList.length (skipBlanks s.toList) with
  | some (v, rest) => if (skipBlanks rest).isEmpty then some v else none
  | none => none

/-- What an object says of a name. -/
def field? (name : String) : Json → Option Json
  | object members => members.lookup name
  | _ => none

end SyncLayer.Json
