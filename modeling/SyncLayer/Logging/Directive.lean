import SyncLayer.Logging.Config
import SyncLayer.Pattern.Reader
import SyncLayer.Text.Bytes
import SyncLayer.Text.Pieces

/-!
# Directives

A directive says from which level on the events of a target are logged. It may name a field that
the events must have. One that names a span, or a value that the field must have, concerns only
events inside of spans, and so no event at all.

The parts of a directive are found in its text without the blanks around it, but they are taken
from the text as it was given, at the same bytes. So blanks at the end belong to the last part,
and blanks in front push all parts out of place, which tears a character apart where a part then
begins or ends inside of it.
-/

namespace SyncLayer

/-- A directive. Without a level nothing is logged. -/
structure LogDirective where
  level : Option LogLevel := some .trace
  target : Option String := none
  field : Option String := none
  isForSpans : Bool := false
deriving DecidableEq, Repr

/-- Why a text denotes no directive: it has another form, or a character of it is torn apart. -/
inductive DirectiveError where
  | malformed
  | torn
deriving DecidableEq, Repr

namespace LogDirective

/-! ### Levels -/

/-- The numbers and names of levels, of which the first means none. -/
def levelNames : List (String × Option LogLevel) :=
  [("off", none), ("error", some .error), ("warn", some .warn), ("info", some .info),
    ("debug", some .debug), ("trace", some .trace)]

/-- The level that a text gives by its number or, up to the case of ASCII letters, by its
name. -/
def level? (s : List Char) : Option (Option LogLevel) :=
  match Decimal.readUInt64? s with
  | some n => (levelNames[n.toNat]?).map Prod.snd
  | none => levelNames.lookup (String.ofList (s.map Char.toLower))

/-! ### Values of fields -/

/-- The text behind a sign at its front. -/
def dropSign : List Char → List Char
  | '+' :: rest | '-' :: rest => rest
  | s => s

/-- Whether a text is empty or an exponent. -/
def isExponent : List Char → Bool
  | [] => true
  | c :: rest =>
    (c == 'e' || c == 'E') && !(dropSign rest).isEmpty && (dropSign rest).all Char.isDigit

/-- Whether a text is a number, with a sign, a point and an exponent if need be, or a name of
one that is infinite or none. -/
def isNumber (s : List Char) : Bool :=
  let s := dropSign s
  let whole := s.takeWhile Char.isDigit
  ["inf", "infinity", "nan"].contains (String.ofList (s.map Char.toLower))
    || match s.dropWhile Char.isDigit with
      | '.' :: rest =>
        !(whole.isEmpty && (rest.takeWhile Char.isDigit).isEmpty)
          && isExponent (rest.dropWhile Char.isDigit)
      | rest => !whole.isEmpty && isExponent rest

/-- Whether a text gives the values of a field: it is one, or a pattern of them that can be
searched for. -/
def isValue (s : List Char) : Bool :=
  isNumber s || (Pattern.read? s).any Pattern.isSupported

/-! ### Reading -/

/-- The part of a text from one byte up to another. -/
def part (s : List Char) (start stop : Nat) : Except DirectiveError (List Char) :=
  match Text.cut? start stop s with
  | some part => .ok part
  | none => .error .torn

/-- The directive with the level that a text gives from a byte on. An empty one is the most
detailed. -/
def withLevel (d : LogDirective) (s : List Char) (start : Nat) :
  Except DirectiveError LogDirective
  := do
  let text ← part s start (Text.byteSize s)
  if text.isEmpty then return { d with level := some .trace }
  match level? text with
  | some level => return { d with level }
  | none => .error .malformed

/-- Read what stands behind a closing bracket, from a byte on: a level or nothing. -/
def behindBracket (d : LogDirective) (s : List Char) (start : Nat) :
  List Char → Except DirectiveError LogDirective
  | [] => .ok d
  | '=' :: _ => d.withLevel s (start + 1)
  | _ => .error .malformed

/-- The directive with a field. -/
def withField (d : LogDirective) (text : List Char) : Except DirectiveError LogDirective :=
  if text.isEmpty then .error .malformed
  else
    match Text.pieces '=' text with
    | name :: value :: _ =>
      if isValue value then
        .ok { d with field := some (String.ofList name), isForSpans := true }
      else .error .malformed
    | _ => .ok { d with field := some (String.ofList text) }

/-- Read a field and what stands behind it, from a byte on. -/
def behindBrace (d : LogDirective) (s : List Char) (start : Nat) (rest : List Char) :
  Except DirectiveError LogDirective
  := do
  let front := rest.takeWhile (· != '\x7d')
  let stop := start + Text.byteSize front
  match rest.dropWhile (· != '\x7d') with
  | [] => .error .malformed
  | _ :: behind => do
    let d ← d.withField (← part s start stop)
    match behind with
    | ']' :: rest => d.behindBracket s (stop + 2) rest
    | _ => .error .malformed

/-- Read a span and what stands behind it, from a byte on. -/
def insideBracket (d : LogDirective) (s : List Char) (start : Nat) (rest : List Char) :
  Except DirectiveError LogDirective
  := do
  let isEnd (c : Char) : Bool := c == ']' || c == '\x7b'
  let stop := start + Text.byteSize (rest.takeWhile (!isEnd ·))
  match rest.dropWhile (!isEnd ·) with
  | [] => .error .malformed
  | c :: behind => do
    let span ← part s start stop
    if c = ']' then behindBracket { d with isForSpans := true } s (stop + 1) behind
    else behindBrace { d with isForSpans := !span.isEmpty } s (stop + 1) behind

/-- Whether a directive may begin with a character. -/
def canBegin (c : Char) : Bool :=
  c == '-' || c == ':' || c == '_' || Text.isLetterOrNumber c

/-- The directive that a whole text is: a level or a target. -/
def ofWhole (s : List Char) : LogDirective :=
  match level? s with
  | some level => { level }
  | none => { target := some (String.ofList s) }

/-- The directive that a text denotes. -/
def read (s : List Char) : Except DirectiveError LogDirective := do
  match Text.trim s with
  | [] => .error .malformed
  | '[' :: rest => insideBracket {} s 1 rest
  | c :: rest =>
    if !canBegin c then .error .malformed
    else
      let isEnd (c : Char) : Bool := c == '=' || c == '['
      let stop := Text.byteSize ((c :: rest).takeWhile (!isEnd ·))
      match (c :: rest).dropWhile (!isEnd ·) with
      | [] => return ofWhole s
      | e :: behind => do
        let target := some (String.ofList (← part s 0 stop))
        if e = '[' then insideBracket { target } s (stop + 1) behind
        else withLevel { target } s (stop + 1)

end LogDirective

end SyncLayer
