import SyncLayer.Config.Basic
import SyncLayer.Toml.Excerpt
import SyncLayer.Toml.Reader

/-!
# Configurations as documents

A document sets the fields of a configuration that it names, and leaves the others at their
defaults; members of other names mean nothing. The members are read in their order, and the
first that cannot be used decides the error.

A configuration is written as one pair for every field. Integers beyond what a document can
hold cannot be written.
-/

namespace SyncLayer

open Toml (Item Key Members Scalar Span)

/-- Why a value in a document cannot be used. -/
inductive Rejection where
  | wrongKind (found wanted : String)
  | outOfRange (n : Int) (wanted : String)
  | unknownFormat (name : String)
deriving DecidableEq, Repr

/-- The text of a rejection. -/
def Rejection.message : Rejection → String
  | wrongKind found wanted => "invalid type: " ++ found ++ ", expected " ++ wanted
  | outOfRange n wanted =>
    "invalid value: integer `" ++ Decimal.signedText n ++ "`, expected " ++ wanted
  | unknownFormat name => "unknown variant `" ++ name ++ "`, expected `text` or `json`"

/-- Why a document cannot be used: it is not well formed, the format is neither a name nor a
table that holds nothing but a name, or a value at some place is rejected. -/
inductive DocumentError where
  | malformed
  | formatShape
  | rejected (source : List Char) (span : Span) (reason : Rejection)
deriving DecidableEq, Repr

/-- The text of an error about a place of a document. Where the document as a whole is refused,
there is no such place. -/
def DocumentError.message? : DocumentError → Option String
  | malformed => none
  | formatShape => none
  | rejected source span reason =>
    some (String.ofList (Toml.excerpt source span reason.message.toList))

namespace Config

/-- What an item is, for those who expected something else. -/
def describe : Item → String
  | .scalar (.text s) _ => "string " ++ Text.quoted s
  | .scalar (.integer n) _ => "integer `" ++ Decimal.signedText n ++ "`"
  | .scalar (.real x) _ =>
    "floating point `" ++ String.ofList (Binary64.Layout.positional.text x) ++ "`"
  | .scalar (.boolean b) _ => "boolean `" ++ (if b then "true" else "false") ++ "`"
  | .scalar .moment _ => "map"
  | .array _ _ => "sequence"
  | .inline _ _ => "map"
  | .table _ _ => "map"
  | .tables _ => "sequence"

/-! ### Fields -/

/-- The number an item holds. -/
def number : Item → Except Rejection UInt64
  | .scalar (.integer n) _ =>
    if n < 0 then .error (.outOfRange n "u64") else .ok (UInt64.ofNat n.toNat)
  | item => .error (.wrongKind (describe item) "u64")

/-- The truth value an item holds. -/
def boolean : Item → Except Rejection Bool
  | .scalar (.boolean b) _ => .ok b
  | item => .error (.wrongKind (describe item) "a boolean")

/-- Whether an item holds nothing. -/
def isVoid : Item → Bool
  | .array items _ => items.isEmpty
  | .inline members _ => members.isEmpty
  | .table _ members => members.isEmpty
  | _ => false

/-- The members of an item that is a table. -/
def members? : Item → Option Members
  | .inline members _ => some members
  | .table _ members => some members
  | _ => none

/-- The format an item names, which is a text or the only key of a table that holds nothing else.
The name that is unknown may have a place of its own. -/
def format (source : List Char) (span : Span) (item : Item) : Except DocumentError StatsFormat :=
  match item, members? item with
  | .scalar (.text name) _, _ =>
    match StatsFormat.ofName? name with
    | some f => .ok f
    | none => .error (.rejected source span (.unknownFormat name))
  | _, some [(key, payload)] =>
    match StatsFormat.ofName? key.name with
    | some f => if isVoid payload then .ok f else .error .formatShape
    | none => .error (.rejected source key.span (.unknownFormat key.name))
  | _, _ => .error .formatShape

/-- A rejection with the place of the value it is about. -/
def located {α : Type} (source : List Char) (span : Span) (r : Except Rejection α) :
  Except DocumentError α
  :=
  r.mapError (.rejected source span)

/-- Set the field that a member names. -/
def setMember (source : List Char) (c : Config) (member : Key × Item) :
  Except DocumentError Config
  :=
  let (key, item) := member
  let span := item.span?.getD key.span
  match key.name with
  | "contention_threshold_cycles" => do
    let n ← located source span (number item)
    return { c with contentionThreshold := n }
  | "cycles_per_second" => do
    let n ← located source span (number item)
    return { c with cyclesPerSecond := some n }
  | "calibrate_clock" => do
    let b ← located source span (boolean item)
    return { c with calibrateClock := b }
  | "refcount_flush_interval" => do
    let n ← located source span (number item)
    return { c with flushInterval := n }
  | "stats_format" => do
    let f ← format source span item
    return { c with statsFormat := f }
  | _ => return c

/-- The configuration that the members of a document make of the default one. -/
def ofMembers (source : List Char) (members : Members) : Except DocumentError Config :=
  members.foldlM (setMember source) default

/-- The configuration that a document denotes. -/
def ofDocument (source : List Char) : Except DocumentError Config :=
  match Toml.read? source with
  | some members => ofMembers source members
  | none => .error .malformed

/-! ### Writing -/

/-- The line of a number, if a document can hold it. -/
def numberLine? (key : String) (n : UInt64) : Option String :=
  if n.toNat ≤ Toml.maxInteger then some (key ++ " = " ++ Decimal.text n.toNat ++ "\n")
  else none

/-- The document of a configuration, if a document can hold its numbers. -/
def document? (c : Config) : Option String := do
  let threshold ← numberLine? "contention_threshold_cycles" c.contentionThreshold
  let rate ←
    match c.cyclesPerSecond with
    | some n => numberLine? "cycles_per_second" n
    | none => some ""
  let interval ← numberLine? "refcount_flush_interval" c.flushInterval
  let calibrate := "calibrate_clock = " ++ (if c.calibrateClock then "true" else "false") ++ "\n"
  let format := "stats_format = \"" ++ c.statsFormat.name ++ "\"\n"
  some (threshold ++ rate ++ calibrate ++ interval ++ format)

end Config

end SyncLayer
