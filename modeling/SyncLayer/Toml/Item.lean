import SyncLayer.Binary64.Basic

/-!
# The tree of a document

A document is a table. Its members keep the order in which they were put there, and each value
keeps the place where it is written. Places are counted from the end of the document, as the
characters that are still to come, so that a reader finds them without knowing where it
started.
-/

namespace SyncLayer.Toml

/-- A place in a document: the counts of the characters behind its first and behind its last
character's front. -/
structure Span where
  start : Nat
  stop : Nat
deriving DecidableEq, Repr

/-- A key and the place where it is written, quotes included. -/
structure Key where
  name : String
  span : Span
deriving DecidableEq, Repr

/-- A value without parts. What a date or a time denotes is not kept. -/
inductive Scalar where
  | text (s : String)
  | integer (n : Int)
  | real (x : Binary64)
  | boolean (b : Bool)
  | moment
deriving DecidableEq, Repr

/-- How a table came to be: named only in front of a dot in a header, in front of a dot in a
key, or by a header of its own. -/
inductive Origin where
  | implied
  | dotted
  | headed (span : Span)
deriving DecidableEq, Repr

/-- A node of a document. An inline table is a value; a table made by a header, or by dots, can
still gain members. -/
inductive Item where
  | scalar (value : Scalar) (span : Span)
  | array (items : List Item) (span : Span)
  | inline (members : List (Key × Item)) (span : Span)
  | table (origin : Origin) (members : List (Key × Item))
  | tables (rows : List (Span × List (Key × Item)))

/-- The members of a table, in order. -/
abbrev Members := List (Key × Item)

/-- The place of a node, if it has one of its own. Tables in a row reach from the first to the
last of them. -/
def Item.span? : Item → Option Span
  | .scalar _ span => some span
  | .array _ span => some span
  | .inline _ span => some span
  | .table (.headed span) _ => some span
  | .table _ _ => none
  | .tables rows =>
    match rows.head?, rows.getLast? with
    | some (first, _), some (last, _) => some { start := first.start, stop := last.stop }
    | _, _ => none

/-- The member with a given name. -/
def Members.find? (members : Members) (name : String) : Option (Key × Item) :=
  List.find? (fun m => m.1.name == name) members

/-- The members with the one of a given name replaced. -/
def Members.replace (members : Members) (name : String) (item : Item) : Members :=
  members.map (fun m => if m.1.name == name then (m.1, item) else m)

/-- The members without the one of a given name. -/
def Members.erase (members : Members) (name : String) : Members :=
  members.filter (fun m => m.1.name != name)

end SyncLayer.Toml
