import SyncLayer.Toml.Item

/-!
# Tables from pairs and sections

A document consists of pairs and of sections, each a header with pairs. A key with dots names a
table inside the one it stands in, and so does a header inside the whole document; tables on the
way are made where they are missing.

Every table has one place where it is defined. A header may come behind the headers of its
subtables, and pairs with dots may add to a table that only such pairs made; nothing else can be
named twice.
-/

namespace SyncLayer.Toml

/-- A value and the dotted key in front of it. -/
structure Pair where
  path : List Key
  key : Key
  value : Item

/-- A header and the pairs behind it. The header of a row adds a table to a list of tables. -/
structure Section where
  path : List Key
  key : Key
  isRow : Bool
  header : Span
  pairs : List Pair

/-- The place of a section, from its header to its last value. -/
def Section.span (block : Section) : Span :=
  match block.pairs.getLast? with
  | some pair => { block.header with stop := (pair.value.span?.getD block.header).stop }
  | none => block.header

/-- Whether a table was made by nothing but the mention of its subtables and members. -/
def Origin.isImplicit : Origin → Bool
  | .headed _ => false
  | _ => true

/-- Change the table at the end of a path. The tables on the way that are missing are made, and
of a list of tables the last is meant. A dotted key leads only through tables without a header,
and nothing leads through a value. -/
def alongPath (origin : Origin) (change : Origin → Members → Option Members) :
  List Key → Origin → Members → Option Members
  | [], here, members => change here members
  | key :: path, _, members =>
    match members.find? key.name with
    | none => do
      let inner ← alongPath origin change path origin []
      some (members ++ [(key, .table origin inner)])
    | some (_, .table there inner) =>
      if origin == .dotted && !there.isImplicit then none
      else do
        let inner ← alongPath origin change path there inner
        some (members.replace key.name (.table there inner))
    | some (_, .tables rows) =>
      match rows.getLast? with
      | none => none
      | some (span, last) => do
        let last ← alongPath origin change path (.headed span) last
        some (members.replace key.name (.tables (rows.dropLast ++ [(span, last)])))
    | some _ => none

/-- Add a pair to a table. Behind a dotted key the table must be one that dotted keys made. -/
def addPair (here : Origin) (members : Members) (pair : Pair) : Option Members :=
  alongPath .dotted
    (fun there members =>
      if (there == .dotted) == pair.path.isEmpty then none
      else if (members.find? pair.key.name).isSome then none
      else some (members ++ [(pair.key, pair.value)]))
    pair.path here members

/-- Add pairs to a table that is not one made by dotted keys. -/
def addPairs (members : Members) (pairs : List Pair) : Option Members :=
  pairs.foldlM (addPair .implied) members

/-- Add a section's table to the one its header names last but one. The table of a header takes
the place behind all others, with what its subtables' headers made of it before. -/
def addTable (block : Section) (members : Members) : Option Members := do
  let kept ←
    match members.find? block.key.name with
    | none => some []
    | some (_, .table .implied kept) => some kept
    | some _ => none
  let inner ← addPairs kept block.pairs
  some (members.erase block.key.name ++ [(block.key, .table (.headed block.span) inner)])

/-- Add a section's table to a list of tables. -/
def addRow (block : Section) (members : Members) : Option Members :=
  match members.find? block.key.name with
  | none => do
    let inner ← addPairs [] block.pairs
    some (members ++ [(block.key, .tables [(block.span, inner)])])
  | some (_, .tables rows) => do
    let inner ← addPairs [] block.pairs
    some (members.replace block.key.name (.tables (rows ++ [(block.span, inner)])))
  | some _ => none

/-- Add a section to a document. -/
def addSection (members : Members) (block : Section) : Option Members :=
  alongPath .implied (fun _ members => (if block.isRow then addRow else addTable) block members)
    block.path .implied members

/-- The document of some pairs and sections. -/
def document? (pairs : List Pair) (sections : List Section) : Option Members := do
  let members ← addPairs [] pairs
  sections.foldlM addSection members

end SyncLayer.Toml
