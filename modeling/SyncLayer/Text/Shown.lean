import SyncLayer.Decimal.Numeral
import SyncLayer.Text.Quoted

/-!
# Shown values

A value is shown for people who look into a running program as a word, a named record with its
fields, or a name with arguments. It is shown on one line, or in a block with a line for every
field and argument.
-/

namespace SyncLayer.Text

/-- The parts in which a value is shown. -/
inductive Shown where
  | word (text : String)
  | record (name : String) (fields : List (String × Shown))
  | applied (name : String) (args : List Shown)

namespace Shown

/-- A number. -/
def number (n : Int) : Shown :=
  .word (Decimal.signedText n)

/-- A text, quoted. -/
def text (s : String) : Shown :=
  .word (quoted s)

/-- A truth value. -/
def boolean (b : Bool) : Shown :=
  .word (if b then "true" else "false")

/-- A value that may be missing. -/
def option {α : Type} (shown : α → Shown) : Option α → Shown
  | none => .word "None"
  | some a => .applied "Some" [shown a]

mutual

/-- The value on one line. -/
def line : Shown → String
  | .word s => s
  | .record name fields => name ++ " \x7b " ++ fieldsLine fields ++ " \x7d"
  | .applied name args => name ++ "(" ++ argsLine args ++ ")"

/-- The fields of a record on one line. -/
def fieldsLine : List (String × Shown) → String
  | [] => ""
  | [(name, value)] => name ++ ": " ++ value.line
  | (name, value) :: rest => name ++ ": " ++ value.line ++ ", " ++ fieldsLine rest

/-- Arguments on one line. -/
def argsLine : List Shown → String
  | [] => ""
  | [value] => value.line
  | value :: rest => value.line ++ ", " ++ argsLine rest

end

/-- The space in front of a line at some depth of a block. -/
def margin (depth : Nat) : String :=
  String.ofList (List.replicate (4 * depth) ' ')

mutual

/-- The value as a block that begins at some depth. -/
def block (depth : Nat) : Shown → String
  | .word s => s
  | .record name fields =>
    name ++ " \x7b\n" ++ fieldsBlock (depth + 1) fields ++ margin depth ++ "\x7d"
  | .applied name args => name ++ "(\n" ++ argsBlock (depth + 1) args ++ margin depth ++ ")"

/-- The fields of a record on a line each. -/
def fieldsBlock (depth : Nat) : List (String × Shown) → String
  | [] => ""
  | (name, value) :: rest =>
    margin depth ++ name ++ ": " ++ value.block depth ++ ",\n" ++ fieldsBlock depth rest

/-- Arguments on a line each. -/
def argsBlock (depth : Nat) : List Shown → String
  | [] => ""
  | value :: rest => margin depth ++ value.block depth ++ ",\n" ++ argsBlock depth rest

end

end Shown

end SyncLayer.Text
