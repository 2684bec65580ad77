import SyncLayer.Decimal.Numeral
import SyncLayer.Toml.Lexeme

/-!
# Dates and times

A date of the Gregorian calendar, a time of day, or a date with a time, which may have an
offset. Only their form is decided here: the readers return the text behind them.
-/

namespace SyncLayer.Toml

/-- Read `n` decimal digits whose value satisfies a condition. -/
def boundedDigits? (n : Nat) (accepts : Nat → Bool) (s : List Char) : Option (Nat × List Char) := do
  let (ds, rest) ← exactDigits? n s
  let v := Decimal.value ds
  if accepts v then some (v, rest) else none

/-- Whether a year has a 29th of February. -/
def isLeapYear (year : Nat) : Bool :=
  year % 4 == 0 && (year % 100 != 0 || year % 400 == 0)

/-- The number of days in a month. -/
def daysInMonth (year month : Nat) : Nat :=
  if month = 2 then (if isLeapYear year then 29 else 28)
  else if month = 4 ∨ month = 6 ∨ month = 9 ∨ month = 11 then 30
  else 31

/-- Read a date. -/
def date? (s : List Char) : Option (List Char) := do
  let (year, s) ← boundedDigits? 4 (fun _ => true) s
  let s ← expect '-' s
  let (month, s) ← boundedDigits? 2 (fun m => 1 ≤ m && m ≤ 12) s
  let s ← expect '-' s
  let (_, s) ← boundedDigits? 2 (fun d => 1 ≤ d && d ≤ daysInMonth year month) s
  some s

/-- Read hours and minutes. -/
def hourMinute? (s : List Char) : Option (List Char) := do
  let (_, s) ← boundedDigits? 2 (· < 24) s
  let s ← expect ':' s
  let (_, s) ← boundedDigits? 2 (· < 60) s
  some s

/-- The text behind a point and digits, if they stand here. -/
def skipFraction : List Char → List Char
  | '.' :: c :: rest => if c.isDigit then rest.dropWhile Char.isDigit else '.' :: c :: rest
  | s => s

/-- Read a time of day. A minute may have a leap second. -/
def time? (s : List Char) : Option (List Char) := do
  let s ← hourMinute? s
  let s ← expect ':' s
  let (_, s) ← boundedDigits? 2 (· ≤ 60) s
  some (skipFraction s)

/-- Read an offset from universal time. -/
def offset? : List Char → Option (List Char)
  | c :: rest =>
    if c = 'Z' ∨ c = 'z' then some rest
    else if c = '+' ∨ c = '-' then hourMinute? rest
    else none
  | [] => none

/-- Read the time behind a date. -/
def timeOfDate? : List Char → Option (List Char)
  | c :: rest =>
    if c = 'T' ∨ c = 't' ∨ c = ' ' then (time? rest).map (fun s => (offset? s).getD s) else none
  | [] => none

/-- Read a date, a time or both. -/
def moment? (s : List Char) : Option (List Char) :=
  match date? s with
  | some rest => some ((timeOfDate? rest).getD rest)
  | none => time? s

end SyncLayer.Toml
