import ImageBuild.Decimal.Signed

/-!
# Timestamps

A timestamp is a date and a time of day with an offset, as RFC 3339 writes it.
Its seconds count from the start of 1970; a leap second counts as the one before.
-/
namespace ImageBuild

structure Timestamp where
  year : Nat
  month : Nat
  day : Nat
  hour : Nat
  minute : Nat
  second : Nat
  /-- How many minutes the time is ahead. -/
  offset : Int
  deriving DecidableEq, Repr

namespace Timestamp

def isLeapYear (year : Nat) : Bool := year % 4 = 0 && (year % 100 ≠ 0 || year % 400 = 0)

def daysInMonth (year month : Nat) : Nat :=
  if month = 2 then (if isLeapYear year then 29 else 28)
  else if month = 4 ∨ month = 6 ∨ month = 9 ∨ month = 11 then 30
  else 31

/-- The days before a year, from the year zero. -/
def daysBeforeYear : Nat → Nat
  | 0 => 0
  | year + 1 => daysBeforeYear year + (if isLeapYear year then 366 else 365)

/-- The days of a year before a month. -/
def daysBeforeMonth (year : Nat) : Nat → Nat
  | 0 => 0
  | 1 => 0
  | month + 1 => daysBeforeMonth year month + daysInMonth year month

/-- The days before 1970. -/
def epochDays : Nat := 719528

/-- The seconds from the start of 1970. -/
def seconds (t : Timestamp) : Int :=
  let days : Int := daysBeforeYear t.year + daysBeforeMonth t.year t.month + (t.day - 1) - epochDays
  ((days * 24 + t.hour) * 60 + t.minute - t.offset) * 60 + min t.second 59

/-- A number of a fixed count of digits. -/
def readNumber (count : Nat) (cs : List Char) : Option (Nat × List Char) :=
  let ds := cs.take count
  if ds.length = count ∧ ds.all Char.isDigit then some (Nat.ofDigitChars 10 ds 0, cs.drop count)
  else none

/-- One character. -/
def readChar (c : Char) (cs : List Char) : Option (List Char) :=
  if cs.head? = some c then some (cs.drop 1) else none

/-- Three numbers with a separator between them. -/
def readTriple (width : Nat) (separator : Char) (cs : List Char) :
    Option ((Nat × Nat × Nat) × List Char) := do
  let (a, cs) ← readNumber width cs
  let (b, cs) ← readNumber 2 (← readChar separator cs)
  let (c, cs) ← readNumber 2 (← readChar separator cs)
  return ((a, b, c), cs)

/-- A fraction of a second, which is passed over. -/
def readFraction : List Char → Option (List Char)
  | '.' :: cs => if cs.head?.any Char.isDigit then some (cs.dropWhile Char.isDigit) else none
  | cs => some cs

/-- Hours and minutes of an offset. -/
def readHours (cs : List Char) : Option Nat := do
  let (hours, cs) ← readNumber 2 cs
  let (minutes, cs) ← readNumber 2 (← readChar ':' cs)
  if cs = [] ∧ hours < 24 ∧ minutes < 60 then some (60 * hours + minutes) else none

/-- The offset at the end of a timestamp. -/
def readOffset : List Char → Option Int
  | ['Z'] => some 0
  | ['z'] => some 0
  | '+' :: cs => (readHours cs).map Int.ofNat
  | '-' :: cs => (readHours cs).map fun n => -(n : Int)
  | '\u2212' :: cs => (readHours cs).map fun n => -(n : Int)
  | _ => none

/-- Whether the fields of a timestamp are in range. -/
def isValid (t : Timestamp) : Bool :=
  1 ≤ t.month && t.month ≤ 12 && 1 ≤ t.day && t.day ≤ daysInMonth t.year t.month &&
    t.hour < 24 && t.minute < 60 && t.second ≤ 60

/-- The timestamp of a text. -/
def parse? (s : String) : Option Timestamp := do
  let ((year, month, day), rest) ← readTriple 4 '-' s.toList
  let rest ← if ['T', 't', ' '].any (rest.head? = some ·) then some (rest.drop 1) else none
  let ((hour, minute, second), rest) ← readTriple 2 ':' rest
  let offset ← readOffset (← readFraction rest)
  let t : Timestamp := ⟨year, month, day, hour, minute, second, offset⟩
  if t.isValid then some t else none

end Timestamp

end ImageBuild
