import PromptLoop.Number.Decimal
import PromptLoop.Reader

/-!
# Dates and times

A moment is a day of the calendar, a time of day, or both. With both, it may say how far its clock is
ahead of universal time. Only days that the calendar has are days; a minute may end with a leap second.

`Moment.read?` reads one as TOML writes it, `1979-05-27T07:32:00.5-07:00`. A blank may stand for the `T`, and
both letters may be small.
-/

namespace PromptLoop

/-- A day of the calendar. -/
structure Day where
  /-- The year. -/
  year : Nat
  /-- The month, from one. -/
  month : Nat
  /-- The day of the month, from one. -/
  day : Nat
  deriving DecidableEq, Repr

/-- A time of day. -/
structure Clock where
  /-- The hour. -/
  hour : Nat
  /-- The minute. -/
  minute : Nat
  /-- The second. -/
  second : Nat
  /-- The digits of the fraction of a second. -/
  fraction : List Char
  deriving DecidableEq, Repr

/-- A date, a time or both. -/
inductive Moment where
  /-- A day. -/
  | day (d : Day)
  /-- A time of day. -/
  | clock (c : Clock)
  /-- A day and a time, with the minutes that the clock is ahead of universal time if they are known. -/
  | both (d : Day) (c : Clock) (ahead : Option Int)
  deriving DecidableEq, Repr

/-- Reads a number of a fixed width that lies between two others. -/
def numeralBetween (width low high : Nat) : Reader Char Nat := fun text => do
  let (digits, rest) ← Reader.take width text
  let n := natOfDigits digits
  if digits.all Char.isDigit ∧ low ≤ n ∧ n ≤ high then return (n, rest) else none

namespace Day

/-- Whether February has a twenty-ninth day. -/
def isLeap (year : Nat) : Bool := year % 4 = 0 && (year % 100 ≠ 0 || year % 400 = 0)

/-- The number of days of a month. -/
def daysOf (year month : Nat) : Nat :=
  match month with
  | 2 => if isLeap year then 29 else 28
  | 4 | 6 | 9 | 11 => 30
  | _ => 31

/-- Reads a day. -/
def read? : Reader Char Day := fun text => do
  let (year, rest) ← numeralBetween 4 0 9999 text
  let rest ← Reader.expect? '-' rest
  let (month, rest) ← numeralBetween 2 1 12 rest
  let rest ← Reader.expect? '-' rest
  let (day, rest) ← numeralBetween 2 1 (daysOf year month) rest
  return (⟨year, month, day⟩, rest)

end Day

namespace Clock

/-- Reads the fraction of a second, if there is one. -/
def fractionOf (text : List Char) : List Char × List Char :=
  match text with
  | '.' :: c :: rest =>
    if c.isDigit then (c :: rest.takeWhile Char.isDigit, rest.dropWhile Char.isDigit) else ([], text)
  | _ => ([], text)

/-- Reads a time of day. -/
def read? : Reader Char Clock := fun text => do
  let (hour, rest) ← numeralBetween 2 0 23 text
  let rest ← Reader.expect? ':' rest
  let (minute, rest) ← numeralBetween 2 0 59 rest
  let rest ← Reader.expect? ':' rest
  let (second, rest) ← numeralBetween 2 0 60 rest
  let (fraction, rest) := fractionOf rest
  return (⟨hour, minute, second, fraction⟩, rest)

/-- Reads hours and minutes as minutes. -/
def minutes? : Reader Char Int := fun text => do
  let (hours, rest) ← numeralBetween 2 0 23 text
  let rest ← Reader.expect? ':' rest
  let (minutes, rest) ← numeralBetween 2 0 59 rest
  return (60 * hours + minutes, rest)

/-- Reads how far a clock is ahead of universal time, if the text says so. -/
def ahead? : Reader Char (Option Int)
  | 'Z' :: rest | 'z' :: rest => some (some 0, rest)
  | '+' :: rest => (minutes? rest).map fun (minutes, rest) => (some minutes, rest)
  | '-' :: rest => (minutes? rest).map fun (minutes, rest) => (some (-minutes), rest)
  | rest => some (none, rest)

/-- Reads the time that follows a day. -/
def afterDay? : Reader Char Clock
  | 'T' :: rest | 't' :: rest | ' ' :: rest => read? rest
  | _ => none

end Clock

namespace Moment

/-- Reads a moment. -/
def read? : Reader Char Moment := fun text =>
  match Day.read? text with
  | none => (Clock.read? text).map fun (c, rest) => (.clock c, rest)
  | some (d, afterDay) =>
    match Clock.afterDay? afterDay with
    | none => some (.day d, afterDay)
    | some (c, rest) => (Clock.ahead? rest).map fun (ahead, rest) => (.both d c ahead, rest)

end Moment

end PromptLoop
