import ApiModels.Number.Shortest

/-!
# Dates and times

A `Moment` is a date, a time of day, or both, then perhaps with an offset. `readMoment` reads one
from the start of a text, `Moment.ofText?` one that is all of a text; `Moment.text` is its normal
form, with a `T` between date and time and as many decimals of the second as are needed.
-/

namespace ApiModels.Toml

/-- A reader takes the text that is left and gives back a value and the text after it. -/
abbrev Reader (α : Type) := List Char → Option (α × List Char)

/-- Whether a character is a decimal digit. -/
def isDigit (c : Char) : Bool := '0' ≤ c && c ≤ '9'

/-- The number that decimal digits write. -/
def digitsValue (ds : List Char) : Nat := ds.foldl (fun n d => n * 10 + (d.toNat - 48)) 0

/-- A day of the calendar. -/
structure Date where
  year : Nat
  month : Nat
  day : Nat
  deriving DecidableEq, Repr

/-- A time of day. -/
structure ClockTime where
  hour : Nat
  minute : Nat
  second : Nat
  nanosecond : Nat
  deriving DecidableEq, Repr

/-- The distance from universal time. -/
inductive Offset where
  | universal
  | minutes (ahead : Int)
  deriving DecidableEq, Repr

/-- A point in time, as far as it is given. -/
inductive Moment where
  | date (date : Date)
  | time (time : ClockTime)
  | both (date : Date) (time : ClockTime) (offset : Option Offset)
  deriving DecidableEq, Repr

/-! ### Reading -/

/-- A number of exactly `width` digits, at most `most`. -/
def fixedNumber (width least most : Nat) : Reader Nat := fun cs =>
  let digits := cs.take width
  if digits.length = width ∧ digits.all isDigit then
    let n := digitsValue digits
    if least ≤ n ∧ n ≤ most then some (n, cs.drop width) else none
  else none

/-- The text after a character that has to follow. -/
def expect (c : Char) : List Char → Option (List Char)
  | d :: rest => if d = c then some rest else none
  | [] => none

/-- Whether a year has a 29th of February. -/
def isLeapYear (year : Nat) : Bool := year % 4 == 0 && (year % 100 != 0 || year % 400 == 0)

/-- The number of days of a month. -/
def daysOfMonth (year month : Nat) : Nat :=
  if month = 2 then if isLeapYear year then 29 else 28
  else if month = 4 ∨ month = 6 ∨ month = 9 ∨ month = 11 then 30
  else 31

/-- A date. -/
def readDate : Reader Date := fun cs => do
  let (year, cs) ← fixedNumber 4 0 9999 cs
  let cs ← expect '-' cs
  let (month, cs) ← fixedNumber 2 1 12 cs
  let cs ← expect '-' cs
  let (day, cs) ← fixedNumber 2 1 (daysOfMonth year month) cs
  return (⟨year, month, day⟩, cs)

/-- The nanoseconds that the decimals of a second give; only nine decimals count. -/
def nanoseconds (decimals : List Char) : Nat :=
  let counted := decimals.take 9
  digitsValue counted * Nat.pow 10 (9 - counted.length)

/-- The decimals of a second, if a point and a digit follow. -/
def readDecimals : List Char → Nat × List Char
  | '.' :: cs =>
    let decimals := cs.takeWhile isDigit
    if decimals.isEmpty then (0, '.' :: cs) else (nanoseconds decimals, cs.dropWhile isDigit)
  | cs => (0, cs)

/-- A time of day. -/
def readTime : Reader ClockTime := fun cs => do
  let (hour, cs) ← fixedNumber 2 0 23 cs
  let cs ← expect ':' cs
  let (minute, cs) ← fixedNumber 2 0 59 cs
  let cs ← expect ':' cs
  let (second, cs) ← fixedNumber 2 0 60 cs
  let (nanosecond, cs) := readDecimals cs
  return (⟨hour, minute, second, nanosecond⟩, cs)

/-- The hours and minutes of an offset, in minutes. -/
def readOffsetMinutes : Reader Nat := fun cs => do
  let (hour, cs) ← fixedNumber 2 0 23 cs
  let cs ← expect ':' cs
  let (minute, cs) ← fixedNumber 2 0 59 cs
  return (hour * 60 + minute, cs)

/-- An offset, if its first character follows. -/
def readOffset : Reader (Option Offset)
  | 'Z' :: cs => some (some .universal, cs)
  | 'z' :: cs => some (some .universal, cs)
  | '+' :: cs => (readOffsetMinutes cs).map fun (n, cs) => (some (.minutes n), cs)
  | '-' :: cs => (readOffsetMinutes cs).map fun (n, cs) => (some (.minutes (-n)), cs)
  | cs => some (none, cs)

/-- Whether a character may stand between a date and a time. -/
def isDateEnd (c : Char) : Bool := c == 'T' || c == 't' || c == ' '

/-- What follows a date: a time with an optional offset, or something else. -/
def afterDate (date : Date) (cs : List Char) : Option (Moment × List Char) :=
  match cs with
  | c :: rest =>
    if isDateEnd c then
      match readTime rest with
      | some (time, rest) =>
        (readOffset rest).map fun (offset, rest) => (.both date time offset, rest)
      | none => some (.date date, cs)
    else some (.date date, cs)
  | [] => some (.date date, [])

/-- A point in time. -/
def readMoment : Reader Moment := fun cs =>
  match readDate cs with
  | some (date, cs) => afterDate date cs
  | none => (readTime cs).map fun (time, cs) => (.time time, cs)

/-- The point in time that is all of a text. -/
def Moment.ofText? (s : String) : Option Moment :=
  match readMoment s.toList with
  | some (moment, []) => some moment
  | _ => none

/-! ### Writing -/

/-- A number with zeros before it up to the given width. -/
def padded (width n : Nat) : List Char :=
  let ds := Number.natDigits n
  List.replicate (width - ds.length) '0' ++ ds

/-- The text of a date. -/
def Date.text (d : Date) : List Char :=
  padded 4 d.year ++ '-' :: padded 2 d.month ++ '-' :: padded 2 d.day

/-- The text of a time of day. -/
def ClockTime.text (t : ClockTime) : List Char :=
  padded 2 t.hour ++ ':' :: padded 2 t.minute ++ ':' :: padded 2 t.second ++
    if t.nanosecond = 0 then []
    else '.' :: ((padded 9 t.nanosecond).reverse.dropWhile (· == '0')).reverse

/-- The text of an offset. -/
def Offset.text : Offset → List Char
  | .universal => ['Z']
  | .minutes ahead =>
    (if ahead < 0 then '-' else '+') :: padded 2 (ahead.natAbs / 60) ++ ':' ::
      padded 2 (ahead.natAbs % 60)

/-- The text of a point in time. -/
def Moment.text : Moment → String
  | .date d => String.ofList d.text
  | .time t => String.ofList t.text
  | .both d t offset =>
    String.ofList (d.text ++ 'T' :: t.text ++ (offset.map Offset.text).getD [])

example : ((readMoment "1979-05-27 07:32:00.120-00:30 x".toList).map fun (m, _) => m.text) =
    some "1979-05-27T07:32:00.12-00:30" := by decide +kernel
example : readMoment "2023-02-29".toList = none := by decide +kernel
example : Moment.ofText? "24:00:00" = none := by decide +kernel
example : (Moment.ofText? "2000-02-29 00:00:60+23:59").map Moment.text =
    some "2000-02-29T00:00:60+23:59" := by decide +kernel

end ApiModels.Toml
