import RelQuery.Query.Basic

/-!
# Dates and times

Dates of the Gregorian calendar, carried back before its start, and times of the
day.  A date or a moment enters a query as its text.

* A year has at least four digits.  It has a sign when it is negative or has
  more than four.  Years are bounded on both sides.
* A time has seconds, and perhaps stands in the leap second after them.  Its
  text then counts one second more.
* A local time is `offset` seconds ahead of universal time, less than a day
  either way, and only its universal time is written.
-/

namespace RelQuery

/-! ## Dates -/

/-- The years that dates may have. -/
def firstYear : Int := -262143

/-- The last of the years that dates may have. -/
def lastYear : Int := 262142

/-- Whether a year has a 29th of February. -/
def isLeapYear (year : Int) : Bool := year % 4 = 0 && (year % 100 ≠ 0 || year % 400 = 0)

/-- The number of days of a month. -/
def daysIn (year : Int) (month : Nat) : Nat :=
  if month = 2 then if isLeapYear year then 29 else 28
  else if month = 4 ∨ month = 6 ∨ month = 9 ∨ month = 11 then 30
  else 31

/-- Whether three numbers are a date. -/
def IsDate (year : Int) (month day : Nat) : Prop :=
  firstYear ≤ year ∧ year ≤ lastYear ∧ 1 ≤ month ∧ month ≤ 12 ∧ 1 ≤ day ∧ day ≤ daysIn year month

instance (year : Int) (month day : Nat) : Decidable (IsDate year month day) :=
  inferInstanceAs (Decidable (_ ∧ _ ∧ _ ∧ _ ∧ _ ∧ _))

/-- A date. -/
structure Date where
  /-- The year. -/
  year : Int
  /-- The month, from one. -/
  month : Nat
  /-- The day, from one. -/
  day : Nat
  /-- The three are a date. -/
  isDate : IsDate year month day

namespace Date

/-- The date of three numbers. -/
def ofParts? (year : Int) (month day : Nat) : Option Date :=
  if h : IsDate year month day then some ⟨year, month, day, h⟩ else none

/-- The day after. -/
def next? (d : Date) : Option Date :=
  if d.day < daysIn d.year d.month then ofParts? d.year d.month (d.day + 1)
  else if d.month < 12 then ofParts? d.year (d.month + 1) 1
  else ofParts? (d.year + 1) 1 1

/-- The day before. -/
def previous? (d : Date) : Option Date :=
  if 1 < d.day then ofParts? d.year d.month (d.day - 1)
  else if 1 < d.month then ofParts? d.year (d.month - 1) (daysIn d.year (d.month - 1))
  else ofParts? (d.year - 1) 12 31

end Date

/-! ## Times -/

/-- A time of the day. -/
structure Time where
  /-- The seconds since midnight. -/
  seconds : Nat
  /-- Whether the time lies in the leap second after them. -/
  leap : Bool
  deriving DecidableEq, Repr

/-- The time of a clock.  The milliseconds of a leap second count on from one
thousand, and only a full minute has one. -/
def Time.ofParts? (hour minute second millisecond : Nat) : Option Time :=
  if hour < 24 ∧ minute < 60 ∧ second < 60 ∧
      (millisecond < 1000 ∨ millisecond < 2000 ∧ second = 59) then
    some ⟨(hour * 60 + minute) * 60 + second, decide (1000 ≤ millisecond)⟩
  else none

/-- A date with a time. -/
structure Moment where
  /-- The date. -/
  date : Date
  /-- The time. -/
  time : Time

/-- The universal time of a local time that is `offset` seconds ahead of it. -/
def Moment.toUniversal? (m : Moment) (offset : Int) : Option Moment :=
  if offset.natAbs < 86400 then
    let shifted : Int := m.time.seconds - offset
    let time : Time := ⟨(shifted % 86400).toNat, m.time.leap⟩
    let date :=
      if shifted < 0 then m.date.previous?
      else if 86400 ≤ shifted then m.date.next?
      else some m.date
    date.map fun date => ⟨date, time⟩
  else none

/-! ## Texts -/

/-- A number with zeros before it up to a width. -/
def zeroPadded (width n : Nat) : List Char :=
  let digits := Nat.toDigits 10 n
  List.replicate (width - digits.length) '0' ++ digits

/-- The text of a year. -/
def yearText (year : Int) : List Char :=
  (if year < 0 then ['-'] else if 9999 < year then ['+'] else []) ++ zeroPadded 4 year.natAbs

/-- The text of a date. -/
def Date.toText (d : Date) : String :=
  String.ofList (yearText d.year ++ '-' :: zeroPadded 2 d.month ++ '-' :: zeroPadded 2 d.day)

/-- The text of a time. -/
def Time.toText (t : Time) : String :=
  let second := t.seconds % 60 + if t.leap then 1 else 0
  String.ofList
    (zeroPadded 2 (t.seconds / 3600) ++ ':' :: zeroPadded 2 (t.seconds / 60 % 60)
      ++ ':' :: zeroPadded 2 second)

/-- The text of a moment. -/
def Moment.toText (m : Moment) : String := m.date.toText ++ " " ++ m.time.toText

/-- The value of a date. -/
def Value.ofDate (d : Date) : Value := .string d.toText

/-- The value of a moment. -/
def Value.ofMoment (m : Moment) : Value := .string m.toText

/-! ## Checks -/

/-- The text of the universal time of a date and a clock. -/
def universalText (year : Int) (month day hour minute second millisecond : Nat) (offset : Int) :
    Option String := do
  let date ← Date.ofParts? year month day
  let time ← Time.ofParts? hour minute second millisecond
  return (← Moment.toUniversal? ⟨date, time⟩ offset).toText

example : universalText 2024 3 1 0 15 30 0 3600 = some "2024-02-29 23:15:30" := by decide +kernel

example : universalText 9999 12 31 23 59 59 1500 (-1) = some "+10000-01-01 00:00:01" := by
  decide +kernel

example : (Date.ofParts? (-1) 12 31).map Date.toText = some "-0001-12-31" ∧
    (Date.ofParts? 1900 2 29).isNone = true := by
  decide +kernel

end RelQuery
