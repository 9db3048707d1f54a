/-!
# Dates and moments

A date of the Gregorian calendar in the years 1 to 9999, and a moment, which is a date with a time of
day to the microsecond and perhaps the distance of its clock from universal time. `Date.ofParts?` and
`Moment.ofParts?` accept only what a calendar and a clock can show. `toText` writes a value in the order
year, month, day, and `shown` as a message shows it.
-/

namespace RowGuard

/-- A number in decimal digits, with zeros before it up to a width. -/
def zeroPadded (width n : Nat) : String :=
  let digits := toString n
  "".pushn '0' (width - digits.length) ++ digits

/-- A day of the calendar. -/
structure Date where
  year : Nat
  month : Nat
  day : Nat
deriving DecidableEq, Inhabited

namespace Date

/-- Whether a year has a 29th of February. -/
def isLeap (year : Nat) : Bool :=
  year % 4 == 0 && (year % 100 != 0 || year % 400 == 0)

/-- The number of days in a month. -/
def daysIn (year month : Nat) : Nat :=
  if month = 2 then (if isLeap year then 29 else 28)
  else if month = 4 || month = 6 || month = 9 || month = 11 then 30
  else 31

/-- The day with these numbers, if there is one. -/
def ofParts? (year month day : Nat) : Option Date :=
  if 1 ≤ year && year ≤ 9999 && 1 ≤ month && month ≤ 12 && 1 ≤ day && day ≤ daysIn year month then
    some ⟨year, month, day⟩
  else none

/-- The number of days from the first of January of the year 1. -/
def ordinal (d : Date) : Nat :=
  let years := d.year - 1
  let months := (List.range (d.month - 1)).foldl (fun n m => n + daysIn d.year (m + 1)) 0
  365 * years + years / 4 - years / 100 + years / 400 + months + (d.day - 1)

/-- The date as plain text. -/
def toText (d : Date) : String :=
  zeroPadded 4 d.year ++ "-" ++ zeroPadded 2 d.month ++ "-" ++ zeroPadded 2 d.day

/-- The date as messages show it. -/
def shown (d : Date) : String :=
  s!"datetime.date({d.year}, {d.month}, {d.day})"

end Date

/-- A date with a time of day. `offset` is the distance from universal time in seconds, if known. -/
structure Moment where
  date : Date
  hour : Nat := 0
  minute : Nat := 0
  second : Nat := 0
  micro : Nat := 0
  offset : Option Int := none
deriving DecidableEq, Inhabited

namespace Moment

/-- The number of seconds in a day. -/
def dayLength : Int := 86400

/-- The moment with these numbers, if a clock can show it. Its distance from universal time is less
than a day. -/
def ofParts? (date : Date) (hour minute second micro : Nat) (offset : Option Int) : Option Moment :=
  if hour < 24 && minute < 60 && second < 60 && micro < 1000000 &&
      offset.all (fun o => -dayLength < o && o < dayLength) then
    some ⟨date, hour, minute, second, micro, offset⟩
  else none

/-- The microseconds from the beginning of the calendar, on the moment's own clock or, if its distance
is known, in universal time. -/
def instant (m : Moment) : Int :=
  let seconds : Int :=
    m.date.ordinal * dayLength + m.hour * 3600 + m.minute * 60 + m.second - m.offset.getD 0
  seconds * 1000000 + m.micro

/-- Whether two moments are the same instant. A moment without a known distance from universal time
differs from all that have one. -/
def same (a b : Moment) : Bool :=
  a.offset.isSome == b.offset.isSome && a.instant == b.instant

/-- A distance from universal time in hours and minutes. -/
def offsetText (offset : Int) : String :=
  let minutes := offset.natAbs / 60
  (if offset < 0 then "-" else "+") ++ zeroPadded 2 (minutes / 60) ++ ":" ++
    zeroPadded 2 (minutes % 60)

/-- The moment as plain text. -/
def toText (m : Moment) : String :=
  m.date.toText ++ " " ++ zeroPadded 2 m.hour ++ ":" ++ zeroPadded 2 m.minute ++ ":" ++
    zeroPadded 2 m.second ++ (if m.micro = 0 then "" else "." ++ zeroPadded 6 m.micro) ++
    (m.offset.map offsetText).getD ""

/-- A distance from universal time as messages show it: days, then seconds of a day. -/
def offsetShown (offset : Int) : String :=
  if offset = 0 then "datetime.timezone.utc"
  else
    let length :=
      if offset < 0 then
        s!"days=-1, seconds={offset + dayLength}"
      else s!"seconds={offset}"
    "datetime.timezone(datetime.timedelta(" ++ length ++ "))"

/-- The moment as messages show it. Seconds and microseconds are left out if they and all after them
are zero. -/
def shown (m : Moment) : String :=
  let small :=
    if m.micro ≠ 0 then [m.second, m.micro] else if m.second ≠ 0 then [m.second] else []
  let parts := [m.date.year, m.date.month, m.date.day, m.hour, m.minute] ++ small
  "datetime.datetime(" ++ ", ".intercalate (parts.map toString ++
    (m.offset.map fun o => "tzinfo=" ++ offsetShown o).toList) ++ ")"

theorem same_self (m : Moment) : m.same m = true := by
  simp [same]

theorem same_comm (a b : Moment) : a.same b = b.same a := by
  simp only [same, Bool.beq_comm]

end Moment

end RowGuard
