/-!
# Dates and times

A `Date` is a day of the calendar, a `Moment` a date with a time of day and
perhaps an offset from universal time.  Both are built by functions that refuse
impossible parts and say which part is impossible, in the order year, month, day,
hour, minute, second.  Two moments with offsets are the same when they are the
same instant.
-/

namespace Palette

/-- Which part of a date or time is impossible. -/
inductive CalendarFault where
  | year (year : Nat)
  | month
  | day
  | hour
  | minute
  | second
  /-- An offset of a whole day or more, in minutes. -/
  | offset (minutes : Int)
  deriving DecidableEq, Repr

/-- A day of the calendar. -/
structure Date where
  year : Nat
  month : Nat
  day : Nat
  deriving DecidableEq, Repr

/-- A time of a day.  The offset is in minutes east of universal time. -/
structure Moment where
  date : Date
  hour : Nat
  minute : Nat
  second : Nat
  microsecond : Nat
  offset : Option Int
  deriving DecidableEq, Repr

namespace Date

/-- Whether a year has a leap day. -/
def isLeap (year : Nat) : Bool :=
  year % 4 == 0 && (year % 100 != 0 || year % 400 == 0)

/-- The number of days of a month. -/
def daysIn (year month : Nat) : Nat :=
  if month = 2 then (if isLeap year then 29 else 28)
  else if month = 4 ∨ month = 6 ∨ month = 9 ∨ month = 11 then 30
  else 31

/-- The date with the given parts. -/
def ofParts (year month day : Nat) : Except CalendarFault Date :=
  if year < 1 ∨ 9999 < year then .error (.year year)
  else if month < 1 ∨ 12 < month then .error .month
  else if day < 1 ∨ daysIn year month < day then .error .day
  else .ok ⟨year, month, day⟩

/-- The number of days since the first day of a year zero. -/
def dayNumber (date : Date) : Int :=
  let before := date.year - 1
  let monthDays :=
    (List.range (date.month - 1)).foldl (fun days month => days + daysIn date.year (month + 1)) 0
  (365 * before + before / 4 - before / 100 + before / 400 + monthDays + date.day : Nat)

end Date

namespace Moment

/-- The moment with the given parts. -/
def ofParts (year month day hour minute second microsecond : Nat) (offset : Option Int) :
    Except CalendarFault Moment := do
  if let some minutes := offset then
    if minutes ≤ -1440 ∨ 1440 ≤ minutes then throw (.offset minutes)
  let date ← Date.ofParts year month day
  if 23 < hour then throw .hour
  if 59 < minute then throw .minute
  if 59 < second then throw .second
  return ⟨date, hour, minute, second, microsecond, offset⟩

/-- The microseconds from a fixed instant, on the clock that the moment shows. -/
def clock (moment : Moment) : Int :=
  (((moment.date.dayNumber * 24 + moment.hour) * 60 + moment.minute) * 60 + moment.second) *
    1000000 + moment.microsecond

/-- Whether two moments are the same.  Without offsets they must show the same
clock, with offsets be the same instant; a moment with and one without never are
the same. -/
def same (left right : Moment) : Bool :=
  match left.offset, right.offset with
  | none, none => left.clock == right.clock
  | some first, some second =>
    left.clock - first * 60000000 == right.clock - second * 60000000
  | _, _ => false

end Moment

/-! ## Texts -/

/-- A number, filled up to `width` digits with zeros. -/
def padded (width value : Nat) : String :=
  let digits := Nat.toDigits 10 value
  String.ofList (List.replicate (width - digits.length) '0' ++ digits)

/-- Year, month and day, with hyphens between them. -/
def Date.text (date : Date) : String :=
  padded 4 date.year ++ "-" ++ padded 2 date.month ++ "-" ++ padded 2 date.day

/-- Date and time with `separator` between them; fractions of a second and the
offset only where there are any. -/
def Moment.text (separator : String) (moment : Moment) : String :=
  let fraction := if moment.microsecond = 0 then "" else "." ++ padded 6 moment.microsecond
  let offset :=
    match moment.offset with
    | none => ""
    | some minutes =>
      (if minutes < 0 then "-" else "+") ++ padded 2 (minutes.natAbs / 60) ++ ":" ++
        padded 2 (minutes.natAbs % 60)
  moment.date.text ++ separator ++ padded 2 moment.hour ++ ":" ++ padded 2 moment.minute ++ ":" ++
    padded 2 moment.second ++ fraction ++ offset

/-- An offset of a whole day or more as a length of time: whole days, rounded down, and
the seconds left over. -/
def offsetLength (minutes : Int) : String :=
  let days := minutes / 1440
  let seconds := minutes % 1440 * 60
  let dayPart := if days = 0 then "" else "days=" ++ toString days
  let secondPart := if seconds = 0 then "" else "seconds=" ++ toString seconds
  let between := if dayPart = "" ∨ secondPart = "" then "" else ", "
  "datetime.timedelta(" ++ dayPart ++ between ++ secondPart ++ ")"

/-- The wording of a fault. -/
def CalendarFault.message : CalendarFault → String
  | .year number => "year " ++ toString number ++ " is out of range"
  | .month => "month must be in 1..12"
  | .day => "day is out of range for month"
  | .hour => "hour must be in 0..23"
  | .minute => "minute must be in 0..59"
  | .second => "second must be in 0..59"
  | .offset minutes =>
    "offset must be a timedelta strictly between -timedelta(hours=24) and " ++
      "timedelta(hours=24), not " ++ offsetLength minutes ++ "."

/-! ## Interface lemmas -/

/-- A date that could be built has a month between one and twelve. -/
theorem Date.month_le_of_ofParts {year month day : Nat} {date : Date}
    (hdate : Date.ofParts year month day = .ok date) : 1 ≤ date.month ∧ date.month ≤ 12 := by
  unfold Date.ofParts at hdate
  split at hdate
  · simp at hdate
  · split at hdate
    · simp at hdate
    · split at hdate
      · simp at hdate
      · simp only [Except.ok.injEq] at hdate
        subst hdate
        simp only
        omega

end Palette
