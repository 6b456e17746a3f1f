/-!
# Dates and times

Days of the calendar and times of the day, with or without an offset from
universal time, and their two texts: the plain one and the one that spells out
every part.
-/

namespace SignatureLint

structure Date where
  year : Nat
  month : Nat
  day : Nat
  deriving DecidableEq, Repr, Inhabited

structure TimeOfDay where
  hour : Nat
  minute : Nat
  second : Nat
  microsecond : Nat
  deriving DecidableEq, Repr, Inhabited

namespace Calendar

/-- A number filled up with zeros to a number of digits. -/
def padded (width value : Nat) : String :=
  let digits := toString value
  String.ofList (List.replicate (width - digits.length) '0') ++ digits

/-- A year with a twenty-ninth of February. -/
def isLeapYear (year : Nat) : Bool :=
  year % 4 = 0 && (year % 100 ≠ 0 || year % 400 = 0)

def daysOfMonth (year month : Nat) : Nat :=
  if month = 2 then (if isLeapYear year then 29 else 28)
  else if [4, 6, 9, 11].contains month then 30
  else 31

end Calendar

namespace Date

def isValid (date : Date) : Bool :=
  1 ≤ date.year && 1 ≤ date.month && date.month ≤ 12 && 1 ≤ date.day &&
    date.day ≤ Calendar.daysOfMonth date.year date.month

/-- The text of a day. -/
def display (date : Date) : String :=
  Calendar.padded 4 date.year ++ "-" ++ Calendar.padded 2 date.month ++ "-" ++
    Calendar.padded 2 date.day

def parts (date : Date) : List Nat :=
  [date.year, date.month, date.day]

/-- The day after a number of days from the first of January 1970.  Years are counted from March, so
that the odd day comes last, and in periods of four hundred years, which all have as many days. -/
def ofDays (days : Nat) : Date :=
  let shifted := days + 719468
  let period := shifted / 146097
  let inPeriod := shifted % 146097
  let year := (inPeriod - inPeriod / 1460 + inPeriod / 36524 - inPeriod / 146096) / 365
  let inYear := inPeriod - (365 * year + year / 4 - year / 100)
  let month := (5 * inYear + 2) / 153
  let day := inYear - (153 * month + 2) / 5 + 1
  if month < 10 then ⟨year + period * 400, month + 3, day⟩
  else ⟨year + period * 400 + 1, month - 9, day⟩

end Date

namespace TimeOfDay

def display (time : TimeOfDay) : String :=
  let whole := Calendar.padded 2 time.hour ++ ":" ++ Calendar.padded 2 time.minute ++ ":" ++
    Calendar.padded 2 time.second
  if time.microsecond = 0 then whole else whole ++ "." ++ Calendar.padded 6 time.microsecond

/-- The time after a number of microseconds from midnight. -/
def ofMicroseconds (count : Nat) : TimeOfDay :=
  let seconds := count / 1000000
  ⟨seconds / 3600 % 24, seconds / 60 % 60, seconds % 60, count % 1000000⟩

/-- The parts of a time, without seconds and their fraction if these are zero. -/
def parts (time : TimeOfDay) : List Nat :=
  if time.microsecond ≠ 0 then [time.hour, time.minute, time.second, time.microsecond]
  else if time.second ≠ 0 then [time.hour, time.minute, time.second]
  else [time.hour, time.minute]

end TimeOfDay

namespace Calendar

/-- An offset in minutes, as hours and minutes. -/
def displayOffset (offset : Int) : String :=
  let sign := if offset < 0 then "-" else "+"
  sign ++ padded 2 (offset.natAbs / 60) ++ ":" ++ padded 2 (offset.natAbs % 60)

/-- An offset in minutes, spelled out as whole days and seconds. -/
def spellOffset (offset : Int) : String :=
  if offset = 0 then "datetime.timezone.utc"
  else
    let seconds := offset * 60
    let days := Int.fdiv seconds 86400
    let rest := Int.fmod seconds 86400
    let parts := (if days = 0 then [] else [s!"days={days}"]) ++
      (if rest = 0 then [] else [s!"seconds={rest}"])
    "datetime.timezone(datetime.timedelta(" ++ String.intercalate ", " parts ++ "))"

end Calendar

end SignatureLint
