/-!
# The civil calendar

Instants are counted in seconds; people and log files want a date. The conversion walks the
calendar: whole years are taken off a day number until it lies inside one, then whole months. The
walk is a few hundred steps for the range that timestamps cover, and it is the definition of the
calendar itself, so that nothing has to be shown about magic divisors.

A time of day is written to the microsecond; what is finer is cut off.
-/

namespace InstrumentRelay

namespace Calendar

/-- Every fourth year is a leap year, except the centuries that 400 does not divide. -/
def isLeap (year : Nat) : Bool := year % 4 == 0 && (year % 100 != 0 || year % 400 == 0)

/-- The number of days of a year. -/
def yearLength (year : Nat) : Nat := if isLeap year then 366 else 365

theorem yearLength_pos (year : Nat) : 0 < yearLength year := by
  unfold yearLength
  split <;> decide

/-- The lengths of the months of a year. -/
def monthLengths (year : Nat) : List Nat :=
  [31, if isLeap year then 29 else 28, 31, 30, 31, 30, 31, 31, 30, 31, 30, 31]

/-- The year in which the day lies that is `day` days after the first of `year`, and its number in
that year, from zero. -/
def yearOf (year day : Nat) : Nat × Nat :=
  if day < yearLength year then (year, day) else yearOf (year + 1) (day - yearLength year)
termination_by day
decreasing_by
  have := yearLength_pos year
  omega

/-- The month, numbered from `month`, and the day of that month, numbered from one. -/
def monthOf (month : Nat) : List Nat → Nat → Nat × Nat
  | [], day => (month, day + 1)
  | length :: rest, day =>
    if day < length then (month, day + 1) else monthOf (month + 1) rest (day - length)

/-- A date of the civil calendar. -/
structure Date where
  /-- The year. -/
  year : Nat
  /-- The month, from one. -/
  month : Nat
  /-- The day of the month, from one. -/
  day : Nat
  deriving DecidableEq, Repr

/-- The date `day` days after the first of January 1900. -/
def Date.ofDay (day : Nat) : Date :=
  let inYear := yearOf 1900 day
  let inMonth := monthOf 1 (monthLengths inYear.1) inYear.2
  ⟨inYear.1, inMonth.1, inMonth.2⟩

/-- A number with zeros in front, in at least `width` digits. -/
def padded (width n : Nat) : List Char :=
  let digits := Nat.toDigits 10 n
  List.replicate (width - digits.length) '0' ++ digits

/-- The form `1900-01-01T00:00:07.250000Z` of the instant `seconds` and `micros` microseconds after
the start of the year 1900. -/
def stampText (seconds micros : Nat) : List Char :=
  let date := Date.ofDay (seconds / 86400)
  let clock := seconds % 86400
  padded 4 date.year ++ ['-'] ++ padded 2 date.month ++ ['-'] ++ padded 2 date.day ++ ['T']
    ++ padded 2 (clock / 3600) ++ [':'] ++ padded 2 (clock / 60 % 60) ++ [':']
    ++ padded 2 (clock % 60) ++ ['.'] ++ padded 6 micros ++ ['Z']

end Calendar

end InstrumentRelay
