import InstrumentRelay.Time.Calendar

/-!
# Timestamps

A packet carries the time as a 32.32 fixed-point number: the high half counts the seconds since the
start of the year 1900, the low half is a binary fraction of a second. Points in time come as
seconds of the Unix era with nanoseconds, and the nanoseconds of the last second of a minute may
run to two seconds: that is how a leap second is written.

Two grids meet here, of `2 ^ 32` and of `10 ^ 9` points a second, and both directions cut off what
does not fit. The fraction is joined to the seconds bit by bit, not added. For a time in a leap
second the fraction has a thirty-third bit, which therefore falls onto the last bit of the seconds.
-/

namespace InstrumentRelay

/-! ## Points in time -/

/-- The first second of the calendar, the start of the year -262143, in seconds of the Unix era. -/
def UtcTime.firstSecond : Int := -8334601228800

/-- The last second of the calendar, the end of the year 262142. -/
def UtcTime.lastSecond : Int := 8210266876799

/-- A point in time, to the nanosecond. -/
structure UtcTime where
  /-- Seconds of the Unix era, negative before 1970. -/
  seconds : Int
  /-- Nanoseconds into the second. -/
  nanos : Nat
  /-- The second lies in the calendar. -/
  inRange : UtcTime.firstSecond ≤ seconds ∧ seconds ≤ UtcTime.lastSecond
  /-- Nanoseconds beyond one second only where a leap second can be. -/
  subsecond : nanos < 1000000000 ∨ (nanos < 2000000000 ∧ seconds % 60 = 59)
  deriving DecidableEq

namespace UtcTime

/-- The point in time with these seconds and nanoseconds, if there is one. -/
def ofUnix? (seconds : Int) (nanos : Nat) : Option UtcTime :=
  if h : (firstSecond ≤ seconds ∧ seconds ≤ lastSecond) ∧
      (nanos < 1000000000 ∨ (nanos < 2000000000 ∧ seconds % 60 = 59)) then
    some ⟨seconds, nanos, h.1, h.2⟩
  else none

/-- Points in time are ordered by their seconds, then by their nanoseconds. -/
def Le (s t : UtcTime) : Prop :=
  s.seconds < t.seconds ∨ (s.seconds = t.seconds ∧ s.nanos ≤ t.nanos)

end UtcTime

/-! ## Fixed-point time -/

/-- Seconds since 1900 in the high half, a binary fraction of a second in the low half. -/
structure Timestamp where
  /-- The sixty-four bits. -/
  bits : UInt64
  deriving DecidableEq, Repr, Inhabited

namespace Timestamp

/-- Seconds from the start of the year 1900 to the start of the Unix era. -/
def eraOffset : Nat := 2208988800

/-- Full seconds since 1900. -/
def seconds (t : Timestamp) : Nat := t.bits.toNat / 0x100000000

/-- The binary fraction of a second, in units of `2 ^ (-32)`. -/
def fraction (t : Timestamp) : Nat := t.bits.toNat % 0x100000000

theorem seconds_lt (t : Timestamp) : t.seconds < 0x100000000 := by
  have := t.bits.toNat_lt
  unfold seconds
  omega

theorem fraction_lt (t : Timestamp) : t.fraction < 0x100000000 := by
  unfold fraction
  omega

/-- The timestamp of a point in time. Times before 1900 count as its first second, and seconds
beyond thirty-two bits start over. -/
def ofUtc (time : UtcTime) : Timestamp :=
  let seconds := (time.seconds + eraOffset).toNat
  let fraction := time.nanos * 0x100000000 / 1000000000
  ⟨(seconds * 0x100000000).toUInt64 ||| fraction.toUInt64⟩

/-- The nanoseconds of the fraction. -/
def nanos (t : Timestamp) : Nat := t.fraction * 1000000000 / 0x100000000

theorem nanos_lt (t : Timestamp) : t.nanos < 1000000000 := by
  have := t.fraction_lt
  unfold nanos
  omega

/-- The point in time, to the nanosecond below. -/
def toUtc (t : Timestamp) : UtcTime where
  seconds := (t.seconds : Int) - eraOffset
  nanos := t.nanos
  inRange := by
    have := t.seconds_lt
    simp only [UtcTime.firstSecond, UtcTime.lastSecond, eraOffset]
    omega
  subsecond := .inl t.nanos_lt

/-- The date and time of day, cut to microseconds. -/
def text (t : Timestamp) : List Char := Calendar.stampText t.seconds (t.nanos / 1000)

end Timestamp

end InstrumentRelay
