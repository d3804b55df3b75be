/-!
# Durations

A span of time is a whole number of nanoseconds, of at most `2 ^ 64 - 1` full seconds. The bound is
part of the type, because the one operation that can leave the range, doubling, has to say so
(`Duration.double?`). A duration is written in the largest unit that gives it a whole part, with
as many decimals as it needs.

Whoever waits for a duration does not wait for longer than `Duration.longestWait`. What is done at
regular intervals is not bounded in this way.
-/

namespace InstrumentRelay

/-- A span of time, to the nanosecond. -/
structure Duration where
  /-- How many nanoseconds it lasts. -/
  nanos : Nat
  /-- The full seconds fit in sixty-four bits. -/
  nanos_lt : nanos < 0x10000000000000000 * 1000000000
  deriving DecidableEq

namespace Duration

@[ext] theorem ext {a b : Duration} (h : a.nanos = b.nanos) : a = b := by
  cases a; cases b; simp_all

instance : Repr Duration := ⟨fun d _ ↦ repr d.nanos ++ "ns"⟩

instance : Inhabited Duration := ⟨⟨0, by decide⟩⟩

/-- So many full seconds. -/
def ofSeconds (s : UInt64) : Duration :=
  ⟨s.toNat * 1000000000, by have := s.toNat_lt; omega⟩

/-- So many milliseconds. -/
def ofMillis (ms : UInt64) : Duration :=
  ⟨ms.toNat * 1000000, by have := ms.toNat_lt; omega⟩

/-- The full milliseconds in it. -/
def millis (d : Duration) : Nat := d.nanos / 1000000

/-- The shorter of two durations. -/
def min (a b : Duration) : Duration := if a.nanos ≤ b.nanos then a else b

@[simp] theorem nanos_min (a b : Duration) : (a.min b).nanos = Nat.min a.nanos b.nanos := by
  unfold min
  split
  · exact (Nat.min_eq_left ‹_›).symm
  · exact (Nat.min_eq_right (by omega)).symm

/-- The longest that anything waits: thirty years of 365 days. -/
def longestWait : Duration := ofSeconds 946080000

/-- How long a wait for this duration lasts. -/
def wait (d : Duration) : Duration := d.min longestWait

theorem nanos_wait (d : Duration) : d.wait.nanos = Nat.min d.nanos 946080000000000000 :=
  nanos_min d longestWait

/-- Twice as long, unless that is beyond the range. -/
def double? (d : Duration) : Option Duration :=
  if h : d.nanos * 2 < 0x10000000000000000 * 1000000000 then some ⟨d.nanos * 2, h⟩ else none

theorem double?_eq_none_iff (d : Duration) :
    d.double? = none ↔ 0x10000000000000000 * 1000000000 ≤ d.nanos * 2 := by
  simp [double?]

/-! ## Text -/

/-- The decimals of `part / 10 ^ places`, without zeros at the end. -/
def decimals (places part : Nat) : String :=
  let digits := (toString part).toList
  let padded := List.replicate (places - digits.length) '0' ++ digits
  String.ofList (padded.reverse.dropWhile (· == '0')).reverse

/-- A number of units, given how many nanoseconds make one as a power of ten. -/
def inUnits (places nanos : Nat) (unit : String) : String :=
  let whole := nanos / Nat.pow 10 places
  let part := nanos % Nat.pow 10 places
  if part = 0 then toString whole ++ unit
  else toString whole ++ "." ++ decimals places part ++ unit

/-- The duration in seconds, or in the largest smaller unit it reaches. -/
def text (d : Duration) : String :=
  if 1000000000 ≤ d.nanos then inUnits 9 d.nanos "s"
  else if 1000000 ≤ d.nanos then inUnits 6 d.nanos "ms"
  else if 1000 ≤ d.nanos then inUnits 3 d.nanos "µs"
  else inUnits 0 d.nanos "ns"

end Duration

end InstrumentRelay
