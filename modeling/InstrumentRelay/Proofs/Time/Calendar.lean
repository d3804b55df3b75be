import Mathlib.Algebra.GroupWithZero.Nat
import InstrumentRelay.Time.Calendar

/-!
# Reading the calendar back

A date is made by walking the calendar forwards, so it is undone by counting: the days of the years
before, the days of the months before, and the days of the month before (`toDay_ofDay`). A stamp is
made of numbers with a separator behind each of them, and no separator is a digit; so the numbers
are found again by splitting there, and zeros in front do not change a number. A stamp therefore
says which second and which microsecond it was made from (`ofStamp?_stampText`), for all times from
1900 on: years of more than four digits are written out.
-/

namespace InstrumentRelay

namespace Calendar

/-! ## Days -/

/-- The days of so many years, from this one on. -/
def daysOfYears (year count : Nat) : Nat := ((List.range' year count).map yearLength).sum

/-- The number of the day of this date, counted from the first of January 1900. -/
def Date.toDay (date : Date) : Nat :=
  daysOfYears 1900 (date.year - 1900) + ((monthLengths date.year).take (date.month - 1)).sum
    + (date.day - 1)

theorem daysOfYears_succ (year count : Nat) :
    daysOfYears year (count + 1) = yearLength year + daysOfYears (year + 1) count := by
  rw [daysOfYears, List.range'_succ, List.map_cons, List.sum_cons, daysOfYears]

/-- Whole years have been taken off, from the first one on. -/
theorem yearOf_spec (year day : Nat) :
    year ≤ (yearOf year day).1 ∧
      daysOfYears year ((yearOf year day).1 - year) + (yearOf year day).2 = day := by
  fun_induction yearOf year day with
  | case1 year day h =>
    rw [Nat.sub_self]
    exact ⟨Nat.le_refl year, Nat.zero_add day⟩
  | case2 year day h ih =>
    obtain ⟨hle, hdays⟩ := ih
    have hcount : (yearOf (year + 1) (day - yearLength year)).1 - year
        = (yearOf (year + 1) (day - yearLength year)).1 - (year + 1) + 1 := by omega
    rw [hcount, daysOfYears_succ]
    omega

/-- Whole months have been taken off, from the first one on. -/
theorem monthOf_spec (month : Nat) (lengths : List Nat) (day : Nat) :
    month ≤ (monthOf month lengths day).1 ∧ 1 ≤ (monthOf month lengths day).2 ∧
      (lengths.take ((monthOf month lengths day).1 - month)).sum
        + ((monthOf month lengths day).2 - 1) = day := by
  fun_induction monthOf month lengths day with
  | case1 month day => simp
  | case2 month length rest day h => simp
  | case3 month length rest day h ih =>
    obtain ⟨hle, hpos, hdays⟩ := ih
    have hcount : (monthOf (month + 1) rest (day - length)).1 - month
        = (monthOf (month + 1) rest (day - length)).1 - (month + 1) + 1 := by omega
    rw [hcount, List.take_succ_cons, List.sum_cons]
    omega

/-- **A date says which day it is.** -/
theorem toDay_ofDay (day : Nat) : (Date.ofDay day).toDay = day := by
  obtain ⟨-, hyear⟩ := yearOf_spec 1900 day
  obtain ⟨-, -, hmonth⟩ := monthOf_spec 1 (monthLengths (yearOf 1900 day).1) (yearOf 1900 day).2
  rw [Date.toDay, Date.ofDay]
  dsimp only
  omega

/-! ## Numbers -/

/-- The number that these digits write. -/
def number (digits : List Char) : Nat := Nat.ofDigitChars 10 digits 0

/-- Zeros in front do not change a number. -/
theorem number_padded (width n : Nat) : number (padded width n) = n := by
  rw [number, padded, Nat.ofDigitChars_append, Nat.ofDigitChars_replicate_zero, Nat.mul_zero,
    Nat.ofDigitChars_ten_toDigits]

theorem isDigit_of_mem_padded {width n : Nat} {c : Char} (h : c ∈ padded width n) :
    c.isDigit = true := by
  rcases List.mem_append.1 h with hzero | hdigit
  · rw [(List.mem_replicate.1 hzero).2]
    rfl
  · exact Nat.isDigit_of_mem_toDigits (by decide) (by decide) hdigit

/-- A number is cut off at the separator behind it. -/
theorem splitOnP_padded (width n : Nat) (separator : Char) (rest : List Char)
    (h : separator.isDigit = false) :
    (padded width n ++ separator :: rest).splitOnP (!·.isDigit)
      = padded width n :: rest.splitOnP (!·.isDigit) := by
  refine List.splitOnP_append_cons_of_forall_mem ?_ separator ?_ rest
  · intro c hc
    rw [isDigit_of_mem_padded hc]
    rfl
  · rw [h]
    rfl

/-! ## Stamps -/

/-- The second and the microsecond that a stamp is for, by the numbers in it. -/
def ofStamp? (text : List Char) : Option (Nat × Nat) :=
  match text.splitOnP (!·.isDigit) with
  | [year, month, day, hour, minute, second, micros, []] =>
    let date : Date := ⟨number year, number month, number day⟩
    some (date.toDay * 86400 + number hour * 3600 + number minute * 60 + number second,
      number micros)
  | _ => none

/-- **A stamp can be read back.** -/
theorem ofStamp?_stampText (seconds micros : Nat) :
    ofStamp? (stampText seconds micros) = some (seconds, micros) := by
  have hfields : (stampText seconds micros).splitOnP (!·.isDigit)
      = [padded 4 (Date.ofDay (seconds / 86400)).year,
        padded 2 (Date.ofDay (seconds / 86400)).month, padded 2 (Date.ofDay (seconds / 86400)).day,
        padded 2 (seconds % 86400 / 3600), padded 2 (seconds % 86400 / 60 % 60),
        padded 2 (seconds % 86400 % 60), padded 6 micros, []] := by
    simp only [stampText, List.append_assoc, List.cons_append, List.nil_append]
    rw [splitOnP_padded 4 _ '-' _ rfl, splitOnP_padded 2 _ '-' _ rfl,
      splitOnP_padded 2 _ 'T' _ rfl, splitOnP_padded 2 _ ':' _ rfl,
      splitOnP_padded 2 _ ':' _ rfl, splitOnP_padded 2 _ '.' _ rfl, splitOnP_padded 6 _ 'Z' _ rfl]
    rfl
  have hclock : seconds / 86400 * 86400 + seconds % 86400 / 3600 * 3600
      + seconds % 86400 / 60 % 60 * 60 + seconds % 86400 % 60 = seconds := by omega
  simp only [ofStamp?, hfields, number_padded]
  rw [toDay_ofDay, hclock]

theorem mem_stampText {seconds micros : Nat} {c : Char} (h : c ∈ stampText seconds micros) :
    c.isDigit = true ∨ c ∈ ['-', 'T', ':', '.', 'Z'] := by
  simp only [stampText, List.mem_append, List.mem_singleton, or_assoc] at h
  rcases h with h | rfl | h | rfl | h | rfl | h | rfl | h | rfl | h | rfl | h | rfl
  all_goals first
    | exact .inl (isDigit_of_mem_padded h)
    | exact .inr (by decide)

/-- A stamp can stand between quotes. -/
theorem quote_notMem_stampText (seconds micros : Nat) : '"' ∉ stampText seconds micros := by
  intro h
  rcases mem_stampText h with hdigit | hseparator
  · exact absurd hdigit (by decide)
  · exact absurd hseparator (by decide)

end Calendar

end InstrumentRelay
