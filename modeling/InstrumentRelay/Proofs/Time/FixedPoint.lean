import Mathlib.Data.Nat.Bitwise
import InstrumentRelay.Time.Timestamp

/-!
# Between two grids

A timestamp counts units of `2 ^ (-32)` of a second, a point in time counts nanoseconds, and both
directions cut off what does not fit. There are more than four units in a nanosecond. So points in
time keep their order when they become timestamps, and what is cut off is less than a nanosecond: on
the way back, a point that lies on both grids, which is every 1953125th nanosecond, is met, and any
other comes out as the nanosecond before it (`nanos_ofUtc`). A timestamp that goes the other way and
comes back has lost less than a nanosecond, which is at most five units (`fraction_ofUtc_toUtc`).

All this needs that the seconds fit in thirty-two bits and that no leap second is in the way
(`UtcTime.InEra`). Every timestamp stands for such a point in time.
-/

namespace InstrumentRelay

namespace UtcTime

@[ext] theorem ext {s t : UtcTime} (hseconds : s.seconds = t.seconds) (hnanos : s.nanos = t.nanos) :
    s = t := by
  cases s
  cases t
  cases hseconds
  cases hnanos
  rfl

/-- The one point in time is before the other. -/
def Lt (s t : UtcTime) : Prop :=
  s.seconds < t.seconds ∨ (s.seconds = t.seconds ∧ s.nanos < t.nanos)

/-- The time is from 1900-01-01T00:00:00 on, before 2036-02-07T06:28:16, and not in a leap
second. -/
structure InEra (t : UtcTime) : Prop where
  /-- The year 1900 has begun. -/
  begun : -2208988800 ≤ t.seconds
  /-- Thirty-two bits are enough for the seconds since then. -/
  lasts : t.seconds < 2085978496
  /-- No second is longer than another. -/
  ordinary : t.nanos < 1000000000

example : Calendar.stampText (2085978496 + Timestamp.eraOffset) 0
    = "2036-02-07T06:28:16.000000Z".toList := by decide +kernel

end UtcTime

namespace Timestamp

/-! ## Units and nanoseconds -/

variable {t : UtcTime}

/-- The seconds stand in the high half and the fraction in the low one. -/
theorem toNat_bits_ofUtc (h : t.InEra) :
    (ofUtc t).bits.toNat
      = (t.seconds + eraOffset).toNat * 0x100000000 + t.nanos * 0x100000000 / 1000000000 := by
  have hbegun := h.begun
  have hlasts := h.lasts
  have hordinary := h.ordinary
  have hseconds : (t.seconds + eraOffset).toNat * 0x100000000 < UInt64.size := by
    simp only [eraOffset, UInt64.size]
    omega
  have hfraction : t.nanos * 0x100000000 / 1000000000 < 2 ^ 32 := by omega
  rw [ofUtc, UInt64.toNat_or, Nat.toUInt64_eq, Nat.toUInt64_eq,
    UInt64.toNat_ofNat_of_lt' hseconds,
    UInt64.toNat_ofNat_of_lt' (Nat.lt_trans hfraction (by decide)), Nat.mul_comm]
  exact (Nat.two_pow_add_eq_or_of_lt hfraction _).symm

theorem seconds_ofUtc (h : t.InEra) : (ofUtc t).seconds = (t.seconds + eraOffset).toNat := by
  have hordinary := h.ordinary
  rw [seconds, toNat_bits_ofUtc h]
  omega

theorem fraction_ofUtc (h : t.InEra) :
    (ofUtc t).fraction = t.nanos * 0x100000000 / 1000000000 := by
  have hordinary := h.ordinary
  rw [fraction, toNat_bits_ofUtc h]
  omega

/-- A nanosecond is met again if it is a whole number of units, and else the one before it. -/
theorem nanos_ofUtc (h : t.InEra) :
    (1953125 ∣ t.nanos → (ofUtc t).nanos = t.nanos) ∧
      (¬1953125 ∣ t.nanos → (ofUtc t).nanos + 1 = t.nanos) := by
  have hunits := fraction_ofUtc h
  have hnanos : (ofUtc t).nanos = (ofUtc t).fraction * 1000000000 / 0x100000000 := rfl
  -- Every 1953125 nanoseconds are 8388608 units.
  have hup : 1953125 * (ofUtc t).fraction ≤ 8388608 * t.nanos ∧
      8388608 * t.nanos < 1953125 * (ofUtc t).fraction + 1953125 := by omega
  have hback : 8388608 * (ofUtc t).nanos ≤ 1953125 * (ofUtc t).fraction ∧
      1953125 * (ofUtc t).fraction < 8388608 * (ofUtc t).nanos + 8388608 := by omega
  constructor
  · intro hwhole
    omega
  · intro hnot
    have hcoprime : Nat.Coprime 1953125 8388608 := by decide
    have hcut : 1953125 * (ofUtc t).fraction ≠ 8388608 * t.nanos := by
      intro heq
      exact hnot (hcoprime.dvd_of_dvd_mul_left ⟨_, heq.symm⟩)
    omega

theorem seconds_toUtc_ofUtc (h : t.InEra) : (ofUtc t).toUtc.seconds = t.seconds := by
  have hbegun := h.begun
  have hseconds : (ofUtc t).toUtc.seconds = (ofUtc t).seconds - eraOffset := rfl
  rw [hseconds, seconds_ofUtc h]
  simp only [eraOffset]
  omega

theorem ofUtc_lt_ofUtc {s : UtcTime} (hs : s.InEra) (ht : t.InEra) (h : s.Lt t) :
    (ofUtc s).bits < (ofUtc t).bits := by
  have hbegun := hs.begun
  have hordinary := hs.ordinary
  rw [UInt64.lt_iff_toNat_lt, toNat_bits_ofUtc hs, toNat_bits_ofUtc ht]
  rcases h with hseconds | ⟨hseconds, hnanos⟩
  · simp only [eraOffset]
    omega
  · rw [hseconds]
    omega

/-! ## Every timestamp -/

variable (b : Timestamp)

theorem inEra_toUtc : b.toUtc.InEra where
  begun := by
    simp only [toUtc, eraOffset]
    omega
  lasts := by
    have hseconds := b.seconds_lt
    simp only [toUtc, eraOffset]
    omega
  ordinary := b.nanos_lt

/-- There is a point in time with the seconds and nanoseconds that a timestamp counts. -/
theorem ofUnix?_eq_toUtc : UtcTime.ofUnix? (b.seconds - eraOffset) b.nanos = some b.toUtc :=
  dif_pos ⟨b.toUtc.inRange, b.toUtc.subsecond⟩

theorem seconds_ofUtc_toUtc : (ofUtc b.toUtc).seconds = b.seconds := by
  rw [seconds_ofUtc b.inEra_toUtc, toUtc, Int.sub_add_cancel, Int.toNat_natCast]

/-- What is lost is less than a nanosecond. -/
theorem fraction_ofUtc_toUtc :
    (ofUtc b.toUtc).fraction ≤ b.fraction ∧ b.fraction ≤ (ofUtc b.toUtc).fraction + 5 := by
  rw [fraction_ofUtc b.inEra_toUtc]
  simp only [toUtc, nanos]
  omega

example : (ofUtc (toUtc ⟨17⟩)).bits = 12 := by decide

theorem toUtc_le_toUtc {a b : Timestamp} (h : a.bits ≤ b.bits) : a.toUtc.Le b.toUtc := by
  rw [UInt64.le_iff_toNat_le] at h
  simp only [UtcTime.Le, toUtc, nanos, seconds, fraction]
  omega

/-- **What the two conversions keep.** A point in time of the era of timestamps keeps its second,
two of them keep their order down to the nanosecond, and on the way back each is itself if it is a
whole number of units, and one nanosecond early otherwise. Every timestamp counts the seconds and
nanoseconds of a point in time, so there is always one to convert to; a later timestamp is not
converted to an earlier point in time; and converting back keeps the second and loses at most five
units of the fraction. -/
theorem conversions_exact :
    (∀ t : UtcTime, t.InEra →
      ((ofUtc t).seconds : Int) = t.seconds + eraOffset ∧
        (1953125 ∣ t.nanos → (ofUtc t).toUtc = t) ∧
        (¬1953125 ∣ t.nanos →
          (ofUtc t).toUtc.seconds = t.seconds ∧ (ofUtc t).toUtc.nanos + 1 = t.nanos)) ∧
      (∀ s t : UtcTime, s.InEra → t.InEra → s.Lt t → (ofUtc s).bits < (ofUtc t).bits) ∧
      (∀ b : Timestamp, UtcTime.ofUnix? (b.seconds - eraOffset) b.nanos = some b.toUtc) ∧
      (∀ a b : Timestamp, a.bits ≤ b.bits → a.toUtc.Le b.toUtc) ∧
      ∀ b : Timestamp, (ofUtc b.toUtc).seconds = b.seconds ∧
        (ofUtc b.toUtc).fraction ≤ b.fraction ∧ b.fraction ≤ (ofUtc b.toUtc).fraction + 5 := by
  refine ⟨fun t h ↦ ⟨?_, fun hunits ↦ ?_, fun hunits ↦ ?_⟩, fun s t ↦ ofUtc_lt_ofUtc,
    ofUnix?_eq_toUtc, fun a b ↦ toUtc_le_toUtc,
    fun b ↦ ⟨b.seconds_ofUtc_toUtc, b.fraction_ofUtc_toUtc⟩⟩
  · have hbegun := h.begun
    rw [seconds_ofUtc h]
    simp only [eraOffset]
    omega
  · exact UtcTime.ext (seconds_toUtc_ofUtc h) ((nanos_ofUtc h).1 hunits)
  · exact ⟨seconds_toUtc_ofUtc h, (nanos_ofUtc h).2 hunits⟩

/-- In the last second of the era: its last nanosecond, and the last one before it that is a whole
number of units. And four timestamps that all fall in the first nanosecond. -/
theorem conversions_in_last_second :
    let last : UtcTime := ⟨2085978495, 999999999, by decide, by decide⟩
    let whole : UtcTime := ⟨2085978495, 998046875, by decide, by decide⟩
    last.InEra ∧ ¬1953125 ∣ last.nanos ∧ (ofUtc last).toUtc.nanos = 999999998 ∧
      whole.InEra ∧ 1953125 ∣ whole.nanos ∧ (ofUtc whole).toUtc = whole ∧
      whole.Lt last ∧ (ofUtc whole).bits < (ofUtc last).bits ∧
      (1 : UInt64) ≤ 4 ∧ (toUtc ⟨1⟩).Le (toUtc ⟨4⟩) := by
  intro last whole
  obtain ⟨hkept, horder, -, hmonotone, -⟩ := conversions_exact
  have hlast : last.InEra := ⟨by decide, by decide, by decide⟩
  have hwhole : whole.InEra := ⟨by decide, by decide, by decide⟩
  have hbetween : ¬1953125 ∣ last.nanos := by decide
  have hunits : 1953125 ∣ whole.nanos := by decide
  have hbefore : whole.Lt last := .inr ⟨rfl, by decide⟩
  have hle : (1 : UInt64) ≤ 4 := by decide
  have hearly : (ofUtc last).toUtc.nanos + 1 = 999999999 := ((hkept last hlast).2.2 hbetween).2
  exact ⟨hlast, hbetween, Nat.succ.inj hearly, hwhole, hunits, (hkept whole hwhole).2.1 hunits,
    hbefore, horder whole last hwhole hlast hbefore, hle, hmonotone ⟨1⟩ ⟨4⟩ hle⟩

end Timestamp

end InstrumentRelay
