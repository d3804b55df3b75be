import InstrumentRelay.Proofs.Time.FixedPoint

/-!
# Stamps in order

A later time ought to have a later stamp, and a time before 1900 the first stamp there is. Neither
holds of all times. This file says what the stamp of any time is, leap seconds and times before 1900
included, and from that which times get their stamps in the wrong order: one of the two is in a leap
second, or before 1900 and not at a full second.

## What is stamped

A stamp counts nanoseconds since 1900, rounded down to its own units, but not always those that have
passed (`UtcTime.stampedNano`). Before 1900 the seconds are taken to be none, and the nanoseconds
into the second are still counted. In a leap second the fraction has a thirty-third bit. It falls
onto the last bit of the seconds, and that bit is already set: a leap second follows the last second
of a minute, whose number since 1900 is odd. So the bit is lost, and the leap second is stamped like
the second before it.

A unit is shorter than a nanosecond, so stamps are in the order of the nanoseconds that they count
(`Timestamp.bits_le_bits_iff`), and what is left is to compare these.
-/

namespace InstrumentRelay

namespace UtcTime

/-- The time is before 2036-02-07T06:28:16. -/
def BeforeEraEnd (t : UtcTime) : Prop := t.seconds < 2085978496

/-- The time is before 1900-01-01T00:00:00. -/
def BeforeEra (t : UtcTime) : Prop := t.seconds < -2208988800

instance (t : UtcTime) : Decidable t.BeforeEra := inferInstanceAs (Decidable (t.seconds < _))

/-- How many nanoseconds since 1900 are stamped on this time. -/
def stampedNano (t : UtcTime) : Nat :=
  if t.BeforeEra then t.nanos
  else (t.seconds + Timestamp.eraOffset).toNat * 1000000000 + t.nanos % 1000000000

/-- The one time is stamped later than the other although it is not later. -/
inductive Overtakes (s t : UtcTime) : Prop where
  /-- It is before 1900, and its nanoseconds are more than all that is stamped on the other. -/
  | beforeEra (early : s.BeforeEra) (more : t.stampedNano < s.nanos)
  /-- The other is in the leap second behind it, by less than a second. -/
  | leap (late : ¬s.BeforeEra) (same : s.seconds = t.seconds) (ordinary : s.nanos < 1000000000)
      (leaps : 1000000000 ≤ t.nanos) (close : t.nanos < s.nanos + 1000000000)

theorem BeforeEraEnd.of_le {s t : UtcTime} (h : t.BeforeEraEnd) (hle : s.Le t) :
    s.BeforeEraEnd := by
  unfold BeforeEraEnd at *
  rcases hle with hseconds | ⟨hseconds, -⟩ <;> omega

theorem stampedNano_le_iff {s t : UtcTime} (h : s.Le t) :
    s.stampedNano ≤ t.stampedNano ↔ ¬s.Overtakes t := by
  have hs := s.subsecond
  have ht := t.subsecond
  constructor
  · rintro hle (⟨hearly, hmore⟩ | ⟨hlate, hsame, hordinary, hleaps, hclose⟩)
    · rw [stampedNano, if_pos hearly] at hle
      omega
    · have hlate' : ¬t.BeforeEra := by
        unfold BeforeEra at *
        omega
      rw [stampedNano, stampedNano, if_neg hlate, if_neg hlate', hsame] at hle
      omega
  · intro hovertakes
    by_contra hlt
    refine hovertakes ?_
    by_cases hearly : s.BeforeEra
    · rw [stampedNano, if_pos hearly] at hlt
      exact .beforeEra hearly (by omega)
    · have hlate : ¬t.BeforeEra := by
        unfold BeforeEra at *
        rcases h with hseconds | ⟨hseconds, -⟩ <;> omega
      rw [stampedNano, stampedNano, if_neg hearly, if_neg hlate] at hlt
      unfold BeforeEra Timestamp.eraOffset at *
      rcases h with hseconds | ⟨hseconds, hnanos⟩
      · omega
      · exact .leap hearly hseconds (by omega) (by omega) (by omega)

end UtcTime

namespace Timestamp

/-! ## What is stamped -/

/-- A thirty-third bit of the fraction is lost on an odd number of seconds. -/
theorem or_carry {seconds fraction : Nat} (hodd : seconds % 2 = 1) (h : fraction < 2 ^ 32) :
    2 ^ 32 * seconds ||| (2 ^ 32 + fraction) = 2 ^ 32 * seconds + fraction := by
  have hseconds : 2 ^ 32 * seconds = 2 ^ 33 * (seconds / 2) + 2 ^ 32 := by omega
  have hcarry : 2 ^ 32 + fraction = 2 ^ 32 ||| fraction := by
    simpa using Nat.two_pow_add_eq_or_of_lt h 1
  calc 2 ^ 32 * seconds ||| (2 ^ 32 + fraction)
      = 2 ^ 33 * (seconds / 2) ||| (2 ^ 32 ||| (2 ^ 32 ||| fraction)) := by
        rw [hseconds, hcarry, Nat.two_pow_add_eq_or_of_lt (by decide), Nat.or_assoc]
    _ = 2 ^ 33 * (seconds / 2) ||| (2 ^ 32 + fraction) := by
        rw [← Nat.or_assoc (2 ^ 32), Nat.or_self, hcarry]
    _ = 2 ^ 33 * (seconds / 2) + (2 ^ 32 + fraction) :=
        (Nat.two_pow_add_eq_or_of_lt (by omega) _).symm
    _ = 2 ^ 32 * seconds + fraction := by omega

theorem toNat_bits_ofUtc_eq_or {t : UtcTime} (h : t.BeforeEraEnd) :
    (ofUtc t).bits.toNat
      = 2 ^ 32 * (t.seconds + eraOffset).toNat ||| t.nanos * 0x100000000 / 1000000000 := by
  have hsubsecond := t.subsecond
  have hseconds : (t.seconds + eraOffset).toNat * 0x100000000 < UInt64.size := by
    unfold UtcTime.BeforeEraEnd at h
    simp only [eraOffset, UInt64.size]
    omega
  have hfraction : t.nanos * 0x100000000 / 1000000000 < UInt64.size := by
    simp only [UInt64.size]
    omega
  rw [ofUtc, UInt64.toNat_or, Nat.toUInt64_eq, Nat.toUInt64_eq, UInt64.toNat_ofNat_of_lt' hseconds,
    UInt64.toNat_ofNat_of_lt' hfraction, Nat.mul_comm]
  rfl

/-- A stamp is a number of nanoseconds since 1900, in units of `2 ^ (-32)` seconds. -/
theorem toNat_bits_ofUtc_eq {t : UtcTime} (h : t.BeforeEraEnd) :
    (ofUtc t).bits.toNat = t.stampedNano * 0x100000000 / 1000000000 := by
  have hsubsecond := t.subsecond
  rw [toNat_bits_ofUtc_eq_or h]
  by_cases hearly : t.BeforeEra
  · have hnone : (t.seconds + eraOffset).toNat = 0 := by
      unfold UtcTime.BeforeEra eraOffset at *
      omega
    rw [UtcTime.stampedNano, if_pos hearly, hnone, Nat.mul_zero, Nat.zero_or]
  · rw [UtcTime.stampedNano, if_neg hearly]
    by_cases hordinary : t.nanos < 1000000000
    · rw [← Nat.two_pow_add_eq_or_of_lt (by omega)]
      omega
    · -- The last second of a minute has an odd number, since an even one begins each minute.
      have hodd : (t.seconds + eraOffset).toNat % 2 = 1 := by
        unfold UtcTime.BeforeEra eraOffset at *
        omega
      have hcarry : t.nanos * 0x100000000 / 1000000000
          = 2 ^ 32 + t.nanos % 1000000000 * 0x100000000 / 1000000000 := by omega
      rw [hcarry, or_carry hodd (by omega)]
      omega

/-! ## Order -/

/-- Two stamps are in the order of the nanoseconds that they count. -/
theorem bits_le_bits_iff {s t : UtcTime} (hs : s.BeforeEraEnd) (ht : t.BeforeEraEnd) :
    (ofUtc s).bits ≤ (ofUtc t).bits ↔ s.stampedNano ≤ t.stampedNano := by
  rw [UInt64.le_iff_toNat_le, toNat_bits_ofUtc_eq hs, toNat_bits_ofUtc_eq ht]
  omega

/-- **The stamps of two times, of which the one is not later than the other.** Up to the end of the
era a stamp counts the nanoseconds `UtcTime.stampedNano`. The stamp of the time that is not later is
not later, unless this time overtakes the other; and it does not overtake it if neither is in a leap
second and none is before 1900 with a broken second. A time before 1900 has the first stamp exactly
if its seconds are full. -/
theorem stamping_exact {s t : UtcTime} (hle : s.Le t) (ht : t.BeforeEraEnd) :
    (ofUtc t).bits.toNat = t.stampedNano * 0x100000000 / 1000000000 ∧
      ((ofUtc s).bits ≤ (ofUtc t).bits ↔ ¬s.Overtakes t) ∧
      ((s.BeforeEra → s.nanos = 0) → t.nanos < 1000000000 → (ofUtc s).bits ≤ (ofUtc t).bits) ∧
      (t.BeforeEra → ((ofUtc t).bits = 0 ↔ t.nanos = 0)) := by
  have horder : (ofUtc s).bits ≤ (ofUtc t).bits ↔ ¬s.Overtakes t := by
    rw [bits_le_bits_iff (ht.of_le hle) ht, UtcTime.stampedNano_le_iff hle]
  refine ⟨toNat_bits_ofUtc_eq ht, horder, fun hfull hordinary ↦ ?_, fun hearly ↦ ?_⟩
  · rw [horder]
    rintro (⟨hearly, hmore⟩ | ⟨-, -, -, hleaps, -⟩)
    · rw [hfull hearly] at hmore
      omega
    · omega
  · rw [← UInt64.toNat_inj, toNat_bits_ofUtc_eq ht, UtcTime.stampedNano, if_pos hearly,
      UInt64.toNat_zero]
    omega

/-- The leap second at the end of the year 2016, half over, and the second behind it; and the last
full second before 1900. -/
theorem stamping_exact_of_leap :
    let leap : UtcTime := ⟨1483228799, 1500000000, by decide, by decide⟩
    let next : UtcTime := ⟨1483228800, 0, by decide, by decide⟩
    let early : UtcTime := ⟨-2208988801, 0, by decide, by decide⟩
    leap.Le next ∧ next.BeforeEraEnd ∧
      (ofUtc leap).bits.toNat = leap.stampedNano * 0x100000000 / 1000000000 ∧
      ¬leap.Overtakes next ∧ (ofUtc leap).bits ≤ (ofUtc next).bits ∧
      early.BeforeEra ∧ (ofUtc early).bits = 0 := by
  intro leap next early
  have hle : leap.Le next := .inl (by decide)
  have hnext : next.BeforeEraEnd := (by decide : (1483228800 : Int) < 2085978496)
  have hleap : leap.BeforeEraEnd := (by decide : (1483228799 : Int) < 2085978496)
  have hend : early.BeforeEraEnd := (by decide : (-2208988801 : Int) < 2085978496)
  have hearly : early.BeforeEra := by decide
  obtain ⟨-, horder, hordinary, -⟩ := stamping_exact hle hnext
  have hbits : (ofUtc leap).bits ≤ (ofUtc next).bits :=
    hordinary (fun h ↦ absurd h (by decide)) (by decide)
  obtain ⟨hstamped, -⟩ := stamping_exact (.inr ⟨rfl, Nat.le_refl _⟩ : leap.Le leap) hleap
  obtain ⟨-, -, -, hfirst⟩ := stamping_exact (.inr ⟨rfl, Nat.le_refl _⟩ : early.Le early) hend
  exact ⟨hle, hnext, hstamped, horder.1 hbits, hbits, hearly, (hfirst hearly).2 rfl⟩

/-- Half a second before 1900 is stamped later than 1900, and nine tenths into the last second of
the year 2016 later than the middle of the leap second behind it. -/
theorem earlier_stamped_later :
    let early : UtcTime := ⟨-2208988801, 500000000, by decide, by decide⟩
    let first : UtcTime := ⟨-2208988800, 0, by decide, by decide⟩
    let last : UtcTime := ⟨1483228799, 900000000, by decide, by decide⟩
    let leap : UtcTime := ⟨1483228799, 1500000000, by decide, by decide⟩
    (early.Le first ∧ (ofUtc early).bits ≠ 0 ∧ ¬(ofUtc early).bits ≤ (ofUtc first).bits) ∧
      last.Le leap ∧ ¬(ofUtc last).bits ≤ (ofUtc leap).bits := by
  intro early first last leap
  exact ⟨⟨.inl (by decide), by decide, by decide⟩, .inr ⟨rfl, by decide⟩, by decide⟩

end Timestamp

end InstrumentRelay
