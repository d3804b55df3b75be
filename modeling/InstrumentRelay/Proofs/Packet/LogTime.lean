import InstrumentRelay.Proofs.Packet.LogLine
import InstrumentRelay.Proofs.Time.FixedPoint

/-!
# The time that a log line shows

A time is rounded down three times before it is read in the text log: to the units of the stamp, to
the nanoseconds of the stamp, and to microseconds. The first two together cost a nanosecond unless
the time lies on both grids (`Timestamp.nanos_ofUtc`), and a nanosecond is not seen in the log,
unless the time has a whole number of microseconds. Then it costs the last of them: of the million
microseconds in a second, only the sixty-four that are a multiple of 15625 are shown as they are,
and each of the others is shown as the one before it (`Packet.log_time_exact`).
-/

namespace InstrumentRelay

/-- Full seconds since the start of the year 1900. -/
def UtcTime.sinceEra (t : UtcTime) : Nat := (t.seconds + Timestamp.eraOffset).toNat

namespace Timestamp

variable {t : UtcTime} {micros : Nat}

/-- A whole number of microseconds is met again if it is a multiple of 15625, and else the one
before it. -/
theorem micros_ofUtc_of_whole (h : t.InEra) (hwhole : t.nanos = micros * 1000) :
    (15625 ∣ micros → (ofUtc t).nanos / 1000 = micros) ∧
      (¬15625 ∣ micros → (ofUtc t).nanos / 1000 + 1 = micros) := by
  obtain ⟨hunits, hnot⟩ := nanos_ofUtc h
  have hgrids : 1953125 ∣ t.nanos ↔ 15625 ∣ micros := by omega
  constructor
  · intro hmicros
    have hkept := hunits (hgrids.2 hmicros)
    omega
  · intro hmicros
    have hcut := hnot fun hdvd ↦ hmicros (hgrids.1 hdvd)
    omega

/-- Between two microseconds a nanosecond is not seen. -/
theorem micros_ofUtc_of_broken (h : t.InEra) (hlow : micros * 1000 < t.nanos)
    (hhigh : t.nanos < (micros + 1) * 1000) : (ofUtc t).nanos / 1000 = micros := by
  obtain ⟨hunits, hnot⟩ := nanos_ofUtc h
  by_cases hdvd : 1953125 ∣ t.nanos
  · have hkept := hunits hdvd
    omega
  · have hcut := hnot hdvd
    omega

end Timestamp

namespace Packet

/-- The line shows this time: so many seconds since 1900, and so many microseconds. -/
def Shows (p : Packet) (seconds micros : Nat) : Prop :=
  ∃ rest, p.logLine = "<packet type=\"".toList ++ p.kind.label.toList ++ "\" time=\"".toList
    ++ Calendar.stampText seconds micros ++ '"' :: rest

/-- A line shows the time of its stamp and no other. -/
theorem shows_iff (p : Packet) (seconds micros : Nat) :
    p.Shows seconds micros ↔ seconds = p.stamp.seconds ∧ micros = p.stamp.nanos / 1000 := by
  have hquote : "\" length=\"".toList = '"' :: " length=\"".toList := by decide
  constructor
  · rintro ⟨rest, hline⟩
    unfold logLine at hline
    rw [hquote] at hline
    simp only [List.append_assoc, List.cons_append, List.append_cancel_left_eq] at hline
    have hread := untilQuote?_append (Calendar.quote_notMem_stampText seconds micros) rest
    rw [← hline, Timestamp.text, untilQuote?_append (Calendar.quote_notMem_stampText _ _), Option.some_inj,
      Prod.mk.injEq] at hread
    have hstamp := Calendar.ofStamp?_stampText seconds micros
    rw [← hread.1, Calendar.ofStamp?_stampText, Option.some_inj, Prod.mk.injEq] at hstamp
    exact ⟨hstamp.1.symm, hstamp.2.symm⟩
  · rintro ⟨rfl, rfl⟩
    refine ⟨" length=\"".toList ++ (Nat.toDigits 10 p.payload.length ++ ("\">".toList
      ++ (p.payload.flatMap logEscape ++ "</packet>\n".toList))), ?_⟩
    unfold logLine
    rw [hquote, Timestamp.text]
    simp only [List.append_assoc, List.cons_append]

/-- **Which times are shown as they are.** A packet is stamped with a time of the era. If the time
is a whole number of microseconds into its second, the line of the packet shows exactly this time if
the microseconds are a multiple of 15625, and the microsecond before it otherwise. A time between
two microseconds is shown cut to the microsecond. -/
theorem log_time_exact {p : Packet} {t : UtcTime} (h : t.InEra) (hstamp : p.stamp = .ofUtc t) :
    (∀ micros, t.nanos = micros * 1000 →
      (p.Shows t.sinceEra micros ↔ 15625 ∣ micros) ∧
        (¬15625 ∣ micros → p.Shows t.sinceEra (micros - 1))) ∧
      ∀ micros, micros * 1000 < t.nanos → t.nanos < (micros + 1) * 1000 →
        p.Shows t.sinceEra micros := by
  have hseconds : t.sinceEra = (Timestamp.ofUtc t).seconds := (Timestamp.seconds_ofUtc h).symm
  simp only [shows_iff, hstamp, hseconds, true_and]
  constructor
  · intro micros hwhole
    obtain ⟨hkept, hcut⟩ := Timestamp.micros_ofUtc_of_whole h hwhole
    refine ⟨⟨fun hshown ↦ ?_, fun hmicros ↦ (hkept hmicros).symm⟩, fun hmicros ↦ ?_⟩
    · by_contra hmicros
      have hless := hcut hmicros
      omega
    · have hless := hcut hmicros
      omega
  · intro micros hlow hhigh
    exact (Timestamp.micros_ofUtc_of_broken h hlow hhigh).symm

/-- A quarter of a second into 2024-01-02T03:04:05, a microsecond behind it, and just before
that. -/
theorem log_time_of_quarter :
    let quarter : UtcTime := ⟨1704164645, 250000000, by decide, by decide⟩
    let behind : UtcTime := ⟨1704164645, 250001000, by decide, by decide⟩
    let between : UtcTime := ⟨1704164645, 250000999, by decide, by decide⟩
    let stamped (t : UtcTime) : Packet := ⟨.fromInstrument, .ofUtc t, [], by decide⟩
    (quarter.InEra ∧ (stamped quarter).Shows quarter.sinceEra 250000) ∧
      (behind.InEra ∧ (stamped behind).Shows behind.sinceEra 250000) ∧
      between.InEra ∧ (stamped between).Shows between.sinceEra 250000 := by
  intro quarter behind between stamped
  have hquarter : quarter.InEra := ⟨by decide, by decide, by decide⟩
  have hbehind : behind.InEra := ⟨by decide, by decide, by decide⟩
  have hbetween : between.InEra := ⟨by decide, by decide, by decide⟩
  have hkept := ((log_time_exact (p := stamped quarter) hquarter rfl).1 250000 (by decide)).1
  have hcut := ((log_time_exact (p := stamped behind) hbehind rfl).1 250001 (by decide)).2
  have hbroken := (log_time_exact (p := stamped between) hbetween rfl).2 250000 (by decide)
  exact ⟨⟨hquarter, hkept.2 (by decide)⟩, ⟨hbehind, hcut (by decide)⟩, hbetween,
    hbroken (by decide)⟩

/-- A packet of 2024-01-02T03:04:05.123456 is shown a microsecond early. -/
theorem shown_early :
    let sample : UtcTime := ⟨1704164645, 123456000, by decide, by decide⟩
    let hello : Packet := ⟨.fromInstrument, .ofUtc sample, Bytes.ofText "hello", by decide⟩
    sample.InEra ∧ sample.nanos = 123456 * 1000 ∧ ¬hello.Shows sample.sinceEra 123456 ∧
      hello.Shows sample.sinceEra 123455 := by
  intro sample hello
  rw [shows_iff, shows_iff]
  exact ⟨⟨by decide, by decide, by decide⟩, by decide, by decide, by decide⟩

end Packet

end InstrumentRelay
