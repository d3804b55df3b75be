import InstrumentRelay.Time.Duration

/-!
# Delays between attempts

Each failed attempt doubles the delay before the next one, up to a longest delay; a success starts
over. The doubling is done before the result is compared with the longest delay, so it can leave the
range of durations although the result would not: then there is no next delay.
-/

namespace InstrumentRelay

/-- Growing delays. -/
structure Backoff where
  /-- The first delay. -/
  initial : Duration
  /-- The longest delay. -/
  longest : Duration
  /-- The delay before the next attempt. -/
  current : Duration
  deriving DecidableEq, Repr

namespace Backoff

/-- Delays from a first one up to a longest one. -/
def start (initial longest : Duration) : Backoff := ⟨initial, longest, initial.min longest⟩

/-- The delay before the next attempt, and the delays after it. -/
def next? (b : Backoff) : Option (Duration × Backoff) :=
  b.current.double?.map fun twice ↦ (b.current, { b with current := twice.min b.longest })

/-- An attempt has succeeded. -/
def reset (b : Backoff) : Backoff := { b with current := b.initial.min b.longest }

end Backoff

end InstrumentRelay
