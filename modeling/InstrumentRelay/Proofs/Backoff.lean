import Mathlib.Algebra.GroupWithZero.Nat
import Mathlib.Data.List.Induction
import InstrumentRelay.Backoff

/-!
# How delays grow

All that a `Backoff` keeps of the past is the next delay, and each attempt doubles it. Over any
number of attempts that comes to a closed formula, `delayAfter`: the first delay doubled once for
every delay that has been given out since the last success, or the longest delay if that is shorter.
`Paced` is the invariant, with the number of these delays in it. Giving one out raises the number by
one (`Paced.next`), a success makes it zero (`Paced.reset`), and so the formula holds after every
sequence of calls (`paced_of_perform`).

The cap does not get in the way of the doubling: what has been capped and is doubled is capped again
(`min_double`). The range does. The delay is doubled before it is compared with the longest one, so
it is the double of a delay that must be in range (`Paced.next?_eq_none_iff`).
-/

namespace InstrumentRelay

namespace Duration

/-- So many nanoseconds are beyond the range, and fewer are not. -/
def range : Nat := 0x10000000000000000 * 1000000000

theorem nanos_of_double? {d twice : Duration} (h : d.double? = some twice) :
    twice.nanos = d.nanos * 2 := by
  rw [double?] at h
  split at h
  · rw [← Option.some.inj h]
  · cases h

end Duration

namespace Backoff

/-- What can be asked of delays. -/
inductive Call where
  /-- The next delay. -/
  | next
  /-- To start over. -/
  | reset
  deriving DecidableEq, Repr

namespace Call

/-- How many delays have been asked for since it was last started over. -/
def sinceReset (calls : List Call) : Nat := (calls.reverse.takeWhile (· = .next)).length

theorem sinceReset_next (calls : List Call) :
    sinceReset (calls ++ [.next]) = sinceReset calls + 1 := by
  simp [sinceReset]

theorem sinceReset_reset (calls : List Call) : sinceReset (calls ++ [.reset]) = 0 := by
  simp [sinceReset]

end Call

/-- The delays after a call, unless there is no next one. -/
def call (b : Backoff) : Call → Option Backoff
  | .next => b.next?.map (·.2)
  | .reset => some b.reset

/-- The delays after a sequence of calls. -/
def perform (b : Backoff) (calls : List Call) : Option Backoff := calls.foldlM call b

theorem perform_append_singleton {b b' : Backoff} {calls : List Call} {c : Call} :
    b.perform (calls ++ [c]) = some b' ↔
      ∃ mid, b.perform calls = some mid ∧ mid.call c = some b' := by
  rw [perform, List.foldlM_append, Option.bind_eq_bind, Option.bind_eq_some_iff, perform]
  simp

/-- The delay after so many delays without a success between them, in nanoseconds. -/
def delayAfter (initial longest : Duration) (waits : Nat) : Nat :=
  min (initial.nanos * 2 ^ waits) longest.nanos

theorem min_double (a longest : Nat) : min (min a longest * 2) longest = min (a * 2) longest := by
  omega

/-- So many delays have been given out since the last success. -/
structure Paced (initial longest : Duration) (waits : Nat) (b : Backoff) : Prop where
  initial_eq : b.initial = initial
  longest_eq : b.longest = longest
  nanos_eq : b.current.nanos = delayAfter initial longest waits

section Paced

variable {initial longest : Duration} {waits : Nat} {b b' : Backoff} {delay : Duration}

theorem paced_start (initial longest : Duration) :
    (start initial longest).Paced initial longest 0 where
  initial_eq := rfl
  longest_eq := rfl
  nanos_eq := by
    rw [start, Duration.nanos_min, delayAfter, pow_zero, Nat.mul_one]

theorem Paced.reset (h : b.Paced initial longest waits) : b.reset.Paced initial longest 0 where
  initial_eq := h.initial_eq
  longest_eq := h.longest_eq
  nanos_eq := by
    rw [Backoff.reset, h.initial_eq, h.longest_eq]
    exact (paced_start initial longest).nanos_eq

theorem Paced.next?_eq_none_iff (h : b.Paced initial longest waits) :
    b.next? = none ↔ Duration.range ≤ delayAfter initial longest waits * 2 := by
  rw [next?, Option.map_eq_none_iff, Duration.double?_eq_none_iff, h.nanos_eq]
  rfl

/-- The delay that is given out, and what the delays are like after it. -/
theorem Paced.next (h : b.Paced initial longest waits) (hnext : b.next? = some (delay, b')) :
    delay.nanos = delayAfter initial longest waits ∧ b'.Paced initial longest (waits + 1) := by
  rw [next?, Option.map_eq_some_iff] at hnext
  obtain ⟨twice, htwice, heq⟩ := hnext
  cases heq
  refine ⟨h.nanos_eq, h.initial_eq, h.longest_eq, ?_⟩
  calc (twice.min b.longest).nanos
      = min (b.current.nanos * 2) longest.nanos := by
        rw [Duration.nanos_min, Duration.nanos_of_double? htwice, h.longest_eq]
    _ = min (initial.nanos * 2 ^ waits * 2) longest.nanos := by
        rw [h.nanos_eq, delayAfter, min_double]
    _ = delayAfter initial longest (waits + 1) := by
        rw [delayAfter, pow_succ, Nat.mul_assoc]

theorem Paced.call {c : Call} {calls : List Call}
    (h : b.Paced initial longest (Call.sinceReset calls)) (hcall : b.call c = some b') :
    b'.Paced initial longest (Call.sinceReset (calls ++ [c])) := by
  cases c with
  | next =>
    obtain ⟨⟨delay, after⟩, hnext, rfl⟩ := Option.map_eq_some_iff.1 hcall
    rw [Call.sinceReset_next]
    exact (h.next hnext).2
  | reset =>
    cases hcall
    rw [Call.sinceReset_reset]
    exact h.reset

/-- The formula holds after every sequence of calls. -/
theorem paced_of_perform {calls : List Call} (h : (start initial longest).perform calls = some b) :
    b.Paced initial longest (Call.sinceReset calls) := by
  induction calls using List.reverseRecOn generalizing b with
  | nil =>
    cases h
    exact paced_start initial longest
  | append_singleton calls c ih =>
    obtain ⟨mid, hmid, hcall⟩ := perform_append_singleton.1 h
    exact (ih hmid).call hcall

/-- While twice the longest delay is in range, there is always a next delay. -/
theorem Paced.next?_ne_none (h : b.Paced initial longest waits)
    (hrange : longest.nanos * 2 < Duration.range) : b.next? ≠ none := by
  rw [Ne, h.next?_eq_none_iff, delayAfter]
  omega

theorem perform_ne_none (hrange : longest.nanos * 2 < Duration.range) (calls : List Call) :
    (start initial longest).perform calls ≠ none := by
  induction calls using List.reverseRecOn with
  | nil => exact Option.some_ne_none _
  | append_singleton calls c ih =>
    obtain ⟨mid, hmid⟩ := Option.ne_none_iff_exists'.1 ih
    have hcall : mid.call c ≠ none := by
      cases c with
      | next =>
        rw [Backoff.call, Ne, Option.map_eq_none_iff]
        exact (paced_of_perform hmid).next?_ne_none hrange
      | reset => exact Option.some_ne_none _
    obtain ⟨after, hafter⟩ := Option.ne_none_iff_exists'.1 hcall
    rw [perform_append_singleton.2 ⟨mid, hmid, hafter⟩]
    exact Option.some_ne_none after

end Paced

end Backoff

end InstrumentRelay
