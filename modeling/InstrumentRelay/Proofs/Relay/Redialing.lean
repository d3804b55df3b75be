import InstrumentRelay.Proofs.Backoff
import InstrumentRelay.Proofs.Relay.Links

/-!
# How long a link waits

A link that cannot connect, or has lost its connection, waits before it connects again. Its delays
are those of a `Backoff`, which is asked for one whenever the link begins to wait and starts over
when the link has connected. So the length of a wait depends on nothing but how many waits there
have been since the link was last up, and that number can be read off what is seen of the link:
`Relay.waits` counts it over a run without looking at the delays.

No link waits for longer than `Duration.longestWait`, though. A delay beyond that, which takes a
longest delay beyond that, is cut short (`redials_before_delay`).

`Relay.Tuned` is the invariant that ties the two together. The count is changed by what becomes of
the link, the delays are changed by the same (`Tuned.advance`).
-/

namespace InstrumentRelay

/-! ## Phases -/

namespace LinkPhase

/-- It is between two attempts. -/
def rests : LinkPhase → Bool
  | dialing | up _ => false
  | waiting _ | broken => true

/-- How many waits there have been since the link was up, when its phase has changed from `before`
to `after` and there had been `waits`. -/
def count (before after : LinkPhase) (waits : Nat) : Nat :=
  if after = before then waits
  else match after with
    | dialing => waits
    | up _ => 0
    | waiting _ | broken => waits + 1

theorem ne_broken_of_rests {phase : LinkPhase} (h : phase.rests = false) : phase ≠ .broken := by
  rintro rfl
  cases h

theorem count_self (phase : LinkPhase) (waits : Nat) : count phase phase waits = waits :=
  if_pos rfl

theorem count_of_rests {before after : LinkPhase} (hbefore : before.rests = false)
    (hafter : after.rests = true) (waits : Nat) : count before after waits = waits + 1 := by
  have hne : after ≠ before := by
    rintro rfl
    rw [hbefore] at hafter
    cases hafter
  unfold count
  rw [if_neg hne]
  cases after with
  | dialing => cases hafter
  | up id => cases hafter
  | waiting due => rfl
  | broken => rfl

/-- With a delay of so many nanoseconds, it waits from now on: for as long as the delay is, or for
the longest time that anything waits if that is shorter. Where twice the delay is out of range, it
does not get so far. -/
def Pauses (clock delay : Nat) (phase : LinkPhase) : Prop :=
  (Duration.range ≤ delay * 2 ∧ phase = .broken) ∨
    (delay * 2 < Duration.range ∧
      phase = .waiting (clock + min delay Duration.longestWait.nanos))

end LinkPhase

namespace LinkRun

theorem pauses_wait {l : LinkRun} {longest : Duration} {waits : Nat}
    (h : l.backoff.Paced initialDelay longest waits) (clock : Nat) :
    (l.wait clock).phase.Pauses clock (Backoff.delayAfter initialDelay longest waits) := by
  rw [wait]
  rcases hnext : l.backoff.next? with _ | ⟨delay, backoff⟩
  · exact .inl ⟨h.next?_eq_none_iff.1 hnext, rfl⟩
  · have hrange : ¬Duration.range ≤ Backoff.delayAfter initialDelay longest waits * 2 := by
      rw [← h.next?_eq_none_iff, hnext]
      exact Option.some_ne_none _
    have hwait : delay.wait.nanos
        = min (Backoff.delayAfter initialDelay longest waits) Duration.longestWait.nanos := by
      rw [Duration.wait, Duration.nanos_min, (h.next hnext).1]
    exact .inr ⟨Nat.lt_of_not_le hrange, by rw [← hwait]⟩

/-- A link that waits has been given a delay, and will be given the one after it next time. -/
theorem paced_wait {l : LinkRun} {longest : Duration} {waits clock : Nat}
    (h : l.backoff.Paced initialDelay longest waits) (hgoes : (l.wait clock).phase ≠ .broken) :
    (l.wait clock).backoff.Paced initialDelay longest (waits + 1) := by
  rw [wait] at hgoes ⊢
  split at hgoes
  case h_1 hnone => exact absurd rfl hgoes
  case h_2 delay backoff hnext => exact (h.next hnext).2

theorem rests_wait (l : LinkRun) (clock : Nat) : (l.wait clock).phase.rests = true := by
  rw [wait]
  split <;> rfl

end LinkRun

namespace Relay

/-! ## Counting the waits -/

/-- How many waits there have been since a link was up, when a step has led from `r` to `r'` and
there had been `waits`. -/
def recount (r r' : Relay) (index waits : Nat) : Nat :=
  match r.links[index]?, r'.links[index]? with
  | some l, some l' => l.phase.count l'.phase waits
  | _, _ => waits

/-- A relay and the number of waits, after an event that can happen. -/
def watch (index : Nat) (s : Relay × Nat) (e : RelayEvent) : Relay × Nat :=
  match s.1.step e with
  | none => s
  | some r' => (r', s.1.recount r' index s.2)

/-- How many waits a link has begun in a run since it was last up, or since the start. -/
def waits (r : Relay) (index : Nat) (events : List RelayEvent) : Nat :=
  (events.foldl (watch index) (r, 0)).2

section Waits

variable {config : Config} {host : Host} {answers : List Bool} {r₀ r r' : Relay}
  {events : List RelayEvent} {e : RelayEvent} {index : Nat} {l l' : LinkRun}

theorem fst_foldl_watch (h : r.run events = some r') (index n : Nat) :
    (events.foldl (watch index) (r, n)).1 = r' := by
  induction events generalizing r n with
  | nil =>
    cases h
    rfl
  | cons e rest ih =>
    obtain ⟨mid, hstep, hrest⟩ := run_cons_eq_some_iff.1 h
    rw [List.foldl_cons, watch, hstep]
    exact ih hrest _

theorem run_concat (hrun : r₀.run events = some r) (hstep : r.step e = some r') :
    r₀.run (events ++ [e]) = some r' := by
  rw [run_append, hrun]
  exact run_cons_eq_some_iff.2 ⟨r', hstep, rfl⟩

theorem waits_concat (hrun : r₀.run events = some r) (hstep : r.step e = some r') (index : Nat) :
    r₀.waits index (events ++ [e]) = r.recount r' index (r₀.waits index events) := by
  have hr := fst_foldl_watch hrun index 0
  rw [waits, List.foldl_append, List.foldl_cons, List.foldl_nil, watch, hr, hstep]
  rfl

/-- What the delays of a link are, and that it has its connection if it is up. -/
structure Tuned (longest : Duration) (waits : Nat) (r : Relay) (l : LinkRun) : Prop where
  paced : l.phase ≠ .broken → l.backoff.Paced LinkRun.initialDelay longest waits
  up : ∀ id, l.phase = .up id → r.isOpen id = true

theorem Tuned.advance {longest : Duration} {waits : Nat} (h : r.Tuned longest waits l)
    (hadvances : r.Advances e index r' l l') :
    r'.Tuned longest (l.phase.count l'.phase waits) l' := by
  have hwaits (hbefore : l.phase.rests = false) :
      r'.Tuned longest (l.phase.count (l.wait r.clock).phase waits) (l.wait r.clock) := by
    have hafter := l.rests_wait r.clock
    constructor
    · rw [LinkPhase.count_of_rests hbefore hafter]
      exact LinkRun.paced_wait (h.paced (LinkPhase.ne_broken_of_rests hbefore))
    · intro id hid
      rw [hid] at hafter
      cases hafter
  cases hadvances with
  | stays he hopen =>
    rw [LinkPhase.count_self]
    exact ⟨h.paced, hopen⟩
  | connects he hphase hopen =>
    constructor
    · intro _
      rw [hphase]
      exact (h.paced (by simp [hphase])).reset
    · rintro id ⟨⟩
      exact hopen
  | isRefused he hphase => exact hwaits (by rw [hphase]; rfl)
  | loses hphase hclosed => exact hwaits (by rw [hphase]; rfl)
  | redials he hphase hdue =>
    constructor
    · intro _
      rw [hphase]
      exact h.paced (by simp [hphase])
    · rintro id ⟨⟩

/-! ## From the start -/

theorem tuned_of_start (h : (Startup.ofConfig config host answers).outcome = .ok r)
    (hl : r.links[index]? = some l) : r.Tuned config.timing.maxReconnect 0 l := by
  rw [links_of_start h, List.getElem?_map, Option.map_eq_some_iff] at hl
  obtain ⟨link, -, rfl⟩ := hl
  exact ⟨fun _ ↦ Backoff.paced_start _ _, by rintro id ⟨⟩⟩

theorem recount_eq (hl : r.links[index]? = some l) (hl' : r'.links[index]? = some l')
    (waits : Nat) : r.recount r' index waits = l.phase.count l'.phase waits := by
  rw [recount, hl, hl']

/-- The delays of a link are those of the waits that have been counted. -/
theorem tuned_of_run (hstart : (Startup.ofConfig config host answers).outcome = .ok r₀)
    (hrun : r₀.run events = some r) (hl : r.links[index]? = some l) :
    r.Tuned config.timing.maxReconnect (r₀.waits index events) l := by
  refine keeps_run hstart (P := fun events r ↦ ∀ index l, r.links[index]? = some l →
    r.Tuned config.timing.maxReconnect (r₀.waits index events) l) ?_ ?_ hrun index l hl
  · exact fun index l hl ↦ tuned_of_start hstart hl
  · intro events e r r' hreached hrun hstep htuned index l' hl'
    obtain ⟨l, hl⟩ := exists_link_before hreached hstep hl'
    obtain ⟨m, hm, hadvances⟩ :=
      advances_of_step hreached.ledger hstep hl (htuned index l hl).up
    obtain rfl := Option.some.inj (hm.symm.trans hl')
    rw [waits_concat hrun hstep, recount_eq hl hl']
    exact (htuned index l hl).advance hadvances

theorem exists_advances (hstart : (Startup.ofConfig config host answers).outcome = .ok r₀)
    (hrun : r₀.run events = some r) (hstep : r.step e = some r') (hl : r.links[index]? = some l) :
    ∃ l', r'.links[index]? = some l' ∧ r.Advances e index r' l l' :=
  advances_of_step (reached_of_run hstart hrun).ledger hstep hl (tuned_of_run hstart hrun hl).up

/-- A link that waits connects again no earlier than it should. -/
theorem still_waiting (hstart : (Startup.ofConfig config host answers).outcome = .ok r₀)
    (hrun : r₀.run events = some r) (hl : r.links[index]? = some l) {due : Nat}
    (hdue : l.phase = .waiting due) {more : List RelayEvent} (hmore : r.run more = some r')
    (hearly : r'.clock < due) : ∃ l', r'.links[index]? = some l' ∧ l'.phase = .waiting due := by
  induction more generalizing events r l with
  | nil =>
    cases hmore
    exact ⟨l, hl, hdue⟩
  | cons e rest ih =>
    obtain ⟨mid, hstep, hrest⟩ := run_cons_eq_some_iff.1 hmore
    obtain ⟨m, hm, hadvances⟩ := exists_advances hstart hrun hstep hl
    rcases hadvances.of_waiting hdue with rfl | hpast
    · exact ih (run_concat hrun hstep) hm hdue hrest
    · have hclock := clock_le_of_run hmore
      omega

theorem isSome_step_redials_iff (hl : r.links[index]? = some l) {due : Nat}
    (hdue : l.phase = .waiting due) :
    (r.step (.link index .redials)).isSome = true ↔ due ≤ r.clock := by
  have hstep : r.step (.link index .redials) = r.stepLink index l .redials := by
    rw [step, hl]
    rfl
  rw [hstep]
  unfold stepLink
  simp only [hdue]
  split
  case isTrue h => simp [h]
  case isFalse h => simp [h]

/-- A link begins to wait when it cannot connect, or when its connection has ended. -/
theorem Advances.pauses {longest : Duration} {waits : Nat} (h : r.Advances e index r' l l')
    (htuned : r.Tuned longest waits l) (hbefore : l.phase.rests = false)
    (hafter : l'.phase.rests = true) :
    l'.phase.Pauses r.clock (Backoff.delayAfter LinkRun.initialDelay longest waits) := by
  have hwaits : (l.wait r.clock).phase.Pauses r.clock
      (Backoff.delayAfter LinkRun.initialDelay longest waits) :=
    LinkRun.pauses_wait (htuned.paced (LinkPhase.ne_broken_of_rests hbefore)) r.clock
  cases h with
  | stays he hopen =>
    rw [hbefore] at hafter
    cases hafter
  | connects he hphase hopen => cases hafter
  | isRefused he hphase => exact hwaits
  | loses hphase hclosed => exact hwaits
  | redials he hphase hdue => cases hafter

end Waits

/-- **Delays double up to the longest one, and a link waits for as long as its delays say, but not
for longer than anything waits.**

For any first and any longest delay, and after any sequence of calls: the next delay is the first
one, doubled once for each delay since the last success, or the longest one if that is shorter.
There is no next delay exactly if twice this delay is out of range, so that there always is one if
twice the longest delay is in range.

In every run of a relay, whatever comes of connecting: a link begins to wait when it cannot connect
and when its connection has ended, with a delay of half a second doubled once for each wait since it
was last up, or the longest delay. The wait is as long as the delay if that is at most
`Duration.longestWait`, and as long as `Duration.longestWait` otherwise. The link connects again
when that time has passed and not before. Where twice the delay is out of range, it never does. -/
theorem delays_exact :
    (∀ (initial longest : Duration) (calls : List Backoff.Call),
      (longest.nanos * 2 < Duration.range → (Backoff.start initial longest).perform calls ≠ none) ∧
      ∀ b, (Backoff.start initial longest).perform calls = some b →
        let delay := min (initial.nanos * 2 ^ Backoff.Call.sinceReset calls) longest.nanos
        (b.next? = none ↔ Duration.range ≤ delay * 2) ∧
        ∀ next b', b.next? = some (next, b') → next.nanos = delay) ∧
    ∀ (config : Config) (host : Host) (answers : List Bool) (r₀ r r' : Relay)
      (events : List RelayEvent) (e : RelayEvent) (index : Nat) (l : LinkRun),
      (Startup.ofConfig config host answers).outcome = .ok r₀ → r₀.run events = some r →
      r.step e = some r' → r.links[index]? = some l →
      let delay := min (500000000 * 2 ^ r₀.waits index events) config.timing.maxReconnect.nanos
      ∃ l', r'.links[index]? = some l' ∧ r.Advances e index r' l l' ∧
        (l.phase.rests = false → l'.phase.rests = true → l'.phase.Pauses r.clock delay) ∧
        (∀ due, l.phase = .waiting due →
          ((r.step (.link index .redials)).isSome = true ↔ due ≤ r.clock)) ∧
        ∀ due, l'.phase = .waiting due → ∀ more r'', r'.run more = some r'' → r''.clock < due →
          ∃ l'', r''.links[index]? = some l'' ∧ l''.phase = .waiting due := by
  constructor
  · intro initial longest calls
    refine ⟨fun hrange ↦ Backoff.perform_ne_none hrange calls, fun b hb ↦ ?_⟩
    have hpaced := Backoff.paced_of_perform hb
    exact ⟨hpaced.next?_eq_none_iff, fun next b' hnext ↦ (hpaced.next hnext).1⟩
  · intro config host answers r₀ r r' events e index l hstart hrun hstep hl delay
    obtain ⟨l', hl', hadvances⟩ := exists_advances hstart hrun hstep hl
    have htuned := tuned_of_run hstart hrun hl
    refine ⟨l', hl', hadvances, hadvances.pauses htuned, fun due ↦ isSome_step_redials_iff hl, ?_⟩
    intro due hdue more r'' hmore hearly
    exact still_waiting hstart (run_concat hrun hstep) hl' hdue hmore hearly

/-- A link cannot connect, then does, loses its connection, and cannot connect again: that is the
second wait since it was up, and so it lasts for one second, to the last nanosecond. -/
theorem delays_exact_of_lost :
    (∃ b next b', (Backoff.start (.ofMillis 500) (.ofSeconds 3)).perform
        [.next, .next, .next, .next, .reset, .next] = some b ∧
      b.next? = some (next, b') ∧ next.nanos = 1000000000) ∧
    ∃ (r₀ r r' r'' : Relay) (events : List RelayEvent) (l l' l'' : LinkRun),
      r₀.run events = some r ∧ r.step (.link 0 .refused) = some r' ∧
      r.links[0]? = some l ∧ r'.links[0]? = some l' ∧ r₀.waits 0 events = 1 ∧
      l'.phase = .waiting (r.clock + 1000000000) ∧
      r'.run [.elapse 999999999 ⟨0⟩] = some r'' ∧ r''.links[0]? = some l'' ∧
      l''.phase = .waiting (r.clock + 1000000000) := by
  constructor
  · obtain ⟨hgoes, hexact⟩ := delays_exact.1 (.ofMillis 500) (.ofSeconds 3)
      [.next, .next, .next, .next, .reset, .next]
    obtain ⟨b, hb⟩ := Option.ne_none_iff_exists'.1 (hgoes (by decide))
    obtain ⟨hnone, hdelay⟩ := hexact b hb
    have hnext : b.next? ≠ none := by
      rw [Ne, hnone]
      decide
    obtain ⟨⟨next, b'⟩, hsome⟩ := Option.ne_none_iff_exists'.1 hnext
    exact ⟨b, next, b', hb, hsome, hdelay next b' hsome⟩
  · let config : Config := { refdes := "X", instrument := .tcp "host" 2101 }
    let events : List RelayEvent := [.link 0 .refused, .elapse 500000000 ⟨0⟩, .link 0 .redials,
      .link 0 .made, .connection ⟨0⟩ .begins, .connection ⟨0⟩ .hangsUp, .connection ⟨0⟩ .takes,
      .elapse 500000000 ⟨0⟩, .link 0 .redials]
    have hstarts : ((Startup.ofConfig config .willing []).after []).any (fun r₀ ↦
        r₀.waits 0 events = 1 ∧ (r₀.run events).any fun r ↦ (r.step (.link 0 .refused)).any fun r' ↦
          r'.clock = r.clock ∧ (r.links[0]?.map (·.phase)) = some .dialing ∧
          (r'.links[0]?.map (·.phase.rests)) = some true) = true := by
      decide +kernel
    obtain ⟨r₀, s, hstart, hnone, h⟩ := Startup.exists_of_after hstarts
    cases hnone
    simp only [decide_eq_true_eq, Option.any_eq_true, Option.map_eq_some_iff] at h
    obtain ⟨hwaits, r, hrun, r', hstep, hclock, ⟨l, hl, hdialing⟩, m, hm, hrests⟩ := h
    obtain ⟨l', hl', -, hpauses, -, hstill⟩ :=
      delays_exact.2 config .willing [] r₀ r r' events _ 0 l hstart hrun hstep hl
    obtain rfl := Option.some.inj (hm.symm.trans hl')
    have hwaiting := hpauses (by rw [hdialing]; rfl) hrests
    have hdelay : min (500000000 * 2 ^ r₀.waits 0 events) config.timing.maxReconnect.nanos
        = 1000000000 := by
      rw [hwaits]
      decide
    rw [hdelay] at hwaiting
    have hphase : m.phase = .waiting (r.clock + 1000000000) := by
      rcases hwaiting with ⟨hrange, -⟩ | ⟨-, hphase⟩
      · exact absurd hrange (by decide)
      · exact hphase
    have helapse : r'.run [.elapse 999999999 ⟨0⟩]
        = some { r' with clock := r'.clock + 999999999, stamp := ⟨0⟩ } := rfl
    have hearly : r'.clock + 999999999 < r.clock + 1000000000 := by omega
    obtain ⟨l'', hl'', hlater⟩ := hstill _ hphase _ _ helapse hearly
    exact ⟨r₀, r, r', _, events, l, m, l'', hrun, hstep, hl, hl', hwaits, hphase, helapse, hl'',
      hlater⟩

/-- A link may wait for two thousand million seconds and is refused for the thirty-second time in a
row. Its delay is half a second doubled thirty-one times, and not out of range, but the link
connects again some four years earlier. -/
theorem redials_before_delay :
    let config : Config :=
      { refdes := "X"
        instrument := .tcp "host" 2101
        timing := { maxReconnectSecs := 2000000000 } }
    let refusals : List RelayEvent := (List.replicate 31
      [.link 0 .refused, .elapse 1000000000000000000 ⟨0⟩, .link 0 .redials]).flatten
    let delay := min (500000000 * 2 ^ 31) config.timing.maxReconnect.nanos
    delay * 2 < Duration.range ∧
      ∃ (r₀ r r' r'' : Relay) (elapsed : Nat),
        (Startup.ofConfig config .willing []).outcome = .ok r₀ ∧ r₀.run refusals = some r ∧
        r₀.waits 0 refusals = 31 ∧ r.step (.link 0 .refused) = some r' ∧
        elapsed < delay ∧ r'.run [.elapse elapsed ⟨0⟩, .link 0 .redials] = some r'' := by
  intro config refusals delay
  have hstarts : ((Startup.ofConfig config .willing []).after []).any (fun r₀ ↦
      r₀.waits 0 refusals = 31 ∧ (r₀.run refusals).any fun r ↦
        (r.step (.link 0 .refused)).any fun r' ↦
          (r'.run [.elapse Duration.longestWait.nanos ⟨0⟩, .link 0 .redials]).isSome) = true := by
    decide +kernel
  obtain ⟨r₀, s, hstart, hnone, h⟩ := Startup.exists_of_after hstarts
  cases hnone
  simp only [decide_eq_true_eq, Option.any_eq_true, Option.isSome_iff_exists] at h
  obtain ⟨hwaits, r, hrun, r', hstep, r'', hlater⟩ := h
  exact ⟨by decide, r₀, r, r', r'', _, hstart, hrun, hwaits, hstep, by decide, hlater⟩

end Relay

end InstrumentRelay
