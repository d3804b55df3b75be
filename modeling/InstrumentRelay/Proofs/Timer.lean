import InstrumentRelay.Proofs.Forgiveness
import InstrumentRelay.Proofs.Reports
import InstrumentRelay.Relay.State

/-!
# One timer, noted twice

That a timer is pending is noted by the bookkeeping of the links, as a generation, and by the
monitor, as the timer that is running. The two are changed in different places: the bookkeeping
forgets a timer when the target is met or the timer has run out, and the monitor stops it when it is
told to report or has seen it expire. `MonitorRun` lets letters, signs of life and expiries come in
any order, at any times that do not go back, and `Kept` is what holds between any two of them.

## How long a loss can stay unreported

Losses are reported late, but not too late: when the instrument was last said to be connected and
the target is missed, a timer is running, and it was started no later than the target began to be
missed. It may have been started earlier, by a loss that did not matter. So what bounds the time at
which it is due is an invariant in two parts, one for the case that nothing is missed yet
(`due_le_clock`) and one for the time since (`due_le_missed`).
-/

namespace InstrumentRelay

namespace Bulletin

/-- The state that a bulletin reports, if it reports one. -/
def report? : Bulletin → Option LinkState
  | status state => some state
  | heartbeat => none

/-- The state that was reported last, if one was. -/
def lastStatus (said : List Bulletin) : Option LinkState := (said.filterMap report?).getLast?

theorem lastStatus_append (first second : List Bulletin) :
    lastStatus (first ++ second) = (lastStatus second).or (lastStatus first) := by
  rw [lastStatus, List.filterMap_append, List.getLast?_append, lastStatus, lastStatus]

theorem lastStatus_of_silent {said : List Bulletin} (h : ∀ state, .status state ∉ said) :
    lastStatus said = none := by
  rw [lastStatus, List.getLast?_eq_none_iff, List.filterMap_eq_nil_iff]
  intro bulletin hmem
  cases bulletin with
  | heartbeat => rfl
  | status state => exact absurd hmem (h state)

end Bulletin

namespace Monitor

variable {m m' : Monitor} {now : Nat} {e : MonitorEvent} {said : List Bulletin}

/-- The generation of the timer that is running. -/
def armed (m : Monitor) : Option Nat := m.timer.map (·.generation)

theorem lastStatus_apply (m : Monitor) (now : Nat) (effect : Option Effect) :
    Bulletin.lastStatus (m.apply now effect).2 = Effect.report? effect := by
  unfold apply
  split <;> rfl

theorem exists_timer_of_expires {result : Monitor × List Bulletin}
    (h : m.step now .expires = some result) : ∃ t, m.timer = some t ∧ t.due ≤ now := by
  simp only [step] at h
  split at h
  case h_1 t ht =>
    split at h
    case isTrue hdue => exact ⟨t, ht, hdue⟩
    case isFalse => exact absurd h (by simp)
  case h_2 => exact absurd h (by simp)

namespace Change

/-- The bookkeeping keeps what was said last. -/
theorem reported_eq (c : m.Change now e m' said) :
    m'.presence.reported = (Bulletin.lastStatus said).getD m.presence.reported := by
  cases c with
  | aside _ presence _ silent => rw [presence, Bulletin.lastStatus_of_silent silent, Option.getD_none]
  | @told notice event tells =>
    rw [presence_apply, lastStatus_apply]
    exact (m.presence.change_step event).reported_eq
  | @ranOut t =>
    rw [expire, presence_apply, lastStatus_apply]
    exact (m.presence.change_step (.fired t.generation)).reported_eq

/-- What is running and what is pending change together. -/
theorem armed_eq (c : m.Change now e m' said) (hm : m.armed = m.presence.pending) :
    m'.armed = m'.presence.pending := by
  cases c with
  | aside _ presence timer => rw [armed, timer, presence, ← hm, armed]
  | @told notice event tells =>
    have change := m.presence.change_step event
    generalize (m.presence.step event).1 = q at change ⊢
    generalize (m.presence.step event).2 = effect at change ⊢
    cases change with
    | known | gained | unknown | lost => exact hm
    | met | started => rfl
    | stale | missed | forgiven => exact absurd tells (notice.tells_ne_fired _)
  | @ranOut t running =>
    have hpending : m.presence.pending = some t.generation := by
      rw [← hm, armed, running, Option.map_some]
    have hgone : (m.presence.step (.fired t.generation)).1.pending = none := by
      have change := m.presence.change_step (.fired t.generation)
      generalize (m.presence.step (.fired t.generation)).1 = q at change ⊢
      generalize (m.presence.step (.fired t.generation)).2 = effect at change
      cases change with
      | stale h => exact absurd hpending h
      | missed | forgiven => rfl
    rw [armed, timer_expire, expire, presence_apply]
    exact hgone.symm

end Change

end Monitor

/-- What is noted now was noted before, or it is this moment. -/
theorem Watch.eq_getD_of_noted {m : Monitor} {now since : Nat} {before : Option Nat}
    (h : Watch.noted m now before = some since) : since = before.getD now := by
  unfold Watch.noted at h
  split at h
  · exact absurd h (by simp)
  · exact (Option.some.inj h).symm

/-! ## Runs -/

/-- What the monitor attends to at a time. -/
inductive MonitorTurn where
  /-- The next letter. -/
  | letter (letter : MonitorLetter)
  /-- A sign of life. -/
  | beats
  /-- The timer, which has run out. -/
  | expires
  deriving DecidableEq, Repr

/-- What happens to the monitor then. A question is answered with `Monitor.state`, and that is
all. -/
def MonitorTurn.event? : MonitorTurn → Option MonitorEvent
  | letter (.notice notice) => some (.hears notice)
  | letter (.question _) => none
  | beats => some .beats
  | expires => some .expires

/-- A watch, and everything that was said so far. -/
structure MonitorRun where
  watch : Watch
  /-- What was said, in order. -/
  said : List Bulletin
  deriving DecidableEq

namespace MonitorRun

/-- Nothing has been said. -/
def start (settings : MonitorSettings) (now : Nat) : MonitorRun := ⟨.start settings now, []⟩

/-- One turn, if it can come then. -/
def step (r : MonitorRun) (now : Nat) (turn : MonitorTurn) : Option MonitorRun :=
  match turn.event? with
  | some e => (r.watch.step now e).map fun (w, said) ↦ ⟨w, r.said ++ said⟩
  | none =>
    if r.watch.clock ≤ now then some { r with watch := { r.watch with clock := now } } else none

/-- Several turns, each at its time, if all of them can come. -/
def run (r : MonitorRun) (history : List (Nat × MonitorTurn)) : Option MonitorRun :=
  history.foldlM (fun r x ↦ r.step x.1 x.2) r

variable {r r' : MonitorRun} {now : Nat} {turn : MonitorTurn} {settings : MonitorSettings}
  {history : List (Nat × MonitorTurn)}

theorem run_append (r : MonitorRun) (first second : List (Nat × MonitorTurn)) :
    r.run (first ++ second) = (r.run first).bind (·.run second) :=
  List.foldlM_append

theorem run_cons_eq_some {x : Nat × MonitorTurn} (h : r.run (x :: history) = some r') :
    ∃ next, r.step x.1 x.2 = some next ∧ next.run history = some r' := by
  rw [run, List.foldlM_cons] at h
  exact Option.bind_eq_some_iff.mp h

/-- What every turn keeps is so after a run. -/
theorem keeps_run {P : MonitorRun → Prop}
    (hstep : ∀ (s s' : MonitorRun) (now : Nat) (turn : MonitorTurn), P s →
      s.step now turn = some s' → P s')
    (hr : P r) (h : r.run history = some r') : P r' := by
  induction history generalizing r with
  | nil => exact Option.some.inj h ▸ hr
  | cons x rest ih =>
    obtain ⟨next, hnext, hrest⟩ := run_cons_eq_some h
    exact ih (hstep r next x.1 x.2 hr hnext) hrest

/-- A turn is an event of the watch, or it only takes time. -/
theorem step_eq_some (h : r.step now turn = some r') :
    (∃ e said, turn.event? = some e ∧ r.watch.step now e = some (r'.watch, said) ∧
      r'.said = r.said ++ said) ∨
    (turn.event? = none ∧ r.watch.clock ≤ now ∧
      r' = { r with watch := { r.watch with clock := now } }) := by
  unfold step at h
  split at h
  case h_1 e hevent =>
    obtain ⟨⟨w, said⟩, hstep, rfl⟩ := Option.map_eq_some_iff.mp h
    exact .inl ⟨e, said, hevent, hstep, rfl⟩
  case h_2 hevent =>
    split at h
    case isTrue hclock => exact .inr ⟨hevent, hclock, (Option.some.inj h).symm⟩
    case isFalse => exact absurd h (by simp)

/-! ## What holds between any two turns -/

/-- What always holds of a monitor that was started with these settings. -/
structure Kept (settings : MonitorSettings) (r : MonitorRun) : Prop where
  sound : r.watch.Sound settings
  /-- The timer that is running is the one that is pending. -/
  armed_eq : r.watch.monitor.armed = r.watch.monitor.presence.pending
  /-- What was said last is what the bookkeeping has reported. -/
  reported_eq :
    r.watch.monitor.presence.reported = (Bulletin.lastStatus r.said).getD .disconnected
  /-- No timer runs for longer than the forgiveness from now on. -/
  due_le_clock : ∀ t, r.watch.monitor.timer = some t →
    t.due ≤ r.watch.clock + settings.forgiveness.wait.nanos
  /-- Nor from the moment on at which the target began to be missed. -/
  due_le_missed : ∀ t since, r.watch.monitor.timer = some t → r.watch.missedSince = some since →
    t.due ≤ since + settings.forgiveness.wait.nanos

theorem kept_start (settings : MonitorSettings) (begun : Nat) :
    (start settings begun).Kept settings where
  sound := Watch.sound_start settings begun
  armed_eq := rfl
  reported_eq := rfl
  due_le_clock t ht := by simp [start, Watch.start, Monitor.start] at ht
  due_le_missed t since ht := by simp [start, Watch.start, Monitor.start] at ht

/-- A timer that is running after an event is due in time, counted from the event or from when the
target began to be missed. -/
theorem Kept.due_le_of_event (hr : r.Kept settings) {w : Watch} {e : MonitorEvent}
    {said : List Bulletin} (hstep : r.watch.step now e = some (w, said)) {t : ForgivenessTimer}
    (ht : w.monitor.timer = some t) :
    t.due ≤ now + settings.forgiveness.wait.nanos ∧
      ∀ since, w.missedSince = some since → t.due ≤ since + settings.forgiveness.wait.nanos := by
  obtain ⟨hclock, -, hevent, hnoted⟩ := Watch.step_eq_some hstep
  have c := Monitor.change_of_step hevent
  rcases c.running_or_started ht with ⟨hrunning, -⟩ | ⟨-, hdue, id, rfl, hstarts⟩
  · have hnow : t.due ≤ now + settings.forgiveness.wait.nanos :=
      Nat.le_trans (hr.due_le_clock t hrunning) (Nat.add_le_add_right hclock _)
    refine ⟨hnow, fun since hsince ↦ ?_⟩
    rw [Watch.eq_getD_of_noted (hnoted.symm.trans hsince)]
    cases hbefore : r.watch.missedSince with
    | none => exact hnow
    | some u => exact hr.due_le_missed t u hrunning hbefore
  · rw [hr.sound.settings_eq] at hdue
    refine ⟨Nat.le_of_eq hdue, fun since hsince ↦ ?_⟩
    -- A loss starts a timer only while the target is met.
    obtain ⟨-, -, hmissed⟩ := Watch.missedSince_of_starts hr.sound hstarts hstep
    rw [hsince] at hmissed
    split at hmissed
    · rw [Option.some.inj hmissed]
      exact Nat.le_of_eq hdue
    · exact absurd hmissed (by simp)

theorem Kept.step (hr : r.Kept settings) (h : r.step now turn = some r') : r'.Kept settings := by
  rcases step_eq_some h with ⟨e, said, -, hstep, hsaid⟩ | ⟨-, hclock, rfl⟩
  · have c := Monitor.change_of_step (Watch.step_eq_some hstep).2.2.1
    refine ⟨hr.sound.step hstep, c.armed_eq hr.armed_eq, ?_, fun t ht ↦ ?_, fun t since ht ↦ ?_⟩
    · rw [c.reported_eq, hr.reported_eq, hsaid, Bulletin.lastStatus_append]
      cases Bulletin.lastStatus said <;> rfl
    · rw [(Watch.step_eq_some hstep).2.1]
      exact (hr.due_le_of_event hstep ht).1
    · exact (hr.due_le_of_event hstep ht).2 since
  · refine ⟨?_, hr.armed_eq, hr.reported_eq, fun t ht ↦ ?_, hr.due_le_missed⟩
    · exact ⟨hr.sound.settings_eq, hr.sound.target_eq, hr.sound.consistent,
        hr.sound.missedSince_of_connected, hr.sound.missedSince_of_disconnected⟩
    · exact Nat.le_trans (hr.due_le_clock t ht) (Nat.add_le_add_right hclock _)

theorem Kept.run (hr : r.Kept settings) (h : r.run history = some r') : r'.Kept settings :=
  keeps_run (fun _ _ _ _ hs hstep ↦ hs.step hstep) hr h

/-! ## A timer that is gone -/

theorem generation_le_of_step (h : r.step now turn = some r') :
    r.watch.monitor.presence.generation ≤ r'.watch.monitor.presence.generation := by
  rcases step_eq_some h with ⟨e, said, -, hstep, -⟩ | ⟨-, -, rfl⟩
  · exact (Monitor.change_of_step (Watch.step_eq_some hstep).2.2.1).generation_le
  · exact Nat.le_refl _

theorem generation_le_of_run (h : r.run history = some r') :
    r.watch.monitor.presence.generation ≤ r'.watch.monitor.presence.generation :=
  keeps_run (P := fun s ↦ r.watch.monitor.presence.generation ≤ s.watch.monitor.presence.generation)
    (fun _ _ _ _ hs hstep ↦ Nat.le_trans hs (generation_le_of_step hstep)) (Nat.le_refl _) h

/-- A turn starts no timer that was started before. -/
theorem armed_ne_of_step (h : r.step now turn = some r') {g : Nat}
    (hold : g ≤ r.watch.monitor.presence.generation) (hgone : r.watch.monitor.armed ≠ some g) :
    r'.watch.monitor.armed ≠ some g := by
  rcases step_eq_some h with ⟨e, said, -, hstep, -⟩ | ⟨-, -, rfl⟩
  · intro harmed
    obtain ⟨t, ht, rfl⟩ := Option.map_eq_some_iff.mp harmed
    have c := Monitor.change_of_step (Watch.step_eq_some hstep).2.2.1
    rcases c.running_or_started ht with ⟨hrunning, -⟩ | ⟨hnew, -⟩
    · exact hgone (by rw [Monitor.armed, hrunning, Option.map_some])
    · omega
  · exact hgone

theorem armed_ne_of_run (h : r.run history = some r') {g : Nat}
    (hold : g ≤ r.watch.monitor.presence.generation) (hgone : r.watch.monitor.armed ≠ some g) :
    r'.watch.monitor.armed ≠ some g := by
  have hkept := keeps_run
    (P := fun s ↦ g ≤ s.watch.monitor.presence.generation ∧ s.watch.monitor.armed ≠ some g)
    (fun s s' now turn hs hstep ↦
      ⟨Nat.le_trans hs.1 (generation_le_of_step hstep), armed_ne_of_step hstep hs.1 hs.2⟩)
    ⟨hold, hgone⟩ h
  exact hkept.2

/-! ## The timer and the bookkeeping -/

/-- When the last word was "connected" and the target is missed, a timer is running. -/
theorem Kept.exists_timer (hr : r.Kept settings) {since : Nat}
    (hsaid : Bulletin.lastStatus r.said = some .connected)
    (hsince : r.watch.missedSince = some since) :
    ∃ t, r.watch.monitor.timer = some t ∧ t.due ≤ since + settings.forgiveness.wait.nanos := by
  have hmissed := hr.sound.disconnected_of_eq_some hsince
  have htold := hr.reported_eq
  rw [hsaid, Option.getD_some] at htold
  cases ht : r.watch.monitor.timer with
  | some t => exact ⟨t, rfl, hr.due_le_missed t since ht hsince⟩
  | none =>
    -- Without a timer, what was said last would be true.
    have hidle := hr.armed_eq
    rw [Monitor.armed, ht, Option.map_none] at hidle
    have hle := hr.sound.consistent.target_le hidle.symm htold
    have hlt := (Presence.state_eq_disconnected_iff _).mp hmissed
    omega

/-- What expires is the timer that is pending. -/
theorem Kept.pending_of_expires (hr : r.Kept settings) (h : r.step now .expires = some r') :
    ∃ t, r.watch.monitor.timer = some t ∧ t.due ≤ now ∧
      r.watch.monitor.presence.pending = some t.generation := by
  rcases step_eq_some h with ⟨e, said, hevent, hstep, -⟩ | ⟨hnone, -⟩
  · obtain rfl := Option.some.inj hevent
    obtain ⟨-, -, hexpires, -⟩ := Watch.step_eq_some hstep
    obtain ⟨t, ht, hdue⟩ := Monitor.exists_timer_of_expires hexpires
    refine ⟨t, ht, hdue, ?_⟩
    rw [← hr.armed_eq, Monitor.armed, ht, Option.map_some]
  · exact absurd hnone (by simp [MonitorTurn.event?])

/-- **The timer that is running is the one that is pending, and it is never late.** Whatever
letters, signs of life and expiries come, in whatever order and at whatever times:
the generation of the running timer is the pending one, if there is one; what expires is pending and
due; a timer that was running and is not any more never runs again; and if the target has been
missed for a while although the last word was "connected", the timer that is running is due at most
one forgiveness after the target began to be missed. -/
theorem timer_faithful {settings : MonitorSettings} {begun : Nat}
    {history : List (Nat × MonitorTurn)} {r : MonitorRun}
    (hrun : (start settings begun).run history = some r) :
    r.watch.monitor.armed = r.watch.monitor.presence.pending ∧
    (∀ now r', r.step now .expires = some r' →
      ∃ t, r.watch.monitor.timer = some t ∧ t.due ≤ now ∧
        r.watch.monitor.presence.pending = some t.generation) ∧
    (∀ before between rest r₁ r₂ g, history = before ++ between ++ rest →
      (start settings begun).run before = some r₁ → r₁.run between = some r₂ →
      r₁.watch.monitor.armed = some g → r₂.watch.monitor.armed ≠ some g →
      r.watch.monitor.armed ≠ some g) ∧
    (∀ since, Bulletin.lastStatus r.said = some .connected → r.watch.missedSince = some since →
      ∃ t, r.watch.monitor.timer = some t ∧ t.due ≤ since + settings.forgiveness.nanos) := by
  have hr := (kept_start settings begun).run hrun
  refine ⟨hr.armed_eq, fun now r' ↦ hr.pending_of_expires, ?_, fun since hsaid hsince ↦ ?_⟩
  · rintro before between rest r₁ r₂ g rfl hbefore hbetween harmed hgone
    have hpending := ((kept_start settings begun).run hbefore).armed_eq.symm.trans harmed
    have hold := ((kept_start settings begun).run hbefore).sound.consistent.pending_le g hpending
    rw [run_append, run_append, hbefore, Option.bind_some, hbetween, Option.bind_some] at hrun
    exact armed_ne_of_run hrun (Nat.le_trans hold (generation_le_of_run hbetween)) hgone
  · obtain ⟨t, ht, hdue⟩ := hr.exists_timer hsaid hsince
    refine ⟨t, ht, Nat.le_trans hdue (Nat.add_le_add_left ?_ since)⟩
    rw [Duration.nanos_wait]
    exact Nat.min_le_left _ _

/-- The only link is lost and is back just when the timer is due, before it expires. When the link
is lost again, a second timer is due five seconds later. -/
theorem timer_of_second_loss :
    ∃ r, (start Watch.oneLink 0).run
        [(0, .letter (.notice (.instrumentUp ⟨0⟩))),
          (1000000000, .letter (.notice (.instrumentDown ⟨0⟩))),
          (6000000000, .letter (.notice (.instrumentUp ⟨1⟩))),
          (6000000000, .letter (.question ⟨2⟩)),
          (7000000000, .letter (.notice (.instrumentDown ⟨1⟩)))] = some r ∧
      r.watch.monitor.armed = some 2 ∧
      ∃ t, r.watch.monitor.timer = some t ∧
        t.due ≤ 7000000000 + Watch.oneLink.forgiveness.nanos := by
  have hrun : ∃ r, (start Watch.oneLink 0).run
        [(0, .letter (.notice (.instrumentUp ⟨0⟩))),
          (1000000000, .letter (.notice (.instrumentDown ⟨0⟩))),
          (6000000000, .letter (.notice (.instrumentUp ⟨1⟩))),
          (6000000000, .letter (.question ⟨2⟩)),
          (7000000000, .letter (.notice (.instrumentDown ⟨1⟩)))] = some r ∧
      r.watch.monitor.presence.pending = some 2 ∧
      Bulletin.lastStatus r.said = some .connected ∧ r.watch.missedSince = some 7000000000 :=
    ⟨_, rfl, rfl, rfl, rfl⟩
  obtain ⟨r, hrun, hpending, hsaid, hmissed⟩ := hrun
  obtain ⟨harmed, -, -, hdue⟩ := timer_faithful hrun
  exact ⟨r, hrun, harmed.trans hpending, hdue 7000000000 hsaid hmissed⟩

end MonitorRun

end InstrumentRelay
