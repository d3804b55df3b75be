import InstrumentRelay.Proofs.Monitor

/-!
# Which losses are forgiven

A loss is reported when the timer that it started runs out, and the report is meant to say that the
target has been missed for the whole forgiveness. It does so iff exactly `target` links were live
before the loss. If more of them were live, that loss started a timer although nothing was missed
yet, and what is reported when it runs out is a later loss, which may be as recent as the report
itself.

The argument runs backwards from the report. The timer that has run out was started by some loss
(`running_or_starts`); at that loss the target began to be missed or was still met
(`missedSince_of_starts`); and from then on nothing but another loss can make a difference, because
the timer would have been given up otherwise (`missedSince_of_running`).
-/

namespace InstrumentRelay

namespace Watch

variable {settings : MonitorSettings} {w w' : Watch} {history : List (Nat × MonitorEvent)}
  {t : ForgivenessTimer}

/-! ## From the start of a timer to its end -/

/-- While a timer keeps running, the target stays missed once it is missed, and it becomes missed
only through a loss. -/
theorem missedSince_of_running (hw : w.Sound settings) (hrun : w.run history = some w')
    (ht : w'.monitor.timer = some t) (hold : t.generation ≤ w.monitor.presence.generation) :
    w.monitor.timer = some t ∧ (∀ u, w.missedSince = some u → w'.missedSince = some u) ∧
      (w.missedSince = none → ∀ u, w'.missedSince = some u →
        ∃ id, (u, .hears (.instrumentDown id)) ∈ history) := by
  induction history generalizing w with
  | nil =>
    obtain rfl := Option.some.inj hrun
    refine ⟨ht, fun _ hu ↦ hu, fun hnone u hu ↦ ?_⟩
    rw [hnone] at hu
    exact absurd hu (by simp)
  | cons x rest ih =>
    obtain ⟨next, said, hstep, hrest⟩ := run_cons_eq_some hrun
    obtain ⟨-, -, hevent, hnoted⟩ := step_eq_some hstep
    have c := Monitor.change_of_step hevent
    obtain ⟨hnext, hkept, hlost⟩ :=
      ih (hw.step hstep) hrest (Nat.le_trans hold c.generation_le)
    -- The timer is too old to have been started by the first event.
    rcases c.running_or_started hnext with ⟨hrunning, hstays⟩ | ⟨hnew, -⟩
    case inr => omega
    refine ⟨hrunning, fun u hu ↦ ?_, fun hnone u hu ↦ ?_⟩
    · refine hkept u ?_
      rw [hnoted, noted, hstays (hw.disconnected_of_eq_some hu), hu]
      rfl
    · cases hs : next.monitor.state with
      | connected =>
        obtain ⟨id, hid⟩ := hlost ((hw.step hstep).missedSince_of_connected hs) u hu
        exact ⟨id, List.mem_cons_of_mem _ hid⟩
      | disconnected =>
        -- The first event was the loss, and the moment was noted.
        obtain ⟨id, hid⟩ := c.exists_down (hw.connected_of_eq_none hnone) hs
        rw [noted, hs, hnone] at hnoted
        have hnow := hkept _ hnoted
        rw [hu] at hnow
        refine ⟨id, ?_⟩
        rw [Option.some.inj hnow, ← hid]
        exact List.mem_cons_self

/-- A timer that is running in the end was running from the beginning, or a loss started it in
between, and it is due one forgiveness after that. -/
theorem running_or_starts (hw : w.Sound settings) (hrun : w.run history = some w')
    (ht : w'.monitor.timer = some t) :
    w.monitor.timer = some t ∨
      ∃ before since id between v,
        history = before ++ (since, .hears (.instrumentDown id)) :: between ∧
          w.run before = some v ∧ v.monitor.presence.Starts id t.generation ∧
          t.due = since + settings.forgiveness.wait.nanos := by
  induction history generalizing w with
  | nil => exact .inl (Option.some.inj hrun ▸ ht)
  | cons x rest ih =>
    obtain ⟨next, said, hstep, hrest⟩ := run_cons_eq_some hrun
    rcases ih (hw.step hstep) hrest with hnext | ⟨before, since, id, between, v, rfl, hv, hs⟩
    · obtain ⟨-, -, hevent, -⟩ := step_eq_some hstep
      have c := Monitor.change_of_step hevent
      rcases c.running_or_started hnext with ⟨hrunning, -⟩ | ⟨-, hdue, id, hid, hstarts⟩
      · exact .inl hrunning
      · rw [hw.settings_eq] at hdue
        refine .inr ⟨[], x.1, id, rest, w, ?_, rfl, hstarts, hdue⟩
        rw [← hid]
        rfl
    · refine .inr ⟨x :: before, since, id, between, v, rfl, ?_, hs⟩
      rw [run, hstep]
      exact hv

/-- A loss that starts a timer comes while the target is met. The target is missed from then on iff
no link too many was live. -/
theorem missedSince_of_starts (hw : w.Sound settings) {since g : Nat} {id : ConnectionId}
    {said : List Bulletin} (hstarts : w.monitor.presence.Starts id g)
    (hstep : w.step since (.hears (.instrumentDown id)) = some (w', said)) :
    w'.monitor.presence.generation = g ∧ settings.target ≤ w.monitor.presence.live.length ∧
      w'.missedSince =
        if w.monitor.presence.live.length = settings.target then some since else none := by
  obtain ⟨-, -, hevent, hnoted⟩ := step_eq_some hstep
  have hpresence : w'.monitor.presence = (w.monitor.presence.down id).1 := by
    rw [← w.monitor.presence_notice_down since id, Option.some.inj hevent]
  have change : w.monitor.presence.Change (.down id) w'.monitor.presence
      (some (.startTimer g)) := by
    rw [hpresence, ← hstarts]
    exact w.monitor.presence.change_step (.down id)
  obtain ⟨-, hidle, htold, -, hgeneration, hlength⟩ := change.of_started
  have hle := hw.consistent.target_le hidle htold
  have htarget := change.target_eq
  rw [hw.target_eq] at hle htarget
  refine ⟨hgeneration, hle, ?_⟩
  have hmet : w.missedSince = none := by
    refine hw.missedSince_of_connected ((Presence.state_eq_connected_iff _).mpr ?_)
    rwa [hw.target_eq]
  rw [hnoted, noted, hmet]
  by_cases hexact : w.monitor.presence.live.length = settings.target
  · have hstate : w'.monitor.state = .disconnected := by
      refine (Presence.state_eq_disconnected_iff _).mpr ?_
      omega
    rw [hstate, if_pos hexact]
    rfl
  · have hstate : w'.monitor.state = .connected := by
      refine (Presence.state_eq_connected_iff _).mpr ?_
      omega
    rw [hstate, if_neg hexact]

/-! ## The loss behind a report -/

/-- When it is said that the instrument is disconnected, a timer has run out. A loss started it
while the target was met, and if no link too many was live then, the target is missed since that
loss. Otherwise it is missed since a later one. -/
theorem exists_loss_of_disconnected {begun now : Nat} {e : MonitorEvent} {said : List Bulletin}
    (hrun : (start settings begun).run history = some w) (hstep : w.step now e = some (w', said))
    (hsaid : .status .disconnected ∈ said) :
    ∃ before since id between v g u,
      history = before ++ (since, .hears (.instrumentDown id)) :: between ∧
        (start settings begun).run before = some v ∧
        w.monitor.timer = some ⟨g, since + settings.forgiveness.wait.nanos⟩ ∧
        since + settings.forgiveness.wait.nanos ≤ now ∧
        w.missedSince = some u ∧ since ≤ u ∧
        settings.target ≤ v.monitor.presence.live.length ∧
        (v.monitor.presence.live.length = settings.target → u = since) ∧
        (v.monitor.presence.live.length ≠ settings.target →
          ∃ later, (u, .hears (.instrumentDown later)) ∈ between) := by
  obtain ⟨-, -, hevent, -⟩ := step_eq_some hstep
  obtain ⟨hstate, t, ht, hdue⟩ := (Monitor.change_of_step hevent).of_disconnected hsaid
  rcases running_or_starts (sound_start settings begun) hrun ht with
    hnone | ⟨before, since, id, between, v, rfl, hv, hstarts, heq⟩
  · exact absurd hnone (by simp [start, Monitor.start])
  obtain ⟨u, hu⟩ := Option.isSome_iff_exists.mp
    (((sound_start settings begun).run hrun).missedSince_of_disconnected hstate)
  have hsound := (sound_start settings begun).run hv
  rw [run_append, hv, Option.bind_some] at hrun
  obtain ⟨next, answer, hloss, hrest⟩ := run_cons_eq_some hrun
  obtain ⟨hgeneration, hle, hnext⟩ := missedSince_of_starts hsound hstarts hloss
  obtain ⟨-, hkept, hlost⟩ := missedSince_of_running (hsound.step hloss) hrest ht
    (Nat.le_of_eq hgeneration.symm)
  rw [heq] at hdue
  -- From the loss on, what has been noted stays, or it is noted at a later loss.
  have hexact (h : v.monitor.presence.live.length = settings.target) : u = since := by
    rw [if_pos h] at hnext
    exact Option.some.inj (hu.symm.trans (hkept since hnext))
  have hlater (h : v.monitor.presence.live.length ≠ settings.target) :
      ∃ later, (u, .hears (.instrumentDown later)) ∈ between := by
    rw [if_neg h] at hnext
    exact hlost hnext u hu
  refine ⟨before, since, id, between, v, t.generation, u, rfl, hv, ?_, hdue, hu, ?_, hle, hexact,
    hlater⟩
  · rw [ht, ← heq]
  · by_cases h : v.monitor.presence.live.length = settings.target
    · exact Nat.le_of_eq (hexact h).symm
    · obtain ⟨later, hmem⟩ := hlater h
      obtain ⟨-, hclock, -, -⟩ := step_eq_some hloss
      have := clock_le_of_mem hrest hmem
      rwa [hclock] at this

/-- **What a reported loss says about the time before it.** In the bookkeeping, a loss is reported
by a timer that an earlier loss started, and the target was missed from that loss to the report iff
exactly `target` links were live before it. For the monitor, with any events in any order: when it
is said that the instrument is disconnected, the timer of a loss has run out, at least one
forgiveness after it. If exactly `target` links were live before that loss, the target has been
missed since then without interruption. If more were live, it has been missed only since some later
loss. -/
theorem disconnected_exact {α : Type} [DecidableEq α] (target g : Nat)
    (events : List (Presence.Event α)) (settings : MonitorSettings) (begun now : Nat)
    (history : List (Nat × MonitorEvent)) (w w' : Watch) (e : MonitorEvent)
    (said : List Bulletin) :
    ((((Presence.start α target).after events).fired g).2 = some .reportDisconnected →
      (∃ before id between, events = before ++ .down id :: between ∧
        ((Presence.start α target).after before).Starts id g) ∧
      ∀ before id between, events = before ++ .down id :: between →
        ((Presence.start α target).after before).Starts id g →
          ((∀ p ∈ (((Presence.start α target).after before).down id).1.trail between,
              p.state = .disconnected) ↔
            ((Presence.start α target).after before).live.length = target)) ∧
    ((start settings begun).run history = some w → w.step now e = some (w', said) →
      .status .disconnected ∈ said →
        ∃ before since id between v g u,
          history = before ++ (since, .hears (.instrumentDown id)) :: between ∧
          (start settings begun).run before = some v ∧
          w.monitor.timer = some ⟨g, since + settings.forgiveness.wait.nanos⟩ ∧
          since + settings.forgiveness.wait.nanos ≤ now ∧
          w.missedSince = some u ∧ since ≤ u ∧
          settings.target ≤ v.monitor.presence.live.length ∧
          (v.monitor.presence.live.length = settings.target → u = since) ∧
          (v.monitor.presence.live.length ≠ settings.target →
            ∃ later, (u, .hears (.instrumentDown later)) ∈ between)) := by
  constructor
  · intro hreport
    have change := ((Presence.start α target).after events).change_step (.fired g)
    rw [show (((Presence.start α target).after events).step (.fired g)).2 = _ from hreport]
      at change
    obtain ⟨g', hg, hpending, -⟩ := change.of_reportDisconnected
    obtain rfl := Presence.Event.fired.inj hg
    constructor
    · rcases Presence.pending_or_starts _ _ hpending with hnone | hstarts
      · exact absurd hnone (by simp [Presence.start])
      · exact hstarts
    · rintro before id between rfl hstarts
      rw [Presence.after_append] at hpending
      rw [Presence.missed_throughout_iff ((Presence.consistent_start target).after before) hstarts
        hpending, Presence.target_after]
      rfl
  · intro hrun hstep hsaid
    exact exists_loss_of_disconnected hrun hstep hsaid

/-- One link is enough, and losses are forgiven for five seconds. -/
def oneLink : MonitorSettings := ⟨1, .ofSeconds 5, .ofSeconds 3600, by decide, []⟩

/-- The only link is lost one second after the start, and five seconds later that is said. -/
theorem disconnected_after_only_link :
    (∃ before id between, [.up 0, .down 0] = before ++ Presence.Event.down id :: between ∧
      ((Presence.start Nat 1).after before).Starts id 1) ∧
    ∃ w w', (start oneLink 0).run
        [(0, .hears (.instrumentUp ⟨0⟩)), (1000000000, .hears (.instrumentDown ⟨0⟩))] = some w ∧
      w.step 6000000000 .expires = some (w', [.status .disconnected]) ∧
      ∃ since u, since + oneLink.forgiveness.wait.nanos ≤ 6000000000 ∧
        w.missedSince = some u ∧ since ≤ u := by
  have hexact := disconnected_exact 1 1 [.up 0, .down (0 : Nat)] oneLink 0 6000000000
    [(0, .hears (.instrumentUp ⟨0⟩)), (1000000000, .hears (.instrumentDown ⟨0⟩))]
  constructor
  · exact ((hexact (start oneLink 0) (start oneLink 0) .expires []).1 (by decide)).1
  · refine ⟨_, _, rfl, rfl, ?_⟩
    obtain ⟨_, since, _, _, _, _, u, -, -, -, hdue, hu, hle, -⟩ :=
      (hexact _ _ .expires [.status .disconnected]).2 rfl rfl (by simp)
    exact ⟨since, u, hdue, hu, hle⟩

/-- One of two links is lost, although one is enough. Four seconds later the other one is lost, and
one second after that the instrument is said to be disconnected. -/
theorem disconnected_too_early :
    ((Presence.start Nat 1).after [.up 0, .up 1]).Starts 0 1 ∧
    ((Presence.start Nat 1).after [.up 0, .up 1, .down 0]).state = .connected ∧
    (((Presence.start Nat 1).after [.up 0, .up 1, .down 0, .down 1]).fired 1).2
      = some .reportDisconnected ∧
    ∃ w w', (start oneLink 0).run
        [(0, .hears (.instrumentUp ⟨0⟩)), (0, .hears (.instrumentUp ⟨1⟩)),
          (0, .hears (.instrumentDown ⟨0⟩)), (4000000000, .hears (.instrumentDown ⟨1⟩))] = some w ∧
      w.step 5000000000 .expires = some (w', [.status .disconnected]) ∧
      w.missedSince = some 4000000000 ∧
      5000000000 < 4000000000 + oneLink.forgiveness.wait.nanos := by
  refine ⟨by decide, by decide, by decide, _, _, rfl, rfl, rfl, by decide⟩

end Watch

end InstrumentRelay
