import InstrumentRelay.Proofs.Presence

/-!
# What has been reported

Everyone who listens knows of the instrument only what was reported last, and before the first
report it counts as disconnected. With a target of at least one, that is the truth whenever no timer
is pending. While one is pending, the last report said "connected", and the timer will settle
whether this still holds. So a loss is never both unreported and forgotten.

The field `Presence.reported` is a copy of the last report (`reported_after`), which is why
`Presence.Consistent` says all of this already. The order of the reports follows from the same
copy: a loss is reported only while it says "connected", so some report must have said so before
(`getLastD_eq_connected`).
-/

namespace InstrumentRelay

/-- The state that is reported, if one is. -/
def Effect.report? : Option Effect → Option LinkState
  | some reportConnected => some .connected
  | some reportDisconnected => some .disconnected
  | some (startTimer _) | none => none

namespace Presence

variable {α : Type} [DecidableEq α]

/-- What is reported in the course of several events, in order. -/
def reports (p : Presence α) (events : List (Event α)) : List LinkState :=
  (p.effects events).filterMap Effect.report?

theorem Change.reported_eq {p q : Presence α} {e : Event α} {effect : Option Effect}
    (c : p.Change e q effect) : q.reported = (Effect.report? effect).getD p.reported := by
  cases c <;> rfl

/-- "Disconnected" is reported only to those who were told otherwise. -/
theorem Change.reported_of_report {p q : Presence α} {e : Event α} {effect : Option Effect}
    (c : p.Change e q effect) (hp : p.Consistent)
    (h : Effect.report? effect = some .disconnected) : p.reported = .connected := by
  cases c with
  | missed pending => exact hp.reported_of_pending _ pending
  | known | met | gained | unknown | lost | started | stale | forgiven =>
    simp [Effect.report?] at h

theorem reports_cons_of_silent {p : Presence α} {e : Event α}
    (h : Effect.report? (p.step e).2 = none) (rest : List (Event α)) :
    p.reports (e :: rest) = (p.step e).1.reports rest := by
  rw [reports, effects, List.filterMap_cons_none h, reports]

theorem reports_cons_of_report {p : Presence α} {e : Event α} {state : LinkState}
    (h : Effect.report? (p.step e).2 = some state) (rest : List (Event α)) :
    p.reports (e :: rest) = state :: (p.step e).1.reports rest := by
  rw [reports, effects, List.filterMap_cons_some h, reports]

/-- What is kept of the reports is the last one. -/
theorem reported_after (p : Presence α) (events : List (Event α)) :
    (p.after events).reported = (p.reports events).getLastD p.reported := by
  induction events generalizing p with
  | nil => rfl
  | cons e rest ih =>
    have hreported := (p.change_step e).reported_eq
    rw [after, ih]
    cases h : Effect.report? (p.step e).2 with
    | none => rw [reports_cons_of_silent h, hreported, h, Option.getD_none]
    | some state =>
      rw [reports_cons_of_report h, hreported, h, Option.getD_some, List.getLastD_cons]

/-- Right before "disconnected" is reported, "connected" was the last report. -/
theorem getLastD_eq_connected {p : Presence α} (hp : p.Consistent) {events : List (Event α)}
    {before rest : List LinkState} (h : p.reports events = before ++ .disconnected :: rest) :
    before.getLastD p.reported = .connected := by
  induction events generalizing p before with
  | nil => simp [reports, effects] at h
  | cons e events ih =>
    have c := p.change_step e
    have hreported := c.reported_eq
    cases hreport : Effect.report? (p.step e).2 with
    | none =>
      rw [reports_cons_of_silent hreport] at h
      rw [hreport, Option.getD_none] at hreported
      rw [← hreported]
      exact ih (hp.change c) h
    | some state =>
      rw [reports_cons_of_report hreport] at h
      rw [hreport, Option.getD_some] at hreported
      -- Either this very event reports the loss, or its report is the first of those before it.
      cases before with
      | nil =>
        obtain ⟨rfl, -⟩ := List.cons.inj h
        exact c.reported_of_report hp hreport
      | cons first before =>
        obtain ⟨rfl, hrest⟩ := List.cons.inj h
        rw [List.getLastD_cons, ← hreported]
        exact ih (hp.change c) hrest

/-- **What was reported last is true, or a timer is pending.** Whatever links come and go and
whatever timers are said to have run out, for a target of at least one: without a pending timer the
last report is the state, and with one it said "connected". The first report says "connected",
between two that say "disconnected" there is one that says "connected", and a target that is missed
has been reported as missed or has a timer pending. -/
theorem reports_faithful {target : Nat} (htarget : 0 < target) (events : List (Event α)) :
    (((start α target).after events).pending = none →
      ((start α target).reports events).getLastD .disconnected
        = ((start α target).after events).state) ∧
    (((start α target).after events).pending.isSome →
      ((start α target).reports events).getLast? = some .connected) ∧
    (∀ first ∈ ((start α target).reports events).head?, first = .connected) ∧
    (∀ before between rest, (start α target).reports events
        = before ++ .disconnected :: between ++ .disconnected :: rest → .connected ∈ between) ∧
    (((start α target).after events).state = .disconnected →
      ((start α target).reports events).getLastD .disconnected = .disconnected ∨
        ((start α target).after events).pending.isSome) := by
  have hstart := consistent_start (α := α) target
  have hafter := hstart.after events
  have hlast : ((start α target).after events).reported
      = ((start α target).reports events).getLastD .disconnected := reported_after _ _
  have htrue (hidle : ((start α target).after events).pending = none) :
      ((start α target).reports events).getLastD .disconnected
        = ((start α target).after events).state := by
    rw [← hlast]
    refine hafter.reported_eq ?_ hidle
    rw [target_after]
    exact htarget
  refine ⟨htrue, fun hpending ↦ ?_, fun first hfirst ↦ ?_, fun before between rest h ↦ ?_,
    fun hmissed ↦ ?_⟩
  · obtain ⟨g, hg⟩ := Option.isSome_iff_exists.mp hpending
    have htold := hlast.symm.trans (hafter.reported_of_pending g hg)
    rw [List.getLastD_eq_getLast?] at htold
    cases hreports : ((start α target).reports events).getLast? with
    | none => simp [hreports] at htold
    | some state =>
      rw [hreports, Option.getD_some] at htold
      rw [htold]
  · obtain ⟨others, hothers⟩ := List.head?_eq_some_iff.mp hfirst
    cases first with
    | connected => rfl
    | disconnected =>
      -- Before the first report the instrument counts as disconnected.
      rw [← List.nil_append (_ :: others)] at hothers
      exact absurd (getLastD_eq_connected hstart hothers) (by simp [start])
  · have htold := getLastD_eq_connected hstart h
    rcases List.eq_nil_or_concat between with rfl | ⟨others, last, rfl⟩
    · rw [List.getLastD_concat] at htold
      exact absurd htold (by simp)
    · rw [List.concat_eq_append, ← List.cons_append, ← List.append_assoc,
        List.getLastD_concat] at htold
      rw [htold, List.concat_eq_append]
      exact List.mem_concat_self
  · cases hpending : ((start α target).after events).pending with
    | none => exact .inl ((htrue hpending).trans hmissed)
    | some g => exact .inr rfl

/-- The only link is lost, and a timer that was never started is said to have run out. -/
theorem reported_connected_while_pending :
    0 < 1 ∧ ((start Nat 1).after [.up 0, .down 0, .fired 7]).state = .disconnected ∧
      ((start Nat 1).reports [.up 0, .down 0, .fired 7]).getLast? = some .connected := by
  have hfaithful := reports_faithful (α := Nat) (show 0 < 1 by decide) [.up 0, .down 0, .fired 7]
  exact ⟨by decide, by decide, hfaithful.2.1 (by decide)⟩

end Presence

end InstrumentRelay
