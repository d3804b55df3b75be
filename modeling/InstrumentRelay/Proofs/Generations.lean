import InstrumentRelay.Proofs.Presence

/-!
# Timers that run out too late

The bookkeeping of the links starts timers and never stops one. A timer that was given up may run
out all the same, late or more than once, and what is said to run out may never have been started.
All of this is recognised by the generation: only the pending one means anything, and a generation
that is not pending any more will not be pending again.

The reason is that generations are counted up. Each new one is the next number, so they increase
and none is given out twice (`exists_started_eq`). A number that has been given out and is not
pending is `Spent`, and it stays so (`Spent.change`). Everything else is read off the course of a
run, which lists each event with what had to be done about it and the bookkeeping before and after
it. To leave out the events that mean nothing is to leave out their entries (`course_prune`).
-/

namespace InstrumentRelay

/-- The generation of the timer that is to be started, if one is. -/
def Effect.generation? : Option Effect → Option Nat
  | some (startTimer g) => some g
  | some reportConnected | some reportDisconnected | none => none

namespace Presence

variable {α : Type} [DecidableEq α]

/-! ## The course of a run -/

/-- An event with what it meets and what it comes to. -/
structure Happening (α : Type) where
  /-- The bookkeeping that the event meets. -/
  before : Presence α
  /-- The event. -/
  event : Event α
  /-- What has to be done. -/
  effect : Option Effect
  /-- The bookkeeping afterwards. -/
  after : Presence α
  deriving DecidableEq

/-- What happens in the course of several events. -/
def course (p : Presence α) : List (Event α) → List (Happening α)
  | [] => []
  | e :: rest => ⟨p, e, (p.step e).2, (p.step e).1⟩ :: (p.step e).1.course rest

/-- The generations of the timers that are started in the course of several events. -/
def started (p : Presence α) (events : List (Event α)) : List Nat :=
  (p.effects events).filterMap Effect.generation?

/-- A timer runs out that is not pending. -/
def Stale (p : Presence α) : Event α → Prop
  | .fired g => p.pending ≠ some g
  | .up _ | .down _ => False

instance (p : Presence α) (e : Event α) : Decidable (p.Stale e) :=
  match e with
  | .fired g => inferInstanceAs (Decidable (p.pending ≠ some g))
  | .up _ | .down _ => inferInstanceAs (Decidable False)

/-- The event comes of a timer that is not pending. -/
def Happening.isStale (x : Happening α) : Bool := x.before.Stale x.event

/-- The events without those that come of timers which are not pending then. -/
def prune (p : Presence α) (events : List (Event α)) : List (Event α) :=
  ((p.course events).filter (!·.isStale)).map (·.event)

theorem step_of_stale {p : Presence α} {e : Event α} (h : p.Stale e) : p.step e = (p, none) := by
  cases e with
  | fired g => exact if_pos h
  | up id | down id => exact h.elim

/-- What happens is a step each time. -/
theorem step_of_mem_course {p : Presence α} {events : List (Event α)} {x : Happening α}
    (h : x ∈ p.course events) : x.before.step x.event = (x.after, x.effect) := by
  induction events generalizing p with
  | nil => cases h
  | cons e rest ih =>
    rcases List.mem_cons.1 h with rfl | hrest
    · rfl
    · exact ih hrest

theorem eq_of_isStale {p : Presence α} {events : List (Event α)} {x : Happening α}
    (h : x ∈ p.course events) (hstale : x.isStale = true) :
    x.effect = none ∧ x.after = x.before := by
  have hstep := step_of_mem_course h
  rw [step_of_stale (of_decide_eq_true hstale), Prod.mk.injEq] at hstep
  exact ⟨hstep.2.symm, hstep.1.symm⟩

/-- A stale event changes nothing, so what comes after it is the same without it. -/
theorem filter_course_of_stale {p : Presence α} {e : Event α} (h : p.Stale e)
    (rest : List (Event α)) :
    (p.course (e :: rest)).filter (!·.isStale) = (p.course rest).filter (!·.isStale) := by
  have hstale : (Happening.mk p e none p).isStale = true := decide_eq_true h
  rw [course, step_of_stale h, List.filter_cons_of_neg (by simp [hstale])]

theorem filter_course_of_not_stale {p : Presence α} {e : Event α} (h : ¬p.Stale e)
    (rest : List (Event α)) :
    (p.course (e :: rest)).filter (!·.isStale)
      = ⟨p, e, (p.step e).2, (p.step e).1⟩ :: ((p.step e).1.course rest).filter (!·.isStale) := by
  have hlive : (Happening.mk p e (p.step e).2 (p.step e).1).isStale = false := decide_eq_false h
  rw [course, List.filter_cons_of_pos (by simp [hlive])]

theorem prune_of_stale {p : Presence α} {e : Event α} (h : p.Stale e) (rest : List (Event α)) :
    p.prune (e :: rest) = p.prune rest := by
  rw [prune, filter_course_of_stale h, prune]

theorem prune_of_not_stale {p : Presence α} {e : Event α} (h : ¬p.Stale e)
    (rest : List (Event α)) : p.prune (e :: rest) = e :: (p.step e).1.prune rest := by
  rw [prune, filter_course_of_not_stale h, List.map_cons, prune]

/-- **To leave out stale events is to leave out their entries.** -/
theorem course_prune (p : Presence α) (events : List (Event α)) :
    p.course (p.prune events) = (p.course events).filter (!·.isStale) := by
  induction events generalizing p with
  | nil => rfl
  | cons e rest ih =>
    by_cases h : p.Stale e
    · rw [prune_of_stale h, filter_course_of_stale h, ih]
    · rw [prune_of_not_stale h, filter_course_of_not_stale h, course, ih]

theorem after_prune (p : Presence α) (events : List (Event α)) :
    p.after (p.prune events) = p.after events := by
  induction events generalizing p with
  | nil => rfl
  | cons e rest ih =>
    by_cases h : p.Stale e
    · rw [prune_of_stale h, ih, after, step_of_stale h]
    · rw [prune_of_not_stale h, after, after, ih]

/-! ## Generations are counted up -/

/-- Either the next generation is given out, or none is. -/
theorem Change.generation_eq {p q : Presence α} {e : Event α} {effect : Option Effect}
    (c : Change p e q effect) :
    (Effect.generation? effect = some (p.generation + 1) ∧ q.generation = p.generation + 1) ∨
      (Effect.generation? effect = none ∧ q.generation = p.generation) := by
  cases c with
  | started => exact .inl ⟨rfl, rfl⟩
  | _ => exact .inr ⟨rfl, rfl⟩

/-- The generations that are given out follow on those before, one for each timer. -/
theorem exists_started_eq (p : Presence α) (events : List (Event α)) :
    ∃ n ≤ events.length, p.started events = List.range' (p.generation + 1) n ∧
      (p.after events).generation = p.generation + n := by
  induction events generalizing p with
  | nil => exact ⟨0, Nat.le_refl 0, rfl, rfl⟩
  | cons e rest ih =>
    obtain ⟨n, hn, hstarted, hafter⟩ := ih (p.step e).1
    rw [started] at hstarted
    rw [started, effects, after, List.length_cons]
    rcases (p.change_step e).generation_eq with ⟨hnew, hnext⟩ | ⟨hnone, hsame⟩
    · refine ⟨n + 1, Nat.succ_le_succ hn, ?_, ?_⟩
      · rw [List.filterMap_cons_some hnew, hstarted, hnext, List.range'_succ]
      · rw [hafter, hnext]
        omega
    · refine ⟨n, Nat.le_succ_of_le hn, ?_, ?_⟩
      · rw [List.filterMap_cons_none hnone, hstarted, hsame]
      · rw [hafter, hsame]

theorem le_generation_of_mem_started {p : Presence α} {events : List (Event α)} {g : Nat}
    (h : g ∈ p.started events) : g ≤ (p.after events).generation := by
  obtain ⟨n, -, hstarted, hafter⟩ := p.exists_started_eq events
  rw [hstarted, List.mem_range'_1] at h
  omega

/-! ## Generations that are over -/

/-- The generation has been given out and is not pending. -/
def Spent (p : Presence α) (g : Nat) : Prop := g ≤ p.generation ∧ p.pending ≠ some g

/-- What is over stays over. -/
theorem Spent.change {p q : Presence α} {e : Event α} {effect : Option Effect} {g : Nat}
    (h : p.Spent g) (c : Change p e q effect) : q.Spent g := by
  obtain ⟨hle, hidle⟩ := h
  refine ⟨Nat.le_trans hle c.generation_le, ?_⟩
  intro hpending
  rcases c.pending_or_started hpending with hold | ⟨hnew, -⟩
  · exact hidle hold
  · omega

theorem Spent.of_mem_course {p : Presence α} {events : List (Event α)} {g : Nat} (h : p.Spent g)
    {x : Happening α} (hx : x ∈ p.course events) : x.before.Spent g := by
  induction events generalizing p with
  | nil => cases hx
  | cons e rest ih =>
    rcases List.mem_cons.1 hx with rfl | hrest
    · exact h
    · exact ih (h.change (p.change_step e)) hrest

/-- **A timer that is over does nothing.** -/
theorem Spent.eq_of_fired {p : Presence α} {events : List (Event α)} {g : Nat} (h : p.Spent g)
    {x : Happening α} (hx : x ∈ p.course events) (hevent : x.event = .fired g) :
    x.effect = none ∧ x.after = x.before := by
  refine eq_of_isStale hx (decide_eq_true ?_)
  rw [hevent]
  exact (h.of_mem_course hx).2

/-- When the target is met again, whatever was pending is given up. -/
theorem Change.pending_eq_none {p q : Presence α} {e : Event α} {effect : Option Effect}
    (c : Change p e q effect) (hp : p.state = .disconnected) (hq : q.state = .connected) :
    q.pending = none := by
  by_cases heffect : effect = some .reportConnected
  · rw [Option.eq_none_iff_forall_ne_some]
    intro g hpending
    exact c.ne_reportConnected hpending heffect
  · rw [c.disconnected heffect hp] at hq
    cases hq

/-- The timer of this generation runs out, and the loss is reported. -/
def Happening.reportsLoss (g : Nat) (x : Happening α) : Bool :=
  x.event = .fired g ∧ x.effect = some .reportDisconnected

theorem countP_reportsLoss_of_spent {p : Presence α} {g : Nat} (h : p.Spent g)
    (events : List (Event α)) : (p.course events).countP (Happening.reportsLoss g) = 0 := by
  rw [List.countP_eq_zero]
  intro x hx hreports
  obtain ⟨hevent, heffect⟩ := of_decide_eq_true hreports
  rw [(h.eq_of_fired hx hevent).1] at heffect
  cases heffect

/-- A timer that has reported a loss is over. -/
theorem Consistent.spent_of_reported {p q : Presence α} {g : Nat} (hp : p.Consistent)
    (c : Change p (.fired g) q (some .reportDisconnected)) : q.Spent g := by
  cases c with
  | missed hpending hstate =>
    refine ⟨hp.pending_le g hpending, ?_⟩
    intro hnow
    cases hnow

theorem countP_reportsLoss_le {p : Presence α} (hp : p.Consistent) (g : Nat)
    (events : List (Event α)) : (p.course events).countP (Happening.reportsLoss g) ≤ 1 := by
  induction events generalizing p with
  | nil => exact Nat.zero_le 1
  | cons e rest ih =>
    have c := p.change_step e
    rw [course]
    by_cases h : Happening.reportsLoss g ⟨p, e, (p.step e).2, (p.step e).1⟩ = true
    · rw [List.countP_cons_of_pos h]
      obtain ⟨rfl, heffect⟩ := of_decide_eq_true h
      change (p.step (.fired g)).2 = _ at heffect
      rw [heffect] at c
      have hnone := countP_reportsLoss_of_spent (hp.spent_of_reported c) rest
      omega
    · rw [List.countP_cons_of_neg h]
      exact ih (hp.change c)

/-- **Stale timers are harmless.** Whatever links come and go and whatever timers are said to run
out, the generations that are given out increase, one at most for each event, and each of them leads
to at most one report of a loss. Without the events that come of timers which are not pending at
that moment, the run is the same, entry by entry and to its end; and what is left out came to
nothing. After the target is met again, no timer that was started before does anything. -/
theorem stale_timers_harmless (target : Nat) (events : List (Event α)) :
    let p := start α target
    ((p.started events).Pairwise (· < ·) ∧ ∀ g ∈ p.started events, g ≤ events.length) ∧
      (∀ g, (p.course events).countP (Happening.reportsLoss g) ≤ 1) ∧
      (p.course (p.prune events) = (p.course events).filter (!·.isStale) ∧
        p.after (p.prune events) = p.after events ∧
        ∀ x ∈ p.course events, x.isStale = true → x.effect = none ∧ x.after = x.before) ∧
      ∀ before id rest, events = before ++ .up id :: rest →
        (p.after before).state = .disconnected →
        ((p.after before).up id).1.state = .connected →
        ∀ g ∈ p.started before, ∀ x ∈ ((p.after before).up id).1.course rest,
          x.event = .fired g → x.effect = none ∧ x.after = x.before := by
  intro p
  obtain ⟨n, hn, hstarted, -⟩ := p.exists_started_eq events
  refine ⟨⟨?_, ?_⟩, fun g ↦ countP_reportsLoss_le (consistent_start target) g events, ?_, ?_⟩
  · rw [hstarted]
    exact List.pairwise_lt_range'
  · intro g hg
    rw [hstarted, List.mem_range'_1] at hg
    change _ ∧ g < 0 + 1 + n at hg
    omega
  · exact ⟨p.course_prune events, p.after_prune events, fun x hx ↦ eq_of_isStale hx⟩
  · intro before id rest _ hmissed hmet g hg x hx
    have c : Change (p.after before) (.up id) _ _ := (p.after before).change_step (.up id)
    -- With nothing pending, every generation given out so far is over.
    have hspent : ((p.after before).up id).1.Spent g := by
      refine ⟨Nat.le_trans (le_generation_of_mem_started hg) c.generation_le, ?_⟩
      rw [show ((p.after before).up id).1.pending = none from c.pending_eq_none hmissed hmet]
      exact fun hnow ↦ by cases hnow
    exact hspent.eq_of_fired hx

/-- The only link is replaced and lost again. Only then the timer of the first loss runs out, and
after it the timer of the second. -/
theorem stale_timers_harmless_of_replaced :
    let p := start Nat 1
    let events := [.up 0, .down 0, .up 1, .down 1, .fired 1, .fired 2]
    p.started events = [1, 2] ∧
      p.prune events = [.up 0, .down 0, .up 1, .down 1, .fired 2] ∧
      p.after (p.prune events) = p.after events ∧
      ∀ x ∈ ((p.after [.up 0, .down 0]).up 1).1.course [.down 1, .fired 1, .fired 2],
        x.event = .fired 1 → x.effect = none ∧ x.after = x.before := by
  intro p events
  obtain ⟨-, -, ⟨-, hafter, -⟩, hlate⟩ := stale_timers_harmless (α := Nat) 1 events
  refine ⟨by decide, by decide, hafter, ?_⟩
  exact hlate [.up 0, .down 0] 1 [.down 1, .fired 1, .fired 2] rfl (by decide) (by decide) 1
    (by decide)

end Presence

end InstrumentRelay
