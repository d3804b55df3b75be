import InstrumentRelay.Presence

/-!
# A timer and the loss that started it

A pending timer was started by the loss of one link. The bookkeeping does not start another one
while it is pending, and forgets it when the target is met again, so between the loss and the end of
the timer the target is missed throughout if it was missed to begin with.

It need not have been. A link that is lost while more than `target` of them are live starts a timer
too, although nothing is missed, and a later loss that does matter finds this timer running and
starts none of its own. When it runs out, the later loss is reported early.
`missed_throughout_iff` is the exact condition: the target is missed during the whole time of a
timer iff exactly `target` links were live before the loss that started it.
-/

namespace InstrumentRelay

namespace Presence

variable {α : Type} [DecidableEq α]

omit [DecidableEq α] in
theorem state_eq_connected_iff (p : Presence α) :
    p.state = .connected ↔ p.target ≤ p.live.length := by
  simp [state]

omit [DecidableEq α] in
theorem state_eq_disconnected_iff (p : Presence α) :
    p.state = .disconnected ↔ p.live.length < p.target := by
  simp [state]

/-! ## What one event can do -/

/-- What an event can do to the bookkeeping, and what has to be done about it. -/
inductive Change (p : Presence α) : Event α → Presence α → Option Effect → Prop where
  /-- The link is live already. -/
  | known {id : α} (h : id ∈ p.live) : Change p (.up id) p none
  /-- The last missing link is there. -/
  | met {id : α} (new : id ∉ p.live) (last : p.live.length + 1 = p.target) :
      Change p (.up id)
        { p with live := id :: p.live, pending := none, reported := .connected }
        (some .reportConnected)
  /-- One more link, which is one of too few or one of more than enough. -/
  | gained {id : α} (new : id ∉ p.live) (other : p.live.length + 1 ≠ p.target) :
      Change p (.up id) { p with live := id :: p.live } none
  /-- The link is not live anyway. -/
  | unknown {id : α} (h : id ∉ p.live) : Change p (.down id) p none
  /-- One link less, for which a timer is pending or about which no one needs to be told. -/
  | lost {id : α} (old : id ∈ p.live) (settled : p.pending.isSome ∨ p.reported = .disconnected) :
      Change p (.down id) { p with live := p.live.erase id } none
  /-- One link less, and the timer starts. -/
  | started {id : α} (old : id ∈ p.live) (idle : p.pending = none)
      (told : p.reported = .connected) :
      Change p (.down id)
        { p with
          live := p.live.erase id
          generation := p.generation + 1
          pending := some (p.generation + 1) }
        (some (.startTimer (p.generation + 1)))
  /-- The timer is not pending any more. -/
  | stale {g : Nat} (h : p.pending ≠ some g) : Change p (.fired g) p none
  /-- The target is missed when the timer runs out. -/
  | missed {g : Nat} (pending : p.pending = some g) (state : p.state = .disconnected) :
      Change p (.fired g) { p with pending := none, reported := .disconnected }
        (some .reportDisconnected)
  /-- It is not. -/
  | forgiven {g : Nat} (pending : p.pending = some g) (state : p.state = .connected) :
      Change p (.fired g) { p with pending := none } none

theorem change_step (p : Presence α) (e : Event α) : Change p e (p.step e).1 (p.step e).2 := by
  cases e with
  | up id =>
    by_cases hid : id ∈ p.live
    · simpa [step, up, hid] using Change.known hid
    by_cases hlast : p.live.length + 1 = p.target
    · simpa [step, up, hid, hlast] using Change.met hid hlast
    · simpa [step, up, hid, hlast] using Change.gained hid hlast
  | down id =>
    by_cases hid : id ∈ p.live
    · by_cases hset : p.pending.isSome ∨ p.reported = .disconnected
      · simpa [step, down, hid, hset] using Change.lost hid hset
      · have hidle : p.pending = none := by simpa using fun h ↦ hset (.inl h)
        have htold : p.reported = .connected := by
          cases hr : p.reported with
          | connected => rfl
          | disconnected => exact absurd (.inr hr) hset
        simpa [step, down, hid, hset] using Change.started hid hidle htold
    · simpa [step, down, hid] using Change.unknown hid
  | fired g =>
    by_cases hg : p.pending = some g
    · cases hs : p.state with
      | connected => simpa [step, fired, hg, hs] using Change.forgiven hg hs
      | disconnected => simpa [step, fired, hg, hs] using Change.missed hg hs
    · simpa [step, fired, hg] using Change.stale hg

namespace Change

variable {p q : Presence α} {e : Event α} {effect : Option Effect} {g : Nat}

theorem target_eq (c : Change p e q effect) : q.target = p.target := by
  cases c <;> rfl

theorem generation_le (c : Change p e q effect) : p.generation ≤ q.generation := by
  cases c <;> simp

/-- A timer that is pending was pending before, unless it was started just now. -/
theorem pending_or_started (c : Change p e q effect) (hq : q.pending = some g) :
    p.pending = some g ∨ g = p.generation + 1 ∧ effect = some (.startTimer g) := by
  cases c with
  | started => simp_all
  | known | gained | unknown | lost | stale => exact .inl hq
  | met | missed | forgiven => simp at hq

/-- No timer is pending when the target has just been met. -/
theorem ne_reportConnected (c : Change p e q effect) (hq : q.pending = some g) :
    effect ≠ some .reportConnected := by
  rintro rfl
  cases c
  simp at hq

/-- As long as no one is told so, the target is not met again. -/
theorem disconnected (c : Change p e q effect) (heffect : effect ≠ some .reportConnected)
    (hp : p.state = .disconnected) : q.state = .disconnected := by
  rw [state_eq_disconnected_iff] at hp ⊢
  cases c with
  | known | unknown | stale | missed | forgiven => exact hp
  | met => exact absurd rfl heffect
  | gained new other =>
    simp only [List.length_cons]
    omega
  | lost old | started old =>
    simp only [List.length_erase_of_mem old]
    omega

/-- Only a loss makes the target missed. -/
theorem exists_down (c : Change p e q effect) (hp : p.state = .connected)
    (hq : q.state = .disconnected) : ∃ id, e = .down id := by
  rw [state_eq_connected_iff] at hp
  rw [state_eq_disconnected_iff] at hq
  cases c with
  | unknown | lost | started => exact ⟨_, rfl⟩
  | known | stale | missed | forgiven => exact absurd hq (by simpa using hp)
  | met | gained =>
    simp only [List.length_cons] at hq
    omega

/-- Only a loss starts a timer. -/
theorem eq_down_of_started (c : Change p e q (some (.startTimer g))) : ∃ id, e = .down id := by
  cases c
  exact ⟨_, rfl⟩

/-- A loss is reported only when a pending timer runs out and the target is missed. -/
theorem of_reportDisconnected (c : Change p e q (some .reportDisconnected)) :
    ∃ g, e = .fired g ∧ p.pending = some g ∧ p.state = .disconnected := by
  cases c with
  | missed pending state => exact ⟨_, rfl, pending, state⟩

/-- What the start of a timer says about the moment. -/
theorem of_started (c : Change p e q (some (.startTimer g))) :
    g = p.generation + 1 ∧ p.pending = none ∧ p.reported = .connected ∧ q.pending = some g ∧
      q.generation = g ∧ q.live.length + 1 = p.live.length := by
  cases c with
  | started old idle told =>
    refine ⟨rfl, idle, told, rfl, rfl, ?_⟩
    have := List.length_pos_of_mem old
    simp only [List.length_erase_of_mem old]
    omega

end Change

/-! ## What always holds -/

/-- What was reported is true, unless a timer is pending: then the instrument was reported as
connected, and whether it still is will be seen. -/
structure Consistent (p : Presence α) : Prop where
  /-- Without a pending timer, what was reported is true. -/
  reported_eq : 0 < p.target → p.pending = none → p.reported = p.state
  /-- With one, the instrument was reported as connected. -/
  reported_of_pending : ∀ g, p.pending = some g → p.reported = .connected
  /-- Only timers that were started are pending. -/
  pending_le : ∀ g, p.pending = some g → g ≤ p.generation

omit [DecidableEq α] in
theorem consistent_start (target : Nat) : (start α target).Consistent where
  reported_eq htarget _ := ((state_eq_disconnected_iff (start α target)).mpr htarget).symm
  reported_of_pending _ h := by simp [start] at h
  pending_le _ h := by simp [start] at h

theorem Consistent.change {p q : Presence α} {e : Event α} {effect : Option Effect}
    (hp : p.Consistent) (c : Change p e q effect) : q.Consistent := by
  cases c with
  | known | unknown | stale => exact hp
  | met new last =>
    refine ⟨fun _ _ ↦ ?_, by simp, by simp⟩
    symm
    rw [state_eq_connected_iff]
    simp only [List.length_cons]
    omega
  | @gained id new other =>
    refine ⟨fun htarget hidle ↦ ?_, hp.reported_of_pending, hp.pending_le⟩
    -- One more link does not change the state, for it would have been the last missing one.
    have hstate : Presence.state { p with live := id :: p.live } = p.state := by
      have hiff : p.target ≤ p.live.length + 1 ↔ p.target ≤ p.live.length := by omega
      simp only [Presence.state, List.length_cons, hiff]
    exact (hp.reported_eq htarget hidle).trans hstate.symm
  | @lost id old settled =>
    refine ⟨fun htarget hidle ↦ ?_, hp.reported_of_pending, hp.pending_le⟩
    -- Without a pending timer the target was missed before, and still is.
    have htold : p.reported = .disconnected := by
      rcases settled with hpending | htold
      · rw [hidle] at hpending
        exact absurd hpending (by simp)
      · exact htold
    have hstate := hp.reported_eq htarget hidle
    rw [htold] at hstate
    have hlt := (state_eq_disconnected_iff p).mp hstate.symm
    have herase : (p.live.erase id).length < p.target :=
      Nat.lt_of_le_of_lt List.length_erase_le hlt
    exact htold.trans ((state_eq_disconnected_iff _).mpr herase).symm
  | started old idle told =>
    refine ⟨fun _ h ↦ ?_, fun _ _ ↦ told, fun g h ↦ ?_⟩
    · simp at h
    · exact Nat.le_of_eq (Option.some.inj h).symm
  | missed pending state =>
    exact ⟨fun _ _ ↦ state.symm, by simp, by simp⟩
  | forgiven pending state =>
    exact ⟨fun _ _ ↦ (hp.reported_of_pending _ pending).trans state.symm, by simp, by simp⟩

theorem Consistent.after {p : Presence α} (hp : p.Consistent) (events : List (Event α)) :
    (p.after events).Consistent := by
  induction events generalizing p with
  | nil => exact hp
  | cons e rest ih => exact ih (hp.change (p.change_step e))

omit [DecidableEq α] in
/-- What was reported as connected, and is not in question, is connected. -/
theorem Consistent.target_le {p : Presence α} (hp : p.Consistent) (hidle : p.pending = none)
    (htold : p.reported = .connected) : p.target ≤ p.live.length := by
  by_cases htarget : 0 < p.target
  · rw [← state_eq_connected_iff, ← hp.reported_eq htarget hidle, htold]
  · omega

theorem target_after (p : Presence α) (events : List (Event α)) :
    (p.after events).target = p.target := by
  induction events generalizing p with
  | nil => rfl
  | cons e rest ih => exact (ih _).trans (p.change_step e).target_eq

/-! ## From the start of a timer to its end -/

/-- The bookkeeping before, between and after several events. -/
def trail (p : Presence α) : List (Event α) → List (Presence α)
  | [] => [p]
  | e :: rest => p :: (p.step e).1.trail rest

/-- A loss starts the timer of this generation. -/
def Starts (p : Presence α) (id : α) (g : Nat) : Prop := (p.down id).2 = some (.startTimer g)

instance (p : Presence α) (id : α) (g : Nat) : Decidable (p.Starts id g) :=
  inferInstanceAs (Decidable (_ = _))

/-- A timer that is pending in the end was pending from the beginning, or it was started in
between. -/
theorem pending_or_starts (p : Presence α) (events : List (Event α)) {g : Nat}
    (h : (p.after events).pending = some g) :
    p.pending = some g ∨
      ∃ before id between, events = before ++ .down id :: between ∧
        (p.after before).Starts id g := by
  induction events generalizing p with
  | nil => exact .inl h
  | cons e rest ih =>
    -- Either it was started later, or it is the first event that decides.
    rcases ih _ h with hnow | ⟨before, id, between, rfl, hstarts⟩
    · rcases (p.change_step e).pending_or_started hnow with hp | ⟨-, heffect⟩
      · exact .inl hp
      · have hc := p.change_step e
        rw [heffect] at hc
        obtain ⟨id, rfl⟩ := hc.eq_down_of_started
        exact .inr ⟨[], id, rest, rfl, heffect⟩
    · exact .inr ⟨e :: before, id, between, rfl, hstarts⟩

/-- A timer that was started and is pending in the end was pending all the time, and if the target
was missed in the beginning, it was missed all the time. -/
theorem missed_throughout {p : Presence α} {g : Nat} (hg : g ≤ p.generation)
    {events : List (Event α)} (hend : (p.after events).pending = some g) :
    p.pending = some g ∧
      (p.state = .disconnected → ∀ q ∈ p.trail events, q.state = .disconnected) := by
  induction events generalizing p with
  | nil =>
    refine ⟨hend, fun hp q hq ↦ ?_⟩
    rw [trail, List.mem_singleton] at hq
    rwa [hq]
  | cons e rest ih =>
    have hc := p.change_step e
    obtain ⟨hnext, hrest⟩ := ih (Nat.le_trans hg hc.generation_le) hend
    -- The first event cannot have started the timer: its generation would be a new one.
    have hp : p.pending = some g := by
      rcases hc.pending_or_started hnext with hp | ⟨heq, -⟩
      · exact hp
      · omega
    refine ⟨hp, fun hstate q hq ↦ ?_⟩
    rw [trail, List.mem_cons] at hq
    rcases hq with rfl | hq
    · exact hstate
    · exact hrest (hc.disconnected (hc.ne_reportConnected hnext) hstate) q hq

theorem mem_trail_self (p : Presence α) (events : List (Event α)) :
    p ∈ p.trail events := by
  cases events <;> simp [trail]

/-- **The exact condition.** If a loss starts a timer that is still pending in the end, then the
target is missed from the loss to the end iff exactly `target` links were live before the loss. -/
theorem missed_throughout_iff {p : Presence α} (hp : p.Consistent) {id : α} {g : Nat}
    (hstarts : p.Starts id g) {between : List (Event α)}
    (hend : ((p.down id).1.after between).pending = some g) :
    (∀ q ∈ (p.down id).1.trail between, q.state = .disconnected) ↔
      p.live.length = p.target := by
  have hc : Change p (.down id) (p.down id).1 (p.down id).2 := p.change_step (.down id)
  rw [hstarts] at hc
  obtain ⟨-, hidle, htold, -, hgen, hlen⟩ := hc.of_started
  have hle := hp.target_le hidle htold
  -- The target was met before the loss, so one link less makes it missed iff none was to spare.
  have hiff : (p.down id).1.state = .disconnected ↔ p.live.length = p.target := by
    rw [state_eq_disconnected_iff, hc.target_eq]
    omega
  rw [← hiff]
  constructor
  · intro hall
    exact hall _ (mem_trail_self _ _)
  · intro hstate
    exact (missed_throughout (Nat.le_of_eq hgen.symm) hend).2 hstate

end Presence

end InstrumentRelay
