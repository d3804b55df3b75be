import InstrumentRelay.Monitor
import InstrumentRelay.Proofs.Presence

/-!
# The monitor event by event

`Monitor.Change` says what one event can do to the monitor, in terms of what it tells the
bookkeeping of the instrument links. From it follows how a timer gets to run, how the target comes
to be missed, and when a loss is reported.

A `Watch` is the monitor with a clock at its side, which notes since when too few links are live
without interruption. Its runs are the runs of the monitor: any events in any order, late or not, as
long as time does not go back.
-/

namespace InstrumentRelay

/-- What a notice tells the bookkeeping. -/
def Notice.tells : Notice → Option (Presence.Event ConnectionId)
  | instrumentUp id => some (.up id)
  | instrumentDown id => some (.down id)
  | visitorUp _ => none
  | visitorDown _ => none

theorem Notice.tells_eq_down {notice : Notice} {id : ConnectionId}
    (h : notice.tells = some (.down id)) : notice = .instrumentDown id := by
  cases notice <;> simp_all [tells]

theorem Notice.tells_ne_fired (notice : Notice) (g : Nat) : notice.tells ≠ some (.fired g) := by
  cases notice <;> simp [tells]

namespace Monitor

/-! ## What one event can do -/

/-- What an event can do to the monitor, and what is said about it. -/
inductive Change (m : Monitor) (now : Nat) : MonitorEvent → Monitor → List Bulletin → Prop where
  /-- The instrument links are not concerned. -/
  | aside {e : MonitorEvent} {m' : Monitor} {said : List Bulletin}
      (settings : m'.settings = m.settings) (presence : m'.presence = m.presence)
      (timer : m'.timer = m.timer) (silent : ∀ state, .status state ∉ said) :
      Change m now e m' said
  /-- A link comes or goes. -/
  | told {notice : Notice} {event : Presence.Event ConnectionId}
      (tells : notice.tells = some event) :
      Change m now (.hears notice)
        ({ m with presence := (m.presence.step event).1 }.apply now (m.presence.step event).2).1
        ({ m with presence := (m.presence.step event).1 }.apply now (m.presence.step event).2).2
  /-- The timer has run out. -/
  | ranOut {t : ForgivenessTimer} (running : m.timer = some t) (due : t.due ≤ now) :
      Change m now .expires (m.expire now t.generation).1 (m.expire now t.generation).2

theorem presence_apply (m : Monitor) (now : Nat) (effect : Option Effect) :
    (m.apply now effect).1.presence = m.presence := by
  unfold apply
  split <;> rfl

theorem presence_notice_down (m : Monitor) (now : Nat) (id : ConnectionId) :
    (m.notice now (.instrumentDown id)).1.presence = (m.presence.down id).1 :=
  presence_apply _ _ _

theorem state_apply (m : Monitor) (now : Nat) (effect : Option Effect) :
    (m.apply now effect).1.state = m.state := by
  rw [state, presence_apply, state]

theorem settings_apply (m : Monitor) (now : Nat) (effect : Option Effect) :
    (m.apply now effect).1.settings = m.settings := by
  unfold apply
  split <;> rfl

theorem mem_apply_disconnected (m : Monitor) (now : Nat) (effect : Option Effect) :
    .status .disconnected ∈ (m.apply now effect).2 ↔ effect = some .reportDisconnected := by
  unfold apply
  split <;> simp

theorem change_of_step {m : Monitor} {now : Nat} {e : MonitorEvent} {r : Monitor × List Bulletin}
    (h : m.step now e = some r) : m.Change now e r.1 r.2 := by
  cases e with
  | hears notice =>
    obtain rfl := Option.some.inj h
    cases notice with
    | instrumentUp id => exact .told (show (Notice.instrumentUp id).tells = some (.up id) from rfl)
    | instrumentDown id =>
      exact .told (show (Notice.instrumentDown id).tells = some (.down id) from rfl)
    | visitorUp id | visitorDown id => exact .aside rfl rfl rfl (by simp [notice])
  | expires =>
    simp only [step] at h
    split at h
    case h_1 t ht =>
      split at h
      case isTrue hdue =>
        obtain rfl := Option.some.inj h
        exact .ranOut ht hdue
      case isFalse => exact absurd h (by simp)
    case h_2 => exact absurd h (by simp)
  | beats =>
    simp only [step] at h
    split at h
    case isTrue =>
      obtain rfl := Option.some.inj h
      exact .aside rfl rfl rfl (by simp [beat])
    case isFalse => exact absurd h (by simp)

namespace Change

variable {m m' : Monitor} {now : Nat} {e : MonitorEvent} {said : List Bulletin}

theorem settings_eq (c : m.Change now e m' said) : m'.settings = m.settings := by
  cases c with
  | aside settings => exact settings
  | told => exact settings_apply _ _ _
  | ranOut => exact settings_apply _ _ _

/-- What an event does to the bookkeeping is one change or none. -/
theorem presence_eq_or (c : m.Change now e m' said) :
    m'.presence = m.presence ∨ ∃ event, m'.presence = (m.presence.step event).1 := by
  cases c with
  | aside _ presence => exact .inl presence
  | told => exact .inr ⟨_, presence_apply _ _ _⟩
  | @ranOut t => exact .inr ⟨.fired t.generation, presence_apply _ _ _⟩

theorem consistent (c : m.Change now e m' said) (hm : m.presence.Consistent) :
    m'.presence.Consistent := by
  rcases c.presence_eq_or with heq | ⟨event, heq⟩
  · rwa [heq]
  · rw [heq]
    exact hm.change (m.presence.change_step event)

theorem target_eq (c : m.Change now e m' said) : m'.presence.target = m.presence.target := by
  rcases c.presence_eq_or with heq | ⟨event, heq⟩
  · rw [heq]
  · rw [heq]
    exact (m.presence.change_step event).target_eq

theorem generation_le (c : m.Change now e m' said) :
    m.presence.generation ≤ m'.presence.generation := by
  rcases c.presence_eq_or with heq | ⟨event, heq⟩
  · exact Nat.le_of_eq (congrArg Presence.generation heq.symm)
  · rw [heq]
    exact (m.presence.change_step event).generation_le

/-- A timer that is running was running before, and then the target is not met again, or it was
started just now by a loss. -/
theorem running_or_started (c : m.Change now e m' said) {t : ForgivenessTimer}
    (ht : m'.timer = some t) :
    m.timer = some t ∧ (m.state = .disconnected → m'.state = .disconnected) ∨
      t.generation = m.presence.generation + 1 ∧
        t.due = now + m.settings.forgiveness.wait.nanos ∧
        ∃ id, e = .hears (.instrumentDown id) ∧ m.presence.Starts id t.generation := by
  cases c with
  | aside _ presence timer =>
    rw [timer] at ht
    refine .inl ⟨ht, fun hm ↦ ?_⟩
    rw [state, presence]
    exact hm
  | @told notice event tells =>
    have change := m.presence.change_step event
    rw [state_apply]
    cases heffect : (m.presence.step event).2 with
    | none =>
      rw [heffect] at ht change
      exact .inl ⟨ht, change.disconnected (by simp)⟩
    | some effect =>
      rw [heffect] at ht change
      cases effect with
      | reportConnected => exact absurd ht (by simp [apply])
      | reportDisconnected => exact .inl ⟨ht, change.disconnected (by simp)⟩
      | startTimer g =>
        obtain rfl := Option.some.inj ht
        obtain ⟨id, rfl⟩ := change.eq_down_of_started
        refine .inr ⟨change.of_started.1, rfl, id, ?_, heffect⟩
        rw [Notice.tells_eq_down tells]
  | ranOut =>
    rw [timer_expire] at ht
    exact absurd ht (by simp)

/-- Only a loss makes the target missed. -/
theorem exists_down (c : m.Change now e m' said) (hm : m.state = .connected)
    (hm' : m'.state = .disconnected) : ∃ id, e = .hears (.instrumentDown id) := by
  cases c with
  | aside _ presence =>
    rw [state, presence] at hm'
    exact absurd (hm.symm.trans hm') (by simp)
  | @told notice event tells =>
    rw [state_apply] at hm'
    obtain ⟨id, rfl⟩ := (m.presence.change_step event).exists_down hm hm'
    exact ⟨id, by rw [Notice.tells_eq_down tells]⟩
  | @ranOut t =>
    rw [expire, state_apply] at hm'
    obtain ⟨id, h⟩ := (m.presence.change_step (.fired t.generation)).exists_down hm hm'
    exact absurd h (by simp)

/-- What is said to be disconnected is so, and a timer has run out. -/
theorem of_disconnected (c : m.Change now e m' said) (h : .status .disconnected ∈ said) :
    m.state = .disconnected ∧ ∃ t, m.timer = some t ∧ t.due ≤ now := by
  cases c with
  | aside _ _ _ silent => exact absurd h (silent _)
  | @told notice event tells =>
    have change := m.presence.change_step event
    rw [mem_apply_disconnected] at h
    rw [h] at change
    obtain ⟨g, rfl, -⟩ := change.of_reportDisconnected
    exact absurd tells (notice.tells_ne_fired g)
  | @ranOut t running due =>
    have change := m.presence.change_step (.fired t.generation)
    rw [expire, mem_apply_disconnected] at h
    rw [show (m.presence.step (.fired t.generation)).2 = _ from h] at change
    obtain ⟨g, -, -, hstate⟩ := change.of_reportDisconnected
    exact ⟨hstate, t, running, due⟩

end Change

end Monitor

/-! ## A clock at the side of the monitor -/

/-- The monitor, and what someone with a clock notes about it. -/
structure Watch where
  monitor : Monitor
  /-- When the last event happened. -/
  clock : Nat
  /-- Since when too few links are live without interruption, if too few are. -/
  missedSince : Option Nat
  deriving DecidableEq

namespace Watch

/-- What is noted after an event. -/
def noted (m : Monitor) (now : Nat) (before : Option Nat) : Option Nat :=
  match m.state with
  | .connected => none
  | .disconnected => some (before.getD now)

/-- The watch begins when the monitor is started. -/
def start (settings : MonitorSettings) (now : Nat) : Watch :=
  ⟨.start settings now, now, noted (.start settings now) now none⟩

/-- One event, if it can happen then. The clock does not go back. -/
def step (w : Watch) (now : Nat) (e : MonitorEvent) : Option (Watch × List Bulletin) :=
  if w.clock ≤ now then
    (w.monitor.step now e).map fun (m, said) ↦ (⟨m, now, noted m now w.missedSince⟩, said)
  else none

/-- Several events, each at its time, if all of them can happen. -/
def run (w : Watch) : List (Nat × MonitorEvent) → Option Watch
  | [] => some w
  | (now, e) :: rest =>
    match w.step now e with
    | some (next, _) => next.run rest
    | none => none

variable {w w' : Watch} {now : Nat} {e : MonitorEvent} {said : List Bulletin}
  {history : List (Nat × MonitorEvent)}

theorem step_eq_some (h : w.step now e = some (w', said)) :
    w.clock ≤ now ∧ w'.clock = now ∧ w.monitor.step now e = some (w'.monitor, said) ∧
      w'.missedSince = noted w'.monitor now w.missedSince := by
  unfold step at h
  split at h
  case isTrue hclock =>
    obtain ⟨r, hr, heq⟩ := Option.map_eq_some_iff.mp h
    obtain ⟨rfl, rfl⟩ := Prod.mk.inj heq
    exact ⟨hclock, rfl, hr, rfl⟩
  case isFalse => exact absurd h (by simp)

/-- A run that is not empty begins with a step. -/
theorem run_cons_eq_some {x : Nat × MonitorEvent} (h : w.run (x :: history) = some w') :
    ∃ next said, w.step x.1 x.2 = some (next, said) ∧ next.run history = some w' := by
  simp only [run] at h
  split at h
  case h_1 next said hstep => exact ⟨next, said, hstep, h⟩
  case h_2 => exact absurd h (by simp)

theorem run_append (w : Watch) (first second : List (Nat × MonitorEvent)) :
    w.run (first ++ second) = (w.run first).bind (·.run second) := by
  induction first generalizing w with
  | nil => rfl
  | cons x rest ih =>
    simp only [List.cons_append, run]
    cases w.step x.1 x.2 with
    | none => rfl
    | some r => exact ih r.1

theorem clock_le_of_mem (h : w.run history = some w') {x : Nat × MonitorEvent}
    (hx : x ∈ history) : w.clock ≤ x.1 := by
  induction history generalizing w with
  | nil => simp at hx
  | cons y rest ih =>
    obtain ⟨next, said, hstep, hrest⟩ := run_cons_eq_some h
    obtain ⟨hle, hclock, -⟩ := step_eq_some hstep
    rcases List.mem_cons.mp hx with rfl | hx
    · exact hle
    · exact Nat.le_trans (hclock ▸ hle) (ih hrest hx)

/-! ## What is noted is so -/

/-- What always holds of a watch. -/
structure Sound (settings : MonitorSettings) (w : Watch) : Prop where
  settings_eq : w.monitor.settings = settings
  target_eq : w.monitor.presence.target = settings.target
  consistent : w.monitor.presence.Consistent
  /-- While the target is met, nothing is noted. -/
  missedSince_of_connected : w.monitor.state = .connected → w.missedSince = none
  /-- While it is missed, something is. -/
  missedSince_of_disconnected : w.monitor.state = .disconnected → w.missedSince.isSome

theorem sound_start (settings : MonitorSettings) (begun : Nat) :
    (start settings begun).Sound settings where
  settings_eq := rfl
  target_eq := rfl
  consistent := Presence.consistent_start _
  missedSince_of_connected h := by
    change noted (.start settings begun) begun none = none
    rw [noted, show (Monitor.start settings begun).state = .connected from h]
  missedSince_of_disconnected h := by
    change (noted (.start settings begun) begun none).isSome
    rw [noted, show (Monitor.start settings begun).state = .disconnected from h]
    rfl

variable {settings : MonitorSettings}

theorem Sound.step (hw : w.Sound settings) (h : w.step now e = some (w', said)) :
    w'.Sound settings := by
  obtain ⟨-, -, hstep, hnoted⟩ := step_eq_some h
  have c := Monitor.change_of_step hstep
  refine ⟨c.settings_eq.trans hw.settings_eq, c.target_eq.trans hw.target_eq,
    c.consistent hw.consistent, fun hstate ↦ ?_, fun hstate ↦ ?_⟩
  · rw [hnoted, noted, hstate]
  · rw [hnoted, noted, hstate]
    rfl

/-- Something is noted only while the target is missed. -/
theorem Sound.disconnected_of_eq_some (hw : w.Sound settings) {u : Nat}
    (hu : w.missedSince = some u) : w.monitor.state = .disconnected := by
  cases hs : w.monitor.state with
  | disconnected => rfl
  | connected =>
    rw [hw.missedSince_of_connected hs] at hu
    exact absurd hu (by simp)

theorem Sound.connected_of_eq_none (hw : w.Sound settings) (hu : w.missedSince = none) :
    w.monitor.state = .connected := by
  cases hs : w.monitor.state with
  | connected => rfl
  | disconnected =>
    have hsome := hw.missedSince_of_disconnected hs
    rw [hu] at hsome
    exact absurd hsome (by simp)

theorem Sound.run (hw : w.Sound settings) (h : w.run history = some w') : w'.Sound settings := by
  induction history generalizing w with
  | nil => exact Option.some.inj h ▸ hw
  | cons x rest ih =>
    obtain ⟨next, said, hstep, hrest⟩ := run_cons_eq_some h
    exact ih (hw.step hstep) hrest

end Watch

end InstrumentRelay
