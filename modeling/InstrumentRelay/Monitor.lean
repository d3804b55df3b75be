import InstrumentRelay.Bytes
import InstrumentRelay.Packet.Basic
import InstrumentRelay.Presence
import InstrumentRelay.Routing.Endpoint
import InstrumentRelay.Time.Duration

/-!
# The monitor

The monitor is told when connections come and go. It reports to drivers whether the instrument is
connected, through the bookkeeping of `Presence`, to which it adds the clock: the pending timer is
due a fixed time, the forgiveness, after the loss that started it, or as late as anything waits
(`Duration.longestWait`). Independently of that it gives a sign of life at regular intervals, and
with each of them the announced services are refreshed.

Time is a number of nanoseconds since the monitor was started. Nothing here waits: `Monitor.due`
says when the monitor wants to be called next, and `Monitor.advance` calls it at every such moment
up to a given one. The clock has no end here, that of a machine has: the time between signs of life
is taken to be shorter than `2 ^ 63` seconds, so that the first of them can be put on the clock.
-/

namespace InstrumentRelay

/-- What the monitor has to know. -/
structure MonitorSettings where
  /-- How many instrument links have to be live. -/
  target : Nat
  /-- For how long a loss is not reported. -/
  forgiveness : Duration
  /-- Time between signs of life. -/
  heartbeat : Duration
  /-- Signs of life do not come all at once. -/
  heartbeat_pos : 0 < heartbeat.nanos
  /-- The services to be refreshed with each of them. -/
  services : List String
  deriving DecidableEq

/-- What the monitor is told. -/
inductive Notice where
  /-- An instrument link is up. -/
  | instrumentUp (id : ConnectionId)
  /-- An instrument link is down. -/
  | instrumentDown (id : ConnectionId)
  /-- A driver, an observer or someone with commands has come. -/
  | visitorUp (id : ConnectionId)
  /-- One of them has left. -/
  | visitorDown (id : ConnectionId)
  deriving DecidableEq, Repr

/-- What the monitor has to say. -/
inductive Bulletin where
  /-- Whether the instrument is connected. -/
  | status (state : LinkState)
  /-- A sign of life. The services are refreshed along with it. -/
  | heartbeat
  deriving DecidableEq, Repr

/-- The packets in which drivers get it. -/
def Bulletin.packets (now : Timestamp) : Bulletin → List Packet
  | status state => Packet.split .status now (Bytes.ofText state.label)
  | heartbeat => Packet.split .heartbeat now (Bytes.ofText "HB")

/-- What can happen to the monitor. -/
inductive MonitorEvent where
  /-- It is told something. -/
  | hears (notice : Notice)
  /-- The timer has run out. -/
  | expires
  /-- A sign of life is due. -/
  | beats
  deriving DecidableEq, Repr

/-- A timer that is running. -/
structure ForgivenessTimer where
  /-- Which one it is. -/
  generation : Nat
  /-- When it runs out. -/
  due : Nat
  deriving DecidableEq, Repr

/-- The state of the monitor. -/
structure Monitor where
  /-- What it has to know. -/
  settings : MonitorSettings
  /-- The instrument links. -/
  presence : Presence ConnectionId
  /-- Everyone else who is connected. -/
  visitors : List ConnectionId
  /-- The timer that is running. -/
  timer : Option ForgivenessTimer
  /-- When the next sign of life is due. -/
  nextBeat : Nat
  deriving DecidableEq

namespace Monitor

/-- A monitor started at a given time. -/
def start (settings : MonitorSettings) (now : Nat) : Monitor where
  settings := settings
  presence := .start ConnectionId settings.target
  visitors := []
  timer := none
  nextBeat := now + settings.heartbeat.nanos

/-- Whether the instrument is connected. -/
def state (m : Monitor) : LinkState := m.presence.state

/-- Does what the bookkeeping asks for. -/
def apply (m : Monitor) (now : Nat) : Option Effect → Monitor × List Bulletin
  | none => (m, [])
  | some .reportConnected => ({ m with timer := none }, [.status .connected])
  | some .reportDisconnected => (m, [.status .disconnected])
  | some (.startTimer generation) =>
    ({ m with timer := some ⟨generation, now + m.settings.forgiveness.wait.nanos⟩ }, [])

/-- The monitor is told something. -/
def notice (m : Monitor) (now : Nat) : Notice → Monitor × List Bulletin
  | .instrumentUp id =>
    let (presence, effect) := m.presence.up id
    { m with presence := presence }.apply now effect
  | .instrumentDown id =>
    let (presence, effect) := m.presence.down id
    { m with presence := presence }.apply now effect
  | .visitorUp id =>
    ({ m with visitors := if id ∈ m.visitors then m.visitors else id :: m.visitors }, [])
  | .visitorDown id => ({ m with visitors := m.visitors.erase id }, [])

/-- The timer has run out. -/
def expire (m : Monitor) (now : Nat) (generation : Nat) : Monitor × List Bulletin :=
  let (presence, effect) := m.presence.fired generation
  { m with presence := presence, timer := none }.apply now effect

/-- How late a sign of life may come without moving the ones after it, in nanoseconds. -/
def beatTolerance : Nat := 5000000

/-- A sign of life. The next one is due one interval after this one was, or one interval from now
if this one is much too late. -/
def beat (m : Monitor) (now : Nat) : Monitor × List Bulletin :=
  let base := if m.nextBeat + beatTolerance < now then now else m.nextBeat
  ({ m with nextBeat := base + m.settings.heartbeat.nanos }, [.heartbeat])

/-- What comes of an event at a given time, if it can happen then. Whatever is due may be late. -/
def step (m : Monitor) (now : Nat) : MonitorEvent → Option (Monitor × List Bulletin)
  | .hears notice => some (m.notice now notice)
  | .expires =>
    match m.timer with
    | some t => if t.due ≤ now then some (m.expire now t.generation) else none
    | none => none
  | .beats => if m.nextBeat ≤ now then some (m.beat now) else none

/-- When something is due next. -/
def due (m : Monitor) : Nat :=
  match m.timer with
  | none => m.nextBeat
  | some t => min t.due m.nextBeat

/-- Does what is due first, at the moment at which it is due. A timer goes before a sign of life of
the same moment. -/
def wake (m : Monitor) : Monitor × List Bulletin :=
  match m.timer with
  | some t => if t.due ≤ m.nextBeat then m.expire t.due t.generation else m.beat m.nextBeat
  | none => m.beat m.nextBeat

theorem timer_apply (m : Monitor) (now : Nat) {effect : Option Effect}
    (h : ∀ g, effect ≠ some (.startTimer g)) (hm : m.timer = none) :
    (m.apply now effect).1.timer = none := by
  unfold apply
  split
  · exact hm
  · rfl
  · exact hm
  · exact absurd rfl (h _)

theorem timer_expire (m : Monitor) (now generation : Nat) :
    (m.expire now generation).1.timer = none :=
  timer_apply _ now (m.presence.fired_ne_startTimer generation) rfl

theorem nextBeat_apply (m : Monitor) (now : Nat) (effect : Option Effect) :
    (m.apply now effect).1.nextBeat = m.nextBeat := by
  unfold apply
  split <;> rfl

theorem nextBeat_expire (m : Monitor) (now generation : Nat) :
    (m.expire now generation).1.nextBeat = m.nextBeat := by
  unfold expire
  rw [nextBeat_apply]

theorem lt_nextBeat_beat (m : Monitor) : m.nextBeat < (m.beat m.nextBeat).1.nextBeat := by
  have := m.settings.heartbeat_pos
  simp only [beat]
  split <;> omega

/-- Either the sign of life was given, and the next one is later, or the timer is gone. -/
theorem wake_progress (m : Monitor) :
    m.nextBeat = m.due ∧ m.nextBeat < m.wake.1.nextBeat ∨
      m.wake.1.nextBeat = m.nextBeat ∧ m.timer.isSome ∧ m.wake.1.timer = none := by
  cases ht : m.timer with
  | none => exact .inl ⟨by simp [due, ht], by simpa [wake, ht] using m.lt_nextBeat_beat⟩
  | some t =>
    by_cases hle : t.due ≤ m.nextBeat
    · exact .inr ⟨by simp [wake, ht, hle, nextBeat_expire], by simp,
        by simp [wake, ht, hle, timer_expire]⟩
    · exact .inl ⟨by simp only [due, ht]; omega,
        by simpa [wake, ht, hle] using m.lt_nextBeat_beat⟩

/-- Does everything that is due up to a given time, in order. Each bulletin comes with its time. -/
def advance (m : Monitor) (limit : Nat) : Monitor × List (Nat × Bulletin) :=
  if m.due ≤ limit then
    let (rest, later) := m.wake.1.advance limit
    (rest, m.wake.2.map (m.due, ·) ++ later)
  else (m, [])
termination_by (limit + 1 - m.nextBeat, m.timer.isSome.toNat)
decreasing_by
  rcases m.wake_progress with ⟨hdue, hlt⟩ | ⟨heq, hsome, hnone⟩
  · exact Prod.Lex.left _ _ (by omega)
  · rw [heq, hnone]
    exact Prod.Lex.right _ (by simp [hsome])

end Monitor

end InstrumentRelay
