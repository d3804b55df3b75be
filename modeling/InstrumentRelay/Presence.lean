/-!
# Is the instrument there?

The instrument counts as connected while at least `target` links are live. Gaining the last missing
link is reported at once. Losing a link is not: it starts a timer, and only if the target is still
missed when the timer runs out is the loss reported. A link that comes and goes in between is
forgiven.

`Presence` is the bookkeeping alone. It knows no clock: each timer has a generation, the owner is
told to start it (`Effect.startTimer`) and says when it ran out (`fired`). At most one timer is
pending, and the generation of a timer that is not pending any more means nothing.
-/

namespace InstrumentRelay

/-- Whether the instrument counts as connected. -/
inductive LinkState where
  /-- Enough links are live. -/
  | connected
  /-- Too few links are live. -/
  | disconnected
  deriving DecidableEq, Repr, Inhabited

/-- The state as it is reported. -/
def LinkState.label : LinkState → String
  | connected => "CONNECTED"
  | disconnected => "DISCONNECTED"

/-- What the owner of the bookkeeping has to do. -/
inductive Effect where
  /-- Report that the instrument is connected. -/
  | reportConnected
  /-- Report that it is not. -/
  | reportDisconnected
  /-- Start a timer and say when it has run out. -/
  | startTimer (generation : Nat)
  deriving DecidableEq, Repr

/-- The live links and what has been reported about them. -/
structure Presence (α : Type) where
  /-- The live links, each once. -/
  live : List α
  /-- How many have to be live. -/
  target : Nat
  /-- What was reported last. -/
  reported : LinkState
  /-- The generation of the pending timer. -/
  pending : Option Nat
  /-- How many timers have been started. -/
  generation : Nat
  deriving DecidableEq, Repr

namespace Presence

variable {α : Type} [DecidableEq α]

/-- No links are live, which goes without reporting. -/
def start (α : Type) (target : Nat) : Presence α := ⟨[], target, .disconnected, none, 0⟩

/-- Whether enough links are live. -/
def state (p : Presence α) : LinkState :=
  if p.target ≤ p.live.length then .connected else .disconnected

/-- A link is live from now on. -/
def up (p : Presence α) (id : α) : Presence α × Option Effect :=
  if id ∈ p.live then (p, none)
  else if p.live.length + 1 = p.target then
    ({ p with live := id :: p.live, pending := none, reported := .connected },
      some .reportConnected)
  else ({ p with live := id :: p.live }, none)

/-- A link is not live any more. -/
def down (p : Presence α) (id : α) : Presence α × Option Effect :=
  if id ∉ p.live then (p, none)
  else if p.pending.isSome ∨ p.reported = .disconnected then
    ({ p with live := p.live.erase id }, none)
  else
    ({ p with
        live := p.live.erase id
        generation := p.generation + 1
        pending := some (p.generation + 1) },
      some (.startTimer (p.generation + 1)))

/-- The timer of this generation has run out. -/
def fired (p : Presence α) (generation : Nat) : Presence α × Option Effect :=
  if p.pending ≠ some generation then (p, none)
  else if p.state = .disconnected then
    ({ p with pending := none, reported := .disconnected }, some .reportDisconnected)
  else ({ p with pending := none }, none)

omit [DecidableEq α] in
theorem fired_ne_startTimer (p : Presence α) (generation g : Nat) :
    (p.fired generation).2 ≠ some (.startTimer g) := by
  unfold fired
  split
  · simp
  split <;> simp

/-! ## Whole histories -/

/-- What can happen. -/
inductive Event (α : Type) where
  /-- A link is live from now on. -/
  | up (id : α)
  /-- A link is not live any more. -/
  | down (id : α)
  /-- A timer has run out. -/
  | fired (generation : Nat)
  deriving DecidableEq, Repr

/-- The bookkeeping after one event, and what has to be done. -/
def step (p : Presence α) : Event α → Presence α × Option Effect
  | .up id => p.up id
  | .down id => p.down id
  | .fired generation => p.fired generation

/-- The bookkeeping after several events. -/
def after (p : Presence α) : List (Event α) → Presence α
  | [] => p
  | e :: rest => (p.step e).1.after rest

/-- What had to be done after each of several events. -/
def effects (p : Presence α) : List (Event α) → List (Option Effect)
  | [] => []
  | e :: rest => (p.step e).2 :: (p.step e).1.effects rest

@[simp] theorem length_effects (p : Presence α) (events : List (Event α)) :
    (p.effects events).length = events.length := by
  induction events generalizing p with
  | nil => rfl
  | cons e rest ih => simp [effects, ih]

theorem after_append (p : Presence α) (first second : List (Event α)) :
    p.after (first ++ second) = (p.after first).after second := by
  induction first generalizing p with
  | nil => rfl
  | cons e rest ih => simp [after, ih]

theorem effects_append (p : Presence α) (first second : List (Event α)) :
    p.effects (first ++ second) = p.effects first ++ (p.after first).effects second := by
  induction first generalizing p with
  | nil => rfl
  | cons e rest ih => simp [effects, after, ih]

end Presence

end InstrumentRelay
