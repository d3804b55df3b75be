import InstrumentRelay.Relay.Step

/-!
# One way of scheduling

`Relay.step` leaves open what happens next. Here is one answer, for trying a relay out: whatever can
happen without the world doing anything happens at once, in a fixed order of preference, and time
passes only when nothing else can happen. Then it passes up to the next moment at which something is
due.

What the world does is left to the caller, but for two questions that come up again and again: what
comes of connecting to the instrument, and what the directory answers. `World` holds the answers.
-/

namespace InstrumentRelay

/-- What the world answers. -/
structure World where
  /-- What comes of connecting to this port: a connection, a refusal, or nothing ever. -/
  reach : UInt16 → Option Bool
  /-- Whether the directory accepts at this attempt, counted from zero. -/
  accepts : Nat → Bool

namespace Relay

/-- The port of the auxiliary link. -/
def auxPort (i : Instrument) : UInt16 :=
  match i with
  | .rsn _ _ digiPort _ => digiPort
  | _ => 0

/-- What a connection may do, in order of preference. -/
def connectionEvents (world : World) (r : Relay) (c : Running) : List RelayEvent :=
  let reach : List ConnectionEvent :=
    match world.reach (auxPort r.config.instrument) with
    | some true => [.reaches]
    | some false => [.isRefused "Connection refused (os error 111)"]
    | none => []
  let before : List ConnectionEvent :=
    [.begins, .answers, .takes, .writes, .claims, .isReady, .isLost]
  let after : List ConnectionEvent := [.timesOut, .idles]
  (before ++ reach ++ after).map (.connection c.id ·)

/-- What a link may do, in order of preference. -/
def linkEvents (world : World) (index : Nat) (l : LinkRun) : List RelayEvent :=
  let reach : List LinkEvent :=
    match world.reach l.link.port with
    | some true => [.made]
    | some false => [.refused]
    | none => []
  (reach ++ [LinkEvent.redials]).map (.link index ·)

/-- Everything that may happen without the world doing anything, in order of preference. -/
def candidates (world : World) (r : Relay) : List RelayEvent :=
  [.routes, .attends] ++ r.connections.flatMap (connectionEvents world r)
    ++ (r.links.zipIdx.flatMap fun (l, index) ↦ linkEvents world index l)
    ++ [.expires, .beats, .reports, .announces (world.accepts r.announcer.attempts)]

/-- Whatever can happen happens, at most `fuel` times. -/
def settle (world : World) : Nat → Relay → Relay
  | 0, r => r
  | fuel + 1, r =>
    match (r.candidates world).findSome? r.step with
    | none => r
    | some r => settle world fuel r

/-- The moments at which something is due. -/
def dueTimes (r : Relay) : List Nat :=
  [r.monitor.due, r.nextReport] ++ (if r.announcer.isDone then [] else [r.nextAttempt])
    ++ (r.links.filterMap fun l ↦
      match l.phase with
      | .waiting due => some due
      | _ => none)
    ++ (r.connections.filterMap fun c ↦ if c.isFree then c.idleDue else none)
    ++ (r.connections.filterMap fun c ↦
      match c.errand with
      | some (.opening _ deadline _) => some deadline
      | _ => none)

/-- The next moment at which something is due. -/
def nextDue? (r : Relay) : Option Nat := (r.dueTimes.filter (r.clock < ·)).min?

/-- Time passes up to a moment, and no further. -/
def elapseTo (r : Relay) (moment : Nat) : Relay :=
  { r with clock := max r.clock moment }

/-- Time passes up to a moment, and whatever is due happens when it is due. -/
def advance (world : World) : Nat → Nat → Relay → Relay
  | 0, _, r => r
  | fuel + 1, moment, r =>
    let r := r.settle world fuel
    match r.nextDue? with
    | some due =>
      if due ≤ moment then advance world fuel moment (r.elapseTo due) else r.elapseTo moment
    | none => r.elapseTo moment

end Relay

end InstrumentRelay
