import InstrumentRelay.Relay.Startup
import InstrumentRelay.Relay.Step

/-!
# Starting beside the parts

`Startup.ofConfig` tells what comes of a start when it is told what the directory has answered in
the meantime. Here the meantime is told as well. Whoever starts the relay takes one step after the
other (`Launch.proceed`). In between, and even after the start has failed, the parts that are at
work take their steps, in any order (`Launch.work`).

These parts are the router, the monitor and the announcer, from the moment at which the last port
has been bound. Before that there is at most a router without anything to route. Servers and links
come when nothing can fail any more.
-/

namespace InstrumentRelay

/-- A relay that is being started. -/
inductive Launch (config : Config) where
  /-- Nothing has been done yet. -/
  | checking
  /-- The configuration is valid. Some servers have these ports now, and others have none yet. -/
  | binding (valid : config.check = .ok ()) (bound left : List (ServerKind × UInt16))
  /-- All ports are bound, and it is the turn of the log files, if there are to be any. -/
  | logging (parts : Relay)
  /-- The folder for the log files is there, but not yet the files of these forms. -/
  | opening (folder : String) (left : List (Endpoint × String)) (parts : Relay)
  /-- The relay is up. -/
  | up (relay : Relay)
  /-- There will be no relay. Parts that were at work are told to stop, but nobody waits until they
  have. -/
  | failed (problem : RelayError) (parts : Option Relay)

/-- What can happen while a relay is being started. -/
inductive LaunchEvent where
  /-- Whoever starts it takes the next step. -/
  | proceeds
  /-- Something happens to the parts that are at work. -/
  | part (event : RelayEvent)
  deriving DecidableEq, Repr

/-- Someone connects to a server. -/
def RelayEvent.isVisit : RelayEvent → Bool
  | visit _ => true
  | _ => false

/-- What the directory answers, if it is asked. -/
def RelayEvent.answer? : RelayEvent → Option Bool
  | announces accepted => some accepted
  | _ => none

namespace LaunchEvent

/-- What the directory answers, if it is asked. -/
def answer? : LaunchEvent → Option Bool
  | proceeds => none
  | part event => event.answer?

/-- What the directory has answered. -/
def heard (events : List LaunchEvent) : List Bool := events.filterMap answer?

theorem heard_cons (e : LaunchEvent) (rest : List LaunchEvent) :
    heard (e :: rest) = e.answer?.toList ++ heard rest := by
  rw [heard, List.filterMap_cons]
  cases e.answer? <;> rfl

theorem heard_append (first second : List LaunchEvent) :
    heard (first ++ second) = heard first ++ heard second :=
  List.filterMap_append

theorem heard_proceeds (n : Nat) : heard (List.replicate n proceeds) = [] :=
  List.filterMap_replicate_of_none rfl

end LaunchEvent

namespace Launch

variable {config : Config}

/-- Nothing has been done yet. -/
def start (config : Config) : Launch config := checking

/-- The parts that begin when the ports have been bound: all of a relay but its links. -/
def staff (config : Config) (valid : config.check = .ok ()) (bound : List (ServerKind × UInt16)) :
    Relay :=
  { Startup.relay config valid (.start (Startup.services config bound)) 0 [] with links := [] }

/-- Nothing can fail any more, and the links begin to connect. -/
def connect (config : Config) (parts : Relay) : Relay :=
  { parts with links := (config.instrument.links config.timing).map (.start config.timing) }

/-- The log file of this form. -/
def logFile (config : Config) (host : Host) (form : String) : LogFile where
  subject := config.refdes
  day := host.day
  form := form

/-! ## Steps -/

/-- The next step of the start. -/
def proceed (host : Host) : Launch config → Option (Launch config)
  | checking =>
    match h : config.check with
    | .error problem => some (failed (.ofConfig problem) none)
    | .ok () => some (binding h [] config.ports.wanted)
  | binding valid bound ((server, port) :: left) =>
    match host.bind server port with
    | .error problem => some (failed (.bind port problem) none)
    | .ok served => some (binding valid (bound ++ [(server, served)]) left)
  | binding valid bound [] => some (logging (staff config valid bound))
  | logging parts =>
    match config.logDir with
    | none => some (up (connect config parts))
    | some folder =>
      match host.makeFolder folder with
      | .error (kind, text) => some (failed (.io kind text) (some parts))
      | .ok () => some (opening folder Startup.logForms parts)
  | opening folder ((endpoint, form) :: left) parts =>
    match host.openLog folder (logFile config host form).name with
    | .error problem => some (failed (.logFile folder problem) (some parts))
    | .ok () =>
      let file := logFile config host form
      some (opening folder left (Startup.addFile parts (endpoint, file)))
  | opening _ [] parts => some (up (connect config parts))
  | up _ => none
  | failed _ _ => none

/-- Something happens to the parts while nobody is let in. -/
def stepClosed (parts : Relay) (event : RelayEvent) : Option Relay :=
  if event.isVisit then none else parts.step event

/-- Something happens to the parts that are at work. -/
def work (event : RelayEvent) : Launch config → Option (Launch config)
  | checking => none
  | binding .. => none
  | logging parts => (stepClosed parts event).map logging
  | opening folder left parts => (stepClosed parts event).map (opening folder left)
  | up relay => (relay.step event).map up
  | failed problem parts => (parts.bind (stepClosed · event)).map fun r ↦ failed problem (some r)

/-- What happens to a relay that is being started. -/
def step (host : Host) (l : Launch config) : LaunchEvent → Option (Launch config)
  | .proceeds => l.proceed host
  | .part event => l.work event

/-- What has come of a start after a list of events, all of which can happen. -/
def run (host : Host) (l : Launch config) (events : List LaunchEvent) : Option (Launch config) :=
  events.foldlM (step host) l

theorem run_append (host : Host) (l : Launch config) (first second : List LaunchEvent) :
    l.run host (first ++ second) = l.run host first >>= (·.run host second) := by
  simp [run, List.foldlM_append]

theorem run_cons_eq_some_iff {host : Host} {l l' : Launch config} {e : LaunchEvent}
    {rest : List LaunchEvent} :
    l.run host (e :: rest) = some l' ↔ ∃ mid, l.step host e = some mid ∧
      mid.run host rest = some l' := by
  rw [run, List.foldlM_cons, Option.bind_eq_bind, Option.bind_eq_some_iff]
  rfl

/-! ## Views -/

/-- The parts that are at work. -/
def parts : Launch config → Option Relay
  | checking => none
  | binding .. => none
  | logging r => some r
  | opening _ _ r => some r
  | up r => some r
  | failed _ r => r

/-- The services that the directory has accepted. -/
def registered (l : Launch config) : List Service := l.parts.elim [] (·.announcer.accepted)

/-- The start has succeeded or failed. -/
def isOver : Launch config → Bool
  | checking => false
  | binding .. => false
  | logging _ => false
  | opening .. => false
  | up _ => true
  | failed .. => true

end Launch

end InstrumentRelay
