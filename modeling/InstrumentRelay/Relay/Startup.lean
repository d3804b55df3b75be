import InstrumentRelay.Relay.State

/-!
# Starting a relay

A relay is started in a fixed order: the configuration is checked, the ports are bound, the
announcer is sent off, the log files are opened, and only then does anything connect to the
instrument. Each of the first, second and fourth can fail, and then there is no relay.

The announcer does not wait for the rest. How far it gets while the log files are being opened
is a matter of scheduling, so the answers it has got from the directory by then are a parameter of
`Startup.ofConfig`.

The clock of a machine ends short of `2 ^ 63` seconds. The router and the monitor work out at the
start when the first report and the first sign of life are due, and break down if that is beyond the
end. This is not modelled: the clock of a `Relay` goes on for ever, and the intervals between
reports and between signs of life are taken to be shorter than `2 ^ 63` seconds.
-/

namespace InstrumentRelay

/-- What the machine says when a relay is started on it. -/
structure Host where
  /-- The port that is served when this one is asked for, or why none is. -/
  bind : ServerKind → UInt16 → Except String UInt16
  /-- Whether this folder can be made, or is there. -/
  makeFolder : String → Except (IoKind × String) Unit
  /-- Whether a log file of this name can be opened in this folder. -/
  openLog : String → String → Except String Unit
  /-- The day. -/
  day : String

/-- What has come of starting a relay. -/
structure Startup where
  /-- How far the announcing has got. -/
  announcer : Announcer
  /-- The links that have begun to connect. -/
  dialed : List Link
  /-- The relay, or why there is none. -/
  outcome : Except RelayError Relay

namespace Startup

/-- The ports that are served. -/
def bindAll (host : Host) :
    List (ServerKind × UInt16) → Except RelayError (List (ServerKind × UInt16))
  | [] => .ok []
  | (server, port) :: rest =>
    match host.bind server port with
    | .error problem => .error (.bind port problem)
    | .ok bound => do
      let others ← bindAll host rest
      return (server, bound) :: others

/-- The services at these ports. -/
def services (config : Config) (bound : List (ServerKind × UInt16)) : List Service :=
  bound.map fun (server, port) ↦
    .describe server.service config.refdes port config.timing.ttlSecs

/-- The forms of log files, and who they belong to. -/
def logForms : List (Endpoint × String) := [(.textLog, "log"), (.packetLog, "datalog")]

/-- Opens the log files in a folder. -/
def openAll (host : Host) (config : Config) (folder : String) :
    List (Endpoint × String) → Except RelayError (List (Endpoint × LogFile))
  | [] => .ok []
  | (endpoint, form) :: rest =>
    let file : LogFile := { subject := config.refdes, day := host.day, form := form }
    match host.openLog folder file.name with
    | .error problem => .error (.logFile folder problem)
    | .ok () => do
      let others ← openAll host config folder rest
      return (endpoint, file) :: others

/-- Opens the log files, if there are to be any. -/
def openLogs (host : Host) (config : Config) : Except RelayError (List (Endpoint × LogFile)) :=
  match config.logDir with
  | none => .ok []
  | some folder =>
    match host.makeFolder folder with
    | .error (kind, text) => .error (.io kind text)
    | .ok () => openAll host config folder logForms

/-- Registers a log file. -/
def addFile (r : Relay) (file : Endpoint × LogFile) : Relay :=
  let (id, r) := r.newIdentity
  let connection : Connection := ⟨id, file.1⟩
  { r with files := r.files ++ [(connection, file.2)] }.post none [.register connection]

/-- A relay that has just been started. -/
def relay (config : Config) (valid : config.check = .ok ()) (announcer : Announcer)
    (nextAttempt : Nat) (files : List (Endpoint × LogFile)) : Relay :=
  let settings : MonitorSettings :=
    { target := config.target
      forgiveness := config.timing.forgiveness
      heartbeat := config.timing.heartbeat
      heartbeat_pos := Config.heartbeat_pos_of_check valid
      services := (announcer.accepted ++ announcer.waiting).map (·.id) }
  let fresh : Relay :=
    { config := config
      monitor := .start settings 0
      links := (config.instrument.links config.timing).map (.start config.timing)
      announcer := announcer
      nextAttempt := nextAttempt
      nextReport := config.timing.stats.nanos }
  files.foldl addFile fresh

/-- What comes of starting a relay with this configuration on this machine, if the directory has
given these answers by the time the log files are opened. -/
def ofConfig (config : Config) (host : Host) (answers : List Bool) : Startup :=
  match h : config.check with
  | .error e => ⟨.start [], [], .error (.ofConfig e)⟩
  | .ok () =>
    match bindAll host config.ports.wanted with
    | .error e => ⟨.start [], [], .error e⟩
    | .ok bound =>
      let announcer := (Announcer.start (services config bound)).hear answers
      match openLogs host config with
      | .error e => ⟨announcer, [], .error e⟩
      | .ok files =>
        let nextAttempt :=
          if answers.getLast? = some false then config.timing.registrationRetry.wait.nanos else 0
        ⟨announcer, config.instrument.links config.timing,
          .ok (relay config h announcer nextAttempt files)⟩

end Startup

end InstrumentRelay
