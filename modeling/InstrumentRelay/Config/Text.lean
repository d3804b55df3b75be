import InstrumentRelay.Config.Basic
import InstrumentRelay.Ron.Reader
import InstrumentRelay.Text.Json

/-!
# The two written forms of a configuration

A configuration is read from RON, shown in RON with one field a line, and reported as compact JSON.
Both forms have every field in the order of its declaration, and the name of a wiring or of a mode
is the same in both. In RON the wiring stands in front of its fields; in JSON it is the key of an
object that holds them.
-/

namespace InstrumentRelay

/-- The name of the mode. -/
def AuxMode.name : AuxMode → String
  | persistent => "persistent"
  | onDemand => "on_demand"

namespace Config

/-! ## JSON -/

/-- The instrument as JSON. -/
def instrumentJson : Instrument → Json
  | .tcp address port =>
    .object [("tcp", .object [("address", .text address), ("port", .number port.toNat)])]
  | .botpt address rxPort txPort =>
    .object [("botpt", .object [("address", .text address), ("rx_port", .number rxPort.toNat),
      ("tx_port", .number txPort.toNat)])]
  | .rsn address port digiPort aux =>
    .object [("rsn", .object [("address", .text address), ("port", .number port.toNat),
      ("digi_port", .number digiPort.toNat), ("aux", .text aux.name)])]

/-- The configuration as JSON. -/
def toJson (c : Config) : Json :=
  .object [
    ("refdes", .text c.refdes),
    ("instrument", instrumentJson c.instrument),
    ("ports", .object [("data", .number c.ports.data.toNat),
      ("command", .number c.ports.command.toNat), ("sniff", .number c.ports.sniff.toNat),
      ("raw", .optionalNumber (c.ports.raw.map UInt16.toNat))]),
    ("target_connections", .optionalNumber (c.targetConnections.map UInt64.toNat)),
    ("timing", .object (c.timing.fields.map fun f ↦ (f.1, .number f.2.toNat))),
    ("log_dir", .optionalText c.logDir)]

/-! ## Writing RON -/

open Ron

/-- An optional value. -/
def optionalRon {α : Type} (f : α → Value) : Option α → Value
  | none => .absent
  | some a => .present (f a)

/-- The instrument as RON. -/
def instrumentRon : Instrument → Value
  | .tcp address port =>
    .record "tcp" [("address", .text address), ("port", .number port.toNat)]
  | .botpt address rxPort txPort =>
    .record "botpt" [("address", .text address), ("rx_port", .number rxPort.toNat),
      ("tx_port", .number txPort.toNat)]
  | .rsn address port digiPort aux =>
    .record "rsn" [("address", .text address), ("port", .number port.toNat),
      ("digi_port", .number digiPort.toNat), ("aux", .symbol aux.name)]

/-- The configuration as RON. -/
def toRon (c : Config) : Value :=
  .record "" [
    ("refdes", .text c.refdes),
    ("instrument", instrumentRon c.instrument),
    ("ports", .record "" [("data", .number c.ports.data.toNat),
      ("command", .number c.ports.command.toNat), ("sniff", .number c.ports.sniff.toNat),
      ("raw", optionalRon (fun p ↦ .number p.toNat) c.ports.raw)]),
    ("target_connections", optionalRon (fun t ↦ .number t.toNat) c.targetConnections),
    ("timing", .record "" (c.timing.fields.map fun f ↦ (f.1, .number f.2.toNat))),
    ("log_dir", optionalRon .text c.logDir)]

/-- The configuration with one field a line, as in a file. -/
def pretty (c : Config) : String := c.toRon.indented 0

/-! ## Reading RON -/

/-- A port number. -/
def portReader : Reader Value := wholeReader UInt16.size

/-- A number of seconds, milliseconds or links. -/
def longReader : Reader Value := wholeReader UInt64.size

/-- The members that a wiring needs, by its name. -/
def wiringReader : Reader Value := variantReader fun
  | "tcp" => some (some fun
    | "address" => some textReader
    | "port" => some portReader
    | _ => none)
  | "botpt" => some (some fun
    | "address" => some textReader
    | "rx_port" => some portReader
    | "tx_port" => some portReader
    | _ => none)
  | "rsn" => some (some fun
    | "address" => some textReader
    | "port" => some portReader
    | "digi_port" => some portReader
    | "aux" => some (variantReader fun
      | "persistent" => some none
      | "on_demand" => some none
      | _ => none)
    | _ => none)
  | _ => none

/-- The members of the ports. -/
def portsReader : Reader Value := recordReader "ServerPorts" fun
  | "data" => some portReader
  | "command" => some portReader
  | "sniff" => some portReader
  | "raw" => some (optionalReader portReader)
  | _ => none

/-- The members of the timing. -/
def timingReader : Reader Value := recordReader "Timing" fun name ↦
  if (({} : Timing).fields.lookup name).isSome then some longReader else none

/-- The members of a configuration. -/
def reader : Reader Value := recordReader "Config" fun
  | "refdes" => some textReader
  | "instrument" => some wiringReader
  | "ports" => some portsReader
  | "target_connections" => some (optionalReader longReader)
  | "timing" => some timingReader
  | "log_dir" => some (optionalReader textReader)
  | _ => none

/-- A string. -/
def text? : Value → Option String
  | .text s => some s
  | _ => none

/-- A port number. -/
def port? : Value → Option UInt16
  | .number n => some n.toUInt16
  | _ => none

/-- A number of seconds, milliseconds or links. -/
def long? : Value → Option UInt64
  | .number n => some n.toUInt64
  | _ => none

/-- An optional value. -/
def optional? {α : Type} (f : Value → Option α) : Value → Option (Option α)
  | .absent => some none
  | .present v => (f v).map some
  | _ => none

/-- The member of this name, which there has to be. -/
def required? {α : Type} (f : Value → Option α) (members : List (String × Value)) (name : String) :
    Option α :=
  members.lookup name >>= f

/-- The member of this name, or the default if there is none. -/
def defaulted? {α : Type} (f : Value → Option α) (members : List (String × Value)) (name : String)
    (default : α) : Option α :=
  match members.lookup name with
  | none => some default
  | some v => f v

/-- The mode of the auxiliary link. -/
def auxMode? : Value → Option AuxMode
  | .symbol "persistent" => some .persistent
  | .symbol "on_demand" => some .onDemand
  | _ => none

/-- The instrument. -/
def instrument? : Value → Option Instrument
  | .record "tcp" m => do
    return .tcp (← required? text? m "address") (← required? port? m "port")
  | .record "botpt" m => do
    return .botpt (← required? text? m "address") (← required? port? m "rx_port")
      (← required? port? m "tx_port")
  | .record "rsn" m => do
    return .rsn (← required? text? m "address") (← required? port? m "port")
      (← required? port? m "digi_port") (← defaulted? auxMode? m "aux" .persistent)
  | _ => none

/-- The ports to serve. -/
def ports? : Value → Option ServerPorts
  | .record _ m => do
    return {
      data := ← defaulted? port? m "data" 0
      command := ← defaulted? port? m "command" 0
      sniff := ← defaulted? port? m "sniff" 0
      raw := ← defaulted? (optional? port?) m "raw" none }
  | _ => none

/-- The timing. -/
def timing? : Value → Option Timing
  | .record _ m => do
    let d : Timing := {}
    return {
      heartbeatSecs := ← defaulted? long? m "heartbeat_secs" d.heartbeatSecs
      statsSecs := ← defaulted? long? m "stats_secs" d.statsSecs
      forgivenessMillis := ← defaulted? long? m "forgiveness_millis" d.forgivenessMillis
      registrationRetrySecs :=
        ← defaulted? long? m "registration_retry_secs" d.registrationRetrySecs
      ttlSecs := ← defaulted? long? m "ttl_secs" d.ttlSecs
      maxReconnectSecs := ← defaulted? long? m "max_reconnect_secs" d.maxReconnectSecs
      auxIdleMillis := ← defaulted? long? m "aux_idle_millis" d.auxIdleMillis
      auxConnectMillis := ← defaulted? long? m "aux_connect_millis" d.auxConnectMillis
      keepaliveIdleSecs := ← defaulted? long? m "keepalive_idle_secs" d.keepaliveIdleSecs
      keepaliveIntervalSecs :=
        ← defaulted? long? m "keepalive_interval_secs" d.keepaliveIntervalSecs }
  | _ => none

/-- The configuration that a value describes. -/
def ofRon? : Value → Option Config
  | .record _ m => do
    return {
      refdes := ← required? text? m "refdes"
      instrument := ← required? instrument? m "instrument"
      ports := ← defaulted? ports? m "ports" {}
      targetConnections := ← defaulted? (optional? long?) m "target_connections" none
      timing := ← defaulted? timing? m "timing" {}
      logDir := ← defaulted? (optional? text?) m "log_dir" none }
  | _ => none

/-- The configuration that a text describes. -/
def parse? (text : String) : Option Config := readAll reader text.toList >>= ofRon?

end Config

end InstrumentRelay
