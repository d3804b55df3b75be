import InstrumentRelay.Time.Duration

/-!
# Configuration

What a relay has to be told: the reference designator of its instrument, how the instrument is
reached, the ports to serve, and its timing. Everything but the first two has a default.

An instrument is wired in one of three ways. `tcp` is one connection for both directions. `botpt`
has one connection for what the instrument says and another for what it is told. `rsn` is a server
in front of the instrument, which frames the data itself and takes commands on an auxiliary port.
-/

namespace InstrumentRelay

/-! ## The instrument -/

/-- Whether the auxiliary link is held open. -/
inductive AuxMode where
  /-- Always, like the data link. -/
  | persistent
  /-- From the first command that needs it until it has been idle for a while. -/
  | onDemand
  deriving DecidableEq, Repr, Inhabited

/-- How the instrument is reached. -/
inductive Instrument where
  /-- One connection, carrying data both ways. -/
  | tcp (address : String) (port : UInt16)
  /-- One connection to receive from and one to transmit to. -/
  | botpt (address : String) (rxPort txPort : UInt16)
  /-- A server that frames the data, with an auxiliary port for commands. -/
  | rsn (address : String) (port digiPort : UInt16) (aux : AuxMode)
  deriving DecidableEq, Repr

namespace Instrument

/-- The short name of the wiring. -/
def name : Instrument → String
  | tcp .. => "tcp"
  | botpt .. => "botpt"
  | rsn .. => "rsn"

/-- The host. -/
def address : Instrument → String
  | tcp a _ => a
  | botpt a _ _ => a
  | rsn a _ _ _ => a

/-- The ports of the host, with their names. -/
def ports : Instrument → List (String × UInt16)
  | tcp _ port => [("port", port)]
  | botpt _ rxPort txPort => [("rx_port", rxPort), ("tx_port", txPort)]
  | rsn _ port digiPort _ => [("port", port), ("digi_port", digiPort)]

/-- How many links are held open. An auxiliary link opened on demand does not count. -/
def linkCount : Instrument → Nat
  | tcp .. => 1
  | botpt .. => 2
  | rsn _ _ _ .persistent => 2
  | rsn _ _ _ .onDemand => 1

/-- The commands that are passed on over the auxiliary link. -/
def vendorCommands : Instrument → List String
  | rsn .. => ["help", "tinfo", "cinfo", "time", "timestamp", "power", "break", "gettime", "getver"]
  | _ => []

theorem linkCount_pos (i : Instrument) : 0 < i.linkCount := by
  unfold linkCount
  split <;> decide

end Instrument

/-! ## Ports and timing -/

/-- The ports to serve. Zero stands for any free port. -/
structure ServerPorts where
  /-- For drivers. -/
  data : UInt16 := 0
  /-- For command lines. -/
  command : UInt16 := 0
  /-- For observers. -/
  sniff : UInt16 := 0
  /-- For drivers that want the instrument's bytes without frames. -/
  raw : Option UInt16 := none
  deriving DecidableEq, Repr

/-- How often and how long. -/
structure Timing where
  /-- Seconds between heartbeats. -/
  heartbeatSecs : UInt64 := 10
  /-- Seconds between traffic reports. -/
  statsSecs : UInt64 := 60
  /-- Milliseconds for which a lost instrument is not reported. -/
  forgivenessMillis : UInt64 := 5000
  /-- Seconds between attempts to announce a service. -/
  registrationRetrySecs : UInt64 := 10
  /-- Seconds for which an announced service counts as healthy without being refreshed. -/
  ttlSecs : UInt64 := 30
  /-- The longest delay before reconnecting, in seconds. -/
  maxReconnectSecs : UInt64 := 30
  /-- Milliseconds without traffic after which an auxiliary link opened on demand is closed. -/
  auxIdleMillis : UInt64 := 5000
  /-- Milliseconds allowed for opening an auxiliary link on demand. -/
  auxConnectMillis : UInt64 := 5000
  /-- Idle seconds before an instrument link is probed. -/
  keepaliveIdleSecs : UInt64 := 100
  /-- Seconds between probes that go unanswered. -/
  keepaliveIntervalSecs : UInt64 := 5
  deriving DecidableEq, Repr

namespace Timing

/-- Every field with its name in the configuration file. -/
def fields (t : Timing) : List (String × UInt64) :=
  [("heartbeat_secs", t.heartbeatSecs), ("stats_secs", t.statsSecs),
    ("forgiveness_millis", t.forgivenessMillis),
    ("registration_retry_secs", t.registrationRetrySecs), ("ttl_secs", t.ttlSecs),
    ("max_reconnect_secs", t.maxReconnectSecs), ("aux_idle_millis", t.auxIdleMillis),
    ("aux_connect_millis", t.auxConnectMillis), ("keepalive_idle_secs", t.keepaliveIdleSecs),
    ("keepalive_interval_secs", t.keepaliveIntervalSecs)]

/-- Time between heartbeats. -/
def heartbeat (t : Timing) : Duration := .ofSeconds t.heartbeatSecs

/-- Time between traffic reports. -/
def stats (t : Timing) : Duration := .ofSeconds t.statsSecs

/-- Time for which a lost instrument is not reported. -/
def forgiveness (t : Timing) : Duration := .ofMillis t.forgivenessMillis

/-- Time between attempts to announce a service. -/
def registrationRetry (t : Timing) : Duration := .ofSeconds t.registrationRetrySecs

/-- The longest delay before reconnecting. -/
def maxReconnect (t : Timing) : Duration := .ofSeconds t.maxReconnectSecs

/-- Time without traffic after which an auxiliary link opened on demand is closed. -/
def auxIdle (t : Timing) : Duration := .ofMillis t.auxIdleMillis

/-- Time allowed for opening an auxiliary link on demand. -/
def auxConnect (t : Timing) : Duration := .ofMillis t.auxConnectMillis

/-- Idle time before an instrument link is probed. -/
def keepaliveIdle (t : Timing) : Duration := .ofSeconds t.keepaliveIdleSecs

/-- Time between probes that go unanswered. -/
def keepaliveInterval (t : Timing) : Duration := .ofSeconds t.keepaliveIntervalSecs

end Timing

/-! ## The whole configuration -/

/-- What a relay is told. -/
structure Config where
  /-- The reference designator of the instrument. It names services and log files. -/
  refdes : String
  /-- How the instrument is reached. -/
  instrument : Instrument
  /-- The ports to serve. -/
  ports : ServerPorts := {}
  /-- How many links have to be up for the instrument to count as connected. -/
  targetConnections : Option UInt64 := none
  /-- How often and how long. -/
  timing : Timing := {}
  /-- The directory for log files. There are none without it. -/
  logDir : Option String := none
  deriving DecidableEq, Repr

namespace Config

/-- How many links have to be up: all there are, unless the configuration says otherwise. -/
def target (c : Config) : Nat :=
  match c.targetConnections with
  | some t => t.toNat
  | none => c.instrument.linkCount

/-- A configuration to begin with. -/
def sample : Config where
  refdes := "RS03AXBS-MJ03A-06-PRESTA301"
  instrument := .rsn "10.31.8.7" 2101 2102 .persistent
  ports := { data := 4000, command := 4001, sniff := 4002 }
  logDir := some "/var/log/port-agent"

end Config

end InstrumentRelay
