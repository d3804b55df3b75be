import InstrumentRelay.Config.Basic
import InstrumentRelay.Routing.Endpoint

/-!
# Wiring

Which connections a relay makes and takes. A `ConnectionSpec` says everything about a connection
that is known before it exists: the endpoint it is registered under, what becomes of the bytes it
brings, whether the instrument's presence hangs on it, what it is greeted with, and how long it may
be idle.

The servers wait for drivers, commands and observers. The links go out to the instrument, as many as
its wiring has; the auxiliary link is one of them only if it is held open.
-/

namespace InstrumentRelay

/-- What becomes of the bytes that a connection brings. -/
inductive Inbound where
  /-- Each read makes packets of this kind. -/
  | bytes (kind : PacketKind)
  /-- They are frames. -/
  | frames
  /-- They are command lines. -/
  | lines
  deriving DecidableEq, Repr

/-- Who has to know that a connection is up. -/
inductive Role where
  /-- It counts for the presence of the instrument. -/
  | instrument
  /-- It belongs to a driver, an observer or someone with commands. -/
  | visitor
  /-- Nobody. -/
  | passive
  deriving DecidableEq, Repr

/-- What is known about a connection before it exists. -/
structure ConnectionSpec where
  /-- The endpoint it is registered under. -/
  endpoint : Endpoint
  /-- What becomes of the bytes it brings. -/
  inbound : Inbound
  /-- Who has to know that it is up. -/
  role : Role
  /-- What is written to it before anything else. -/
  greeting : Option Bytes := none
  /-- How long it may be idle. -/
  idleTimeout : Option Duration := none
  deriving DecidableEq

/-! ## Servers -/

/-- The ports that are served. -/
inductive ServerKind where
  /-- For drivers. -/
  | data
  /-- For command lines. -/
  | command
  /-- For observers. -/
  | sniff
  /-- For drivers that want bytes without frames. -/
  | raw
  deriving DecidableEq, Repr

namespace ServerKind

/-- The name of the port. -/
def name : ServerKind → String
  | data => "data"
  | command => "command"
  | sniff => "sniff"
  | raw => "raw"

/-- The name of the service. -/
def service : ServerKind → String
  | data => "port-agent"
  | command => "command-port-agent"
  | sniff => "sniff-port-agent"
  | raw => "raw-port-agent"

/-- The connections that are taken there. -/
def spec : ServerKind → ConnectionSpec
  | data => ⟨.driver, .bytes .fromDriver, .visitor, none, none⟩
  | command => ⟨.commander, .lines, .visitor, none, none⟩
  | sniff => ⟨.observer, .bytes .unknown, .visitor, none, none⟩
  | raw => ⟨.rawDriver, .bytes .fromDriver, .visitor, none, none⟩

end ServerKind

/-- The servers that are wanted, with their ports. -/
def ServerPorts.wanted (p : ServerPorts) : List (ServerKind × UInt16) :=
  [(.data, p.data), (.command, p.command), (.sniff, p.sniff)]
    ++ (p.raw.map fun port ↦ (ServerKind.raw, port)).toList

/-! ## Links -/

/-- A connection that is made to the instrument, again and again. -/
structure Link where
  /-- Which one it is. -/
  name : String
  /-- The port it goes to. -/
  port : UInt16
  /-- The connection. -/
  spec : ConnectionSpec
  deriving DecidableEq

/-- The command that makes the server stamp its frames in binary. -/
def auxGreeting : Bytes := Bytes.ofText "time 2\n"

/-- The auxiliary link. If it is opened on demand, nobody counts on it and it closes when idle. -/
def AuxMode.spec (mode : AuxMode) (timing : Timing) : ConnectionSpec :=
  match mode with
  | persistent => ⟨.auxiliary, .bytes .auxResponse, .instrument, some auxGreeting, none⟩
  | onDemand =>
    ⟨.auxiliary, .bytes .auxResponse, .passive, some auxGreeting, some timing.auxIdle⟩

/-- The links that are held open. What the transmitting link of two says is no instrument data. -/
def Instrument.links (timing : Timing) : Instrument → List Link
  | tcp _ port =>
    [⟨"instrument", port, ⟨.instrument, .bytes .fromInstrument, .instrument, none, none⟩⟩]
  | botpt _ rxPort txPort =>
    [⟨"rx", rxPort, ⟨.instrumentData, .bytes .fromInstrument, .instrument, none, none⟩⟩,
      ⟨"tx", txPort, ⟨.instrument, .bytes .unknown, .instrument, none, none⟩⟩]
  | rsn _ port digiPort aux =>
    ⟨"instrument", port, ⟨.instrument, .frames, .instrument, none, none⟩⟩ ::
      match aux with
      | .persistent => [⟨"aux", digiPort, AuxMode.persistent.spec timing⟩]
      | .onDemand => []

theorem Instrument.length_links (timing : Timing) (i : Instrument) :
    (i.links timing).length = i.linkCount := by
  unfold links linkCount
  split
  · rfl
  · rfl
  · rename_i aux
    cases aux <;> rfl

end InstrumentRelay
