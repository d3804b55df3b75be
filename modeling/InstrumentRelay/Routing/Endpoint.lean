import InstrumentRelay.Packet.Frame
import InstrumentRelay.Packet.LogLine

/-!
# Endpoints

Packets are not sent to connections but to endpoints: roles that any number of connections may
have at a time. An endpoint says what a connection is for; a rendering says in which form a packet
gets there.

`PerEndpoint` keeps one value for each of the ten endpoints. Reading after a change gives the new
value at the endpoint that was changed and the old one everywhere else (`get_modify`).
-/

namespace InstrumentRelay

/-- The roles of connections. -/
inductive Endpoint where
  /-- The link that carries bytes to the instrument. -/
  | instrument
  /-- The link that only carries bytes from the instrument. -/
  | instrumentData
  /-- The auxiliary link. -/
  | auxiliary
  /-- A driver that talks in frames. -/
  | driver
  /-- A driver that wants the bytes of the instrument and nothing else. -/
  | rawDriver
  /-- Someone who types commands. -/
  | commander
  /-- Someone who wants every command line that comes in. -/
  | lineWatcher
  /-- The log file for people. -/
  | textLog
  /-- The log file of frames. -/
  | packetLog
  /-- Someone who watches all traffic. -/
  | observer
  deriving DecidableEq, Repr, Inhabited

namespace Endpoint

/-- Every endpoint. -/
def all : List Endpoint :=
  [instrument, instrumentData, auxiliary, driver, rawDriver, commander, lineWatcher, textLog,
    packetLog, observer]

/-- The name in messages. -/
def name : Endpoint → String
  | instrument => "instrument"
  | instrumentData => "instrument-data"
  | auxiliary => "digi"
  | driver => "client"
  | rawDriver => "raw-client"
  | commander => "command"
  | lineWatcher => "command-handler"
  | textLog => "logger"
  | packetLog => "data-logger"
  | observer => "sniffer"

/-- The name in reports, which has an underscore where the name has a hyphen. -/
def reportName (e : Endpoint) : String := e.name.map fun c ↦ if c = '-' then '_' else c

/-- The position in `all`. -/
def slot : Endpoint → Fin 10
  | instrument => 0
  | instrumentData => 1
  | auxiliary => 2
  | driver => 3
  | rawDriver => 4
  | commander => 5
  | lineWatcher => 6
  | textLog => 7
  | packetLog => 8
  | observer => 9

theorem slot_inj {e f : Endpoint} : e.slot = f.slot ↔ e = f := by
  cases e <;> cases f <;> decide

@[simp] theorem mem_all (e : Endpoint) : e ∈ all := by cases e <;> decide

theorem all_nodup : all.Nodup := by decide

end Endpoint

/-- The forms in which a packet reaches an endpoint. -/
inductive Rendering where
  /-- The payload alone. -/
  | payload
  /-- The frame. -/
  | frame
  /-- The line of the text log. -/
  | line
  deriving DecidableEq, Repr, Inhabited

/-- The packet in this form. -/
def Packet.render (p : Packet) : Rendering → Bytes
  | .payload => p.payload
  | .frame => p.frame
  | .line => p.logBytes

/-- Tells connections apart. -/
structure ConnectionId where
  /-- A number that no other connection has. -/
  number : Nat
  deriving DecidableEq, Repr, Inhabited

/-- A connection as the router knows it. -/
structure Connection where
  /-- Which one it is. -/
  id : ConnectionId
  /-- What it is for. -/
  endpoint : Endpoint
  deriving DecidableEq, Repr

/-! ## A value for each endpoint -/

/-- A value for each endpoint. -/
structure PerEndpoint (α : Type) where
  /-- The values, in the order of `Endpoint.all`. -/
  slots : Vector α 10
  deriving DecidableEq

namespace PerEndpoint

variable {α : Type}

/-- The same value everywhere. -/
def replicate (a : α) : PerEndpoint α := ⟨Vector.replicate 10 a⟩

/-- The value at an endpoint. -/
def get (t : PerEndpoint α) (e : Endpoint) : α := t.slots[e.slot]

/-- The value at an endpoint changed by a function. -/
def modify (t : PerEndpoint α) (e : Endpoint) (f : α → α) : PerEndpoint α :=
  ⟨t.slots.set e.slot (f (t.get e))⟩

@[simp] theorem get_replicate (a : α) (e : Endpoint) : (replicate a).get e = a := by
  simp [replicate, get]

theorem get_modify (t : PerEndpoint α) (e e' : Endpoint) (f : α → α) :
    (t.modify e f).get e' = if e = e' then f (t.get e') else t.get e' := by
  unfold modify get
  by_cases h : e = e'
  · subst h
    simp
  · have hs : (e.slot : Nat) ≠ e'.slot := fun hv ↦ h (Endpoint.slot_inj.1 (Fin.ext hv))
    simp [h, Vector.getElem_set_ne _ _ hs]

@[simp] theorem get_modify_self (t : PerEndpoint α) (e : Endpoint) (f : α → α) :
    (t.modify e f).get e = f (t.get e) := by
  simp [get_modify]

theorem get_modify_of_ne (t : PerEndpoint α) {e e' : Endpoint} (h : e ≠ e') (f : α → α) :
    (t.modify e f).get e' = t.get e' := by
  simp [get_modify, h]

end PerEndpoint

end InstrumentRelay
