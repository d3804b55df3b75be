import InstrumentRelay.Config.Basic
import InstrumentRelay.Text.Blank

/-!
# Configurations that work

A configuration can be well formed and still describe no relay: a designator that is blank, a port
that two servers want, an interval of length zero. The rules are checked in a fixed order and the
first one broken is reported; where a rule ranges over several fields the report names them all, in
the order in which they are declared.

A configuration that passes has a target of at least one link and at most as many as there are,
which is what keeping track of the links relies on.
-/

namespace InstrumentRelay

/-- What is wrong with a configuration. -/
inductive ConfigError where
  /-- The text of the file is no configuration. -/
  | unreadable
  /-- The reference designator is blank. -/
  | blankRefdes
  /-- The address of the instrument is blank. -/
  | blankAddress
  /-- These ports of the instrument are zero. -/
  | zeroPorts (names : List String)
  /-- Another server has the port of this one. -/
  | portTaken (server : String) (port : UInt16)
  /-- These intervals are zero. -/
  | zeroIntervals (names : List String)
  /-- More links are asked for than there are, or none. -/
  | badTarget (target : Nat) (wiring : String) (links : Nat)
  deriving DecidableEq, Repr

/-- The problem in words. -/
def ConfigError.message : ConfigError → String
  | unreadable => "Could not parse config"
  | blankRefdes =>
    "The reference designator is empty. It names the agent's services and log files, please set it."
  | blankAddress => "The instrument address is empty."
  | zeroPorts names =>
    "The instrument needs these ports set (non-zero): " ++ ", ".intercalate names
  | portTaken server port =>
    "The " ++ server ++ " port " ++ toString port.toNat ++ " is used for more than one server."
  | zeroIntervals names =>
    "Intervals must be non-zero, these are not: " ++ ", ".intercalate names
  | badTarget target wiring links =>
    "target_connections is " ++ toString target ++ ", but the " ++ wiring ++ " topology opens "
      ++ toString links ++ " instrument link(s). Use a value from 1 to " ++ toString links ++ "."

namespace Config

/-- The servers that are wanted, with their ports. -/
def servers (p : ServerPorts) : List (String × UInt16) :=
  [("data", p.data), ("command", p.command), ("sniff", p.sniff)]
    ++ (p.raw.map fun port ↦ ("raw", port)).toList

/-- The first server whose port, not counting zero, is among those in `seen` or before it. -/
def firstTaken? (seen : List UInt16) : List (String × UInt16) → Option (String × UInt16)
  | [] => none
  | (server, port) :: rest =>
    if port = 0 then firstTaken? seen rest
    else if port ∈ seen then some (server, port)
    else firstTaken? (port :: seen) rest

/-- The names of the fields that are zero. -/
def zeros {α : Type} [DecidableEq α] [OfNat α 0] (fields : List (String × α)) : List String :=
  (fields.filter fun f ↦ f.2 = 0).map (·.1)

/-- The designator is not blank. -/
def checkRefdes (c : Config) : Except ConfigError Unit :=
  if isBlankText c.refdes then .error .blankRefdes else .ok ()

/-- The instrument has an address, and no port of it is zero. -/
def checkInstrument (c : Config) : Except ConfigError Unit :=
  if isBlankText c.instrument.address then .error .blankAddress
  else
    match zeros c.instrument.ports with
    | [] => .ok ()
    | names => .error (.zeroPorts names)

/-- No two servers want the same port. -/
def checkServers (c : Config) : Except ConfigError Unit :=
  match firstTaken? [] (servers c.ports) with
  | none => .ok ()
  | some (server, port) => .error (.portTaken server port)

/-- No interval is zero. -/
def checkTiming (c : Config) : Except ConfigError Unit :=
  match zeros c.timing.fields with
  | [] => .ok ()
  | names => .error (.zeroIntervals names)

/-- The target, if there is one, is at least one and at most the number of links. -/
def checkTarget (c : Config) : Except ConfigError Unit :=
  match c.targetConnections with
  | none => .ok ()
  | some t =>
    if t.toNat = 0 ∨ c.instrument.linkCount < t.toNat then
      .error (.badTarget t.toNat c.instrument.name c.instrument.linkCount)
    else .ok ()

/-- Nothing is wrong with the configuration, or the first thing that is. -/
def check (c : Config) : Except ConfigError Unit := do
  c.checkRefdes
  c.checkInstrument
  c.checkServers
  c.checkTiming
  c.checkTarget

theorem check_eq_ok_iff (c : Config) :
    c.check = .ok () ↔ c.checkRefdes = .ok () ∧ c.checkInstrument = .ok () ∧
      c.checkServers = .ok () ∧ c.checkTiming = .ok () ∧ c.checkTarget = .ok () := by
  unfold check
  cases c.checkRefdes <;> cases c.checkInstrument <;> cases c.checkServers <;>
    cases c.checkTiming <;> simp [bind, Except.bind]

theorem zeros_eq_nil_iff {α : Type} [DecidableEq α] [OfNat α 0] (fields : List (String × α)) :
    zeros fields = [] ↔ ∀ f ∈ fields, f.2 ≠ 0 := by
  simp [zeros, List.filter_eq_nil_iff]

theorem checkTiming_eq_ok_iff (c : Config) :
    c.checkTiming = .ok () ↔ ∀ f ∈ c.timing.fields, f.2 ≠ 0 := by
  rw [← zeros_eq_nil_iff]
  unfold checkTiming
  split <;> simp_all

theorem heartbeat_pos_of_check {c : Config} (h : c.check = .ok ()) :
    0 < c.timing.heartbeat.nanos := by
  have hne : c.timing.heartbeatSecs ≠ 0 :=
    (checkTiming_eq_ok_iff c).1 ((check_eq_ok_iff c).1 h).2.2.2.1 ("heartbeat_secs", _)
      (by simp [Timing.fields])
  have hpos : c.timing.heartbeatSecs.toNat ≠ 0 := fun h0 ↦ hne (UInt64.toNat.inj h0)
  simp only [Timing.heartbeat, Duration.ofSeconds]
  omega

end Config

end InstrumentRelay
