import InstrumentRelay.Command.Catalogue
import InstrumentRelay.Command.Words
import InstrumentRelay.Config.Text
import InstrumentRelay.Error
import InstrumentRelay.Packet.Basic
import InstrumentRelay.Presence
import InstrumentRelay.Text.Utf8

/-!
# Answering a command line

The first word of a line names a command, the others are its arguments (`Request.ofLine`). Every
line is answered, also one that is no request: then the answer is a fault that says why. What
the answer is may depend on the state of the instrument links and on whether the auxiliary link can
be reached, so both are parameters of `Request.reply`; `Request.needs` says which of them is looked
at.

A name is compared after it has been read as text, where bytes that are no text have become
replacement characters. No command has such a name.
-/

namespace InstrumentRelay

/-- The version that is reported. -/
def relayVersion : String := "0.1.0"

/-- Why a line is answered with a fault. -/
inductive CommandError where
  /-- The line does not consist of words. -/
  | malformed (error : WordError)
  /-- There are no words in it. -/
  | empty
  /-- No command has this name. -/
  | unknown (name : String)
  /-- The state is not to be had. -/
  | stateUnknown (error : RelayError)
  /-- The auxiliary link is not to be had. -/
  | unreachable (error : RelayError)
  /-- This wiring has no auxiliary link. -/
  | unsupported (name wiring : String)
  deriving DecidableEq, Repr

/-- The fault in words. -/
def CommandError.message : CommandError → String
  | malformed error => "Unable to parse command on command port: " ++ error.message
  | empty => "Received empty command on command port"
  | unknown name => "Received bad command on command port: " ++ quoted name
  | stateUnknown error => "Unable to get state: " ++ error.message
  | unreachable error => "Unable to reach the auxiliary command port: " ++ error.message
  | unsupported name wiring =>
    "The command " ++ quoted name ++ " is not supported by " ++ wiring ++ " port agents"

/-- The answer to a line. -/
inductive Reply where
  /-- Whether the instrument is connected. -/
  | state (state : LinkState)
  /-- The configuration. -/
  | config (config : Config)
  /-- The version. -/
  | version
  /-- A line for the auxiliary link. -/
  | forward (line : Bytes)
  /-- What went wrong. -/
  | fault (error : CommandError)
  deriving DecidableEq

namespace Reply

/-- The kind of the packets it is sent in. -/
def kind : Reply → PacketKind
  | state _ => .status
  | config _ => .config
  | version => .config
  | forward _ => .auxCommand
  | fault _ => .fault

/-- What the packets say. -/
def content : Reply → Bytes
  | state s => Bytes.ofText s.label
  | config c => Bytes.ofText c.toJson.compact
  | version => Bytes.ofText relayVersion
  | forward line => line
  | fault error => Bytes.ofText error.message

/-- The packets. -/
def packets (r : Reply) (now : Timestamp) : List Packet := Packet.split r.kind now r.content

theorem packets_ne_nil (r : Reply) (now : Timestamp) : r.packets now ≠ [] :=
  Packet.split_ne_nil _ _ _

end Reply

/-- A command with its arguments. -/
structure Request where
  /-- The command. -/
  command : Command
  /-- Its arguments. -/
  arguments : List Bytes
  deriving DecidableEq, Repr

/-- What an answer depends on. -/
inductive Need where
  /-- Nothing that could change. -/
  | nothing
  /-- The state of the instrument links. -/
  | state
  /-- An auxiliary link that is opened on demand. -/
  | auxiliary
  deriving DecidableEq, Repr

/-- The line that passes a command on: its name and its arguments with single spaces between, and a
line feed at the end. -/
def auxLine (name : String) (arguments : List Bytes) : Bytes :=
  Bytes.ofText name ++ arguments.flatMap (0x20 :: ·) ++ [0x0a]

namespace Instrument

/-- The answer to a command that is to be passed on, given whether an auxiliary link that is opened
on demand could be reached. -/
def forward (i : Instrument) (name : String) (arguments : List Bytes)
    (reached : Except RelayError Unit) : Reply :=
  match i, reached with
  | rsn _ _ _ .persistent, _ => .forward (auxLine name arguments)
  | rsn _ _ _ .onDemand, .ok () => .forward (auxLine name arguments)
  | rsn _ _ _ .onDemand, .error e => .fault (.unreachable e)
  | tcp .., _ => .fault (.unsupported name i.name)
  | botpt .., _ => .fault (.unsupported name i.name)

end Instrument

namespace Request

/-- The request that a line makes. -/
def ofLine (catalogue : Catalogue) (line : Bytes) : Except CommandError Request :=
  match Words.ofLine line with
  | .error e => .error (.malformed e)
  | .ok [] => .error .empty
  | .ok (first :: arguments) =>
    let name := Utf8.lenient first
    match catalogue.find? name with
    | none => .error (.unknown name)
    | some command => .ok ⟨command, arguments⟩

/-- What the answer depends on. -/
def needs (r : Request) (i : Instrument) : Need :=
  match r.command.action, i with
  | .state, _ => .state
  | .forward, .rsn _ _ _ .onDemand => .auxiliary
  | _, _ => .nothing

/-- The answer. -/
def reply (r : Request) (config : Config) (state : Except RelayError LinkState)
    (reached : Except RelayError Unit) : Reply :=
  match r.command.action with
  | .state =>
    match state with
    | .ok s => .state s
    | .error e => .fault (.stateUnknown e)
  | .config => .config config
  | .version => .version
  | .forward => config.instrument.forward r.command.name r.arguments reached

end Request

/-- The answer to a line. -/
def Config.answer (config : Config) (state : Except RelayError LinkState)
    (reached : Except RelayError Unit) (line : Bytes) : Reply :=
  match Request.ofLine config.instrument.catalogue line with
  | .error e => .fault e
  | .ok request => request.reply config state reached

end InstrumentRelay
