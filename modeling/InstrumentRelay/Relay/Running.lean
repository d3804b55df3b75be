import InstrumentRelay.Command.Reply
import InstrumentRelay.Relay.Wiring
import InstrumentRelay.Stream.FrameReader
import InstrumentRelay.Stream.LineReader
import InstrumentRelay.Stream.RawReader

/-!
# A connection at work

A connection reads from its peer and writes to it. What it reads is cut into items, packets or
command lines, by the reader that its `Inbound` asks for. A connection that takes a command line is
busy until it has answered: its `Errand` says what the answer still depends on. While it is busy it
neither reads nor writes anything else.

`received` and `written` are the two sides of the exchange with the peer from its beginning.
-/

namespace InstrumentRelay

/-- The reader of a connection. -/
inductive Input where
  /-- Bytes are wrapped into packets. -/
  | bytes (reader : RawReader)
  /-- Frames are taken apart. -/
  | frames (reader : FrameReader)
  /-- Lines are cut. -/
  | lines (reader : LineReader)
  deriving DecidableEq, Repr

/-- What a connection reads. -/
inductive Item where
  /-- Packets, to be routed. -/
  | packets (packets : List Packet)
  /-- A command line, to be answered. -/
  | line (line : Bytes)
  deriving DecidableEq

namespace Input

/-- The reader for a new connection. -/
def start : Inbound → Input
  | .bytes kind => bytes ⟨[], kind⟩
  | .frames => frames .empty
  | .lines => lines .empty

/-- Bytes arrive. -/
def feed (input : Input) (arrived : Bytes) : Input :=
  match input with
  | bytes r => bytes (r.feed arrived)
  | frames r => frames (r.feed arrived)
  | lines r => lines (r.feed arrived)

/-- The next item, if there is one. -/
def next (now : Timestamp) : Input → Except LineTooLong (Option Item × Input)
  | bytes r => .ok ((r.next now).1.map .packets, bytes (r.next now).2)
  | frames r => .ok (r.next.1.map fun p ↦ .packets [p], frames r.next.2)
  | lines r => r.next.map fun (line, r) ↦ (line.map .line, lines r)

/-- The next item of a stream that has ended. -/
def finish (now : Timestamp) : Input → Except LineTooLong (Option Item × Input)
  | bytes r => .ok ((r.next now).1.map .packets, bytes (r.next now).2)
  | frames r => .ok (r.finish.1.map fun p ↦ .packets [p], frames r.finish.2)
  | lines r => r.finish.map fun (line, r) ↦ (line.map .line, lines r)

/-- Everything that has arrived has been used, as far as it can be. -/
def isWaiting (input : Input) : Bool :=
  match input.next ⟨0⟩ with
  | .ok (none, _) => true
  | _ => false

end Input

/-- What a busy connection is busy with. -/
inductive Errand where
  /-- It has asked the monitor for the state. -/
  | asking (request : Request)
  /-- It waits until no one else is opening the auxiliary link. -/
  | queueing (request : Request)
  /-- It opens the auxiliary link, has until then, and has got as far as this connection. -/
  | opening (request : Request) (deadline : Nat) (made : Option ConnectionId)
  /-- It knows the answer. -/
  | answering (reply : Reply)
  deriving DecidableEq

/-- Where a connection is in its life. -/
inductive Phase where
  /-- It exists, and nobody knows of it. -/
  | starting
  /-- It is registered. -/
  | running
  /-- It has ended, after having been registered or not. -/
  | closed (hadBegun : Bool)
  deriving DecidableEq, Repr

/-- A connection from its beginning to its end. -/
structure Running where
  /-- Which one it is. -/
  id : ConnectionId
  /-- What is known about it. -/
  spec : ConnectionSpec
  /-- Where it is in its life. -/
  phase : Phase := .starting
  /-- Its reader. -/
  input : Input := .start spec.inbound
  /-- The peer sends no more. -/
  hungUp : Bool := false
  /-- What it is busy with. -/
  errand : Option Errand := none
  /-- How much of what was handed to it has been written. -/
  sent : Nat := 0
  /-- When it has been idle for too long. -/
  idleDue : Option Nat := none
  /-- Everything read from the peer. -/
  received : Bytes := []
  /-- Everything written to the peer, piece by piece. -/
  written : List Bytes := []
  deriving DecidableEq

namespace Running

/-- It still takes what is handed to it. -/
def isOpen (c : Running) : Bool :=
  match c.phase with
  | .closed _ => false
  | _ => true

/-- It has been registered at some time. -/
def hasBegun (c : Running) : Bool :=
  match c.phase with
  | .starting => false
  | .running => true
  | .closed hadBegun => hadBegun

/-- It is registered and not busy. -/
def isFree (c : Running) : Bool := c.phase = .running ∧ c.errand = none

/-- As the router knows it. -/
def connection (c : Running) : Connection := ⟨c.id, c.spec.endpoint⟩

/-- The idle time starts over. -/
def touch (c : Running) (clock : Nat) : Running :=
  { c with idleDue := c.spec.idleTimeout.map (clock + ·.wait.nanos) }

end Running

end InstrumentRelay
