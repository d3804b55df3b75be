import InstrumentRelay.Backoff
import InstrumentRelay.Directory
import InstrumentRelay.LogFile
import InstrumentRelay.Monitor
import InstrumentRelay.Relay.Mailbox
import InstrumentRelay.Relay.Running
import InstrumentRelay.Routing.Router

/-!
# The relay at work

A relay is made of parts that work side by side: the router, the monitor, the announcer, the links,
the servers, and a connection for each peer. Parts do not call each other. They post letters, to the
router and to the monitor, and each of these takes its letters in the order in which they were
posted. `Relay` holds all of it at one moment.

Two mailboxes do not show which of two letters came first, if one is for the router and the other
for the monitor. So every letter is also put down in one list, `Relay.postings`.

The queue of a connection is not a part of its own: it is what the router has handed to the
connection so far (`RouterRun.deliveredTo`), less what the connection has written. A log file is
even simpler: its content is everything handed to it.

Below the structure come the few moves from which everything that happens is put together. A
connection is created, registered, and closed; `register` and `close` are the only moves that post
registrations and deregistrations, and that tell the monitor of connections.
-/

namespace InstrumentRelay

/-- A message to the router, with the connection that posted it, if it was one. -/
structure Letter where
  /-- The connection that posted it. -/
  sender : Option ConnectionId
  /-- What it asks for. -/
  message : RouterMessage
  deriving DecidableEq

/-- A message to the monitor. -/
inductive MonitorLetter where
  /-- A connection has come or gone. -/
  | notice (notice : Notice)
  /-- A connection asks for the state. -/
  | question (asker : ConnectionId)
  deriving DecidableEq, Repr

/-- A letter, and which of the two it is posted to. -/
inductive Posting where
  /-- It is posted to the router. -/
  | router (letter : Letter)
  /-- It is posted to the monitor. -/
  | monitor (letter : MonitorLetter)
  deriving DecidableEq

namespace Posting

/-- The letter, if it is one to the router. -/
def letter? : Posting → Option Letter
  | router letter => some letter
  | monitor _ => none

/-- The letter, if it is one to the monitor. -/
def monitorLetter? : Posting → Option MonitorLetter
  | router _ => none
  | monitor letter => some letter

end Posting

/-- How far a link has got. -/
inductive LinkPhase where
  /-- It is connecting. -/
  | dialing
  /-- It waits until then before it connects again. -/
  | waiting (due : Nat)
  /-- It has this connection. -/
  | up (id : ConnectionId)
  /-- The delay has left its range. -/
  | broken
  deriving DecidableEq, Repr

/-- A link at work. -/
structure LinkRun where
  /-- Which link. -/
  link : Link
  /-- The delays between its attempts. -/
  backoff : Backoff
  /-- How far it has got. -/
  phase : LinkPhase := .dialing
  deriving DecidableEq

namespace LinkRun

/-- The first delay. -/
def initialDelay : Duration := .ofMillis 500

/-- A link that connects for the first time. -/
def start (timing : Timing) (link : Link) : LinkRun where
  link := link
  backoff := .start initialDelay timing.maxReconnect

/-- The connection has been made. -/
def made (l : LinkRun) (id : ConnectionId) : LinkRun :=
  { l with backoff := l.backoff.reset, phase := .up id }

/-- There is no connection, or not any more. -/
def wait (l : LinkRun) (clock : Nat) : LinkRun :=
  match l.backoff.next? with
  | none => { l with phase := .broken }
  | some (delay, backoff) =>
    { l with backoff := backoff, phase := .waiting (clock + delay.wait.nanos) }

end LinkRun

/-- The auxiliary link that is opened on demand. -/
structure AuxLink where
  /-- The connection that was opened last. -/
  current : Option ConnectionId := none
  /-- Who is opening one right now. -/
  holder : Option ConnectionId := none
  deriving DecidableEq, Repr

/-- A relay at one moment. -/
structure Relay where
  /-- What it was told. -/
  config : Config
  /-- Nanoseconds since it was started. -/
  clock : Nat := 0
  /-- The time of day. -/
  stamp : Timestamp := ⟨0⟩
  /-- The router, and what it has handed over. -/
  exchange : RouterRun := .start .standard
  /-- The letters to the router. -/
  mail : Mailbox Letter := .empty
  /-- The monitor. -/
  monitor : Monitor
  /-- The letters to the monitor. -/
  notices : Mailbox MonitorLetter := .empty
  /-- All these letters, in the order in which they were posted. -/
  postings : List Posting := []
  /-- The connections there are and have been. -/
  connections : List Running := []
  /-- The log files, each registered as a connection of its own. -/
  files : List (Connection × LogFile) := []
  /-- The links. -/
  links : List LinkRun := []
  /-- The auxiliary link that is opened on demand. -/
  aux : AuxLink := {}
  /-- How far the announcing has got. -/
  announcer : Announcer
  /-- When a service is announced again. -/
  nextAttempt : Nat := 0
  /-- When the traffic is reported next. The interval is taken to be shorter than a machine's clock
  can count, see `Startup`. -/
  nextReport : Nat
  /-- The services that were refreshed, in order. -/
  refreshed : List String := []
  /-- How many connections there have been. -/
  identities : Nat := 0
  deriving DecidableEq

namespace Relay

/-! ## Views -/

/-- The connection with this identity. -/
def connection? (r : Relay) (id : ConnectionId) : Option Running :=
  r.connections.find? (·.id = id)

/-- What has been handed to a connection and not been written yet. -/
def queue (r : Relay) (c : Running) : List Bytes :=
  (r.exchange.deliveredTo c.id).drop c.sent

/-- What a log file holds. -/
def fileContent (r : Relay) (c : Connection) : Bytes := (r.exchange.deliveredTo c.id).flatten

/-- The instrument-side connections that are registered. -/
def instrumentConnections (r : Relay) : List Running :=
  r.connections.filter fun c ↦ c.phase = .running ∧ c.spec.role = .instrument

/-! ## Moves -/

/-- Puts a connection in the place of the one with its identity. -/
def update (r : Relay) (c : Running) : Relay :=
  { r with connections := r.connections.map fun d ↦ if d.id = c.id then c else d }

/-- Letters to the router. -/
def post (r : Relay) (sender : Option ConnectionId) (messages : List RouterMessage) : Relay :=
  let letters := messages.map (⟨sender, ·⟩)
  { r with mail := r.mail.post letters, postings := r.postings ++ letters.map .router }

/-- A letter to the monitor. -/
def tell (r : Relay) (letter : MonitorLetter) : Relay :=
  { r with notices := r.notices.post [letter], postings := r.postings ++ [.monitor letter] }

/-- What the monitor says goes to the router. -/
def publish (r : Relay) (bulletins : List Bulletin) : Relay :=
  r.post none (bulletins.map fun b ↦ .data (b.packets r.stamp))

/-- A new identity. -/
def newIdentity (r : Relay) : ConnectionId × Relay :=
  (⟨r.identities⟩, { r with identities := r.identities + 1 })

/-- A new connection, of which nobody knows yet. -/
def create (r : Relay) (spec : ConnectionSpec) : ConnectionId × Relay :=
  let (id, r) := r.newIdentity
  (id, { r with connections := r.connections ++ [{ id := id, spec := spec }] })

/-- The notice that a connection of this role is up. -/
def upNotice (role : Role) (id : ConnectionId) : Option Notice :=
  match role with
  | .instrument => some (.instrumentUp id)
  | .visitor => some (.visitorUp id)
  | .passive => none

/-- The notice that a connection of this role is down. -/
def downNotice (role : Role) (id : ConnectionId) : Option Notice :=
  match role with
  | .instrument => some (.instrumentDown id)
  | .visitor => some (.visitorDown id)
  | .passive => none

/-- A notice to the monitor, if there is one. -/
def notify (r : Relay) : Option Notice → Relay
  | none => r
  | some notice => r.tell (.notice notice)

/-- A connection is registered, after its greeting has been written. -/
def register (r : Relay) (c : Running) : Relay :=
  let started := { c with phase := .running, written := c.written ++ c.spec.greeting.toList }
  ((r.update (started.touch r.clock)).post (some c.id) [.register c.connection]).notify
    (upNotice c.spec.role c.id)

/-- The link of a connection that has ended waits before it connects again. -/
def releaseLink (r : Relay) (id : ConnectionId) : Relay :=
  { r with links := r.links.map fun l ↦ if l.phase = .up id then l.wait r.clock else l }

/-- A connection ends. If it had been registered, the router and the monitor hear of it. -/
def close (r : Relay) (c : Running) : Relay :=
  let r :=
    if c.phase = .running then
      (r.post (some c.id) [.deregister c.connection]).notify (downNotice c.spec.role c.id)
    else r
  let r := r.update { c with phase := .closed c.hasBegun, errand := none }
  { r with exchange := r.exchange.step (.lost c.id) }.releaseLink c.id

end Relay

end InstrumentRelay
