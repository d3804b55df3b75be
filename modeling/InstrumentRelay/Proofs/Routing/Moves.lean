import InstrumentRelay.Proofs.Routing.Router

/-!
# A router at work, move by move

A router handles a message without a pause, but the connections around it do not wait for that:
the far end of any of them may go away between two packets of one message, and between two targets
of one packet. So what a router does is taken apart into moves. A move registers or forgets a
connection, or hands one packet to the connections of one target; a loss may come between any two
moves (`Handles`). It need not come within a move: a move visits each connection once, so a loss
during it can be told from one before or after it only at the connection that is lost, by whether
it had its turn yet.

The connections of an endpoint are kept in no particular order. `Reaches` lets the order change
before every move, and the counters along with it, since no delivery depends on them. The run that
the router really makes is one of these (`reaches_runAll`).
-/

namespace InstrumentRelay

/-- What a router does at a time, and what may come in between. -/
inductive RouterMove where
  /-- The connection is registered. -/
  | register (connection : Connection)
  /-- The connection is forgotten. -/
  | deregister (connection : Connection)
  /-- The packet is handed to the connections of the target. -/
  | serve (packet : Packet) (target : Target)
  /-- The far end of this connection goes away. -/
  | lost (id : ConnectionId)
  deriving DecidableEq

/-- The move is not the router's own. -/
def RouterMove.isLost : RouterMove → Bool
  | lost _ => true
  | _ => false

/-- The packets that a message brings. -/
def RouterMessage.packets : RouterMessage → List Packet
  | data packets => packets
  | register _ => []
  | deregister _ => []

/-- What a router does about a message. -/
def RouterMessage.moves (table : RouteTable) : RouterMessage → List RouterMove
  | data packets => packets.flatMap fun p ↦ (table.targetsFor p.kind).map (.serve p)
  | register c => [.register c]
  | deregister c => [.deregister c]

/-- What an event comes to. Reports hand nothing over. -/
def RouterEvent.moves (table : RouteTable) : RouterEvent → List RouterMove
  | message m => m.moves table
  | lost id => [.lost id]
  | report _ => []

/-- The messages are handled one after the other, and connections are lost at any points. -/
def Handles (table : RouteTable) (messages : List RouterMessage) (moves : List RouterMove) : Prop :=
  moves.filter (!·.isLost) = messages.flatMap (·.moves table)

instance (table : RouteTable) (messages : List RouterMessage) (moves : List RouterMove) :
    Decidable (Handles table messages moves) :=
  inferInstanceAs (Decidable (_ = _))

/-- What is read off the router's own moves is read off the messages that it handles. -/
theorem Handles.flatMap_eq {α : Type} {table : RouteTable} {messages : List RouterMessage}
    {moves : List RouterMove} (h : Handles table messages moves) {f : RouterMove → List α}
    (hf : ∀ id, f (.lost id) = []) :
    moves.flatMap f = messages.flatMap fun m ↦ (m.moves table).flatMap f := by
  rw [← List.flatMap_assoc, ← show moves.filter (!·.isLost) = _ from h]
  clear h
  induction moves with
  | nil => rfl
  | cons m rest ih =>
    cases m with
    | lost id =>
      rw [List.flatMap_cons, hf, ih]
      rfl
    | register c | deregister c | serve p target =>
      rw [List.flatMap_cons, ih]
      rfl

namespace RouterRun

/-- The router has changed and handed something over. -/
def handOver (run : RouterRun) (outcome : Router × List Delivery) : RouterRun :=
  { run with router := outcome.1, deliveries := run.deliveries ++ outcome.2 }

/-- One move. -/
def move (run : RouterRun) : RouterMove → RouterRun
  | .register c => { run with router := run.router.register c }
  | .deregister c => { run with router := run.router.deregister c }
  | .serve p target => run.handOver (run.router.serve run.isOpen p target)
  | .lost id => { run with lost := id :: run.lost }

/-- The same connections in whatever order, and the same deliveries. What has been counted is left
open. -/
structure Alike (run run' : RouterRun) : Prop where
  /-- The routes are the same. -/
  table : run.router.table = run'.router.table
  /-- The connections of each endpoint are the same. -/
  members : ∀ e, (run.router.members.get e).Perm (run'.router.members.get e)
  /-- The same connections are lost. -/
  lost : run.lost = run'.lost
  /-- The same has been handed over. -/
  deliveries : run.deliveries = run'.deliveries

/-- The moves lead from one state to another, whatever the order in which connections are kept. -/
inductive Reaches : RouterRun → List RouterMove → RouterRun → Prop
  /-- Nothing happens. -/
  | nil (run : RouterRun) : Reaches run [] run
  /-- One move, and others after it. -/
  | cons {run last : RouterRun} {m : RouterMove} {rest : List RouterMove}
    (h : Reaches (run.move m) rest last) : Reaches run (m :: rest) last
  /-- The connections are kept in another order. -/
  | alike {run run' last : RouterRun} {moves : List RouterMove} (h : run.Alike run')
    (rest : Reaches run' moves last) : Reaches run moves last

theorem Reaches.append {run mid last : RouterRun} {first second : List RouterMove}
    (hfirst : run.Reaches first mid) (hsecond : mid.Reaches second last) :
    run.Reaches (first ++ second) last := by
  induction hfirst with
  | nil => exact hsecond
  | cons h ih => exact .cons (ih hsecond)
  | alike h rest ih => exact .alike h (ih hsecond)

theorem reaches_foldl (run : RouterRun) (moves : List RouterMove) :
    run.Reaches moves (moves.foldl move run) := by
  induction moves generalizing run with
  | nil => exact .nil run
  | cons m rest ih => exact .cons (ih (run.move m))

/-! ## The run that is made -/

theorem table_serveAll (isOpen : ConnectionId → Bool) (p : Packet) (r : Router)
    (targets : List Target) : (r.serveAll isOpen p targets).1.table = r.table := by
  induction targets generalizing r with
  | nil => rfl
  | cons target rest ih => exact ih (r.serve isOpen p target).1

theorem table_routeAll (isOpen : ConnectionId → Bool) (r : Router) (packets : List Packet) :
    (r.routeAll isOpen packets).1.table = r.table := by
  induction packets generalizing r with
  | nil => rfl
  | cons p rest ih => exact (ih _).trans (table_serveAll isOpen p r _)

@[simp] theorem isOpen_handOver (run : RouterRun) (outcome : Router × List Delivery) :
    (run.handOver outcome).isOpen = run.isOpen := rfl

@[simp] theorem handOver_handOver (run : RouterRun) (first second : Router × List Delivery) :
    (run.handOver first).handOver second = run.handOver (second.1, first.2 ++ second.2) := by
  simp [handOver]

theorem foldl_serve (run : RouterRun) (p : Packet) (targets : List Target) :
    (targets.map (RouterMove.serve p)).foldl move run
      = run.handOver (run.router.serveAll run.isOpen p targets) := by
  induction targets generalizing run with
  | nil => simp [Router.serveAll, handOver]
  | cons target rest ih =>
    rw [List.map_cons, List.foldl_cons, ih, move, handOver_handOver, isOpen_handOver]
    rfl

theorem foldl_route (run : RouterRun) (packets : List Packet) :
    ((RouterMessage.data packets).moves run.router.table).foldl move run
      = run.handOver (run.router.routeAll run.isOpen packets) := by
  induction packets generalizing run with
  | nil => simp [RouterMessage.moves, Router.routeAll, handOver]
  | cons p rest ih =>
    have hrest := ih (run.handOver (run.router.route run.isOpen p))
    have htable : (run.handOver (run.router.route run.isOpen p)).router.table = run.router.table :=
      table_serveAll run.isOpen p run.router _
    rw [htable, handOver_handOver, isOpen_handOver] at hrest
    rw [RouterMessage.moves, List.flatMap_cons, List.foldl_append, foldl_serve]
    exact hrest

/-- A message that is handled is its moves, one after the other. -/
theorem step_message (run : RouterRun) (m : RouterMessage) :
    run.step (.message m) = (m.moves run.router.table).foldl move run := by
  cases m with
  | data packets =>
    rw [foldl_route]
    rfl
  | register c => simp [step, Router.handle, RouterMessage.moves, move]
  | deregister c => simp [step, Router.handle, RouterMessage.moves, move]

theorem table_deregister (r : Router) (c : Connection) : (r.deregister c).table = r.table := by
  unfold Router.deregister
  split <;> rfl

theorem table_step (run : RouterRun) (e : RouterEvent) :
    (run.step e).router.table = run.router.table := by
  cases e with
  | message m =>
    cases m with
    | data packets => exact table_routeAll run.isOpen run.router packets
    | register c => rfl
    | deregister c => exact table_deregister run.router c
  | lost id => rfl
  | report refdes => rfl

theorem reaches_step (run : RouterRun) (e : RouterEvent) :
    run.Reaches (e.moves run.router.table) (run.step e) := by
  cases e with
  | message m =>
    rw [step_message]
    exact reaches_foldl run _
  | lost id => exact reaches_foldl run [.lost id]
  | report refdes =>
    have halike : run.Alike (run.step (.report refdes)) := ⟨rfl, fun _ ↦ .refl _, rfl, rfl⟩
    exact .alike halike (.nil _)

/-- **The run that is made is one of those that the moves allow.** -/
theorem reaches_runAll (run : RouterRun) (events : List RouterEvent) :
    run.Reaches (events.flatMap (·.moves run.router.table)) (run.runAll events) := by
  induction events generalizing run with
  | nil => exact .nil run
  | cons e rest ih =>
    have hrest := ih (run.step e)
    rw [table_step] at hrest
    exact (reaches_step run e).append hrest

end RouterRun

end InstrumentRelay
