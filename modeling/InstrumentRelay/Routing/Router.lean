import InstrumentRelay.Routing.Table
import InstrumentRelay.Routing.Traffic

/-!
# The router

The router knows the connections of each endpoint and hands every packet to the connections of the
endpoints that its kind is routed to. It never waits: handing over means appending to a queue that
belongs to the connection. Whether the other end of that queue still exists is not up to the router,
so it is a parameter (`isOpen`); a connection whose queue turns out to be closed is forgotten.

Everything the router is asked to do is a `RouterMessage`, and what it hands over is a list of
`Delivery`, in order. Counting goes along with it. A report reads the counters of the drivers and
clears all counters; it changes nothing else.
-/

namespace InstrumentRelay

/-- What the router is asked to do. -/
inductive RouterMessage where
  /-- Route these packets. -/
  | data (packets : List Packet)
  /-- From now on, deliver to this connection. -/
  | register (connection : Connection)
  /-- Stop delivering to this connection. -/
  | deregister (connection : Connection)
  deriving DecidableEq

/-- Bytes handed to a connection. -/
structure Delivery where
  /-- The connection. -/
  receiver : ConnectionId
  /-- The bytes. -/
  bytes : Bytes
  deriving DecidableEq, Repr

/-- The connections of each endpoint, and what has been counted. -/
structure Router where
  /-- Where packets go. -/
  table : RouteTable
  /-- The connections that are registered, each once. -/
  members : PerEndpoint (List ConnectionId)
  /-- What has been counted since the last report. -/
  traffic : Traffic
  deriving DecidableEq

namespace Router

/-- No connections. The routes of the table are counted as the first traffic. -/
def start (table : RouteTable) : Router where
  table := table
  members := .replicate []
  traffic := Endpoint.all.foldl (fun t e ↦
    if table.added.get e = 0 then t
    else t.count e fun c ↦ { c with routes := table.added.get e }) .empty

/-- The connection is registered. -/
def Registered (r : Router) (c : Connection) : Prop := c.id ∈ r.members.get c.endpoint

instance (r : Router) (c : Connection) : Decidable (r.Registered c) :=
  inferInstanceAs (Decidable (_ ∈ _))

/-- Registers a connection. One that is registered already stays registered once. -/
def register (r : Router) (c : Connection) : Router where
  table := r.table
  members := r.members.modify c.endpoint fun ids ↦ if c.id ∈ ids then ids else ids ++ [c.id]
  traffic := r.traffic.count c.endpoint fun n ↦ { n with adds := n.adds + 1 }

/-- Forgets a connection. Nothing happens if it is not registered under its endpoint. -/
def deregister (r : Router) (c : Connection) : Router :=
  if r.Registered c then
    { r with
      members := r.members.modify c.endpoint (·.filter (· ≠ c.id))
      traffic := r.traffic.count c.endpoint fun n ↦ { n with removes := n.removes + 1 } }
  else r

/-- Hands a packet to the connections of one target. -/
def serve (isOpen : ConnectionId → Bool) (p : Packet) (r : Router) (target : Target) :
    Router × List Delivery :=
  let members := r.members.get target.endpoint
  let reached := members.filter isOpen
  ({ r with
      members := r.members.modify target.endpoint (·.filter isOpen)
      traffic := r.traffic.count target.endpoint fun n ↦
        { n with
          packetsIn := n.packetsIn + 1
          bytesIn := n.bytesIn + p.frameSize
          packetsOut := n.packetsOut + reached.length
          bytesOut := n.bytesOut + reached.length * p.frameSize
          removes := n.removes + (members.length - reached.length) } },
    reached.map fun id ↦ ⟨id, p.render target.rendering⟩)

/-- Hands a packet to the connections of several targets. -/
def serveAll (isOpen : ConnectionId → Bool) (p : Packet) (r : Router) :
    List Target → Router × List Delivery
  | [] => (r, [])
  | target :: rest =>
    let (r, now) := r.serve isOpen p target
    let (r, later) := r.serveAll isOpen p rest
    (r, now ++ later)

/-- Hands a packet to every connection that its kind is routed to. -/
def route (isOpen : ConnectionId → Bool) (r : Router) (p : Packet) : Router × List Delivery :=
  r.serveAll isOpen p (r.table.targetsFor p.kind)

/-- Routes one packet after the other. -/
def routeAll (isOpen : ConnectionId → Bool) (r : Router) : List Packet → Router × List Delivery
  | [] => (r, [])
  | p :: rest =>
    let (r, now) := r.route isOpen p
    let (r, later) := r.routeAll isOpen rest
    (r, now ++ later)

/-- Does what a message asks for. -/
def handle (isOpen : ConnectionId → Bool) (r : Router) : RouterMessage → Router × List Delivery
  | .data packets => r.routeAll isOpen packets
  | .register c => (r.register c, [])
  | .deregister c => (r.deregister c, [])

/-- Reports the traffic of the drivers, if there was any, and starts counting anew. -/
def report (r : Router) (refdes : String) : Router × Option TrafficReport :=
  let driver := r.traffic.get? .driver
  ({ r with traffic := .empty },
    driver.map fun n ↦
      { refdes := refdes, bytesIn := n.bytesIn, bytesOut := n.bytesOut, adds := n.adds,
        connections := ⟨r.members.slots.map List.length⟩ })

end Router

/-! ## A router among connections that come and go -/

/-- What can happen to a router and to the connections around it. -/
inductive RouterEvent where
  /-- A message is handled. -/
  | message (m : RouterMessage)
  /-- The far end of this connection goes away. -/
  | lost (id : ConnectionId)
  /-- The traffic is reported. -/
  | report (refdes : String)
  deriving DecidableEq

/-- A router, the connections whose far end has gone, and what has come of it so far. -/
structure RouterRun where
  /-- The router. -/
  router : Router
  /-- The connections whose far end has gone. -/
  lost : List ConnectionId
  /-- Everything handed over, in order. -/
  deliveries : List Delivery
  /-- Every report, in order. -/
  reports : List TrafficReport
  deriving DecidableEq

namespace RouterRun

/-- A router to which nothing has happened. -/
def start (table : RouteTable) : RouterRun := ⟨Router.start table, [], [], []⟩

/-- The far end of this connection is still there. -/
def isOpen (run : RouterRun) (id : ConnectionId) : Bool := id ∉ run.lost

/-- One event. -/
def step (run : RouterRun) : RouterEvent → RouterRun
  | .message m =>
    let (router, made) := run.router.handle run.isOpen m
    { run with router := router, deliveries := run.deliveries ++ made }
  | .lost id => { run with lost := id :: run.lost }
  | .report refdes =>
    let (router, made) := run.router.report refdes
    { run with router := router, reports := run.reports ++ made.toList }

/-- One event after the other. -/
def runAll (run : RouterRun) (events : List RouterEvent) : RouterRun := events.foldl step run

/-- What was handed to this connection, in order. -/
def deliveredTo (run : RouterRun) (id : ConnectionId) : List Bytes :=
  (run.deliveries.filter (·.receiver = id)).map (·.bytes)

end RouterRun

end InstrumentRelay
