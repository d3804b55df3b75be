import InstrumentRelay.Routing.Endpoint

/-!
# The route table

Which packets go where is decided by their kind alone. A route names the kinds it covers, one or
all of them, an endpoint, and a rendering. The table keeps, for each kind, the targets of the routes
that cover it; a target that is there already is not added again, so that no packet reaches a
connection twice in the same form. `targetsFor_add` says what adding a route does to each kind.

The table also counts, for each endpoint, how many routes were added for it, the redundant ones
included.
-/

namespace InstrumentRelay

/-- The kinds of packets that a route covers. -/
inductive PacketFilter where
  /-- Every kind. -/
  | all
  /-- A single kind. -/
  | only (kind : PacketKind)
  deriving DecidableEq, Repr

/-- The filter lets this kind through. -/
def PacketFilter.covers : PacketFilter → PacketKind → Bool
  | all, _ => true
  | only kind, other => kind == other

/-- Where a packet goes, and in which form. -/
structure Target where
  /-- The connections it goes to. -/
  endpoint : Endpoint
  /-- The form in which it gets there. -/
  rendering : Rendering
  deriving DecidableEq, Repr

/-- A rule of the table. -/
structure Route where
  /-- The packets it is about. -/
  filter : PacketFilter
  /-- Where they go. -/
  target : Target
  deriving DecidableEq, Repr

/-- The position of a kind among all kinds. -/
def PacketKind.slot : PacketKind → Fin 11
  | unknown => 0
  | fromInstrument => 1
  | fromDriver => 2
  | command => 3
  | status => 4
  | fault => 5
  | config => 6
  | auxCommand => 7
  | auxResponse => 8
  | heartbeat => 9
  | pickled => 10

/-- The kind at a position. -/
def PacketKind.ofSlot (i : Fin 11) : PacketKind := PacketKind.all[i]

@[simp] theorem PacketKind.ofSlot_slot (k : PacketKind) : ofSlot k.slot = k := by cases k <;> rfl

/-- For each kind of packet, where it goes. -/
structure RouteTable where
  /-- The targets of each kind, in the order in which they were added. -/
  targets : Vector (List Target) 11
  /-- How many routes were added for each endpoint. -/
  added : PerEndpoint Nat
  deriving DecidableEq

namespace RouteTable

/-- No routes. -/
def empty : RouteTable := ⟨Vector.replicate 11 [], .replicate 0⟩

/-- Where packets of this kind go. -/
def targetsFor (t : RouteTable) (kind : PacketKind) : List Target := t.targets[kind.slot]

/-- One more route. -/
def add (t : RouteTable) (r : Route) : RouteTable where
  targets := Vector.ofFn fun i ↦
    if r.filter.covers (PacketKind.ofSlot i) ∧ r.target ∉ t.targets[i] then
      t.targets[i] ++ [r.target]
    else t.targets[i]
  added := t.added.modify r.target.endpoint (· + 1)

/-- The routes added one after the other. -/
def ofRoutes (routes : List Route) : RouteTable := routes.foldl add empty

@[simp] theorem targetsFor_empty (kind : PacketKind) : empty.targetsFor kind = [] := by
  simp [empty, targetsFor]

theorem targetsFor_add (t : RouteTable) (r : Route) (kind : PacketKind) :
    (t.add r).targetsFor kind =
      if r.filter.covers kind ∧ r.target ∉ t.targetsFor kind then
        t.targetsFor kind ++ [r.target]
      else t.targetsFor kind := by
  have hslot : PacketKind.ofSlot kind.slot = kind := PacketKind.ofSlot_slot kind
  simp only [targetsFor, add, Fin.getElem_fin, Vector.getElem_ofFn, Fin.eta, hslot]
  rfl

/-- The routes of a relay. The logs and the observers get everything, the instrument what drivers
write, and drivers what the instrument says and what the relay itself reports. -/
def standardRoutes : List Route := [
  ⟨.all, .textLog, .line⟩,
  ⟨.all, .packetLog, .frame⟩,
  ⟨.all, .observer, .line⟩,
  ⟨.only .fromDriver, .instrument, .payload⟩,
  ⟨.only .fromInstrument, .driver, .frame⟩,
  ⟨.only .fromInstrument, .rawDriver, .payload⟩,
  ⟨.only .pickled, .driver, .frame⟩,
  ⟨.only .command, .lineWatcher, .frame⟩,
  ⟨.only .config, .driver, .frame⟩,
  ⟨.only .fault, .driver, .frame⟩,
  ⟨.only .heartbeat, .driver, .frame⟩,
  ⟨.only .status, .driver, .frame⟩,
  ⟨.only .auxCommand, .auxiliary, .payload⟩,
  ⟨.only .auxResponse, .driver, .frame⟩,
  ⟨.only .auxResponse, .commander, .frame⟩]

/-- The table of a relay. -/
def standard : RouteTable := ofRoutes standardRoutes

end RouteTable

end InstrumentRelay
