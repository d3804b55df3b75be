import InstrumentRelay.Routing.Endpoint

/-!
# Traffic

What goes to each endpoint is counted, from one report to the next. A packet counts once on the way
in for each target it has, and once on the way out for each connection it is written to; its bytes
are those of its frame, in whatever form it is written. An endpoint for which nothing was counted
has no counters at all, and the counters of drivers decide whether there is anything to report.

The counters are taken to stay below `2 ^ 64`, where those of a machine come to their end: here they
are natural numbers, and go on.
-/

namespace InstrumentRelay

/-- What is counted for an endpoint, as long as each number is below `2 ^ 64`. -/
structure Counters where
  /-- Packets routed to the endpoint, once for each target. -/
  packetsIn : Nat := 0
  /-- The lengths of their frames. -/
  bytesIn : Nat := 0
  /-- Packets written, once for each connection. -/
  packetsOut : Nat := 0
  /-- The lengths of their frames. -/
  bytesOut : Nat := 0
  /-- Connections that were registered. -/
  adds : Nat := 0
  /-- Connections that were removed. -/
  removes : Nat := 0
  /-- Routes that were added. -/
  routes : Nat := 0
  deriving DecidableEq, Repr

/-- The counters of all endpoints for which something was counted. -/
structure Traffic where
  /-- The counters, where there are any. -/
  counters : PerEndpoint (Option Counters)
  deriving DecidableEq

namespace Traffic

/-- Nothing has been counted. -/
def empty : Traffic := ⟨.replicate none⟩

/-- The counters of an endpoint, if anything was counted for it. -/
def get? (t : Traffic) (e : Endpoint) : Option Counters := t.counters.get e

/-- The counters of an endpoint, zero if nothing was counted. -/
def get (t : Traffic) (e : Endpoint) : Counters := (t.get? e).getD {}

/-- Counts something for an endpoint. -/
def count (t : Traffic) (e : Endpoint) (f : Counters → Counters) : Traffic :=
  ⟨t.counters.modify e fun c ↦ some (f (c.getD {}))⟩

@[simp] theorem get?_empty (e : Endpoint) : empty.get? e = none := by
  simp [empty, get?]

@[simp] theorem get_empty (e : Endpoint) : empty.get e = {} := by
  simp [get]

theorem get?_count (t : Traffic) (e e' : Endpoint) (f : Counters → Counters) :
    (t.count e f).get? e' = if e = e' then some (f (t.get e')) else t.get? e' := by
  simp [count, get?, get, PerEndpoint.get_modify]

theorem get_count (t : Traffic) (e e' : Endpoint) (f : Counters → Counters) :
    (t.count e f).get e' = if e = e' then f (t.get e') else t.get e' := by
  unfold get
  rw [get?_count]
  split <;> rfl

@[simp] theorem get_count_self (t : Traffic) (e : Endpoint) (f : Counters → Counters) :
    (t.count e f).get e = f (t.get e) := by
  simp [get_count]

theorem get_count_of_ne (t : Traffic) {e e' : Endpoint} (h : e ≠ e') (f : Counters → Counters) :
    (t.count e f).get e' = t.get e' := by
  simp [get_count, h]

end Traffic

/-- What is reported at regular intervals. -/
structure TrafficReport where
  /-- The instrument that is served. -/
  refdes : String
  /-- Bytes routed to drivers. -/
  bytesIn : Nat
  /-- Bytes written to drivers. -/
  bytesOut : Nat
  /-- Drivers that connected. -/
  adds : Nat
  /-- How many connections there are, for each endpoint. -/
  connections : PerEndpoint Nat
  deriving DecidableEq

end InstrumentRelay
