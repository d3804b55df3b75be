import Mathlib.Logic.Function.Basic
import InstrumentRelay.Proofs.Routing.Delivery
import InstrumentRelay.Proofs.Stream.Noise

/-!
# The table of a relay

In the table of a relay, every endpoint gets its packets in one form, and no packet twice
(`Connection.renderings_standard`). Where that form is the frame, what is handed to a connection is
a stream of frames, and reading it gives back the packets it was made of. That does not need the
packets to have been handled in full: it holds move by move (`Connection.handed`), so it holds of a
connection that is lost between two packets of one message, too.
-/

namespace InstrumentRelay

/-! ## The table, read by endpoints -/

/-- The form in which packets of a kind reach an endpoint, if they do. -/
def Endpoint.form? : Endpoint → PacketKind → Option Rendering
  | textLog, _ => some .line
  | observer, _ => some .line
  | packetLog, _ => some .frame
  | instrument, kind => if kind = .fromDriver then some .payload else none
  | rawDriver, kind => if kind = .fromInstrument then some .payload else none
  | auxiliary, kind => if kind = .auxCommand then some .payload else none
  | commander, kind => if kind = .auxResponse then some .frame else none
  | lineWatcher, kind => if kind = .command then some .frame else none
  | driver, kind =>
    if kind ∈ [.fromInstrument, .pickled, .config, .fault, .heartbeat, .status, .auxResponse] then
      some .frame
    else none
  | instrumentData, _ => none

namespace RouteTable

/-- The table sends packets of this kind to the endpoint. -/
def routes (t : RouteTable) (e : Endpoint) (kind : PacketKind) : Bool :=
  (t.targetsFor kind).any (·.endpoint = e)

theorem filter_targetsFor_standard (kind : PacketKind) (e : Endpoint) :
    (standard.targetsFor kind).filter (·.endpoint = e)
      = ((e.form? kind).map (Target.mk e)).toList := by
  cases kind <;> cases e <;> rfl

theorem routes_standard (e : Endpoint) (kind : PacketKind) :
    standard.routes e kind = (e.form? kind).isSome := by
  have hfilter := filter_targetsFor_standard kind e
  rcases hform : e.form? kind with _ | rendering
  · rw [hform, Option.map_none, Option.toList_none, List.filter_eq_nil_iff] at hfilter
    rw [Option.isSome_none, routes, List.any_eq_false]
    exact hfilter
  · have hmem : Target.mk e rendering ∈ (standard.targetsFor kind).filter (·.endpoint = e) := by
      rw [hfilter, hform]
      exact List.mem_singleton.2 rfl
    rw [Option.isSome_some, routes, List.any_eq_true]
    exact ⟨_, List.mem_filter.1 hmem⟩

/-- An endpoint gets its packets in one form. -/
theorem rendering_of_mem_standard {kind : PacketKind} {target : Target}
    (h : target ∈ standard.targetsFor kind) :
    target.endpoint.form? kind = some target.rendering := by
  have hmem : target ∈ (standard.targetsFor kind).filter (·.endpoint = target.endpoint) :=
    List.mem_filter.2 ⟨h, by simp⟩
  rw [filter_targetsFor_standard] at hmem
  simp only [Option.mem_toList, Option.map_eq_some_iff] at hmem
  obtain ⟨rendering, hform, htarget⟩ := hmem
  rw [hform, ← congrArg Target.rendering htarget]

end RouteTable

namespace Connection

variable {c : Connection}

/-- Each packet reaches a connection once, in the form of its endpoint, or not at all. -/
theorem renderings_standard (c : Connection) (p : Packet) :
    c.renderings .standard p = ((c.endpoint.form? p.kind).map p.render).toList := by
  rw [renderings, RouteTable.filter_targetsFor_standard]
  cases c.endpoint.form? p.kind <;> rfl

/-! ## Packets handed over, move by move -/

/-- The packets that a connection is handed in several moves. -/
def handed (c : Connection) (registered : Bool) : List RouterMove → List Packet
  | [] => []
  | .serve p target :: rest =>
    (if registered ∧ target.endpoint = c.endpoint then [p] else []) ++ handed c registered rest
  | m :: rest => handed c (c.standing registered m) rest

/-- An endpoint that gets every packet as a frame, or none. -/
def Framed (e : Endpoint) : Prop := ∀ kind rendering, e.form? kind = some rendering → rendering = .frame

theorem framed_driver : Framed .driver := by
  intro kind rendering h
  cases kind <;> simp_all [Endpoint.form?]

theorem framed_commander : Framed .commander := by
  intro kind rendering h
  cases kind <;> simp_all [Endpoint.form?]

/-- Where packets get as frames, they get there in order, those that the table sends there. -/
theorem flatMap_renderings (hframed : Framed c.endpoint) (packets : List Packet) :
    packets.flatMap (c.renderings .standard)
      = (packets.filter fun p ↦ RouteTable.standard.routes c.endpoint p.kind).map Packet.frame := by
  induction packets with
  | nil => rfl
  | cons p rest ih =>
    rw [List.flatMap_cons, ih, renderings_standard, List.filter_cons, RouteTable.routes_standard]
    rcases hform : c.endpoint.form? p.kind with _ | rendering
    · rfl
    · rw [hframed _ _ hform]
      rfl

/-- A router serves what its table says. -/
theorem mem_targetsFor_of_handles {table : RouteTable} {messages : List RouterMessage}
    {moves : List RouterMove} (h : Handles table messages moves) {p : Packet} {target : Target}
    (hserve : .serve p target ∈ moves) : target ∈ table.targetsFor p.kind := by
  have hown : RouterMove.serve p target ∈ moves.filter (!·.isLost) := List.mem_filter.2 ⟨hserve, rfl⟩
  rw [h] at hown
  obtain ⟨m, -, hin⟩ := List.mem_flatMap.1 hown
  cases m <;> simp [RouterMessage.moves] at hin
  exact hin.2

/-- What a connection of a framed endpoint is handed are the frames of the packets. -/
theorem writes_eq_frames (hframed : Framed c.endpoint) (registered : Bool)
    {moves : List RouterMove}
    (h : ∀ p target, .serve p target ∈ moves → target ∈ RouteTable.standard.targetsFor p.kind) :
    c.writes registered moves = (c.handed registered moves).map Packet.frame := by
  induction moves generalizing registered with
  | nil => rfl
  | cons m rest ih =>
    have hrest := fun registered ↦
      ih registered fun p target hp ↦ h p target (List.mem_cons_of_mem m hp)
    cases m with
    | serve p target =>
      rw [writes, standing, hrest, handed, List.map_append, gets]
      by_cases hgets : registered = true ∧ target.endpoint = c.endpoint
      · have hform := RouteTable.rendering_of_mem_standard (h p target List.mem_cons_self)
        rw [hgets.2] at hform
        rw [if_pos hgets, if_pos hgets, hframed _ _ hform]
        rfl
      · rw [if_neg hgets, if_neg hgets]
        rfl
    | _ => rw [writes, hrest, handed] <;> first | rfl | simp

end Connection

/-! ## Streams of frames -/

end InstrumentRelay
