import InstrumentRelay.Proofs.Relay.History
import InstrumentRelay.Proofs.Relay.Wiring
import InstrumentRelay.Proofs.Routing.Standard

/-!
# Frames for drivers, logs and commanders

Drivers, the log of frames and those who type commands get frames and nothing but frames, so a
reader that starts at the beginning of what is written to one of them gets back every packet, in
order, and never has to look for a sync mark.

For drivers and the log this is a matter of the router alone, and it holds for whatever the router
is asked to do and whoever is lost in the meantime. Someone who types commands gets bytes from two
sides, from the router and from the connection itself, which answers. Both write whole frames, and
neither writes while the other does, so the stream is one of frames, too, and its packets are a
merge of those from the two sides.
-/

namespace InstrumentRelay

namespace Connection

variable {c : Connection}

/-- What a router hands to a connection of a framed endpoint, at whatever point it is stopped. -/
theorem deliveredTo_eq_frames {messages : List RouterMessage} {moves later : List RouterMove}
    {run : RouterRun} (hrun : (RouterRun.start .standard).Reaches moves run)
    (hhandles : Handles .standard messages (moves ++ later)) (hsole : c.Sole moves)
    (hframed : Framed c.endpoint) :
    run.deliveredTo c.id = (c.handed false (c.lifetime moves)).map Packet.frame := by
  rw [RouterRun.deliveredTo_of_start hrun hsole]
  refine writes_eq_frames hframed false fun p target hserve ↦ ?_
  refine mem_targetsFor_of_handles hhandles (List.mem_append_left _ ?_)
  exact (List.takeWhile_prefix _).subset hserve

end Connection

namespace Relay

variable {config : Config} {r : Relay} {c : Running}

/-- What someone who types commands gets is a stream of frames from two sides. -/
theorem Reached.written_commander (h : Reached config r) (hc : r.connection? c.id = some c)
    (hend : c.spec.endpoint = .commander) {routed : List Packet}
    (hrouted : r.exchange.deliveredTo c.id = routed.map Packet.frame) :
    ∃ cut packets : List Packet, (c.isOpen = true → cut = []) ∧
      c.written = packets.map Packet.frame ∧
      IsMerge packets (Running.Source.parts (routed.take c.sent)
        (Running.History.answers (r.postedBy c.id) ++ cut)) := by
  have hspec : c.spec = ServerKind.command.spec := (h.wired.wires c.id c hc).eq_server hend
  have hlines : c.spec.inbound = .lines := by rw [hspec]; rfl
  have hgreeting : c.spec.greeting = none := by rw [hspec]; rfl
  obtain ⟨cut, hcut, hmerge⟩ := (h.history hc).merges hlines hgreeting
  rw [hrouted] at hmerge
  have himages : IsMerge c.written fun source ↦ (Running.Source.parts (routed.take c.sent)
      (Running.History.answers (r.postedBy c.id) ++ cut) source).map Packet.frame := by
    refine hmerge.of_eq fun source ↦ ?_
    cases source with
    | router => exact List.map_take.symm
    | itself => rfl
  obtain ⟨packets, hpackets, hmerge⟩ := himages.exists_of_map
  exact ⟨cut, packets, hcut, hpackets, hmerge⟩

end Relay

end InstrumentRelay
